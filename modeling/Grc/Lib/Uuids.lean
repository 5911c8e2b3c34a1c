import Mathlib.Data.List.Lex
import Mathlib.Order.Fin.Basic
import Mathlib.Data.String.Basic

/-! UUIDs: the database orders them by their octets, a program by their text, which is the same order. -/
namespace Grc.Lib

structure Uuid where
  digits : List (Fin 16)
  whole : digits.length = 32
  deriving DecidableEq

namespace Uuid

theorem digits_injective : Function.Injective digits := by
  intro first second same
  cases first
  cases second
  cases same
  rfl

/-- The order of the octets. -/
instance : LinearOrder Uuid := LinearOrder.lift' digits digits_injective

def hexDigit (digit : Fin 16) : Char := Char.ofNat (if digit.val < 10 then 48 + digit.val else 87 + digit.val)

theorem hexDigit_lt {first second : Fin 16} : hexDigit first < hexDigit second ↔ first < second := by
  have each : ∀ first second : Fin 16, hexDigit first < hexDigit second ↔ first < second := by decide +kernel
  exact each first second

/-- Digits written from a place on, with a hyphen before the places 8, 12, 16 and 20. -/
def written (place : Nat) : List (Fin 16) → List Char
  | [] => []
  | digit :: rest => (if place ∈ [8, 12, 16, 20] then ['-'] else []) ++ hexDigit digit :: written (place + 1) rest

/-- `str`. -/
def text (id : Uuid) : String := String.ofList (written 0 id.digits)

theorem append_lt_iff (front : List Char) {first second : List Char} : front ++ first < front ++ second ↔ first < second := by
  induction front with
  | nil => rfl
  | cons head rest ih =>
    rw [List.cons_append, List.cons_append, List.cons_lt_cons_iff, ih]
    exact ⟨fun less => (less.resolve_left (lt_irrefl head)).2, fun less => .inr ⟨rfl, less⟩⟩

theorem written_lt {first second : List (Fin 16)} (same : first.length = second.length) (place : Nat) :
    written place first < written place second ↔ first < second := by
  induction first generalizing second place with
  | nil =>
    obtain rfl := List.length_eq_zero_iff.mp same.symm
    exact iff_of_false (lt_irrefl _) (lt_irrefl _)
  | cons digit rest ih =>
    cases second with
    | nil => cases same
    | cons other others =>
      have tails : written (place + 1) rest < written (place + 1) others ↔ rest < others := ih (Nat.succ.inj same) (place + 1)
      rw [written, written, append_lt_iff, List.cons_lt_cons_iff, List.cons_lt_cons_iff, tails, hexDigit_lt]
      refine or_congr_right (and_congr_left fun _ => ⟨fun equal => ?_, congrArg hexDigit⟩)
      by_contra apart
      rcases lt_or_gt_of_ne apart with less | more
      · exact absurd equal (ne_of_lt (hexDigit_lt.mpr less))
      · exact absurd equal.symm (ne_of_lt (hexDigit_lt.mpr more))

theorem labelled_le {label : String} {first second : Uuid} : label ++ first.text ≤ label ++ second.text ↔ first ≤ second := by
  have less : label ++ second.text < label ++ first.text ↔ second < first := by
    rw [String.lt_iff_toList_lt, String.toList_append, String.toList_append, append_lt_iff, text, text, String.toList_ofList,
      String.toList_ofList, written_lt (second.whole.trans first.whole.symm)]
    exact Iff.rfl
  rw [← not_lt, ← not_lt, less]

end Uuid
end Grc.Lib
