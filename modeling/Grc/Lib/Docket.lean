import Mathlib.Data.List.Nodup
import Mathlib.Data.List.Count

/-! Items that are decided once, and the effects of the granted ones: an item takes effect exactly
once when it is granted, and never otherwise. -/
namespace Grc.Lib

universe u v

/-- How a docket reads its items. -/
structure Docket (Item : Type u) (Key : Type v) where
  key : Item → Key
  waits : Item → Bool
  granted : Item → Bool
  waiting : ∀ item, waits item = true → granted item = false

namespace Docket

variable {Item : Type u} {Key : Type v} [DecidableEq Key] {docket : Docket Item Key}
variable {items added items' : List Item} {effects fresh effects' : List Key} {judge : Item → Item}

def due (docket : Docket Item Key) (item : Item) : Nat := if docket.granted item = true then 1 else 0

/-- Every item took effect as often as it should have, and nothing took effect but an item. -/
structure Settled (docket : Docket Item Key) (items : List Item) (effects : List Key) : Prop where
  keys : (items.map docket.key).Nodup
  counted : ∀ item ∈ items, effects.count (docket.key item) = docket.due item
  known : ∀ key ∈ effects, key ∈ items.map docket.key

/-- A decision on some of the items that wait, with the effects it has. -/
structure Decided (docket : Docket Item Key) (judge : Item → Item) (items : List Item)
    (effects : List Key) : Prop where
  key : ∀ item ∈ items, docket.key (judge item) = docket.key item
  once : ∀ item ∈ items, docket.waits item = false → judge item = item
  counted : ∀ item ∈ items, effects.count (docket.key item) =
    if docket.waits item = true then docket.due (judge item) else 0
  known : ∀ key ∈ effects, key ∈ items.map docket.key

/-- What a step does to the items and to the effects so far. -/
inductive Step (docket : Docket Item Key) : List Item → List Key → List Item → List Key → Prop where
  | add {items added : List Item} {effects : List Key} (keys : ((items ++ added).map docket.key).Nodup)
      (waiting : ∀ item ∈ added, docket.granted item = false) : Step docket items effects (items ++ added) effects
  | decide {items : List Item} {effects fresh : List Key} (judge : Item → Item)
      (decided : docket.Decided judge items fresh) : Step docket items effects (items.map judge) (effects ++ fresh)

theorem settled_nil : docket.Settled [] [] where
  keys := List.nodup_nil
  counted := by simp
  known := by simp

theorem Settled.count_new (settled : docket.Settled items effects) {key : Key}
    (absent : key ∉ items.map docket.key) : effects.count key = 0 :=
  List.count_eq_zero.mpr fun member => absent (settled.known key member)

theorem Settled.add (settled : docket.Settled items effects)
    (keys : ((items ++ added).map docket.key).Nodup)
    (waiting : ∀ item ∈ added, docket.granted item = false) : docket.Settled (items ++ added) effects where
  keys := keys
  counted := by
    intro item member
    rcases List.mem_append.mp member with old | new
    · exact settled.counted item old
    · rw [List.map_append] at keys
      have absent : docket.key item ∉ items.map docket.key := fun old =>
        (List.nodup_append.mp keys).2.2 _ old _ (List.mem_map_of_mem new) rfl
      rw [settled.count_new absent, due, waiting item new]
      rfl
  known := by
    intro key member
    rw [List.map_append]
    exact List.mem_append_left _ (settled.known key member)

theorem Decided.keys (decided : docket.Decided judge items fresh) :
    (items.map judge).map docket.key = items.map docket.key := by
  rw [List.map_map]
  exact List.map_congr_left decided.key

theorem Settled.decide (settled : docket.Settled items effects)
    (decided : docket.Decided judge items fresh) : docket.Settled (items.map judge) (effects ++ fresh) where
  keys := by
    rw [decided.keys]
    exact settled.keys
  counted := by
    intro item member
    obtain ⟨old, there, rfl⟩ := List.mem_map.mp member
    rw [decided.key old there, List.count_append, settled.counted old there, decided.counted old there]
    cases waits : docket.waits old with
    | true =>
      have nothing : docket.due old = 0 := by
        rw [due, docket.waiting old waits]
        rfl
      rw [nothing, if_pos rfl, Nat.zero_add]
    | false =>
      rw [decided.once old there waits]
      rfl
  known := by
    intro key member
    rw [decided.keys]
    rcases List.mem_append.mp member with before | new
    · exact settled.known key before
    · exact decided.known key new

theorem Step.settled (step : docket.Step items effects items' effects')
    (settled : docket.Settled items effects) : docket.Settled items' effects' := by
  cases step with
  | add keys waiting => exact settled.add keys waiting
  | decide judge decided => exact settled.decide decided

theorem Step.final (step : docket.Step items effects items' effects') {item : Item} (member : item ∈ items)
    (decided : docket.waits item = false) : item ∈ items' := by
  cases step with
  | add => exact List.mem_append_left _ member
  | decide judge decision =>
    rw [← decision.once item member decided]
    exact List.mem_map_of_mem member

theorem Step.still (settled : docket.Settled items effects) : docket.Step items effects items effects := by
  have keys : ((items ++ []).map docket.key).Nodup := by
    rw [List.append_nil]
    exact settled.keys
  have step : docket.Step items effects (items ++ []) effects := .add keys (by simp)
  rw [List.append_nil] at step
  exact step

theorem Settled.unique (settled : docket.Settled items effects) {first second : Item} (left : first ∈ items)
    (right : second ∈ items) (same : docket.key first = docket.key second) : first = second :=
  List.inj_on_of_nodup_map settled.keys left right same

/-- An item is alone under its key. -/
theorem Settled.alone (settled : docket.Settled items effects) {item : Item} (member : item ∈ items) :
    items.filter (fun other => docket.key other == docket.key item) = [item] := by
  have keys := settled.keys
  clear settled
  induction items with
  | nil => cases member
  | cons first rest ih =>
    rw [List.map_cons, List.nodup_cons] at keys
    rcases List.mem_cons.mp member with rfl | later
    · have others : rest.filter (fun other => docket.key other == docket.key item) = [] := by
        rw [List.filter_eq_nil_iff]
        intro other among same
        exact keys.1 (beq_iff_eq.mp same ▸ List.mem_map_of_mem among)
      simp [List.filter_cons, others]
    · have apart : (docket.key first == docket.key item) = false := by
        rw [beq_eq_false_iff_ne]
        intro same
        exact keys.1 (same ▸ List.mem_map_of_mem later)
      simp only [List.filter_cons, apart]
      exact ih later keys.2

end Docket
end Grc.Lib
