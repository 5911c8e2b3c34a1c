import Grc.Lib.Keyed
import Mathlib.Order.Basic

/-! Runs of a system whose calls either commit a new state or are refused. A refusal
rolls its transaction back, so a run carries on from the state the call was made in. -/
namespace Grc.Lib

universe u v w
variable {State : Type u} {Call : Type v} {Refused : Type w}

def settle (step : State → Call → Except Refused State) (state : State) (call : Call) : State :=
  match step state call with
  | .ok next => next
  | .error _ => state

def run (step : State → Call → Except Refused State) (state : State) (calls : List Call) : State :=
  calls.foldl (settle step) state

variable {step : State → Call → Except Refused State} {state : State}

@[simp] theorem run_nil : run step state [] = state := rfl

@[simp] theorem run_cons (call : Call) (rest : List Call) :
    run step state (call :: rest) = run step (settle step state call) rest := rfl

theorem run_append (first second : List Call) :
    run step state (first ++ second) = run step (run step state first) second :=
  List.foldl_append

theorem settle_ok {call : Call} {next : State} (accepted : step state call = .ok next) :
    settle step state call = next := by
  simp [settle, accepted]

theorem settle_error {call : Call} {refused : Refused} (refusal : step state call = .error refused) :
    settle step state call = state := by
  simp [settle, refusal]

variable {Holds : State → Prop}

theorem settle_invariant {call : Call} (initial : Holds state)
    (kept : ∀ next, step state call = .ok next → Holds next) : Holds (settle step state call) := by
  unfold settle
  split
  · rename_i next accepted
    exact kept next accepted
  · exact initial

/-- The induction over runs: what holds at the start and is kept by every accepted call
holds after any finite run. -/
theorem run_invariant (initial : Holds state)
    (kept : ∀ state call next, Holds state → step state call = .ok next → Holds next)
    (calls : List Call) : Holds (run step state calls) := by
  induction calls generalizing state with
  | nil => exact initial
  | cons call rest ih => exact ih (settle_invariant initial fun next => kept state call next initial)

/-- A run every accepted call of which meets `condition` in the state it is made in. -/
def Meets (step : State → Call → Except Refused State) (condition : State → Call → Prop) :
    State → List Call → Prop
  | _, [] => True
  | state, call :: rest =>
    (∀ next, step state call = .ok next → condition state call) ∧
      Meets step condition (settle step state call) rest

/-- Whether a concrete run meets a condition can be computed. -/
instance Meets.decidable {condition : State → Call → Prop} [∀ state call, Decidable (condition state call)] :
    ∀ (state : State) (calls : List Call), Decidable (Meets step condition state calls)
  | _, [] => .isTrue trivial
  | state, call :: rest =>
    @instDecidableAnd _ _
      (match step state call with
        | .ok next => decidable_of_iff (condition state call) ⟨fun met _ _ => met, fun met => met next rfl⟩
        | .error _ => .isTrue fun _ refused => nomatch refused)
      (Meets.decidable (settle step state call) rest)

variable {condition : State → Call → Prop}

theorem Meets.append {first second : List Call} :
    Meets step condition state (first ++ second) ↔
      Meets step condition state first ∧ Meets step condition (run step state first) second := by
  induction first generalizing state with
  | nil => simp [Meets]
  | cons call rest ih => simp [Meets, ih, and_assoc]

theorem Meets.initial {first calls : List Call}
    (meets : Meets step condition state calls) (isPrefix : first <+: calls) :
    Meets step condition state first := by
  obtain ⟨second, same⟩ := isPrefix
  rw [← same] at meets
  exact (Meets.append.mp meets).1

theorem run_invariant_of_meets
    (initial : Holds state)
    (kept : ∀ state call next, Holds state → condition state call →
      step state call = .ok next → Holds next)
    (calls : List Call) (meets : Meets step condition state calls) :
    Holds (run step state calls) := by
  induction calls generalizing state with
  | nil => exact initial
  | cons call rest ih =>
    obtain ⟨met, later⟩ := meets
    exact ih (settle_invariant initial fun next accepted =>
      kept state call next initial (met next accepted) accepted) later

/-- Where an invariant shows the property, and an accepted call keeps both exactly when it meets the
condition, a run keeps the property throughout exactly when every accepted call of it does. -/
theorem holds_throughout_iff (Invariant : State → Prop)
    (initial : Invariant state) (shown : ∀ state, Invariant state → Holds state)
    (exact_ : ∀ state call next, Invariant state → step state call = .ok next → (Holds next ↔ condition state call))
    (kept : ∀ state call next, Invariant state → condition state call → step state call = .ok next → Invariant next)
    (calls : List Call) :
    (∀ first, first <+: calls → Holds (run step state first)) ↔ Meets step condition state calls := by
  constructor
  · intro throughout
    induction calls generalizing state with
    | nil => trivial
    | cons call rest ih =>
      have settled : Holds (settle step state call) :=
        throughout [call] (List.prefix_append [call] rest)
      have met : ∀ next, step state call = .ok next → condition state call := by
        intro next accepted
        rw [settle_ok accepted] at settled
        exact (exact_ state call next initial accepted).mp settled
      have later : Invariant (settle step state call) :=
        settle_invariant initial fun next accepted => kept state call next initial (met next accepted) accepted
      exact ⟨met, ih later fun first isPrefix => throughout (call :: first) (List.cons_prefix_cons.mpr ⟨rfl, isPrefix⟩)⟩
  · intro meets first isPrefix
    exact shown _ (run_invariant_of_meets initial kept first (meets.initial isPrefix))

/-- Where an accepted call keeps the property exactly when it meets the condition, a run keeps
it throughout exactly when every accepted call of it does. -/
theorem holds_throughout_iff_meets
    (initial : Holds state)
    (exact_ : ∀ state call next, Holds state → step state call = .ok next →
      (Holds next ↔ condition state call))
    (calls : List Call) :
    (∀ first, first <+: calls → Holds (run step state first)) ↔ Meets step condition state calls :=
  holds_throughout_iff Holds initial (fun _ held => held) exact_
    (fun state call next held met accepted => (exact_ state call next held accepted).mpr met) calls

end Grc.Lib
