import Mathlib.Data.List.Basic

/-! A cached answer kept by an outbox: a write to what the answer is computed from leaves an
event, and delivering an event recomputes the entries it covers. An entry is current, or an
event that will make it so is still to be delivered. -/
namespace Grc.Lib

universe u v w
variable {Key : Type u} {Value : Type v} {Event : Type w}

/-- Every stored answer is the true one, or is covered by an event still pending. -/
def CurrentOrDue (covers : Event → Key → Prop) (truth : Key → Value) (stored : Key → Option Value)
    (pending : List Event) : Prop :=
  ∀ key value, stored key = some value → value = truth key ∨ ∃ event ∈ pending, covers event key

variable {covers : Event → Key → Prop} {truth later : Key → Value} {stored next : Key → Option Value}
  {pending : List Event}

theorem CurrentOrDue.drained (due : CurrentOrDue covers truth stored []) {key : Key} {value : Value}
    (found : stored key = some value) : value = truth key := by
  rcases due key value found with current | ⟨event, member, -⟩
  · exact current
  · cases member

theorem CurrentOrDue.change (due : CurrentOrDue covers truth stored pending) {event : Event}
    (covered : ∀ key value, stored key = some value → later key ≠ truth key → covers event key) :
    CurrentOrDue covers later stored (pending ++ [event]) := by
  intro key value found
  by_cases moved : later key = truth key
  · rcases due key value found with current | ⟨earlier, member, covering⟩
    · exact .inl (current.trans moved.symm)
    · exact .inr ⟨earlier, List.mem_append_left _ member, covering⟩
  · exact .inr ⟨event, List.mem_append_right _ (List.mem_singleton.mpr rfl), covered key value found moved⟩

/-- A delivery makes every entry its event covers current and leaves the others as they were,
so the event may leave the queue. -/
theorem CurrentOrDue.deliver [DecidableEq Event] (due : CurrentOrDue covers truth stored pending)
    {event : Event}
    (recomputed : ∀ key value, next key = some value →
      value = truth key ∨ stored key = some value ∧ ¬covers event key) :
    CurrentOrDue covers truth next (pending.erase event) := by
  intro key value found
  rcases recomputed key value found with current | ⟨kept, uncovered⟩
  · exact .inl current
  · rcases due key value kept with current | ⟨other, member, covering⟩
    · exact .inl current
    · refine .inr ⟨other, (List.mem_erase_of_ne ?_).mpr member, covering⟩
      rintro rfl
      exact uncovered covering

theorem CurrentOrDue.write (due : CurrentOrDue covers truth stored pending)
    (written : ∀ key value, next key = some value →
      stored key = some value ∨ value = truth key ∨ ∃ event ∈ pending, covers event key) :
    CurrentOrDue covers truth next pending := by
  intro key value found
  rcases written key value found with kept | current
  · exact due key value kept
  · exact current

end Grc.Lib
