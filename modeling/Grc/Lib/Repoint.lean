import Mathlib.Data.List.Basic

/-! Rows that hold one value are pointed at another. A row whose owner holds the other value already is a
twin: it goes, and every other row stays with its owner. -/
namespace Grc.Lib

variable {Row Value Owner Key : Type} [DecidableEq Value]

def repointed (value : Row → Value) (move : Row → Row) (source : Value) (twin : Row → Bool) (rows : List Row) : List Row :=
  (rows.filter fun row => !(decide (value row = source) && twin row)).map fun row =>
    if value row = source then move row else row

/-- The value a holder of `held` holds after. -/
def replaced (source target held : Value) : Value := if held = source then target else held

variable {value : Row → Value} {owner : Row → Owner} {move : Row → Row} {source target : Value} {twin : Row → Bool}
  {rows : List Row} {row : Row}

theorem mem_repointed : row ∈ repointed value move source twin rows ↔
    ∃ old ∈ rows, ¬(value old = source ∧ twin old = true) ∧ row = if value old = source then move old else old := by
  simp only [repointed, List.mem_map, List.mem_filter, Bool.not_eq_true', Bool.and_eq_false_iff, decide_eq_false_iff_not,
    not_and_or, Bool.not_eq_true, and_assoc, eq_comm (b := row)]

theorem value_moved (moved : ∀ row, value (move row) = target) (old : Row) :
    value (if value old = source then move old else old) = replaced source target (value old) := by
  unfold replaced
  split
  · exact moved old
  · rfl

theorem owner_moved (kept : ∀ row, owner (move row) = owner row) (old : Row) :
    owner (if value old = source then move old else old) = owner old := by
  split
  · exact kept old
  · rfl

theorem repointed_gone (differ : source ≠ target) (moved : ∀ row, value (move row) = target) :
    ∀ row ∈ repointed value move source twin rows, value row ≠ source := by
  intro row member
  obtain ⟨old, -, -, rfl⟩ := mem_repointed.mp member
  rw [value_moved moved, replaced]
  split
  · exact differ.symm
  · assumption

theorem repointed_kept (moved : ∀ row, value (move row) = target) (kept : ∀ row, owner (move row) = owner row)
    (there : row ∈ rows) : (∃ later ∈ repointed value move source twin rows, owner later = owner row ∧
      value later = replaced source target (value row) ∧ (value row ≠ source → later = row)) ∨
        (value row = source ∧ twin row = true) := by
  by_cases drops : value row = source ∧ twin row = true
  · exact .inr drops
  · refine .inl ⟨_, mem_repointed.mpr ⟨row, there, drops, rfl⟩, owner_moved kept row, value_moved moved row, ?_⟩
    exact fun other => if_neg other

/-- Each owner holds after what it held before, with the target in the source's place. -/
theorem repointed_owned (differ : source ≠ target) (moved : ∀ row, value (move row) = target)
    (kept : ∀ row, owner (move row) = owner row)
    (twins : ∀ row ∈ rows, value row = source → twin row = true → ∃ other ∈ rows, value other = target ∧ owner other = owner row)
    (whose : Owner) (held : Value) :
    (∃ row ∈ repointed value move source twin rows, owner row = whose ∧ value row = held) ↔
      ∃ row ∈ rows, owner row = whose ∧ replaced source target (value row) = held := by
  constructor
  · rintro ⟨row, member, rfl, rfl⟩
    obtain ⟨old, there, -, rfl⟩ := mem_repointed.mp member
    exact ⟨old, there, (owner_moved kept old).symm, (value_moved moved old).symm⟩
  · rintro ⟨row, there, rfl, rfl⟩
    have stays : (∃ later ∈ repointed value move source twin rows, _) ∨ _ := repointed_kept moved kept there
    rcases stays with ⟨later, member, same, holds, -⟩ | ⟨holds, twinned⟩
    · exact ⟨later, member, same, holds⟩
    · obtain ⟨other, here, targeted, same⟩ := twins row there holds twinned
      have apart : ¬(value other = source ∧ twin other = true) := by
        rw [targeted]
        exact fun both => differ both.1.symm
      refine ⟨_, mem_repointed.mpr ⟨other, here, apart, rfl⟩, ?_, ?_⟩
      · rw [owner_moved kept, same]
      · rw [value_moved moved, targeted, holds, replaced, replaced, if_neg differ.symm, if_pos rfl]

/-- What a merge leaves of a table's rows: none holds the source, each owner holds what it held with the target
in the source's place, and a row is gone only where its owner held the target too. -/
structure Replaced (key : Row → Key) (value : Row → Value) (owner : Row → Owner) (source target : Value)
    (before after : List Row) : Prop where
  gone : ∀ row ∈ after, value row ≠ source
  owned : ∀ whose held, (∃ row ∈ after, owner row = whose ∧ value row = held) ↔
    ∃ row ∈ before, owner row = whose ∧ replaced source target (value row) = held
  kept : ∀ row ∈ before, (∃ later ∈ after, key later = key row ∧ owner later = owner row ∧
      value later = replaced source target (value row) ∧ (value row ≠ source → later = row)) ∨
    (value row = source ∧ ∃ other ∈ before, value other = target ∧ owner other = owner row)

theorem repointed_replaced {key : Row → Key} (differ : source ≠ target) (moved : ∀ row, value (move row) = target)
    (kept : ∀ row, owner (move row) = owner row) (named : ∀ row, key (move row) = key row)
    (twins : ∀ row ∈ rows, value row = source → twin row = true → ∃ other ∈ rows, value other = target ∧ owner other = owner row) :
    Replaced key value owner source target rows (repointed value move source twin rows) where
  gone := repointed_gone differ moved
  owned := repointed_owned differ moved kept twins
  kept := by
    intro row there
    by_cases drops : value row = source ∧ twin row = true
    · exact .inr ⟨drops.1, twins row there drops.1 drops.2⟩
    · refine .inl ⟨_, mem_repointed.mpr ⟨row, there, drops, rfl⟩, ?_, owner_moved kept row, value_moved moved row, ?_⟩
      · split
        · exact named row
        · rfl
      · exact fun other => if_neg other

end Grc.Lib
