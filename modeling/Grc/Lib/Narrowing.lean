import Mathlib.Order.BooleanAlgebra.Set

/-! A list that lets everything through while it is empty, and only what it names once it names something: brought into line
with what is held, without losing by it what no holding answers for. -/
namespace Grc.Lib

variable {α : Type} {v : α}

def Allows (list wanted : Set α) : Prop := list = ∅ ∨ (wanted ∩ list).Nonempty

/-- The values there are, those of them a holding answers for, those held, and the list as it is. -/
structure Narrowing (α : Type) where
  live : Set α
  bound : Set α
  held : Set α
  current : Set α

namespace Narrowing
variable {at_ : Narrowing α} {wanted : Set α}

open scoped Classical in
/-- An empty list is closed when part of what is bound is held, with all that nothing bound answers for; another one gains
what is held. -/
noncomputable def added (at_ : Narrowing α) : Set α :=
  if at_.current = ∅ then
    if at_.held.Nonempty ∧ (at_.bound \ at_.held).Nonempty then at_.held ∪ (at_.live \ at_.bound) else ∅
  else at_.held \ at_.current

def gone (at_ : Narrowing α) : Set α := (at_.current ∩ at_.bound) \ at_.held

open scoped Classical in
/-- The gone values leave the list unless that empties it. -/
noncomputable def dropped (at_ : Narrowing α) : Set α := if (at_.current \ at_.gone).Nonempty then at_.gone else ∅

noncomputable def next (at_ : Narrowing α) : Set α := (at_.current ∪ at_.added) \ at_.dropped

/-- The list, one narrowing later. -/
noncomputable def after (at_ : Narrowing α) : Narrowing α := { at_ with current := at_.next }

def Settled (at_ : Narrowing α) : Prop := at_.added = ∅ ∧ at_.dropped = ∅

def Elsewhere (at_ : Narrowing α) : Prop := at_.current.Nonempty ∧ at_.current ⊆ at_.bound \ at_.held ∧ at_.held.Nonempty

theorem mem_gone : v ∈ at_.gone ↔ v ∈ at_.current ∧ v ∈ at_.bound ∧ v ∉ at_.held := by
  simp [gone, and_assoc]

theorem dropped_subset : at_.dropped ⊆ at_.gone := by
  unfold dropped
  split
  · exact subset_rfl
  · exact Set.empty_subset _

theorem dropped_of_empty (empty : at_.current = ∅) : at_.dropped = ∅ := by
  have none_ : at_.gone = ∅ := by simp [gone, empty]
  simp [dropped, none_]

theorem held_next (some_ : at_.current.Nonempty) (held : v ∈ at_.held) : v ∈ at_.next := by
  refine ⟨?_, fun lost => (mem_gone.mp (dropped_subset lost)).2.2 held⟩
  by_cases here : v ∈ at_.current
  · exact .inl here
  · refine .inr ?_
    rw [added, if_neg some_.ne_empty]
    exact ⟨held, here⟩

theorem kept_next (here : v ∈ at_.current) (kept : v ∉ at_.dropped) : v ∈ at_.next := ⟨.inl here, kept⟩

theorem current_of_next (some_ : at_.current.Nonempty) (listed : v ∈ at_.next) (free : v ∉ at_.held) : v ∈ at_.current := by
  rcases listed.1 with here | new
  · exact here
  · rw [added, if_neg some_.ne_empty] at new
    exact absurd new.1 free

theorem next_of_empty (empty : at_.current = ∅) : at_.next = at_.added := by
  simp [next, dropped_of_empty empty, empty]

theorem added_of_held (some_ : at_.current.Nonempty) (held : at_.held ⊆ at_.current) : at_.added = ∅ := by
  rw [added, if_neg some_.ne_empty]
  exact Set.sdiff_eq_empty.mpr held

/-- A list that was empty is settled, whether it was closed or left open. -/
theorem settled_of_empty (empty : at_.current = ∅) : at_.after.Settled := by
  have next := next_of_empty empty
  by_cases closes : at_.held.Nonempty ∧ (at_.bound \ at_.held).Nonempty
  · have closed : at_.next = at_.held ∪ (at_.live \ at_.bound) := by rw [next, added, if_pos empty, if_pos closes]
    have some_ : at_.after.current.Nonempty := by
      change at_.next.Nonempty
      rw [closed]
      exact closes.1.mono Set.subset_union_left
    have none_ : at_.after.gone = ∅ := by
      refine Set.eq_empty_of_forall_notMem fun v gone => ?_
      obtain ⟨listed, bound, free⟩ := mem_gone.mp gone
      change v ∈ at_.next at listed
      rw [closed] at listed
      rcases listed with held | choice
      · exact free held
      · exact choice.2 bound
    refine ⟨added_of_held some_ fun v held => ?_, Set.subset_eq_empty dropped_subset none_⟩
    change v ∈ at_.next
    rw [closed]
    exact .inl held
  · have open_ : at_.next = ∅ := by rw [next, added, if_pos empty, if_neg closes]
    have same : at_.after.current = ∅ := open_
    refine ⟨?_, dropped_of_empty same⟩
    rw [added, if_pos same]
    exact if_neg closes

theorem settled_of_kept (some_ : at_.current.Nonempty) (spared : (at_.current \ at_.gone).Nonempty) : at_.after.Settled := by
  have drops : at_.dropped = at_.gone := if_pos spared
  obtain ⟨kept, here, stays⟩ := spared
  have left : at_.after.current.Nonempty := ⟨kept, kept_next here (drops ▸ stays)⟩
  refine ⟨added_of_held left fun v held => held_next some_ held, Set.subset_eq_empty dropped_subset ?_⟩
  refine Set.eq_empty_of_forall_notMem fun v gone => ?_
  obtain ⟨listed, bound, free⟩ := mem_gone.mp gone
  have here := current_of_next some_ listed free
  exact listed.2 (drops ▸ mem_gone.mpr ⟨here, bound, free⟩)

/-- Of a list that names only what would go, nothing goes before something held is on it. -/
theorem settled_of_lost (some_ : at_.current.Nonempty) (lost : at_.current ⊆ at_.gone) :
    at_.after.Settled ↔ ¬at_.held.Nonempty := by
  have keeps : at_.dropped = ∅ := if_neg (Set.not_nonempty_iff_eq_empty.mpr (Set.sdiff_eq_empty.mpr lost))
  have stays {v : α} (here : v ∈ at_.current) : v ∈ at_.after.gone := by
    obtain ⟨-, bound, free⟩ := mem_gone.mp (lost here)
    exact mem_gone.mpr ⟨kept_next here (keeps ▸ Set.notMem_empty v), bound, free⟩
  obtain ⟨first, here⟩ := some_
  constructor
  · rintro ⟨-, dropped⟩ ⟨v, held⟩
    have spared : (at_.after.current \ at_.after.gone).Nonempty :=
      ⟨v, held_next ⟨first, here⟩ held, fun gone => (mem_gone.mp gone).2.2 held⟩
    rw [Narrowing.dropped, if_pos spared] at dropped
    exact Set.notMem_empty first (dropped ▸ stays here)
  · intro none_
    have empty := Set.not_nonempty_iff_eq_empty.mp none_
    refine ⟨added_of_held ⟨first, (mem_gone.mp (stays here)).1⟩ ?_, if_neg ?_⟩
    · exact empty.subset.trans (Set.empty_subset _)
    · rintro ⟨v, listed, spared⟩
      have free : v ∉ at_.held := fun held => none_ ⟨v, held⟩
      exact spared (stays (current_of_next ⟨first, here⟩ listed free))

/-- One narrowing settles a list unless the list named only bound values that are not held while something was. -/
theorem settled_iff : at_.after.Settled ↔ ¬at_.Elsewhere := by
  rcases Set.eq_empty_or_nonempty at_.current with empty | some_
  · refine iff_of_true (settled_of_empty empty) fun elsewhere => ?_
    exact elsewhere.1.ne_empty empty
  · by_cases spared : (at_.current \ at_.gone).Nonempty
    · refine iff_of_true (settled_of_kept some_ spared) fun elsewhere => ?_
      obtain ⟨v, here, stays⟩ := spared
      exact stays (mem_gone.mpr ⟨here, elsewhere.2.1 here⟩)
    · have lost : at_.current ⊆ at_.gone := Set.sdiff_eq_empty.mp (Set.not_nonempty_iff_eq_empty.mp spared)
      rw [settled_of_lost some_ lost, not_iff_not]
      constructor
      · exact fun held => ⟨some_, fun v here => (mem_gone.mp (lost here)).2, held⟩
      · exact fun elsewhere => elsewhere.2.2

theorem next_nonempty (some_ : at_.current.Nonempty) : at_.next.Nonempty := by
  by_cases spared : (at_.current \ at_.gone).Nonempty
  · obtain ⟨v, here, stays⟩ := spared
    exact ⟨v, kept_next here fun lost => stays (dropped_subset lost)⟩
  · obtain ⟨v, here⟩ := some_
    have keeps : at_.dropped = ∅ := if_neg spared
    exact ⟨v, kept_next here (keeps ▸ Set.notMem_empty v)⟩

/-- What the next list does not let through names nothing held; and each value it names is bound, or not live where the list was
empty, or not on the list where it was not. -/
theorem of_hidden (hidden : ¬Allows at_.next wanted) (names : v ∈ wanted) :
    v ∉ at_.held ∧ (v ∈ at_.bound ∨ at_.current = ∅ ∧ v ∉ at_.live ∨ at_.current.Nonempty ∧ v ∉ at_.current) := by
  have away : v ∉ at_.next := fun listed => hidden (.inr ⟨v, names, listed⟩)
  rcases Set.eq_empty_or_nonempty at_.current with empty | some_
  · have closes : at_.held.Nonempty ∧ (at_.bound \ at_.held).Nonempty := by
      by_contra open_
      refine hidden (.inl ?_)
      rw [next_of_empty empty, added, if_pos empty, if_neg open_]
    rw [next_of_empty empty, added, if_pos empty, if_pos closes] at away
    refine ⟨fun held => away (.inl held), ?_⟩
    by_cases bound : v ∈ at_.bound
    · exact .inl bound
    · exact .inr (.inl ⟨empty, fun live => away (.inr ⟨live, bound⟩)⟩)
  · refine ⟨fun held => away (held_next some_ held), ?_⟩
    by_cases here : v ∈ at_.current
    · have lost : v ∈ at_.dropped := by
        by_contra kept
        exact away (kept_next here kept)
      exact .inl (mem_gone.mp (dropped_subset lost)).2.1
    · exact .inr (.inr ⟨some_, here⟩)

end Narrowing

end Grc.Lib
