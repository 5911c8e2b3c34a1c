import Grc.Taxonomy.SuggestionRuns

/-! The records an approval of the suggestions takes out of the footprint: what each carries in the dimension that hides it. -/
namespace Grc.Taxonomy

open Grc.Shared Grc.Lib

theorem inFootprint_iff_allows {record : Scope} {footprint : String → List String} {restricting : Restricting} :
    inFootprint record footprint restricting = true ↔ ∀ entry ∈ record, entry.1 ∈ restricting.keys → entry.2 ≠ [] →
      (footprint entry.1 = [] → entry.1 ∉ restricting.optIn) ∧
        Allows { key | key ∈ footprint entry.1 } { key | key ∈ entry.2 } := by
  rw [inFootprint, List.all_eq_true]
  refine forall₂_congr fun entry _ => ?_
  obtain ⟨dimension, keys⟩ := entry
  dsimp only
  by_cases free : dimension ∉ restricting.keys ∨ keys = []
  · rw [if_pos free]
    refine iff_of_true rfl fun restricts carries => ?_
    rcases free with none_ | none_
    · exact absurd restricts none_
    · exact absurd none_ carries
  · rw [if_neg free]
    obtain ⟨restricts, carries⟩ := not_or.mp free
    simp only [not_not.mp restricts, carries, ne_eq, not_false_eq_true, true_implies]
    cases named : footprint dimension with
    | nil =>
      simp [Allows]
    | cons first rest =>
      have closed : { key | key ∈ first :: rest } ≠ (∅ : Set String) := fun empty => by
        cases SuggestionDesk.setOf_mem_eq_empty.mp empty
      simp only [reduceCtorEq, false_implies, true_and, Allows, closed, false_or, List.any_eq_true, List.contains_iff_mem]
      exact Iff.rfl

namespace SuggestionDesk
variable {desk : SuggestionDesk} {state next : FootprintState} {dimension key : String} {record : Scope}
  {entry : String × List String} {body : FootprintRequestBody}

/-- What a record carries in a dimension, when the suggestions hide it there: markets none of which is suggested, where the scope
named none; or else terms no company holds, each of them one a register answers for, or one that is not live where the scope named
none, or one the scope did not name where it named others. -/
inductive Accounted (desk : SuggestionDesk) (state : FootprintState) (entry : String × List String) : Prop where
  | market (its : entry.1 = marketDimension) (open_ : desk.scope state marketDimension = [])
      (unsuggested : ∀ key ∈ entry.2, (marketDimension, key) ∉ desk.addPairs state)
  | unheld (answered : entry.1 ∈ desk.dimensions)
      (each : ∀ key ∈ entry.2, key ∉ desk.held entry.1 ∧ (key ∈ desk.bound entry.1 ∨
        (desk.scope state entry.1 = [] ∧ (entry.1, key) ∉ desk.live) ∨
        (desk.scope state entry.1 ≠ [] ∧ key ∉ desk.scope state entry.1)))

section
variable (some_ : desk.companies ≠ []) (asks : desk.Asks state body) (adopted : Adopted desk.reads body state next)
include some_ asks adopted

theorem mem_scope_beside (beside : dimension ∉ desk.dimensions) : key ∈ desk.scope next dimension ↔
      key ∈ desk.scope state dimension ∨ dimension = marketDimension ∧ (marketDimension, key) ∈ desk.addPairs state := by
  rw [mem_scope_next some_ asks adopted, and_iff_left fun removed => beside (mem_removePairs.mp removed).1]
  refine or_congr Iff.rfl ⟨fun added => ?_, fun both => both.1 ▸ both.2⟩
  rcases mem_addPairs.mp added with ⟨listed, -⟩ | ⟨line, -, same⟩
  · exact absurd listed beside
  · obtain ⟨rfl, rfl⟩ := Prod.mk.inj same
    exact ⟨rfl, added⟩

theorem scope_next_ne_nil (named : desk.scope state dimension ≠ []) : desk.scope next dimension ≠ [] := by
  by_cases answered : dimension ∈ desk.dimensions
  · have nonempty : (desk.narrowing state dimension).current.Nonempty :=
      Set.nonempty_iff_ne_empty.mpr (mt setOf_mem_eq_empty.mp named)
    have later : (desk.narrowing next dimension).current.Nonempty := by
      rw [narrowing_next some_ asks adopted answered]
      exact Narrowing.next_nonempty nonempty
    exact mt setOf_mem_eq_empty.mpr later.ne_empty
  · obtain ⟨key, here⟩ := List.exists_mem_of_ne_nil _ named
    exact List.ne_nil_of_mem ((mem_scope_beside some_ asks adopted answered).mpr (.inl here))

theorem accounted_of_hidden (before : Allows { key | key ∈ desk.scope state entry.1 } { key | key ∈ entry.2 })
    (hidden : ¬Allows { key | key ∈ desk.scope next entry.1 } { key | key ∈ entry.2 }) : desk.Accounted state entry := by
  by_cases answered : entry.1 ∈ desk.dimensions
  · refine .unheld answered fun key carried => ?_
    have narrowed : { key | key ∈ desk.scope next entry.1 } = (desk.narrowing state entry.1).next :=
      congrArg Narrowing.current (narrowing_next some_ asks adopted answered)
    rw [narrowed] at hidden
    obtain ⟨unheld, its⟩ := Narrowing.of_hidden hidden carried
    refine ⟨unheld, its.imp id (Or.imp (And.imp ?_ ?_) (And.imp ?_ id))⟩
    · exact setOf_mem_eq_empty.mp
    · exact fun dead live => dead (mem_keysOf.mpr live)
    · exact fun named none_ => named.ne_empty (setOf_mem_eq_empty.mpr none_)
  · have grows (key : String) : key ∈ desk.scope next entry.1 ↔
        key ∈ desk.scope state entry.1 ∨ entry.1 = marketDimension ∧ (marketDimension, key) ∈ desk.addPairs state :=
      mem_scope_beside some_ asks adopted answered
    have open_ : desk.scope state entry.1 = [] := by
      rcases before with empty | ⟨key, carried, here⟩
      · exact setOf_mem_eq_empty.mp empty
      · exact absurd (.inr ⟨key, carried, (grows _).mpr (.inl here)⟩) hidden
    have closed : desk.scope next entry.1 ≠ [] := fun empty => hidden (.inl (setOf_mem_eq_empty.mpr empty))
    obtain ⟨first, here⟩ := List.exists_mem_of_ne_nil _ closed
    rcases (grows _).mp here with old | ⟨its, -⟩
    · rw [open_] at old
      cases old
    · refine .market its (its ▸ open_) fun key carried suggested => hidden ?_
      exact .inr ⟨key, carried, (grows _).mpr (.inr ⟨its, suggested⟩)⟩

end

/-- For every library, register, bank and state of the scope: a record in the footprint that an approval of what is suggested of the
scope takes out carries, in a restricting dimension, only what the suggestion accounts for. -/
theorem hides_only_accounted {people : Adoption} (accepted : adopt desk.reads people body state = .ok next) (asks : desk.Asks state body)
    (before : inFootprint record (desk.scope state) desk.reads.table.restrictingDimensions = true)
    (hidden : inFootprint record (desk.scope next) desk.reads.table.restrictingDimensions = false) :
    ∃ entry ∈ record, entry.1 ∈ desk.reads.table.restrictingDimensions.keys ∧ entry.2 ≠ [] ∧ desk.Accounted state entry := by
  have adopted := adopt_ok desk.rows accepted
  by_cases some_ : desk.companies = []
  · -- nothing is suggested, and the footprint is as it was
    have none_ : (desk.suggestionsOf state).body.adds = [] ∧ (desk.suggestionsOf state).body.removes = [] := by
      rw [suggestionsOf, if_pos some_]
      exact ⟨rfl, rfl⟩
    have same : SameKeys (desk.scope state) (desk.scope next) := by
      intro dimension key
      simp only [scope, TermTable.footprintOf, mem_keysIn, TermTable.mem_named]
      refine exists_congr fun term => and_congr_left fun _ => and_congr_right fun known => ?_
      rw [adopted.followed term known, asks.1, asks.2, none_.1, none_.2]
      simp
    rw [inFootprint_congr same] at before
    rw [before] at hidden
    cases hidden
  · have lost : ¬inFootprint record (desk.scope next) desk.reads.table.restrictingDimensions = true := by simp [hidden]
    rw [inFootprint_iff_allows] at before lost
    push Not at lost
    obtain ⟨entry, carried, restricts, carries, lost⟩ := lost
    obtain ⟨optIn, allowed⟩ := before entry carried restricts carries
    refine ⟨entry, carried, restricts, carries, accounted_of_hidden some_ asks adopted allowed (lost fun empty => optIn ?_)⟩
    by_contra named
    exact scope_next_ne_nil some_ asks adopted named empty

/-- What a record carries in some restricting dimension is answered for by a register and held by no company. -/
def carriesUnheld (desk : SuggestionDesk) (record : Scope) : Bool :=
  record.any fun (dimension, keys) => dimension ∈ desk.reads.table.restrictingDimensions.keys ∧ keys ≠ [] ∧
    ∀ key ∈ keys, key ∈ desk.bound dimension ∧ key ∉ desk.held dimension

/-- A record of another market, one that carries a term the scope never named, and one that carries a retired term are hidden. -/
theorem others_hidden : ((lenderDesk.adoptAll (following [11, 12])).toOption.map fun next =>
    [[("jurisdiction", ["se"])], [("regime", ["insurance", "aml"])], [("service_type", ["execution_only"])]].map fun record =>
      (inFootprint record (lenderDesk.scope (following [11, 12])) lenderTable.restrictingDimensions,
        inFootprint record (lenderDesk.scope next) lenderTable.restrictingDimensions, lenderDesk.carriesUnheld record)) =
    some [(true, false, false), (true, false, false), (true, false, false)] := by
  decide +kernel

/-- A record of advice alone is hidden by the same approval. -/
theorem advice_accounted : ∃ entry ∈ [("service_type", ["advice"])], entry.1 ∈ lenderTable.restrictingDimensions.keys ∧
    entry.2 ≠ [] ∧ lenderDesk.Accounted (following [11, 12]) entry := by
  have accepted : ((lenderDesk.adoptAll (following [11, 12])).toOption.map fun next =>
      inFootprint [("service_type", ["advice"])] (lenderDesk.scope next) lenderTable.restrictingDimensions) = some false := by
    decide +kernel
  obtain ⟨next, made, hidden⟩ := Option.map_eq_some_iff.mp accepted
  exact hides_only_accounted (toOption_eq_some_iff.mp made) ⟨rfl, rfl⟩ (by decide +kernel) hidden

end SuggestionDesk

end Grc.Taxonomy
