import Grc.Lib.Narrowing
import Grc.Taxonomy.Adoption

/-! What the suggestions leave once they are approved: each dimension is a list narrowed to what the companies hold, and a second
reading finds nothing to add, to remove, or to change of a company's own scope. -/
namespace Grc.Taxonomy

open Grc.Shared Grc.Lib

theorem mem_keysOf {pairs : List Key} {dimension key : String} : key ∈ keysOf pairs dimension ↔ (dimension, key) ∈ pairs := by
  simp only [keysOf, List.mem_map, List.mem_filter, beq_iff_eq]
  constructor
  · rintro ⟨pair, ⟨listed, rfl⟩, rfl⟩
    exact listed
  · exact fun listed => ⟨(dimension, key), ⟨listed, rfl⟩, rfl⟩

namespace RegisterTerms
variable {terms : RegisterTerms} {authority : String} {facts : RegisterFacts} {pair : Key}

theorem derivable_of_category {name : String} (given : pair ∈ (terms.mapping authority).categoryTerms name) :
    pair ∈ (terms.mapping authority).derivable := by
  unfold Mapping.categoryTerms at given
  cases found : (terms.mapping authority).categories.find? (·.1 == name) with
  | none => simp [found] at given
  | some category =>
    rw [found] at given
    exact List.mem_append_left _ (List.mem_flatMap.mpr ⟨category, List.mem_of_find?_eq_some found, given⟩)

theorem derivable_of_licence {text : String} (given : pair ∈ terms.licenceTerms authority text) :
    pair ∈ (terms.mapping authority).derivable := by
  obtain ⟨rule, matched, listed⟩ := List.mem_flatMap.mp given
  exact List.mem_append_right _ (List.mem_flatMap.mpr ⟨rule, (List.mem_filter.mp matched).1, listed⟩)

theorem derivable_of_derived (derived : pair ∈ terms.derivedTerms authority facts) : pair ∈ (terms.mapping authority).derivable := by
  unfold derivedTerms at derived
  split at derived
  · rcases List.mem_append.mp derived with business | licensed
    · obtain ⟨name, -, given⟩ := List.mem_flatMap.mp business
      exact derivable_of_category given
    · obtain ⟨text, -, given⟩ := List.mem_flatMap.mp licensed
      exact derivable_of_licence given
  · cases derived

end RegisterTerms

/-- The companies met so far: each once, and with nothing derived that no entry's authority can produce. -/
structure Met (terms : RegisterTerms) (entries : List RegisterEntry) (companies : List Company) : Prop where
  once : (companies.map (·.unit.id)).Nodup
  derivable : ∀ company ∈ companies, ∀ pair ∈ company.derived, ∃ entry ∈ entries, pair ∈ (terms.mapping entry.authority).derivable

variable {terms : RegisterTerms} {entries : List RegisterEntry} {companies : List Company}

theorem takeEntry_met {entry : RegisterEntry} (listed : entry ∈ entries) (met : Met terms entries companies) :
    Met terms entries (takeEntry terms companies entry) := by
  have taken (company : Company) (its : ∀ pair ∈ company.derived, ∃ entry ∈ entries, pair ∈ (terms.mapping entry.authority).derivable) :
      ∀ pair ∈ (company.take terms entry).derived, ∃ entry ∈ entries, pair ∈ (terms.mapping entry.authority).derivable := by
    intro pair given
    rcases List.mem_append.mp given with before | new
    · exact its pair before
    · exact ⟨entry, listed, RegisterTerms.derivable_of_derived new⟩
  unfold takeEntry
  split
  · exact met
  · split
    · constructor
      · have same : (companies.map fun company => if company.unit.id = entry.orgUnit.id then company.take terms entry else company).map
            (·.unit.id) = companies.map (·.unit.id) := by
          rw [List.map_map]
          refine List.map_congr_left fun company _ => ?_
          simp only [Function.comp_apply]
          split
          · rfl
          · rfl
        rw [same]
        exact met.once
      · intro company there
        obtain ⟨source, before, rfl⟩ := List.mem_map.mp there
        split
        · exact taken source (met.derivable source before)
        · exact met.derivable source before
    · next none_ =>
      constructor
      · rw [List.map_append]
        refine List.concat_eq_append ▸ met.once.concat fun there => none_ ?_
        obtain ⟨company, before, same⟩ := List.mem_map.mp there
        exact List.any_eq_true.mpr ⟨company, before, beq_iff_eq.mpr same⟩
      · intro company there
        rcases mem_concat.mp there with before | rfl
        · exact met.derivable company before
        · exact taken _ nofun

theorem foldl_met {rest : List RegisterEntry} (listed : ∀ entry ∈ rest, entry ∈ entries) (met : Met terms entries companies) :
    Met terms entries (rest.foldl (takeEntry terms) companies) := by
  induction rest generalizing companies with
  | nil => exact met
  | cons entry rest ih =>
    exact ih (fun other there => listed other (List.mem_cons_of_mem _ there)) (takeEntry_met (listed entry List.mem_cons_self) met)

namespace SuggestionDesk
variable {desk : SuggestionDesk} {state next : FootprintState} {dimension key : String} {pair : Key} {company : Company}

theorem companies_met (desk : SuggestionDesk) : Met desk.terms desk.read desk.companies :=
  foldl_met (fun _ listed => listed) { once := List.nodup_nil, derivable := List.forall_mem_nil _ }

theorem mem_dimensions : dimension ∈ desk.dimensions ↔
    (∃ key, (dimension, key) ∈ desk.derivable) ∧ dimension ∈ desk.reads.table.restrictingDimensions.keys := by
  simp [dimensions]

theorem market_notMem : marketDimension ∉ desk.dimensions := by
  intro listed
  obtain ⟨⟨key, derivable⟩, -⟩ := mem_dimensions.mp listed
  obtain ⟨entry, -, its⟩ := List.mem_flatMap.mp derivable
  exact desk.terms.noMarkets entry.authority _ its rfl

theorem live_known {term : TaxonomyTerm} (listed : term ∈ desk.liveTerms) : term ∈ desk.reads.table.terms :=
  (List.mem_filter.mp (List.mem_dedup.mp listed)).1

theorem term_of_live (live : pair ∈ desk.live) : ∃ term ∈ desk.reads.table.terms, term.pair = pair := by
  obtain ⟨term, listed, its⟩ := List.mem_map.mp live
  exact ⟨term, live_known listed, its⟩

theorem mem_drawn {pairs : List Key} {selector : TermSelector} :
    selector ∈ desk.drawn pairs ↔ (selector.dimension, selector.key) ∈ pairs ∧ (selector.dimension, selector.key) ∈ desk.live := by
  simp only [drawn, live, List.mem_map, (List.perm_insertionSort _ _).mem_iff, List.mem_filter, decide_eq_true_eq]
  constructor
  · rintro ⟨term, ⟨listed, chosen⟩, rfl⟩
    exact ⟨chosen, term, listed, rfl⟩
  · rintro ⟨chosen, term, listed, same⟩
    obtain ⟨dimensions, keys⟩ := Prod.mk.inj same
    refine ⟨term, ⟨listed, same ▸ chosen⟩, ?_⟩
    rw [TaxonomyTerm.selector, dimensions, keys]

theorem drawn_eq_nil {pairs : List Key} (live : ∀ pair ∈ pairs, pair ∈ desk.live) : desk.drawn pairs = [] ↔ pairs = [] := by
  rw [List.eq_nil_iff_forall_not_mem, List.eq_nil_iff_forall_not_mem]
  constructor
  · intro none_ pair listed
    exact none_ { dimension := pair.1, key := pair.2 } (mem_drawn.mpr ⟨listed, live pair listed⟩)
  · intro none_ selector there
    exact none_ _ (mem_drawn.mp there).1

/-! ## One dimension -/

/-- One dimension of the scope, as a list narrowed to what is held. -/
def narrowing (desk : SuggestionDesk) (state : FootprintState) (dimension : String) : Narrowing String where
  live := { key | key ∈ keysOf desk.live dimension }
  bound := { key | key ∈ desk.bound dimension }
  held := { key | key ∈ desk.held dimension }
  current := { key | key ∈ desk.scope state dimension }

theorem setOf_mem_eq_empty {keys : List String} : { key | key ∈ keys } = (∅ : Set String) ↔ keys = [] := by
  rw [Set.eq_empty_iff_forall_notMem, List.eq_nil_iff_forall_not_mem]
  rfl

theorem mem_addedIn : key ∈ desk.addedIn state dimension ↔ key ∈ (desk.narrowing state dimension).added := by
  have closes : (desk.held dimension ≠ [] ∧ ∃ key ∈ desk.bound dimension, key ∉ desk.held dimension) ↔
      (desk.narrowing state dimension).held.Nonempty ∧
        ((desk.narrowing state dimension).bound \ (desk.narrowing state dimension).held).Nonempty := by
    refine and_congr ?_ Iff.rfl
    rw [Set.nonempty_iff_ne_empty, ne_eq, ne_eq, not_iff_not]
    exact setOf_mem_eq_empty.symm
  have empty : (desk.narrowing state dimension).current = ∅ ↔ desk.scope state dimension = [] := setOf_mem_eq_empty
  unfold addedIn Narrowing.added
  by_cases open_ : desk.scope state dimension = []
  · rw [if_pos open_, if_pos (empty.mpr open_)]
    by_cases part : desk.held dimension ≠ [] ∧ ∃ key ∈ desk.bound dimension, key ∉ desk.held dimension
    · rw [if_pos part, if_pos (closes.mp part), List.mem_append, List.mem_filter, decide_eq_true_eq]
      exact Iff.rfl
    · rw [if_neg part, if_neg (mt closes.mpr part)]
      simp
  · rw [if_neg open_, if_neg (mt empty.mp open_), List.mem_filter, decide_eq_true_eq]
    exact Iff.rfl

theorem mem_gone : key ∈ desk.gone state dimension ↔ key ∈ (desk.narrowing state dimension).gone := by
  rw [Narrowing.mem_gone, gone, List.mem_filter, decide_eq_true_eq]
  exact Iff.rfl

theorem mem_removedIn : key ∈ desk.removedIn state dimension ↔ key ∈ (desk.narrowing state dimension).dropped := by
  have spared : (∃ key ∈ desk.scope state dimension, key ∉ desk.gone state dimension) ↔
      ((desk.narrowing state dimension).current \ (desk.narrowing state dimension).gone).Nonempty :=
    exists_congr fun key => and_congr Iff.rfl (not_congr mem_gone)
  unfold removedIn Narrowing.dropped
  by_cases kept : ∃ key ∈ desk.scope state dimension, key ∉ desk.gone state dimension
  · rw [if_pos kept, if_pos (spared.mp kept)]
    exact mem_gone
  · rw [if_neg kept, if_neg (mt spared.mpr kept)]
    simp

theorem settled_iff_nil : (desk.narrowing state dimension).Settled ↔
    desk.addedIn state dimension = [] ∧ desk.removedIn state dimension = [] := by
  unfold Narrowing.Settled
  rw [Set.eq_empty_iff_forall_notMem, Set.eq_empty_iff_forall_notMem, List.eq_nil_iff_forall_not_mem, List.eq_nil_iff_forall_not_mem]
  exact and_congr (forall_congr' fun key => not_congr mem_addedIn.symm) (forall_congr' fun key => not_congr mem_removedIn.symm)

theorem held_live (held : key ∈ desk.held dimension) : (dimension, key) ∈ desk.live :=
  mem_keysOf.mp (of_decide_eq_true (List.mem_filter.mp held).2)

theorem mem_bound : key ∈ desk.bound dimension ↔ (dimension, key) ∈ desk.derivable ∧ (dimension, key) ∈ desk.live := by
  rw [bound, List.mem_filter, decide_eq_true_eq, mem_keysOf, mem_keysOf]

theorem addedIn_live (added : key ∈ desk.addedIn state dimension) : (dimension, key) ∈ desk.live := by
  unfold addedIn at added
  split at added
  · split at added
    · rcases List.mem_append.mp added with held | choice
      · exact held_live held
      · exact mem_keysOf.mp (List.mem_filter.mp choice).1
    · cases added
  · exact held_live (List.mem_filter.mp added).1

theorem removedIn_live (removed : key ∈ desk.removedIn state dimension) : (dimension, key) ∈ desk.live := by
  unfold removedIn at removed
  split at removed
  · have its := of_decide_eq_true (List.mem_filter.mp removed).2
    exact (mem_bound.mp its.1).2
  · cases removed

theorem mem_addPairs : pair ∈ desk.addPairs state ↔ pair.1 ∈ desk.dimensions ∧ pair.2 ∈ desk.addedIn state pair.1 ∨
    ∃ line ∈ desk.marketLines state, (marketDimension, line.1) = pair := by
  simp only [addPairs, List.mem_append, List.mem_flatMap, List.mem_map]
  refine or_congr ?_ Iff.rfl
  constructor
  · rintro ⟨dimension, listed, key, added, rfl⟩
    exact ⟨listed, added⟩
  · exact fun both => ⟨pair.1, both.1, pair.2, both.2, rfl⟩

theorem mem_removePairs : pair ∈ desk.removePairs state ↔ pair.1 ∈ desk.dimensions ∧ pair.2 ∈ desk.removedIn state pair.1 := by
  simp only [removePairs, List.mem_flatMap, List.mem_map]
  constructor
  · rintro ⟨dimension, listed, key, removed, rfl⟩
    exact ⟨listed, removed⟩
  · exact fun both => ⟨pair.1, both.1, pair.2, both.2, rfl⟩

theorem mem_marketLines {line : String × RegisteredUnit × Option String} : line ∈ desk.marketLines state ↔
    (∃ company ∈ desk.companies, (line.1, line.2.2) ∈ company.markets ∧ company.unit = line.2.1) ∧
      (marketDimension, line.1) ∈ desk.live ∧ line.1 ∉ desk.scope state marketDimension := by
  simp only [marketLines, List.mem_flatMap, List.mem_map, List.mem_filter, decide_eq_true_eq, mem_keysOf]
  constructor
  · rintro ⟨company, there, market, ⟨listed, live, lacks⟩, rfl⟩
    exact ⟨⟨company, there, listed, rfl⟩, live, lacks⟩
  · rintro ⟨⟨company, there, listed, its⟩, live, lacks⟩
    exact ⟨company, there, (line.1, line.2.2), ⟨listed, live, lacks⟩, by rw [its]⟩

theorem addPairs_live (listed : pair ∈ desk.addPairs state) : pair ∈ desk.live := by
  rcases mem_addPairs.mp listed with ⟨-, added⟩ | ⟨line, market, rfl⟩
  · exact addedIn_live added
  · exact (mem_marketLines.mp market).2.1

theorem removePairs_live (listed : pair ∈ desk.removePairs state) : pair ∈ desk.live :=
  removedIn_live (mem_removePairs.mp listed).2

/-! ## The scope once the suggestions are approved -/

theorem suggestionsOf_of_companies (some_ : desk.companies ≠ []) : desk.suggestionsOf state =
    { adds := (desk.drawn (desk.addPairs state)).map (line (desk.addReasons state))
      removes := (desk.drawn (desk.removePairs state)).map (line fun _ => [])
      entityExclusions := desk.companyLines (desk.moreOutside state)
      entityInclusions := desk.companyLines (desk.backInside state)
      readAt := desk.readAt } := if_neg some_

theorem body_adds (some_ : desk.companies ≠ []) : (desk.suggestionsOf state).body.adds = desk.drawn (desk.addPairs state) := by
  simp [suggestionsOf_of_companies some_, FootprintSuggestions.body, line, Function.comp_def]

theorem body_removes (some_ : desk.companies ≠ []) : (desk.suggestionsOf state).body.removes = desk.drawn (desk.removePairs state) := by
  simp [suggestionsOf_of_companies some_, FootprintSuggestions.body, line, Function.comp_def]

def Asks (desk : SuggestionDesk) (state : FootprintState) (body : FootprintRequestBody) : Prop :=
  body.adds = (desk.suggestionsOf state).body.adds ∧ body.removes = (desk.suggestionsOf state).body.removes

section
variable {body : FootprintRequestBody} (some_ : desk.companies ≠ []) (asks : desk.Asks state body) (adopted : Adopted desk.reads body state next)
include some_ asks adopted

theorem mem_scope_next : key ∈ desk.scope next dimension ↔
      (key ∈ desk.scope state dimension ∨ (dimension, key) ∈ desk.addPairs state) ∧ (dimension, key) ∉ desk.removePairs state := by
  have followed {term : TaxonomyTerm} (known : term ∈ desk.reads.table.terms) : term.id ∈ next.followed ↔
      (term.id ∈ state.followed ∨ term.pair ∈ desk.addPairs state) ∧ term.pair ∉ desk.removePairs state := by
    rw [adopted.followed term known, asks.1, asks.2, body_adds some_, body_removes some_, mem_drawn, mem_drawn]
    exact and_congr (or_congr Iff.rfl (and_iff_left_of_imp addPairs_live)) (not_congr (and_iff_left_of_imp removePairs_live))
  simp only [scope, TermTable.footprintOf, mem_keysIn, TermTable.mem_named]
  constructor
  · rintro ⟨term, ⟨known, held⟩, rfl, rfl⟩
    obtain ⟨either, spared⟩ := (followed known).mp held
    exact ⟨either.imp (fun before => ⟨term, ⟨known, before⟩, rfl, rfl⟩) id, spared⟩
  · rintro ⟨⟨term, ⟨known, before⟩, rfl, rfl⟩ | added, spared⟩
    · exact ⟨term, ⟨known, (followed known).mpr ⟨.inl before, spared⟩⟩, rfl, rfl⟩
    · obtain ⟨term, known, its⟩ := term_of_live (addPairs_live added)
      obtain ⟨rfl, rfl⟩ := Prod.mk.inj its
      exact ⟨term, ⟨known, (followed known).mpr ⟨.inr added, spared⟩⟩, rfl, rfl⟩

theorem narrowing_next (listed : dimension ∈ desk.dimensions) : desk.narrowing next dimension = (desk.narrowing state dimension).after := by
  have noMarket : marketDimension ≠ dimension := fun same => market_notMem (same ▸ listed)
  have narrowed : { key | key ∈ desk.scope next dimension } = (desk.narrowing state dimension).next := by
    ext key
    change key ∈ desk.scope next dimension ↔ _
    rw [mem_scope_next some_ asks adopted, mem_addPairs, mem_removePairs, mem_removedIn, mem_addedIn]
    simp only [listed, true_and, Prod.mk.injEq, noMarket, false_and, and_false, exists_false, or_false]
    exact Iff.rfl
  exact congrArg (fun current => ({ desk.narrowing state dimension with current } : Narrowing String)) narrowed

theorem marketLines_next : desk.marketLines next = [] := by
  rw [List.eq_nil_iff_forall_not_mem]
  intro line listed
  obtain ⟨itsCompany, live, lacks⟩ := mem_marketLines.mp listed
  refine lacks ((mem_scope_next some_ asks adopted).mpr ⟨?_, fun removed => market_notMem (mem_removePairs.mp removed).1⟩)
  by_cases here : line.1 ∈ desk.scope state marketDimension
  · exact .inl here
  · exact .inr (mem_addPairs.mpr (.inr ⟨line, mem_marketLines.mpr ⟨itsCompany, live, here⟩, rfl⟩))

end

/-! ## The companies' own scope once the suggestions are approved -/

theorem mem_outside {unit : Id} : pair ∈ desk.outside state unit ↔
    ∃ term ∈ desk.reads.table.terms, (unit, term.id) ∈ state.excluded ∧ term.pair = pair := by
  simp [outside, and_assoc]

theorem mem_should : pair ∈ desk.should company ↔
    pair ∈ desk.derivable ∧ pair.1 ∈ entityScopeDimensions ∧ pair ∈ desk.live ∧ pair ∉ company.derived := by
  simp [should]

theorem mem_moreOutside : pair ∈ desk.moreOutside state company ↔
    pair ∈ desk.should company ∧ pair ∉ desk.outside state company.unit.id := by
  simp [moreOutside]

theorem mem_backInside : pair ∈ desk.backInside state company ↔
    pair ∈ desk.outside state company.unit.id ∧ pair ∉ desk.should company ∧ pair ∈ desk.live := by
  simp [backInside]

theorem company_unique {other : Company} (there : company ∈ desk.companies) (beside : other ∈ desk.companies)
    (same : company.unit.id = other.unit.id) : company = other :=
  List.inj_on_of_nodup_map desk.companies_met.once there beside same

theorem of_mem_companyLines {pairs : Company → List Key} {term : TaxonomyTerm} (there : company ∈ desk.companies)
    (knows : company.knownBusiness = true) (live : ∀ pair ∈ pairs company, pair ∈ desk.live) :
    term.selector.of company.unit.id ∈ (desk.companyLines pairs).flatMap (·.selectors) ↔ term.pair ∈ pairs company := by
  simp only [companyLines, List.mem_flatMap, List.mem_map, List.mem_filter, FootprintEntitySuggestion.selectors]
  constructor
  · rintro ⟨_, ⟨other, ⟨⟨beside, -⟩, -⟩, rfl⟩, selector, drawn, same⟩
    obtain ⟨units, dimensions, keys⟩ := FootprintEntityTermSelector.mk.inj same
    obtain rfl := company_unique beside there units
    obtain ⟨chosen, -⟩ := mem_drawn.mp drawn
    rw [dimensions, keys] at chosen
    exact chosen
  · intro listed
    have some_ : pairs company ≠ [] := List.ne_nil_of_mem listed
    refine ⟨_, ⟨company, ⟨⟨there, knows⟩, decide_eq_true some_⟩, rfl⟩, term.selector, mem_drawn.mpr ⟨listed, live _ listed⟩, rfl⟩

theorem mem_outside_next (some_ : desk.companies ≠ []) (adopted : Adopted desk.reads (desk.suggestionsOf state).body state next)
    (there : company ∈ desk.companies) (knows : company.knownBusiness = true) (live : pair ∈ desk.live) :
    pair ∈ desk.outside next company.unit.id ↔
      (pair ∈ desk.outside state company.unit.id ∨ pair ∈ desk.moreOutside state company) ∧
        pair ∉ desk.backInside state company := by
  have excluded {term : TaxonomyTerm} (known : term ∈ desk.reads.table.terms) : (company.unit.id, term.id) ∈ next.excluded ↔
      ((company.unit.id, term.id) ∈ state.excluded ∨ term.pair ∈ desk.moreOutside state company) ∧
        term.pair ∉ desk.backInside state company := by
    rw [adopted.excluded company.unit.id term known, suggestionsOf_of_companies some_]
    refine and_congr (or_congr Iff.rfl (of_mem_companyLines there knows ?_)) (not_congr (of_mem_companyLines there knows ?_))
    · exact fun pair listed => (mem_should.mp (mem_moreOutside.mp listed).1).2.2.1
    · exact fun pair listed => (mem_backInside.mp listed).2.2
  rw [mem_outside, mem_outside]
  constructor
  · rintro ⟨term, known, gone, rfl⟩
    obtain ⟨either, spared⟩ := (excluded known).mp gone
    exact ⟨either.imp (fun before => ⟨term, known, before, rfl⟩) id, spared⟩
  · rintro ⟨⟨term, known, before, rfl⟩ | more, spared⟩
    · exact ⟨term, known, (excluded known).mpr ⟨.inl before, spared⟩, rfl⟩
    · obtain ⟨term, known, rfl⟩ := term_of_live live
      exact ⟨term, known, (excluded known).mpr ⟨.inr more, spared⟩, rfl⟩

theorem companyLines_next (some_ : desk.companies ≠ []) (adopted : Adopted desk.reads (desk.suggestionsOf state).body state next)
    (there : company ∈ desk.companies) (knows : company.knownBusiness = true) :
    desk.moreOutside next company = [] ∧ desk.backInside next company = [] := by
  rw [List.eq_nil_iff_forall_not_mem, List.eq_nil_iff_forall_not_mem]
  constructor
  · intro pair listed
    obtain ⟨should, inside⟩ := mem_moreOutside.mp listed
    have live := (mem_should.mp should).2.2.1
    refine inside ((mem_outside_next some_ adopted there knows live).mpr ⟨?_, fun back => (mem_backInside.mp back).2.1 should⟩)
    by_cases before : pair ∈ desk.outside state company.unit.id
    · exact .inl before
    · exact .inr (mem_moreOutside.mpr ⟨should, before⟩)
  · intro pair listed
    obtain ⟨outside, unbound, live⟩ := mem_backInside.mp listed
    obtain ⟨either, spared⟩ := (mem_outside_next some_ adopted there knows live).mp outside
    rcases either with before | more
    · exact spared (mem_backInside.mpr ⟨before, unbound, live⟩)
    · exact unbound (mem_moreOutside.mp more).1

/-! ## The second reading -/

/-- A dimension in which the scope names only terms a register answers for and no company holds, while a company holds another. -/
def Elsewhere (desk : SuggestionDesk) (state : FootprintState) (dimension : String) : Prop :=
  desk.scope state dimension ≠ [] ∧ (∀ key ∈ desk.scope state dimension, key ∈ desk.bound dimension ∧ key ∉ desk.held dimension) ∧
    desk.held dimension ≠ []

instance : Decidable (desk.Elsewhere state dimension) := inferInstanceAs (Decidable (_ ∧ _))

theorem elsewhere_iff : (desk.narrowing state dimension).Elsewhere ↔ desk.Elsewhere state dimension := by
  unfold Narrowing.Elsewhere Elsewhere
  rw [Set.nonempty_iff_ne_empty, Set.nonempty_iff_ne_empty]
  exact and_congr (not_congr setOf_mem_eq_empty) (and_congr Iff.rfl (not_congr setOf_mem_eq_empty))

theorem companyLines_eq_nil {pairs : Company → List Key} :
    desk.companyLines pairs = [] ↔ ∀ company ∈ desk.companies, company.knownBusiness = true → pairs company = [] := by
  simp only [companyLines, List.map_eq_nil_iff, List.filter_eq_nil_iff, List.mem_filter, decide_eq_true_eq, not_not, and_imp]

theorem addPairs_eq_nil : desk.addPairs state = [] ↔
    (∀ dimension ∈ desk.dimensions, desk.addedIn state dimension = []) ∧ desk.marketLines state = [] := by
  simp [addPairs]

theorem removePairs_eq_nil : desk.removePairs state = [] ↔ ∀ dimension ∈ desk.dimensions, desk.removedIn state dimension = [] := by
  simp [removePairs]

theorem listsNothing_iff (some_ : desk.companies ≠ []) : (desk.suggestionsOf state).ListsNothing ↔
    (∀ dimension ∈ desk.dimensions, (desk.narrowing state dimension).Settled) ∧ desk.marketLines state = [] ∧
      ∀ company ∈ desk.companies, company.knownBusiness = true →
        desk.moreOutside state company = [] ∧ desk.backInside state company = [] := by
  have adds : (desk.suggestionsOf state).adds = [] ↔ desk.addPairs state = [] := by
    rw [suggestionsOf_of_companies some_, List.map_eq_nil_iff, drawn_eq_nil fun _ => addPairs_live]
  have removes : (desk.suggestionsOf state).removes = [] ↔ desk.removePairs state = [] := by
    rw [suggestionsOf_of_companies some_, List.map_eq_nil_iff, drawn_eq_nil fun _ => removePairs_live]
  rw [FootprintSuggestions.ListsNothing, adds, removes, suggestionsOf_of_companies some_, addPairs_eq_nil, removePairs_eq_nil,
    companyLines_eq_nil, companyLines_eq_nil]
  simp only [settled_iff_nil]
  constructor
  · rintro ⟨⟨added, markets⟩, removed, more, back⟩
    exact ⟨fun dimension listed => ⟨added dimension listed, removed dimension listed⟩, markets,
      fun company there knows => ⟨more company there knows, back company there knows⟩⟩
  · rintro ⟨settled, markets, own⟩
    exact ⟨⟨fun dimension listed => (settled dimension listed).1, markets⟩, fun dimension listed => (settled dimension listed).2,
      fun company there knows => (own company there knows).1, fun company there knows => (own company there knows).2⟩

/-- For every library, register, bank and state of the scope: once everything suggested is asked for and approved, a second reading
lists nothing unless a dimension of the scope named only what no company holds, while they held another of its terms. -/
theorem settles_iff {people : Adoption} (accepted : adopt desk.reads people (desk.suggestionsOf state).body state = .ok next) :
    (desk.suggestionsOf next).ListsNothing ↔ ∀ dimension ∈ desk.dimensions, ¬desk.Elsewhere state dimension := by
  have adopted := adopt_ok desk.rows accepted
  by_cases some_ : desk.companies = []
  · refine iff_of_true ?_ fun dimension _ elsewhere => elsewhere.2.2 ?_
    · rw [suggestionsOf, if_pos some_]
      exact ⟨rfl, rfl, rfl, rfl⟩
    · simp [held, some_]
  · have asks : desk.Asks state (desk.suggestionsOf state).body := ⟨rfl, rfl⟩
    rw [listsNothing_iff some_]
    have beside : desk.marketLines next = [] ∧ ∀ company ∈ desk.companies, company.knownBusiness = true →
        desk.moreOutside next company = [] ∧ desk.backInside next company = [] :=
      ⟨marketLines_next some_ asks adopted, fun _ there knows => companyLines_next some_ adopted there knows⟩
    rw [and_iff_left beside]
    refine forall₂_congr fun dimension listed => ?_
    rw [narrowing_next some_ asks adopted listed, Narrowing.settled_iff, elsewhere_iff]

end SuggestionDesk

/-! ## A lender whose scope names insurance -/

def regimeRow : TermDimension := { id := 1, key := "regime", sortOrder := 1 }

def serviceRow : TermDimension := { id := 2, key := "service_type", sortOrder := 2 }

def marketRow : TermDimension := { id := 3, key := "jurisdiction", sortOrder := 3 }

def lenderTable : TermTable where
  terms := [
    { id := 10, key := "banking", dimension := regimeRow },
    { id := 11, key := "payments", dimension := regimeRow },
    { id := 12, key := "insurance", dimension := regimeRow },
    { id := 13, key := "aml", dimension := regimeRow },
    { id := 20, key := "custody", dimension := serviceRow },
    { id := 21, key := "advice", dimension := serviceRow },
    { id := 22, key := "execution_only", dimension := serviceRow, active := false },
    { id := 30, key := "se", dimension := marketRow, jurisdiction := some 1 },
    { id := 31, key := "no", dimension := marketRow, jurisdiction := some 2 }]
  termIds := by decide
  termKeys := by decide
  dimensionIds := by decide
  dimensionKeys := by decide

def lender : RegisteredUnit := { id := 5, name := "Example Bank AB" }

/-- One company, which the register lists as a bank with a branch in Norway. -/
def lenderDesk : SuggestionDesk where
  reads := { table := lenderTable, dimensions := [regimeRow, serviceRow, marketRow], orgUnits := [lender.toOrgUnit], now := 1 }
  terms := registerTerms id
  entries := [
    { orgUnit := lender
      authority := "fi"
      facts := { mainBusiness := "Bankaktiebolag", branches := [{ name := "Example Bank NUF", jurisdiction := some "no" }] }
      readAt := 0 }]
  rows := by
    unfold DimensionRows
    decide

def officer : Actor := { kind := .user, id := some 7 }

def twoPeople : Adoption where
  requester := 7
  asking := officer
  decider := 8
  deciding := { kind := .user, id := some 8 }
  stepUp := 9
  later := 2

def following (terms : List Id) : FootprintState := seedTerms officer 0 (lenderTable.named terms) (.empty 1)

namespace SuggestionDesk

def adoptAll (desk : SuggestionDesk) (state : FootprintState) : Except Refusal FootprintState :=
  adopt desk.reads twoPeople (desk.suggestionsOf state).body state

/-- A scope of insurance alone keeps it beside the terms the first approval adds, and then the second reading removes it. -/
theorem insurance_lingers : ((lenderDesk.adoptAll (following [12])).toOption.map fun next =>
    (lenderDesk.suggestionsOf next).removes.map (·.term)) = some [{ dimension := "regime", key := "insurance" }] := by
  decide +kernel

/-- A scope that names payments as well is settled by one approval. -/
theorem payments_settle : ∃ next, adopt lenderDesk.reads twoPeople (lenderDesk.suggestionsOf (following [11, 12])).body
    (following [11, 12]) = .ok next ∧ (lenderDesk.suggestionsOf next).ListsNothing := by
  have accepted : (lenderDesk.adoptAll (following [11, 12])).toOption.isSome = true := by decide +kernel
  obtain ⟨next, made⟩ := Option.isSome_iff_exists.mp accepted
  have adopted := toOption_eq_some_iff.mp made
  exact ⟨next, adopted, (settles_iff adopted).mpr (by decide +kernel)⟩

end SuggestionDesk

end Grc.Taxonomy
