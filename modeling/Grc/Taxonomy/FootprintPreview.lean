import Grc.Cases.FootprintMatch
import Grc.Taxonomy.EntryScope
import Grc.Taxonomy.FootprintDecisions

/-! The impact preview of a scope change against the footprint its approval writes: the preview's is set arithmetic over
keys, the approval's a switch of rows, one term after the other. -/
namespace Grc.Taxonomy

open Grc.Shared Grc.Lib Grc.Cases

/-- A case of the bank: its status, and the change it is about. -/
abbrev PreviewedCase := CaseStatusCategory × RegulatoryChange

def openCases (cases : List PreviewedCase) : List PreviewedCase := cases.filter fun each => isOpen each.1

/-- The library's and the bank's rows, with the obligations the bank sees and its cases: `obligation_scopes` and `open_case_scopes`
group their terms' keys by dimension. -/
def FootprintReads.showing (reads : FootprintReads) (obligations : List (ScopedRecord reads.table)) (cases : List PreviewedCase) :
    FootprintReads :=
  { reads with
    obligationScopes := obligations.map fun record => scopeOf record.obligationTerms
    openCaseScopes := (openCases cases).map fun each => scopeOf (scopeTerms reads.table each.2) }

/-- How many records the database's verdict takes out of the footprint, and into it, from one set of followed terms to another. -/
def moved (table : TermTable) (now after : List Id) (records : List (List Id)) : FootprintPreviewCount where
  hidden := (records.filter fun ids => table.sqlVerdict now ids && !table.sqlVerdict after ids).length
  revealed := (records.filter fun ids => table.sqlVerdict after ids && !table.sqlVerdict now ids).length
  available := true

variable {state next : FootprintState} {context : SwitchContext} {reads : FootprintReads} {table : TermTable}
  {terms adds removes : List TaxonomyTerm} {id : Id}

/-! ## What the switches leave followed -/

theorem mem_switchOnTerm {term : TaxonomyTerm} : id ∈ (switchOnTerm context state term).followed ↔ id ∈ state.followed ∨ id = term.id := by
  unfold switchOnTerm
  split
  · next there => exact ⟨.inl, fun either => either.elim (fun held => held) fun same => same ▸ there⟩
  · simp [FootprintState.followed]

theorem mem_switchOffTerm {term : TaxonomyTerm} : id ∈ (switchOffTerm context state term).followed ↔ id ∈ state.followed ∧ id ≠ term.id := by
  unfold switchOffTerm
  split
  · next absent =>
    refine ⟨fun held => ⟨held, fun same => ?_⟩, And.left⟩
    obtain ⟨row, there, its⟩ := List.mem_map.mp held
    exact List.find?_eq_none.mp absent row there (beq_iff_eq.mpr (its.trans same))
  · simp only [FootprintState.followed, List.mem_map, List.mem_filter, bne_iff_ne]
    constructor
    · rintro ⟨row, ⟨there, spared⟩, rfl⟩
      exact ⟨⟨row, there, rfl⟩, spared⟩
    · rintro ⟨⟨row, there, rfl⟩, spared⟩
      exact ⟨row, ⟨there, spared⟩, rfl⟩

theorem mem_switchOn : id ∈ (switchOn context terms state).followed ↔ id ∈ state.followed ∨ id ∈ terms.map (·.id) := by
  induction terms generalizing state with
  | nil => simp [switchOn]
  | cons term rest ih =>
    change id ∈ (switchOn context rest (switchOnTerm context state term)).followed ↔ _
    rw [ih, mem_switchOnTerm, List.map_cons, List.mem_cons, or_assoc]

theorem mem_switchOff : id ∈ (switchOff context terms state).followed ↔ id ∈ state.followed ∧ id ∉ terms.map (·.id) := by
  induction terms generalizing state with
  | nil => simp [switchOff]
  | cons term rest ih =>
    change id ∈ (switchOff context rest (switchOffTerm context state term)).followed ↔ _
    rw [ih, mem_switchOffTerm, List.map_cons, List.mem_cons, not_or, and_assoc]

def SameTerms (before after : FootprintState) : Prop := after.footprintTerms = before.footprintTerms

theorem foldl_sameTerms {Item : Type} {turn : FootprintState → Item → FootprintState} (items : List Item)
    (kept : ∀ state item, SameTerms state (turn state item)) (state : FootprintState) : SameTerms state (items.foldl turn state) := by
  induction items generalizing state with
  | nil => rfl
  | cons item rest ih => exact (ih _).trans (kept state item)

theorem switchEntities_sameTerms (action : FootprintAction) (lines : List EntityLine) :
    SameTerms state (switchEntities context action lines state) := by
  refine foldl_sameTerms lines (fun state line => ?_) state
  unfold switchEntity
  cases action with
  | removed | added =>
    dsimp only
    split
    · rfl
    · rfl

theorem switchItems_sameTerms (action : FootprintAction) (items : List ScopeItem) :
    SameTerms state (switchItems context reads action items state) :=
  foldl_sameTerms items (fun state item => (rfl : SameTerms state (switchItem context reads action state item))) state

theorem mem_switchAll (request : FootprintChangeRequest) : id ∈ (switchAll context reads request state).followed ↔
    (id ∈ state.followed ∨ id ∈ (termsNamed reads request.adds).map (·.id)) ∧ id ∉ (termsNamed reads request.removes).map (·.id) := by
  have kept : (switchAll context reads request state).followed =
      (switchOff context (termsNamed reads request.removes) (switchOn context (termsNamed reads request.adds) state)).followed := by
    unfold FootprintState.followed switchAll
    rw [switchEntities_sameTerms, switchEntities_sameTerms, switchItems_sameTerms, switchItems_sameTerms]
  rw [kept, mem_switchOff, mem_switchOn]

/-! ## The footprint a preview predicts -/

def SameKeys (one other : String → List String) : Prop := ∀ dimension key, key ∈ one dimension ↔ key ∈ other dimension

theorem footprintAfter_sameKeys {now after : List Id} (adds_ : ∀ term ∈ adds, term ∈ table.terms) (removes_ : ∀ term ∈ removes, term ∈ table.terms)
    (switched : ∀ id, id ∈ after ↔ (id ∈ now ∨ id ∈ adds.map (·.id)) ∧ id ∉ removes.map (·.id)) :
    SameKeys (footprintAfter (table.footprintOf now) adds removes) (table.footprintOf after) := by
  intro dimension key
  simp only [footprintAfter, List.mem_filter, List.mem_append, decide_eq_true_eq, TermTable.footprintOf, mem_keysIn, TermTable.mem_named, switched]
  constructor
  · rintro ⟨named, spared⟩
    have there : ∃ term ∈ table.terms, (term.id ∈ now ∨ term.id ∈ adds.map (·.id)) ∧ term.dimension.key = dimension ∧ term.key = key := by
      rcases named with ⟨term, ⟨known, held⟩, keyed, same⟩ | ⟨term, added, keyed, same⟩
      · exact ⟨term, known, .inl held, keyed, same⟩
      · exact ⟨term, adds_ term added, .inr (List.mem_map_of_mem added), keyed, same⟩
    obtain ⟨term, known, held, keyed, same⟩ := there
    refine ⟨term, ⟨known, held, fun gone => ?_⟩, keyed, same⟩
    obtain ⟨other, removed, its⟩ := List.mem_map.mp gone
    obtain rfl := table.termIds other (removes_ other removed) term known its
    exact spared ⟨other, removed, keyed, same⟩
  · rintro ⟨term, ⟨known, held, spared⟩, keyed, same⟩
    refine ⟨?_, fun removed => ?_⟩
    · rcases held with before | added
      · exact .inl ⟨term, ⟨known, before⟩, keyed, same⟩
      · obtain ⟨other, listed, its⟩ := List.mem_map.mp added
        obtain rfl := table.termIds other (adds_ other listed) term known its
        exact .inr ⟨other, listed, keyed, same⟩
    · obtain ⟨other, listed, under, alike⟩ := removed
      have beside := removes_ other listed
      have dimensions := table.dimensionKeys other beside term known (under.trans keyed.symm)
      obtain rfl := table.termKeys other beside term known dimensions (alike.trans same.symm)
      exact spared (List.mem_map_of_mem listed)

theorem inFootprint_congr {one other : String → List String} (same : SameKeys one other) (record : Scope) (restricting : Restricting) :
    inFootprint record one restricting = inFootprint record other restricting := by
  unfold inFootprint
  congr 1
  funext ⟨dimension, keys⟩
  dsimp only
  split
  · rfl
  · have empty : one dimension = [] ↔ other dimension = [] := by
      simp only [List.eq_nil_iff_forall_not_mem, same dimension]
    split
    · next none_ => rw [empty.mp none_]
    · next some_ =>
      split
      · next none_ => exact absurd (empty.mpr none_) (by simpa using some_)
      · rw [Bool.eq_iff_iff, List.any_eq_true, List.any_eq_true]
        simp only [List.contains_iff_mem, same dimension]

theorem previewCount_eq {Record : Type} {scope : Record → List TaxonomyTerm} {ids : Record → List Id} {now after : List Id}
    {predicted : String → List String} (carries : ∀ record, table.Carries (scope record) (ids record))
    (same : SameKeys predicted (table.footprintOf after)) (records : List Record) :
    previewCount table.restrictingDimensions (table.footprintOf now) predicted (records.map fun record => scopeOf (scope record)) =
      moved table now after (records.map ids) := by
  have before (record : Record) : inFootprint (scopeOf (scope record)) (table.footprintOf now) table.restrictingDimensions =
      table.sqlVerdict now (ids record) := (carries record).verdict now
  have later (record : Record) : inFootprint (scopeOf (scope record)) predicted table.restrictingDimensions =
      table.sqlVerdict after (ids record) := (inFootprint_congr same _ _).trans ((carries record).verdict after)
  simp only [previewCount, moved, List.filter_map, List.length_map, Function.comp_def, before, later]

/-- What is promised of a preview: the footprint it predicts is the one left followed, and it counts, of the obligations and of
the open cases, those whose verdict differs between the terms followed now and those followed then. -/
structure PreviewExact (reads : FootprintReads) (obligations : List (ScopedRecord reads.table)) (cases : List PreviewedCase)
    (state : FootprintState) (request : FootprintChangeRequest) (after : List Id) : Prop where
  predicted : SameKeys
    (footprintAfter (reads.table.footprintOf state.followed) (termsNamed reads request.adds) (termsNamed reads request.removes))
    (reads.table.footprintOf after)
  duties : (previewOf (reads.showing obligations cases) state (termsNamed reads request.adds) (termsNamed reads request.removes)).obligations =
    moved reads.table state.followed after (obligations.map (·.scopeTermIds))
  backlog : (previewOf (reads.showing obligations cases) state (termsNamed reads request.adds) (termsNamed reads request.removes)).cases =
    moved reads.table state.followed after ((openCases cases).map fun each => scopeTermIds reads.table each.2)

theorem caseScope_carries (table : TermTable) (each : PreviewedCase) : table.Carries (scopeTerms table each.2) (scopeTermIds table each.2) where
  inTable := by
    intro term member
    rcases List.mem_append.mp member with own | reached
    · exact (TermTable.mem_named.mp own).1
    · exact reaching_listed reached
  named := fun _ known => mem_scopeTermIds known

theorem termsNamed_known {ids : List Id} {term : TaxonomyTerm} (named : term ∈ termsNamed reads ids) : term ∈ reads.table.terms :=
  (TermTable.mem_named.mp ((List.perm_insertionSort _ _).mem_iff.mp named)).1

theorem previewExact_of {after : List Id} (obligations : List (ScopedRecord reads.table)) (cases : List PreviewedCase)
    (request : FootprintChangeRequest) (switched : ∀ id, id ∈ after ↔
      (id ∈ state.followed ∨ id ∈ (termsNamed reads request.adds).map (·.id)) ∧ id ∉ (termsNamed reads request.removes).map (·.id)) :
    PreviewExact reads obligations cases state request after := by
  have predicted := footprintAfter_sameKeys (fun _ => termsNamed_known) (fun _ => termsNamed_known) switched
  exact {
    predicted
    duties := previewCount_eq ScopedRecord.carries predicted obligations
    backlog := previewCount_eq (caseScope_carries reads.table) predicted (openCases cases) }

theorem approve_ok {requestId decider stepUp : Id} {actor : Actor} {note : String} {expected : Option Nat}
    (accepted : approve reads requestId decider actor note stepUp expected state = .ok next) :
    ∃ request context, request ∈ state.requests ∧ request.id = requestId ∧ request.status = .pending ∧
      next.followed = (switchAll context reads request state).followed ∧
      next.excluded = (switchAll context reads request state).excluded ∧
      ∃ decided ∈ next.requests, decided.id = requestId ∧ decided.status = .approved ∧
        decided.preview = previewOf reads state (termsNamed reads request.adds) (termsNamed reads request.removes) := by
  obtain ⟨request, named, accepted⟩ := bind_ok.mp accepted
  obtain ⟨here, its⟩ := requestNamed_ok named
  obtain ⟨_, passed, accepted⟩ := bind_ok.mp accepted
  obtain ⟨_, -, accepted⟩ := bind_ok.mp accepted
  obtain ⟨_, -, accepted⟩ := bind_ok.mp accepted
  obtain rfl := Except.ok.inj accepted
  have there (context : SwitchContext) : request ∈ (switchAll context reads request state).requests := by
    rw [(switchAll_frame request).requests]
    exact here
  refine ⟨request, _, here, its, decidable_ok passed, rfl, rfl, _, List.mem_map.mpr ⟨request, there _, rfl⟩, ?_⟩
  rw [if_pos rfl]
  exact ⟨its, rfl, rfl⟩

/-- The preview of every change that waits: it is exact for what the approval's switches leave, and an approval that is accepted
leaves that and keeps the preview. -/
structure PreviewKept (reads : FootprintReads) (obligations : List (ScopedRecord reads.table)) (cases : List PreviewedCase)
    (state : FootprintState) : Prop where
  switched : ∀ request ∈ state.requests, ∀ context,
    PreviewExact reads obligations cases state request (switchAll context reads request state).followed
  approved : ∀ requestId decider actor note stepUp expected next,
    approve (reads.showing obligations cases) requestId decider actor note stepUp expected state = .ok next →
      ∃ request ∈ state.requests, request.id = requestId ∧ request.status = .pending ∧
        PreviewExact reads obligations cases state request next.followed ∧
        ∃ decided ∈ next.requests, decided.id = requestId ∧ decided.status = .approved ∧
          decided.preview = previewOf (reads.showing obligations cases) state (termsNamed reads request.adds) (termsNamed reads request.removes)

/-- For every bank, library and state of the scope, previews are exact. -/
theorem preview_kept (reads : FootprintReads) (obligations : List (ScopedRecord reads.table)) (cases : List PreviewedCase)
    (state : FootprintState) : PreviewKept reads obligations cases state where
  switched := fun request _ _ => previewExact_of obligations cases request fun _ => mem_switchAll request
  approved := by
    intro requestId decider actor note stepUp expected next accepted
    obtain ⟨request, context, here, its, waits, followed, -, decided, stored, same, status, preview⟩ := approve_ok accepted
    refine ⟨request, here, its, waits, previewExact_of obligations cases request fun id => ?_, decided, stored, same, status, preview⟩
    rw [followed]
    exact mem_switchAll request

end Grc.Taxonomy
