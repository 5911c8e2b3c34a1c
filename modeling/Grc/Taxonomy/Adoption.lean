import Grc.Lib.Lists
import Grc.Taxonomy.FootprintPreview
import Grc.Taxonomy.Suggestions

/-! A scope change asked for and approved: the terms it names are followed or not, and the company lines it names are excluded or
not, and nothing else of the two moves. -/
namespace Grc.Taxonomy

open Grc.Shared Grc.Lib

/-- The person who asks for a change and the second one, who approves it. -/
structure Adoption where
  requester : Id
  asking : Actor
  decider : Id
  deciding : Actor
  note : String := ""
  stepUp : Id
  expectedVersion : Option Nat := none
  /-- When it is approved. -/
  later : Instant

/-- A request filed, and approved as it is. -/
def adopt (reads : FootprintReads) (people : Adoption) (body : FootprintRequestBody) (state : FootprintState) :
    Except Refusal FootprintState := do
  let filed ← footprintStep state (reads, .request people.requester people.asking body)
  footprintStep filed ({ reads with now := people.later },
    .approve state.nextId people.decider people.deciding people.note people.stepUp people.expectedVersion)

/-- What an approved change leaves of the terms followed and of the company lines. -/
structure Adopted (reads : FootprintReads) (body : FootprintRequestBody) (before after : FootprintState) : Prop where
  followed : ∀ term ∈ reads.table.terms, term.id ∈ after.followed ↔
    (term.id ∈ before.followed ∨ term.selector ∈ body.adds) ∧ term.selector ∉ body.removes
  excluded : ∀ unit, ∀ term ∈ reads.table.terms, (unit, term.id) ∈ after.excluded ↔
    ((unit, term.id) ∈ before.excluded ∨ term.selector.of unit ∈ body.entityExclusions) ∧
      term.selector.of unit ∉ body.entityInclusions

variable {reads : FootprintReads} {state filed next : FootprintState} {context : SwitchContext} {line : Id × Id}
  {lines : List EntityLine} {term : TaxonomyTerm} {unit : Id}

/-! ## What the switches leave excluded -/

theorem mem_switchExclude : line ∈ (switchEntities context .removed lines state).excluded ↔
    line ∈ state.excluded ∨ line ∈ lines.map EntityLine.ids := by
  induction lines generalizing state with
  | nil => simp [switchEntities]
  | cons first rest ih =>
    have turn : line ∈ (switchEntity context .removed state first).excluded ↔ line ∈ state.excluded ∨ line = first.ids := by
      unfold switchEntity
      dsimp only
      split
      · next there => exact ⟨.inl, fun either => either.elim id fun same => same ▸ there⟩
      · simp [FootprintState.excluded, EntityScopeExclusion.line, EntityLine.ids]
    change line ∈ (switchEntities context .removed rest (switchEntity context .removed state first)).excluded ↔ _
    rw [ih, turn, List.map_cons, List.mem_cons, or_assoc]

theorem mem_switchInclude : line ∈ (switchEntities context .added lines state).excluded ↔
    line ∈ state.excluded ∧ line ∉ lines.map EntityLine.ids := by
  induction lines generalizing state with
  | nil => simp [switchEntities]
  | cons first rest ih =>
    have turn : line ∈ (switchEntity context .added state first).excluded ↔ line ∈ state.excluded ∧ line ≠ first.ids := by
      unfold switchEntity
      dsimp only
      split
      · simp only [FootprintState.excluded, List.mem_map, List.mem_filter, bne_iff_ne]
        constructor
        · rintro ⟨row, ⟨there, spared⟩, rfl⟩
          exact ⟨⟨row, there, rfl⟩, spared⟩
        · rintro ⟨⟨row, there, rfl⟩, spared⟩
          exact ⟨row, ⟨there, spared⟩, rfl⟩
      · next absent => exact ⟨fun held => ⟨held, fun same => absent (same ▸ held)⟩, And.left⟩
    change line ∈ (switchEntities context .added rest (switchEntity context .added state first)).excluded ↔ _
    rw [ih, turn, List.map_cons, List.mem_cons, not_or, and_assoc]

def SameExclusions (before after : FootprintState) : Prop := after.exclusions = before.exclusions

theorem foldl_sameExclusions {Item : Type} {turn : FootprintState → Item → FootprintState} (items : List Item)
    (kept : ∀ state item, SameExclusions state (turn state item)) (state : FootprintState) :
    SameExclusions state (items.foldl turn state) := by
  induction items generalizing state with
  | nil => rfl
  | cons item rest ih => exact (ih _).trans (kept state item)

theorem switchOn_sameExclusions (terms : List TaxonomyTerm) : SameExclusions state (switchOn context terms state) := by
  refine foldl_sameExclusions terms (fun state term => ?_) state
  unfold switchOnTerm
  split
  · rfl
  · rfl

theorem switchOff_sameExclusions (terms : List TaxonomyTerm) : SameExclusions state (switchOff context terms state) := by
  refine foldl_sameExclusions terms (fun state term => ?_) state
  unfold switchOffTerm
  split
  · rfl
  · rfl

theorem switchItems_sameExclusions (action : FootprintAction) (items : List ScopeItem) :
    SameExclusions state (switchItems context reads action items state) :=
  foldl_sameExclusions items (fun state item => (rfl : SameExclusions state (switchItem context reads action state item))) state

theorem mem_switchAll_excluded (request : FootprintChangeRequest) : line ∈ (switchAll context reads request state).excluded ↔
    (line ∈ state.excluded ∨ line ∈ (linesNamed reads request.entityExcludes).map EntityLine.ids) ∧
      line ∉ (linesNamed reads request.entityIncludes).map EntityLine.ids := by
  unfold switchAll
  rw [mem_switchInclude, mem_switchExclude]
  unfold FootprintState.excluded
  rw [switchItems_sameExclusions, switchItems_sameExclusions, switchOff_sameExclusions, switchOn_sameExclusions]

/-! ## The rows a request names -/

theorem termByRef_ok (rows : DimensionRows reads) {dimension key : String} (found : termByRef reads dimension key = .ok term) :
    term ∈ reads.table.terms ∧ term.selector = { dimension, key } := by
  obtain ⟨row, named, found⟩ := bind_ok.mp found
  have listed := demand_ok.mp named
  have there := demand_ok.mp found
  have keyed := List.find?_some listed
  have same := List.find?_some there
  rw [beq_iff_eq] at keyed same
  obtain ⟨known, its⟩ := List.mem_filter.mp (List.mem_of_find?_eq_some there)
  rw [Bool.and_eq_true, beq_iff_eq] at its
  have whole := rows row (List.mem_filter.mp (List.mem_of_find?_eq_some listed)).1 term known its.1
  refine ⟨known, ?_⟩
  rw [TaxonomyTerm.selector, whole, keyed, same]

theorem eq_of_selector {other : TaxonomyTerm} (known : term ∈ reads.table.terms) (beside : other ∈ reads.table.terms)
    (same : term.selector = other.selector) : term = other := by
  obtain ⟨dimensions, keys⟩ := TermSelector.mk.inj same
  exact reads.table.termKeys term known other beside (reads.table.dimensionKeys term known other beside dimensions) keys

theorem mem_termsBySelectors (rows : DimensionRows reads) {selectors : List TermSelector} {terms : List TaxonomyTerm}
    (found : termsBySelectors reads selectors = .ok terms) (known : term ∈ reads.table.terms) :
    term.id ∈ (termsNamed reads (terms.map (·.id))).map (·.id) ↔ term.selector ∈ selectors := by
  have paired := mapM_ok_iff.mp found
  have named : term.id ∈ (termsNamed reads (terms.map (·.id))).map (·.id) ↔ term.id ∈ terms.map (·.id) := by
    simp only [termsNamed, List.mem_map, (List.perm_insertionSort _ _).mem_iff, TermTable.mem_named]
    constructor
    · rintro ⟨other, ⟨-, listed⟩, same⟩
      exact same ▸ listed
    · exact fun listed => ⟨term, ⟨known, listed⟩, rfl⟩
  rw [named, List.mem_map]
  constructor
  · rintro ⟨other, listed, same⟩
    obtain ⟨selector, asked, its⟩ := source_of_forall₂ paired listed
    obtain ⟨beside, refers⟩ := termByRef_ok rows its
    rw [← reads.table.termIds other beside term known same, refers]
    exact asked
  · intro asked
    obtain ⟨other, listed, its⟩ := source_of_forall₂ paired.flip asked
    obtain ⟨beside, refers⟩ := termByRef_ok rows its
    exact ⟨other, listed, by rw [eq_of_selector beside known refers]⟩

theorem lineNamed_ids {ids : Id × Id} {line : EntityLine} (found : lineNamed reads ids = some line) : line.ids = ids := by
  obtain ⟨company, first, found⟩ := Option.bind_eq_some_iff.mp found
  obtain ⟨named, second, its⟩ := Option.bind_eq_some_iff.mp found
  obtain rfl := Option.some.inj its
  have ofUnit := List.find?_some first
  have ofTerm := List.find?_some second
  rw [beq_iff_eq] at ofUnit ofTerm
  exact Prod.ext ofUnit ofTerm

theorem entityLine_ok (rows : DimensionRows reads) {exclude : Bool} {selector : FootprintEntityTermSelector} {line : EntityLine}
    (found : entityLine reads state exclude selector = .ok line) :
    line.1 ∈ reads.orgUnits ∧ line.2 ∈ reads.table.terms ∧ line.2.selector.of line.1.id = selector := by
  obtain ⟨company, first, found⟩ := bind_ok.mp found
  obtain ⟨_, -, found⟩ := bind_ok.mp found
  obtain ⟨named, second, found⟩ := bind_ok.mp found
  obtain ⟨_, -, found⟩ := bind_ok.mp found
  obtain rfl := Except.ok.inj found
  have there := demand_ok.mp first
  obtain ⟨known, refers⟩ := termByRef_ok rows second
  have its := List.find?_some there
  simp only [Bool.and_eq_true, beq_iff_eq] at its
  refine ⟨List.mem_of_find?_eq_some there, known, ?_⟩
  change named.selector.of company.id = selector
  rw [refers, its.1.1]
  rfl

theorem mem_entityLines (rows : DimensionRows reads) {exclude : Bool} {selectors : List FootprintEntityTermSelector}
    (found : entityLines reads state exclude selectors = .ok lines) (known : term ∈ reads.table.terms) :
    (unit, term.id) ∈ (linesNamed reads (lines.map EntityLine.ids)).map EntityLine.ids ↔ term.selector.of unit ∈ selectors := by
  obtain ⟨listed, asked, found⟩ := bind_ok.mp found
  obtain ⟨_, -, found⟩ := bind_ok.mp found
  obtain rfl := Except.ok.inj found
  have paired := mapM_ok_iff.mp asked
  have named : (unit, term.id) ∈ (linesNamed reads (listed.map EntityLine.ids)).map EntityLine.ids ↔
      (unit, term.id) ∈ listed.map EntityLine.ids := by
    simp only [linesNamed, List.mem_map (f := EntityLine.ids), (List.perm_insertionSort _ _).mem_iff, List.mem_filterMap]
    constructor
    · rintro ⟨line, ⟨ids, ⟨source, there, rfl⟩, its⟩, same⟩
      exact ⟨source, there, (lineNamed_ids its).symm.trans same⟩
    · rintro ⟨source, there, same⟩
      obtain ⟨selector, -, accepted⟩ := source_of_forall₂ paired there
      obtain ⟨company, held, -⟩ := entityLine_ok rows accepted
      have firstRow : (reads.orgUnits.find? (·.id == source.1.id)).isSome = true :=
        List.find?_isSome.mpr ⟨source.1, company, beq_self_eq_true _⟩
      have secondRow : (reads.table.terms.find? (·.id == source.2.id)).isSome = true :=
        List.find?_isSome.mpr ⟨source.2, held, beq_self_eq_true _⟩
      obtain ⟨row, first⟩ := Option.isSome_iff_exists.mp firstRow
      obtain ⟨its, second⟩ := Option.isSome_iff_exists.mp secondRow
      have both : lineNamed reads source.ids = some (row, its) := by
        change (reads.orgUnits.find? (·.id == source.1.id)).bind _ = _
        rw [first]
        change (reads.table.terms.find? (·.id == source.2.id)).bind _ = _
        rw [second]
        rfl
      exact ⟨(row, its), ⟨_, ⟨source, there, rfl⟩, both⟩, (lineNamed_ids both).trans same⟩
  rw [named, List.mem_map]
  constructor
  · rintro ⟨line, there, same⟩
    obtain ⟨selector, asked, its⟩ := source_of_forall₂ paired there
    obtain ⟨-, beside, refers⟩ := entityLine_ok rows its
    obtain ⟨ofUnit, ofTerm⟩ := Prod.mk.inj same
    rw [← reads.table.termIds line.2 beside term known ofTerm, ← ofUnit, refers]
    exact asked
  · intro asked
    obtain ⟨line, there, its⟩ := source_of_forall₂ paired.flip asked
    obtain ⟨-, beside, refers⟩ := entityLine_ok rows its
    obtain ⟨ofUnit, dimensions, keys⟩ := FootprintEntityTermSelector.mk.inj refers
    have ofTerm : line.2 = term := eq_of_selector beside known (congrArg₂ TermSelector.mk dimensions keys)
    exact ⟨line, there, Prod.ext ofUnit (congrArg TaxonomyTerm.id ofTerm)⟩

/-! ## The change approved -/

theorem createRequest_waits {requester : Id} {actor : Actor} {change : ScopeChange} {request : FootprintChangeRequest}
    (created : createRequest reads requester actor change state = .ok filed) (here : request ∈ filed.requests)
    (waits : request.status = .pending) :
    filed.footprintTerms = state.footprintTerms ∧ filed.exclusions = state.exclusions ∧
      request.adds = change.adds.map (·.id) ∧ request.removes = change.removes.map (·.id) ∧
      request.entityExcludes = change.entityExcludes.map EntityLine.ids ∧
      request.entityIncludes = change.entityIncludes.map EntityLine.ids := by
  obtain ⟨_, -, created⟩ := bind_ok.mp created
  obtain ⟨_, free, created⟩ := bind_ok.mp created
  obtain ⟨_, -, created⟩ := bind_ok.mp created
  obtain rfl := Except.ok.inj created
  rcases mem_concat.mp here with old | rfl
  · exact absurd waits (require_ok.mp free request old)
  · exact ⟨rfl, rfl, rfl, rfl, rfl, rfl⟩

theorem adopt_ok (rows : DimensionRows reads) {people : Adoption} {body : FootprintRequestBody}
    (accepted : adopt reads people body state = .ok next) : Adopted reads body state next := by
  obtain ⟨filed, asked, approved⟩ := bind_ok.mp accepted
  obtain ⟨change, resolved, created⟩ := bind_ok.mp asked
  obtain ⟨adds, added, resolved⟩ := bind_ok.mp resolved
  obtain ⟨removes, removed, resolved⟩ := bind_ok.mp resolved
  obtain ⟨_, -, resolved⟩ := bind_ok.mp resolved
  obtain ⟨_, -, resolved⟩ := bind_ok.mp resolved
  obtain ⟨excludes, excluded, resolved⟩ := bind_ok.mp resolved
  obtain ⟨includes, included, resolved⟩ := bind_ok.mp resolved
  obtain rfl := Except.ok.inj resolved
  obtain ⟨request, context, here, -, waits, followed, outside, -⟩ := approve_ok approved
  obtain ⟨terms, lines, itsAdds, itsRemoves, itsExcludes, itsIncludes⟩ := createRequest_waits created here waits
  constructor
  · intro term known
    rw [followed, mem_switchAll, itsAdds, itsRemoves]
    refine and_congr (or_congr ?_ (mem_termsBySelectors rows added known)) (not_congr (mem_termsBySelectors rows removed known))
    rw [FootprintState.followed, terms, FootprintState.followed]
  · intro unit term known
    rw [outside, mem_switchAll_excluded, itsExcludes, itsIncludes]
    refine and_congr (or_congr ?_ (mem_entityLines rows excluded known)) (not_congr (mem_entityLines rows included known))
    rw [FootprintState.excluded, lines, FootprintState.excluded]

end Grc.Taxonomy
