import Grc.Shared.Audit

/-! Footprint matching: the one scope rule, as the Python surfaces compute it and as the
database's own half of it does, and that the two always answer alike. -/
namespace Grc.Taxonomy

open Grc.Shared

structure TermDimension where
  id : Id
  key : String
  active : Bool := true
  restrictsFootprint : Bool := true
  /-- `kind = opt_in`: the standards a bank follows. -/
  optIn : Bool := false
  sortOrder : Nat := 0
  deriving DecidableEq

structure TaxonomyTerm where
  id : Id
  key : String
  dimension : TermDimension
  /-- The jurisdiction a term mirrors, and that jurisdiction's parent. -/
  jurisdiction : Option Id := none
  jurisdictionParent : Option Id := none
  active : Bool := true
  sortOrder : Nat := 0
  deriving DecidableEq

/-- The library's terms, with the uniqueness the database holds: ids, dimension keys and a
term's key inside its dimension. -/
structure TermTable where
  terms : List TaxonomyTerm
  termIds : ∀ term ∈ terms, ∀ other ∈ terms, term.id = other.id → term = other
  termKeys : ∀ term ∈ terms, ∀ other ∈ terms,
    term.dimension = other.dimension → term.key = other.key → term = other
  dimensionIds : ∀ term ∈ terms, ∀ other ∈ terms,
    term.dimension.id = other.dimension.id → term.dimension = other.dimension
  dimensionKeys : ∀ term ∈ terms, ∀ other ∈ terms,
    term.dimension.key = other.dimension.key → term.dimension = other.dimension

def TermTable.bare : TermTable where
  terms := []
  termIds := by simp
  termKeys := by simp
  dimensionIds := by simp
  dimensionKeys := by simp

def TermTable.named (table : TermTable) (ids : List Id) : List TaxonomyTerm :=
  table.terms.filter fun term => term.id ∈ ids

/-- `reaching` and `jurisdiction_scopes`: the terms a record filed under a jurisdiction
derives, none without one. -/
def TermTable.reaching (table : TermTable) : Option Id → List TaxonomyTerm
  | none => []
  | some jurisdiction => table.terms.filter fun term =>
      term.jurisdiction == some jurisdiction || term.jurisdictionParent == some jurisdiction

/-- `Restricting`: the keys of the dimensions that narrow, and of the opt-in ones among them. -/
structure Restricting where
  keys : List String
  optIn : List String

def TermTable.restrictingDimensions (table : TermTable) : Restricting :=
  let rows := (table.terms.map (·.dimension)).filter fun dimension =>
    dimension.active && (dimension.restrictsFootprint || dimension.optIn)
  { keys := rows.map (·.key), optIn := (rows.filter (·.optIn)).map (·.key) }

/-- A mapping of dimension key to term keys. -/
abbrev Scope := List (String × List String)

def keysIn (terms : List TaxonomyTerm) (dimension : String) : List String :=
  (terms.filter (·.dimension.key == dimension)).map (·.key)

/-- `setdefault(dimension, set()).add(key)` over the terms. -/
def scopeOf (terms : List TaxonomyTerm) : Scope :=
  (terms.map (·.dimension.key)).eraseDups.map fun dimension => (dimension, keysIn terms dimension)

/-- `footprint_of(tenant).get`. -/
def TermTable.footprintOf (table : TermTable) (footprint : List Id) (dimension : String) : List String :=
  keysIn (table.named footprint) dimension

def inFootprint (record : Scope) (footprint : String → List String) (restricting : Restricting) : Bool :=
  record.all fun (dimension, keys) =>
    if dimension ∉ restricting.keys ∨ keys = [] then true
    else
      match footprint dimension with
      | [] => !restricting.optIn.contains dimension
      | have_ => keys.any fun key => have_.contains key

/-- `outside_reasons`: the dimensions in which a record falls outside, one at a time. -/
def outsideReasons (record : Scope) (footprint : String → List String) (restricting : Restricting) :
    List String :=
  (record.filter fun entry => !inFootprint [entry] footprint restricting).map Prod.fst

def TermTable.pythonVerdict (table : TermTable) (footprint : List Id) (scope : List TaxonomyTerm) : Bool :=
  (outsideReasons (scopeOf scope) (table.footprintOf footprint) table.restrictingDimensions).isEmpty

/-- `taxonomy_footprint_guard`: every term of a dimension that narrows this footprint, paired
with its dimension. The footprint itself is the third column. -/
def TermTable.footprintGuard (table : TermTable) (footprint : List Id) : List (Id × Id) :=
  (table.terms.filter fun term =>
    term.dimension.active && (term.dimension.restrictsFootprint || term.dimension.optIn) &&
      (term.dimension.optIn ||
        (table.named footprint).any fun other => other.dimension.id == term.dimension.id)).map
    fun term => (term.id, term.dimension.id)

/-- `p_guard_dimensions[array_position(p_guard_terms, term)]`. -/
def guardedDimension (guard_ : List (Id × Id)) (term : Id) : Option Id :=
  (guard_.find? fun slot => slot.1 == term).map Prod.snd

/-- One turn of the loop of `taxonomy_scope_admits` over its two accumulators. -/
def visit (guard_ : List (Id × Id)) (allowed : List Id) (state : List Id × List Id) (term : Id) :
    List Id × List Id :=
  match guardedDimension guard_ term with
  | none => state
  | some dimension =>
    (state.1 ++ [dimension], if term ∈ allowed then state.2 ++ [dimension] else state.2)

/-- `taxonomy_scope_admits`: every guarded dimension the record carries terms in is met. -/
def scopeAdmits (terms : List Id) (guard_ : List (Id × Id)) (allowed : List Id) : Bool :=
  let (wanting, met) := terms.foldl (visit guard_ allowed) ([], [])
  wanting.all fun dimension => met.contains dimension

/-- `taxonomy_in_footprint`. -/
def TermTable.sqlVerdict (table : TermTable) (footprint : List Id) (terms : List Id) : Bool :=
  scopeAdmits terms (table.footprintGuard footprint) footprint

/-- A dimension narrows the footprint: an opt-in one always, another when the footprint names
a term in it. -/
def TermTable.Narrows (table : TermTable) (footprint : List Id) (dimension : TermDimension) : Prop :=
  dimension.active = true ∧ (dimension.optIn = true ∨
    dimension.restrictsFootprint = true ∧ ∃ term ∈ table.named footprint, term.dimension = dimension)

/-- The rule: in every dimension that narrows, one of the record's terms is in the footprint. -/
def TermTable.Admits (table : TermTable) (footprint : List Id) (scope : List TaxonomyTerm) : Prop :=
  ∀ term ∈ scope, table.Narrows footprint term.dimension →
    ∃ other ∈ scope, other.dimension = term.dimension ∧ other.id ∈ footprint

variable {table : TermTable} {footprint : List Id} {scope : List TaxonomyTerm}

theorem mem_keysIn {terms : List TaxonomyTerm} {dimension key : String} :
    key ∈ keysIn terms dimension ↔ ∃ term ∈ terms, term.dimension.key = dimension ∧ term.key = key := by
  simp [keysIn, and_assoc]

theorem mem_scopeOf {dimension : String} {keys : List String} :
    (dimension, keys) ∈ scopeOf scope ↔
      (∃ term ∈ scope, term.dimension.key = dimension) ∧ keys = keysIn scope dimension := by
  simp only [scopeOf, List.mem_map, List.mem_eraseDups, Prod.mk.injEq]
  constructor
  · rintro ⟨key, ⟨term, member, rfl⟩, rfl, rfl⟩
    exact ⟨⟨term, member, rfl⟩, rfl⟩
  · rintro ⟨⟨term, member, rfl⟩, rfl⟩
    exact ⟨term.dimension.key, ⟨term, member, rfl⟩, rfl, rfl⟩

theorem TermTable.mem_named {ids : List Id} {term : TaxonomyTerm} :
    term ∈ table.named ids ↔ term ∈ table.terms ∧ term.id ∈ ids := by
  simp [named]

theorem reaching_listed {jurisdiction : Option Id} {term : TaxonomyTerm}
    (reached : term ∈ table.reaching jurisdiction) : term ∈ table.terms := by
  cases jurisdiction with
  | none => cases reached
  | some named => exact (List.mem_filter.mp reached).1

theorem TermTable.mem_restricting (dimension : String) :
    dimension ∈ table.restrictingDimensions.keys ↔
      ∃ term ∈ table.terms, term.dimension.key = dimension ∧ term.dimension.active = true ∧
        (term.dimension.restrictsFootprint = true ∨ term.dimension.optIn = true) := by
  simp only [restrictingDimensions, List.mem_map, List.mem_filter, Bool.and_eq_true, Bool.or_eq_true]
  constructor
  · rintro ⟨_, ⟨⟨term, member, rfl⟩, active, narrows⟩, rfl⟩
    exact ⟨term, member, rfl, active, narrows⟩
  · rintro ⟨term, member, rfl, active, narrows⟩
    exact ⟨term.dimension, ⟨⟨term, member, rfl⟩, active, narrows⟩, rfl⟩

theorem TermTable.mem_restricting_optIn (dimension : String) :
    dimension ∈ table.restrictingDimensions.optIn ↔
      ∃ term ∈ table.terms, term.dimension.key = dimension ∧ term.dimension.active = true ∧
        term.dimension.optIn = true := by
  simp only [restrictingDimensions, List.mem_map, List.mem_filter, Bool.and_eq_true, Bool.or_eq_true]
  constructor
  · rintro ⟨_, ⟨⟨⟨term, member, rfl⟩, active, -⟩, opted⟩, rfl⟩
    exact ⟨term, member, rfl, active, opted⟩
  · rintro ⟨term, member, rfl, active, opted⟩
    exact ⟨term.dimension, ⟨⟨⟨term, member, rfl⟩, active, .inr opted⟩, opted⟩, rfl⟩

theorem TermTable.meets_iff (inTable : ∀ term ∈ scope, term ∈ table.terms) {dimension : TermDimension}
    (known : ∃ term ∈ table.terms, term.dimension = dimension) :
    (keysIn scope dimension.key).any
        (fun key => (table.footprintOf footprint dimension.key).contains key) = true ↔
      ∃ other ∈ scope, other.dimension = dimension ∧ other.id ∈ footprint := by
  obtain ⟨sample, listed, rfl⟩ := known
  have sameDimension : ∀ term ∈ table.terms, term.dimension.key = sample.dimension.key →
      term.dimension = sample.dimension :=
    fun term member => table.dimensionKeys term member sample listed
  simp only [List.any_eq_true, List.contains_iff_mem, footprintOf, mem_keysIn, mem_named]
  constructor
  · rintro ⟨key, ⟨carried, member, keyed, rfl⟩, named, ⟨known, held⟩, keyed', same⟩
    have dimension := sameDimension carried (inTable carried member) keyed
    have equal := table.termKeys named known carried (inTable carried member)
      ((sameDimension named known keyed').trans dimension.symm) same
    exact ⟨carried, member, dimension, equal ▸ held⟩
  · rintro ⟨other, member, dimension, held⟩
    have keyed : other.dimension.key = sample.dimension.key := by rw [dimension]
    exact ⟨other.key, ⟨other, member, keyed, rfl⟩, other, ⟨inTable other member, held⟩, keyed, rfl⟩

section
variable {dimension : TermDimension} (known : ∃ term ∈ table.terms, term.dimension = dimension)
include known

theorem TermTable.footprintOf_eq_nil : table.footprintOf footprint dimension.key = [] ↔
      ¬∃ term ∈ table.named footprint, term.dimension = dimension := by
  obtain ⟨sample, listed, rfl⟩ := known
  rw [List.eq_nil_iff_forall_not_mem]
  constructor
  · rintro empty ⟨term, named, same⟩
    exact empty term.key (mem_keysIn.mpr ⟨term, named, by rw [same], rfl⟩)
  · intro none_named key member
    obtain ⟨term, named, keyed, -⟩ := mem_keysIn.mp member
    have known := (mem_named.mp named).1
    exact none_named ⟨term, named, table.dimensionKeys term known sample listed keyed⟩

theorem TermTable.mem_restricting_of : dimension.key ∈ table.restrictingDimensions.keys ↔
      dimension.active = true ∧ (dimension.restrictsFootprint = true ∨ dimension.optIn = true) := by
  obtain ⟨sample, listed, rfl⟩ := known
  rw [mem_restricting]
  constructor
  · rintro ⟨term, member, keyed, active, narrows⟩
    rw [table.dimensionKeys term member sample listed keyed] at active narrows
    exact ⟨active, narrows⟩
  · rintro ⟨active, narrows⟩
    exact ⟨sample, listed, rfl, active, narrows⟩

theorem TermTable.mem_optIn_of : dimension.key ∈ table.restrictingDimensions.optIn ↔ dimension.active = true ∧ dimension.optIn = true := by
  obtain ⟨sample, listed, rfl⟩ := known
  rw [mem_restricting_optIn]
  constructor
  · rintro ⟨term, member, keyed, active, opted⟩
    rw [table.dimensionKeys term member sample listed keyed] at active opted
    exact ⟨active, opted⟩
  · rintro ⟨active, opted⟩
    exact ⟨sample, listed, rfl, active, opted⟩

end

theorem TermTable.inFootprint_iff (inTable : ∀ term ∈ scope, term ∈ table.terms)
    {sample : TaxonomyTerm} (carried : sample ∈ scope) :
    inFootprint [(sample.dimension.key, keysIn scope sample.dimension.key)]
        (table.footprintOf footprint) table.restrictingDimensions = true ↔
      (table.Narrows footprint sample.dimension →
        ∃ other ∈ scope, other.dimension = sample.dimension ∧ other.id ∈ footprint) := by
  have known : ∃ term ∈ table.terms, term.dimension = sample.dimension :=
    ⟨sample, inTable sample carried, rfl⟩
  have someKey : keysIn scope sample.dimension.key ≠ [] := by
    intro empty
    have member : sample.key ∈ keysIn scope sample.dimension.key :=
      mem_keysIn.mpr ⟨sample, carried, rfl, rfl⟩
    simp [empty] at member
  simp only [inFootprint, List.all_cons, List.all_nil, Bool.and_true]
  by_cases restricts : sample.dimension.key ∈ table.restrictingDimensions.keys
  · have active := (table.mem_restricting_of known).mp restricts
    rw [if_neg (by simp [restricts, someKey])]
    cases held : table.footprintOf footprint sample.dimension.key with
    | nil =>
      have none_named := (table.footprintOf_eq_nil known).mp held
      have no_match : ¬∃ other ∈ scope, other.dimension = sample.dimension ∧ other.id ∈ footprint := by
        rintro ⟨other, member, same, inFootprint⟩
        exact none_named ⟨other, mem_named.mpr ⟨inTable other member, inFootprint⟩, same⟩
      have optIn := table.mem_optIn_of known
      simp only [Bool.not_eq_true', List.contains_eq_mem, decide_eq_false_iff_not, optIn, Narrows,
        none_named, no_match]
      simp
    | cons key rest =>
      have narrows : table.Narrows footprint sample.dimension := by
        refine ⟨active.1, ?_⟩
        rcases active.2 with flagged | opted
        · refine .inr ⟨flagged, ?_⟩
          by_contra none_named
          rw [(table.footprintOf_eq_nil known).mpr none_named] at held
          cases held
        · exact .inl opted
      have meets := @TermTable.meets_iff table footprint scope inTable sample.dimension known
      rw [held] at meets
      simp only [meets, narrows, true_implies]
  · rw [if_pos (.inl restricts)]
    have narrow_restricts : ¬table.Narrows footprint sample.dimension := by
      rintro ⟨active, opted | ⟨flagged, -⟩⟩
      · exact restricts ((table.mem_restricting_of known).mpr ⟨active, .inr opted⟩)
      · exact restricts ((table.mem_restricting_of known).mpr ⟨active, .inl flagged⟩)
    simp [narrow_restricts]

theorem TermTable.pythonVerdict_iff (inTable : ∀ term ∈ scope, term ∈ table.terms) :
    table.pythonVerdict footprint scope = true ↔ table.Admits footprint scope := by
  have inside : table.pythonVerdict footprint scope = true ↔
      ∀ entry ∈ scopeOf scope,
        inFootprint [entry] (table.footprintOf footprint) table.restrictingDimensions = true := by
    simp [pythonVerdict, outsideReasons, List.isEmpty_iff]
  rw [inside]
  constructor
  · intro entries term carried
    exact (table.inFootprint_iff inTable carried).mp
      (entries _ (mem_scopeOf.mpr ⟨⟨term, carried, rfl⟩, rfl⟩))
  · rintro admits ⟨dimension, keys⟩ member
    obtain ⟨⟨term, carried, rfl⟩, rfl⟩ := mem_scopeOf.mp member
    exact (table.inFootprint_iff inTable carried).mpr (admits term carried)

theorem TermTable.mem_footprintGuard {slot : Id × Id} :
    slot ∈ table.footprintGuard footprint ↔
      ∃ term ∈ table.terms, table.Narrows footprint term.dimension ∧ slot = (term.id, term.dimension.id) := by
  simp only [footprintGuard, List.mem_map, List.mem_filter, Bool.and_eq_true, Bool.or_eq_true,
    List.any_eq_true, beq_iff_eq, Narrows]
  constructor
  · rintro ⟨term, ⟨known, ⟨active, restricts⟩, narrows⟩, rfl⟩
    refine ⟨term, known, ⟨active, ?_⟩, rfl⟩
    rcases narrows with opted | ⟨named, member, same⟩
    · exact .inl opted
    · rcases restricts with flagged | opted
      · have dimension := table.dimensionIds named (mem_named.mp member).1 term known same
        exact .inr ⟨flagged, named, member, dimension⟩
      · exact .inl opted
  · rintro ⟨term, known, ⟨active, opted | ⟨flagged, named, member, same⟩⟩, rfl⟩
    · exact ⟨term, ⟨known, ⟨active, .inr opted⟩, .inl opted⟩, rfl⟩
    · exact ⟨term, ⟨known, ⟨active, .inl flagged⟩, .inr ⟨named, member, by rw [same]⟩⟩, rfl⟩

theorem TermTable.of_guardedDimension {id dimension : Id}
    (found : guardedDimension (table.footprintGuard footprint) id = some dimension) :
    ∃ term ∈ table.terms, term.id = id ∧ term.dimension.id = dimension ∧
      table.Narrows footprint term.dimension := by
  obtain ⟨slot, first, rfl⟩ := Option.map_eq_some_iff.mp found
  have keyed : slot.1 = id := by simpa using List.find?_some first
  obtain ⟨term, known, narrows, same⟩ := mem_footprintGuard.mp (List.mem_of_find?_eq_some first)
  exact ⟨term, known, by rw [← keyed, same], by rw [same], narrows⟩

theorem TermTable.guardedDimension_of {term : TaxonomyTerm} (known : term ∈ table.terms)
    (narrows : table.Narrows footprint term.dimension) :
    guardedDimension (table.footprintGuard footprint) term.id = some term.dimension.id := by
  have member := mem_footprintGuard.mpr ⟨term, known, narrows, rfl⟩
  cases found : guardedDimension (table.footprintGuard footprint) term.id with
  | none =>
    have missing := List.find?_eq_none.mp (Option.map_eq_none_iff.mp found) _ member
    simp at missing
  | some dimension =>
    obtain ⟨other, listed, same, rfl, -⟩ := of_guardedDimension found
    rw [table.termIds other listed term known same]

theorem mem_foldl_visit {guard_ : List (Id × Id)} {allowed terms : List Id}
    {state : List Id × List Id} {dimension : Id} :
    (dimension ∈ (terms.foldl (visit guard_ allowed) state).1 ↔
        dimension ∈ state.1 ∨ ∃ term ∈ terms, guardedDimension guard_ term = some dimension) ∧
      (dimension ∈ (terms.foldl (visit guard_ allowed) state).2 ↔
        dimension ∈ state.2 ∨
          ∃ term ∈ terms, guardedDimension guard_ term = some dimension ∧ term ∈ allowed) := by
  induction terms generalizing state with
  | nil => simp
  | cons term rest ih =>
    obtain ⟨wanting, met⟩ := @ih (visit guard_ allowed state term)
    rw [List.foldl_cons, wanting, met]
    cases found : guardedDimension guard_ term with
    | none => simp [visit, found]
    | some slot =>
      by_cases held : term ∈ allowed
      · simp [visit, found, held, or_assoc, eq_comm]
      · simp [visit, found, held, or_assoc, eq_comm]

theorem TermTable.sqlVerdict_iff {ids : List Id} (inTable : ∀ term ∈ scope, term ∈ table.terms)
    (carried : ∀ term ∈ table.terms, term.id ∈ ids ↔ term ∈ scope) :
    table.sqlVerdict footprint ids = true ↔ table.Admits footprint scope := by
  simp only [sqlVerdict, scopeAdmits, List.all_eq_true, List.contains_iff_mem]
  constructor
  · intro met term member narrows
    have known := inTable term member
    have wanted := met term.dimension.id (mem_foldl_visit.1.mpr
      (.inr ⟨term.id, (carried term known).mpr member, guardedDimension_of known narrows⟩))
    rcases mem_foldl_visit.2.mp wanted with initial | ⟨id, given, found, allowed⟩
    · cases initial
    · obtain ⟨other, listed, rfl, same, -⟩ := of_guardedDimension found
      have dimension := table.dimensionIds other listed term known same
      exact ⟨other, (carried other listed).mp given, dimension, allowed⟩
  · intro admits dimension wanted
    rcases mem_foldl_visit.1.mp wanted with initial | ⟨id, given, found⟩
    · cases initial
    · obtain ⟨term, listed, rfl, rfl, narrows⟩ := of_guardedDimension found
      obtain ⟨other, member, same, allowed⟩ := admits term ((carried term listed).mp given) narrows
      have known := inTable other member
      have guarded := guardedDimension_of known (same ▸ narrows)
      rw [same] at guarded
      exact mem_foldl_visit.2.mpr (.inr ⟨other.id, (carried other known).mpr member, guarded, allowed⟩)

theorem TermTable.pythonVerdict_eq_sqlVerdict {ids : List Id}
    (inTable : ∀ term ∈ scope, term ∈ table.terms)
    (carried : ∀ term ∈ table.terms, term.id ∈ ids ↔ term ∈ scope) :
    table.pythonVerdict footprint scope = table.sqlVerdict footprint ids := by
  rw [Bool.eq_iff_iff, pythonVerdict_iff inTable, sqlVerdict_iff inTable carried]

/-- A record falls out of a footprint as terms are added exactly where it carries terms in a dimension that begins to narrow, and none of
them is added. -/
theorem widened_loses_iff (table : TermTable) (footprint added ids : List Id) :
    table.pythonVerdict footprint (table.named ids) = true ∧ table.pythonVerdict (footprint ++ added) (table.named ids) = false ↔
      table.pythonVerdict footprint (table.named ids) = true ∧ ∃ term ∈ table.named ids, ¬table.Narrows footprint term.dimension ∧
        table.Narrows (footprint ++ added) term.dimension ∧
          ∀ other ∈ table.named ids, other.dimension = term.dimension → other.id ∉ added := by
  have inTable : ∀ term ∈ table.named ids, term ∈ table.terms := fun term listed => (TermTable.mem_named.mp listed).1
  refine and_congr_right fun inside => ?_
  have admits := (TermTable.pythonVerdict_iff inTable).mp inside
  rw [← Bool.not_eq_true, TermTable.pythonVerdict_iff inTable]
  constructor
  · intro lost
    simp only [TermTable.Admits, not_forall, not_exists] at lost
    obtain ⟨term, listed, narrows, none_⟩ := lost
    refine ⟨term, listed, fun before => ?_, narrows, by grind⟩
    obtain ⟨other, carried, same, here⟩ := admits term listed before
    exact none_ other ⟨carried, same, List.mem_append_left _ here⟩
  · rintro ⟨term, listed, before, narrows, none_⟩ still
    obtain ⟨other, carried, same, here⟩ := still term listed narrows
    -- a term the footprint named already would have narrowed its dimension
    have held : other.id ∉ footprint := fun held => before ⟨narrows.1, narrows.2.imp_right fun flagged =>
      ⟨flagged.1, other, TermTable.mem_named.mpr ⟨inTable other carried, held⟩, same⟩⟩
    exact (List.mem_append.mp here).elim held (none_ other carried same)

end Grc.Taxonomy
