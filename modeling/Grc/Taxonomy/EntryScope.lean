import Grc.Lib.Forest
import Grc.Lib.Ranked
import Grc.Taxonomy.Matching
import Mathlib.Data.String.Basic

/-! An agent access entry's scope beside the footprint: derived by the database from the entry's own
departments and products, judged in Python over term keys and by the database over term ids. -/
namespace Grc.Taxonomy

open Grc.Shared Grc.Lib

structure BankUnit where
  id : Id
  parent : Option Id := none
  active : Bool := true

structure BankProduct where
  id : Id
  orgUnit : Option Id := none
  retired : Bool := false

structure ProductTerm where
  product : Id
  term : Id

structure AgentAccess where
  id : Id
  active : Bool := true

/-- A department, or a product, an entry names. -/
structure AccessLink where
  access : Id
  names : Id
  deriving DecidableEq

/-- A bank's rows behind the rule, as row-level security shows them. A footprint holds terms of the
library. -/
structure Bank (table : TermTable) where
  footprint : List Id
  units : List BankUnit := []
  products : List BankProduct := []
  productTerms : List ProductTerm := []
  accesses : List AgentAccess := []
  departments : List AccessLink := []
  accessProducts : List AccessLink := []
  known : ∀ id ∈ footprint, ∃ term ∈ table.terms, term.id = id

/-- The columns of `taxonomy_entry_scope`. -/
structure DerivedScope where
  narrowed : Bool
  terms : List Id

namespace Bank

variable {table : TermTable} (bank : Bank table)

def namedUnits (entry : Id) : List Id :=
  (bank.units.filter fun unit => unit.active && bank.departments.contains { access := entry, names := unit.id }).map
    (·.id)

/-- `units`: the units an entry names and every active unit below them. -/
def entryUnits (entry : Id) : List Id :=
  let active := bank.units.filter (·.active)
  descend BankUnit.id BankUnit.parent active active.length (bank.namedUnits entry)

/-- `products`. -/
def entryProducts (entry : Id) : List Id :=
  (bank.products.filter fun product => !product.retired && (product.orgUnit.any (bank.entryUnits entry).contains ||
    bank.accessProducts.contains { access := entry, names := product.id })).map (·.id)

/-- `any_named`: an entry this session cannot see, or a revoked one, is narrowed to nothing. -/
def anyNamed (entry : Id) : Bool :=
  !(bank.accesses.any fun access => access.id == entry && access.active) ||
    (bank.departments.any (·.access == entry) || bank.accessProducts.any (·.access == entry))

/-- `taxonomy_entry_scope`. -/
def entryScope (entry : Id) : DerivedScope where
  narrowed := bank.anyNamed entry
  terms := bank.footprint.filter fun term => !bank.anyNamed entry ||
    bank.productTerms.any fun row => row.term == term && (bank.entryProducts entry).contains row.product

end Bank

/-- `EntryScope`. -/
structure EntryScope where
  narrowed : Bool
  terms : Scope

/-- `empty_reason`, when it is set. -/
def EntryScope.isEmpty (scope : EntryScope) : Bool := scope.narrowed && scope.terms.isEmpty

/-- `terms.get`. -/
def Scope.get (scope : Scope) (dimension : String) : List String :=
  ((scope.find? (·.1 == dimension)).map Prod.snd).getD []

/-- `scope_of`: the derived terms by their keys. -/
def scopeOfEntry {table : TermTable} (bank : Bank table) (entry : Id) : EntryScope where
  narrowed := (bank.entryScope entry).narrowed
  terms := scopeOf (table.named (bank.entryScope entry).terms)

def admits (record : Scope) (footprint : String → List String) (scope : EntryScope) (restricting : Restricting) :
    Bool :=
  if scope.isEmpty = true then false
  else inFootprint record footprint restricting && inFootprint record scope.terms.get restricting

/-- `taxonomy_term_map_guard`: the guard of a footprint handed in as a term set. -/
def TermTable.termMapGuard (table : TermTable) (allowed : List Id) : List (Id × Id) := table.footprintGuard allowed

namespace Bank

variable {table : TermTable} (bank : Bank table)

/-- `taxonomy_in_footprint`, on this bank. -/
def inFootprintSql (terms : List Id) : Bool := table.sqlVerdict bank.footprint terms

/-- `taxonomy_entry_admits`. -/
def entryAdmits (entry : Id) (terms : List Id) : Bool :=
  let scope := bank.entryScope entry
  bank.inFootprintSql terms && !(scope.narrowed && scope.terms.length == 0) &&
    scopeAdmits terms (table.termMapGuard scope.terms) scope.terms

/-- `in_footprint_expression`: the filter of a list, its guard read once. -/
def inFootprintExpression (terms : List Id) : Bool :=
  scopeAdmits terms (table.footprintGuard bank.footprint) bank.footprint

/-- `in_reach`: the filters of a confined reader's list, for its entry when it has one. -/
def inReach (entry : Option Id) (terms : List Id) : List Bool :=
  bank.inFootprintExpression terms :: match entry with
    | none => []
    | some entry =>
      let scope := bank.entryScope entry
      [!(scope.narrowed && scope.terms.length == 0),
        scopeAdmits terms (table.termMapGuard scope.terms) scope.terms]

/-- The Python verdict of a reader on a record, by the terms the record carries. -/
def judged (entry : Option Id) (record : Scope) : Bool :=
  let footprint := table.footprintOf bank.footprint
  match entry with
  | none => inFootprint record footprint table.restrictingDimensions
  | some entry => admits record footprint (scopeOfEntry bank entry) table.restrictingDimensions

def admitted (entry : Option Id) (terms : List Id) : Bool :=
  match entry with
  | none => bank.inFootprintSql terms
  | some entry => bank.entryAdmits entry terms

end Bank

/-- An obligation's own terms, with its instrument's regime and jurisdiction. -/
structure ScopedRecord (table : TermTable) where
  own : List Id
  regime : Id
  jurisdiction : Option Id
  regimeKnown : ∃ term ∈ table.terms, term.id = regime

namespace ScopedRecord

variable {table : TermTable} (record : ScopedRecord table)

def termPlace (term : TaxonomyTerm) : Nat ×ₗ String := toLex (term.sortOrder, term.key)

/-- `instrument_scopes`, of the record's instrument. -/
def instrumentTerms : List TaxonomyTerm :=
  table.named [record.regime] ++ inOrder termPlace (table.reaching record.jurisdiction)

/-- `obligation_scopes`, of one obligation: its own terms, then its instrument's not among them. -/
def obligationTerms : List TaxonomyTerm :=
  let own := inOrder termPlace (table.named record.own)
  own ++ record.instrumentTerms.filter fun term => !own.contains term

/-- `scope_term_ids`: the SQL twin. -/
def scopeTermIds : List Id :=
  record.own ++ (table.terms.filter fun term =>
    term.id == record.regime || (table.reaching record.jurisdiction).contains term).map (·.id)

end ScopedRecord

variable {table : TermTable} {scope : List TaxonomyTerm} {allowed ids : List Id}

theorem scopeOf_eq_nil : scopeOf scope = [] ↔ scope = [] := by
  constructor
  · intro empty
    apply List.eq_nil_iff_forall_not_mem.mpr
    intro term carried
    have entry : (term.dimension.key, keysIn scope term.dimension.key) ∈ scopeOf scope :=
      mem_scopeOf.mpr ⟨⟨term, carried, rfl⟩, rfl⟩
    rw [empty] at entry
    cases entry
  · intro empty
    rw [empty]
    rfl

theorem scopeOf_get (dimension : String) : (scopeOf scope).get dimension = keysIn scope dimension := by
  unfold Scope.get
  cases found : (scopeOf scope).find? (·.1 == dimension) with
  | none =>
    refine (List.eq_nil_iff_forall_not_mem.mpr fun key member => ?_).symm
    obtain ⟨term, carried, keyed, -⟩ := mem_keysIn.mp member
    have entry : (dimension, keysIn scope dimension) ∈ scopeOf scope :=
      mem_scopeOf.mpr ⟨⟨term, carried, keyed⟩, rfl⟩
    have missing := List.find?_eq_none.mp found _ entry
    simp at missing
  | some entry =>
    obtain ⟨other, keys⟩ := entry
    have named := List.find?_some found
    obtain ⟨-, same⟩ := mem_scopeOf.mp (List.mem_of_find?_eq_some found)
    rw [← beq_iff_eq.mp named]
    exact same

theorem TermTable.inFootprint_eq : inFootprint (scopeOf scope) (table.footprintOf allowed) table.restrictingDimensions =
    table.pythonVerdict allowed scope := by
  unfold pythonVerdict outsideReasons
  rw [List.isEmpty_map, Bool.eq_iff_iff, List.isEmpty_iff, List.filter_eq_nil_iff]
  simp only [inFootprint, List.all_eq_true, List.all_cons, List.all_nil, Bool.and_true, Bool.not_eq_true',
    Bool.not_eq_false]

/-- A record's terms and ids: the terms are the library's, and the ids name them and no other. -/
structure TermTable.Carries (table : TermTable) (scope : List TaxonomyTerm) (ids : List Id) : Prop where
  inTable : ∀ term ∈ scope, term ∈ table.terms
  named : ∀ term ∈ table.terms, term.id ∈ ids ↔ term ∈ scope

theorem TermTable.carries_named (table : TermTable) (ids : List Id) : table.Carries (table.named ids) ids where
  inTable := fun term member => (TermTable.mem_named.mp member).1
  named := fun term known => by
    rw [TermTable.mem_named]
    exact ⟨fun given => ⟨known, given⟩, fun named => named.2⟩

theorem TermTable.Carries.verdict (carries : table.Carries scope ids) (allowed : List Id) :
    inFootprint (scopeOf scope) (table.footprintOf allowed) table.restrictingDimensions =
      scopeAdmits ids (table.footprintGuard allowed) allowed := by
  rw [TermTable.inFootprint_eq]
  exact TermTable.pythonVerdict_eq_sqlVerdict carries.inTable carries.named

namespace Bank

variable (bank : Bank table)

theorem entryScope_subset (entry : Id) : ∀ id ∈ (bank.entryScope entry).terms, id ∈ bank.footprint :=
  fun _ member => List.mem_of_mem_filter member

theorem isEmpty_eq (entry : Id) : (scopeOfEntry bank entry).isEmpty =
    ((bank.entryScope entry).narrowed && (bank.entryScope entry).terms.length == 0) := by
  have resolved : (scopeOf (table.named (bank.entryScope entry).terms)).isEmpty =
      ((bank.entryScope entry).terms.length == 0) := by
    rw [Bool.eq_iff_iff, List.isEmpty_iff, beq_iff_eq, List.length_eq_zero_iff, scopeOf_eq_nil]
    constructor
    · intro empty
      apply List.eq_nil_iff_forall_not_mem.mpr
      intro id derived
      obtain ⟨term, known, rfl⟩ := bank.known id (bank.entryScope_subset entry id derived)
      have named : term ∈ table.named (bank.entryScope entry).terms := TermTable.mem_named.mpr ⟨known, derived⟩
      rw [empty] at named
      cases named
    · intro empty
      simp [empty, TermTable.named]
  exact congrArg ((bank.entryScope entry).narrowed && ·) resolved

theorem judged_eq (entry : Option Id) (carries : table.Carries scope ids) :
    bank.judged entry (scopeOf scope) = bank.admitted entry ids := by
  cases entry with
  | none => exact carries.verdict bank.footprint
  | some entry =>
    have terms : (scopeOfEntry bank entry).terms.get = table.footprintOf (bank.entryScope entry).terms :=
      funext fun dimension => scopeOf_get dimension
    unfold judged admitted admits entryAdmits
    dsimp only
    rw [isEmpty_eq, terms, carries.verdict bank.footprint, carries.verdict (bank.entryScope entry).terms]
    by_cases empty : ((bank.entryScope entry).narrowed && (bank.entryScope entry).terms.length == 0) = true
    · rw [if_pos empty, empty, Bool.not_true, Bool.and_false, Bool.false_and]
    · have kept : ((bank.entryScope entry).narrowed && (bank.entryScope entry).terms.length == 0) = false :=
        Bool.eq_false_iff.mpr empty
      rw [if_neg empty, kept, Bool.not_false, Bool.and_true]
      rfl

theorem inReach_eq (entry : Option Id) (ids : List Id) :
    (bank.inReach entry ids).all (fun kept => kept) = bank.admitted entry ids := by
  cases entry with
  | none => exact Bool.and_true _
  | some entry =>
    unfold inReach admitted entryAdmits
    simp only [List.all_cons, List.all_nil, Bool.and_true, ← Bool.and_assoc]
    rfl

end Bank

theorem ScopedRecord.carries (record : ScopedRecord table) : table.Carries record.obligationTerms record.scopeTermIds where
  inTable := by
    intro term member
    rcases List.mem_append.mp member with own | inherited
    · exact (TermTable.mem_named.mp (mem_inOrder.mp own)).1
    · rcases List.mem_append.mp (List.mem_of_mem_filter inherited) with regime | reached
      · exact (TermTable.mem_named.mp regime).1
      · exact reaching_listed (mem_inOrder.mp reached)
  named := by
    intro term known
    have inherits : term ∈ record.instrumentTerms ↔ term.id = record.regime ∨ term ∈ table.reaching record.jurisdiction := by
      rw [instrumentTerms, List.mem_append, TermTable.mem_named, mem_inOrder, List.mem_singleton]
      exact or_congr_left ⟨And.right, fun same => ⟨known, same⟩⟩
    have listed : term ∈ record.obligationTerms ↔ term.id ∈ record.own ∨ term ∈ record.instrumentTerms := by
      simp only [obligationTerms, List.mem_append, List.mem_filter, Bool.not_eq_true', ← Bool.not_eq_true,
        List.contains_iff_mem, mem_inOrder, TermTable.mem_named, known, true_and]
      tauto
    rw [listed, inherits, scopeTermIds, List.mem_append, List.mem_map]
    refine or_congr_right ⟨?_, ?_⟩
    · rintro ⟨other, member, same⟩
      obtain ⟨listed, wanted⟩ := List.mem_filter.mp member
      have one := table.termIds other listed term known same
      rw [Bool.or_eq_true, beq_iff_eq, List.contains_iff_mem, one] at wanted
      exact wanted
    · intro wanted
      refine ⟨term, List.mem_filter.mpr ⟨known, ?_⟩, rfl⟩
      rw [Bool.or_eq_true, beq_iff_eq, List.contains_iff_mem]
      exact wanted

/-- A record filtered by the database and the same record judged in Python never disagree: for every
bank, for a reader with an entry or without, for any set of terms, known or not, and for an obligation
with the regime and the markets its instrument reaches. -/
theorem judged_agrees (bank : Bank table) (entry : Option Id) :
    (∀ ids, bank.judged entry (scopeOf (table.named ids)) = bank.admitted entry ids ∧
      bank.judged entry (scopeOf (table.named ids)) = (bank.inReach entry ids).all fun kept => kept) ∧
    ∀ record : ScopedRecord table,
      bank.judged entry (scopeOf record.obligationTerms) = bank.admitted entry record.scopeTermIds ∧
      bank.judged entry (scopeOf record.obligationTerms) =
        (bank.inReach entry record.scopeTermIds).all fun kept => kept := by
  refine ⟨fun ids => ?_, fun record => ?_⟩
  · rw [bank.inReach_eq entry ids]
    have same := bank.judged_eq entry (table.carries_named ids)
    exact ⟨same, same⟩
  · rw [bank.inReach_eq entry record.scopeTermIds]
    have same := bank.judged_eq entry record.carries
    exact ⟨same, same⟩

end Grc.Taxonomy
