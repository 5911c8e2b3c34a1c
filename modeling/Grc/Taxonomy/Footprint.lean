import Grc.Lib.Checks
import Grc.Taxonomy.Matching
import Mathlib.Data.List.DropRight

/-! A bank's regulatory scope and its change requests, as they are stored: the terms, the
companies' exclusions, the scope items, the requests that wait for a second person and the
history a decision writes. -/
namespace Grc.Taxonomy

open Grc.Shared Grc.Lib

inductive FootprintAction where
  | added
  | removed
  deriving DecidableEq

def FootprintAction.value : FootprintAction → String
  | .added => "added"
  | .removed => "removed"

inductive ApprovalStatus where
  | pending
  | approved
  | rejected
  | withdrawn
  deriving DecidableEq

def ApprovalStatus.value : ApprovalStatus → String
  | .pending => "pending"
  | .approved => "approved"
  | .rejected => "rejected"
  | .withdrawn => "withdrawn"

inductive ScopeItemStatus where
  | requested
  | inScope
  | removed
  | declined
  deriving DecidableEq

structure FootprintTerm where
  id : Id
  term : Id
  addedBy : Option Id := none
  addedAt : Instant

structure EntityScopeExclusion where
  orgUnit : Id
  term : Id
  request : Option Id
  addedBy : Option Id := none
  addedAt : Instant

def EntityScopeExclusion.line (row : EntityScopeExclusion) : Id × Id := (row.orgUnit, row.term)

/-- A scope item validated and keyed, before it is stored. -/
structure ScopeItemDraft where
  key : String
  name : String
  description : String := ""
  jurisdiction : Id
  regimeTerm : Id
  officialReference : String := ""
  sourceUrl : String
  deriving DecidableEq

structure ScopeItem extends ScopeItemDraft where
  id : Id
  status : ScopeItemStatus := .requested
  deriving DecidableEq

structure FootprintPreviewCount where
  hidden : Nat := 0
  revealed : Nat := 0
  available : Bool := false

structure FootprintPreview where
  obligations : FootprintPreviewCount := {}
  cases : FootprintPreviewCount := {}

structure FootprintChangeRequest where
  id : Id
  requestedBy : Id
  requestedAt : Instant
  adds : List Id
  removes : List Id
  itemAdds : List Id
  itemRemoves : List Id
  /-- The company lines taken out, and put back. -/
  entityExcludes : List (Id × Id)
  entityIncludes : List (Id × Id)
  preview : FootprintPreview := {}
  status : ApprovalStatus := .pending
  decidedBy : Option Id := none
  decidedAt : Option Instant := none
  decisionNote : String := ""
  version : Nat := 1

/-- What a history row names: a term of the bank's scope, a term of one company's own scope,
or a scope item. -/
inductive HistorySubject where
  | term (term : Id)
  | entityTerm (orgUnit term : Id)
  | scopeItem (item : Id)

structure FootprintHistory where
  subject : HistorySubject
  action : FootprintAction
  request : Option Id := none
  changedBy : Option Id := none
  changedAt : Instant
  stepUpAssertionId : Option Id := none

/-- One bank's tables, with `footprint_term_unique` and `entity_scope_exclusion_unique`. -/
structure FootprintState where
  tenantId : Id
  footprintTerms : List FootprintTerm := []
  exclusions : List EntityScopeExclusion := []
  scopeItems : List ScopeItem := []
  requests : List FootprintChangeRequest := []
  /-- Append-only, in the order of its big integer id. -/
  history : List FootprintHistory := []
  audit : List AuditEvent := []
  nextId : Id := 0
  termsOnce : (footprintTerms.map (·.term)).Nodup := by simp
  exclusionsOnce : (exclusions.map (·.line)).Nodup := by simp

def FootprintState.empty (tenantId : Id) : FootprintState := { tenantId }

def FootprintState.followed (state : FootprintState) : List Id := state.footprintTerms.map (·.term)

def FootprintState.excluded (state : FootprintState) : List (Id × Id) := state.exclusions.map (·.line)

structure Jurisdiction where
  id : Id
  key : String
  sortOrder : Nat := 0
  active : Bool := true

structure OrgUnit where
  id : Id
  name : String
  legalEntity : Bool := true
  active : Bool := true

/-- The rows outside the footprint a call reads, as they are when it runs. -/
structure FootprintReads where
  table : TermTable
  dimensions : List TermDimension := []
  jurisdictions : List Jurisdiction := []
  orgUnits : List OrgUnit := []
  /-- `reading.obligation_scopes` and `open_case_scopes`. -/
  obligationScopes : List Scope := []
  openCaseScopes : List Scope := []
  /-- Django's `slugify`, and `validate_public_https_url`. -/
  slugify : String → String := id
  publicHttpsUrl : String → Bool := fun _ => true
  /-- `SCOPE_ITEM_DESCRIPTION_MAX_CHARS`. -/
  descriptionMaxChars : Nat := 2000
  now : Instant

/-! What a regulatory scope request asks for, read against the library and the bank: terms by
reference, scope items keyed and checked, items in scope, company lines. -/

def unknownKey (detail : String) : Refusal := { code := "unknown_key", detail }

def validationError (detail : String) : Refusal := { code := "validation_error", detail }

/-- `order_by("sort_order", "key")`. -/
def orderBy {α : Type} (sortOrder : α → Nat) (key : α → String) (rows : List α) : List α :=
  rows.insertionSort fun row other =>
    sortOrder row < sortOrder other ∨ (sortOrder row = sortOrder other ∧ key row ≤ key other)

def joined (keys : List String) : String := ", ".intercalate keys

def dimensionByKey (reads : FootprintReads) (key : String) : Except Refusal TermDimension :=
  let active := reads.dimensions.filter (·.active)
  demand (active.find? (·.key == key)) (unknownKey (quoted key ++
    " is not a taxonomy dimension. Valid dimensions: " ++
    joined ((orderBy (·.sortOrder) (·.key) active).map (·.key)) ++ "."))

def maxKeysInMessage : Nat := 12

def termByRef (reads : FootprintReads) (dimensionKey key : String) : Except Refusal TaxonomyTerm := do
  let dimension ← dimensionByKey reads dimensionKey
  let active := reads.table.terms.filter fun term => term.dimension.id == dimension.id && term.active
  demand (active.find? (·.key == key)) (unknownKey (quoted key ++ " is not a term of " ++
    quoted dimensionKey ++ ". Valid keys: " ++
    joined (((orderBy (·.sortOrder) (·.key) active).take maxKeysInMessage).map (·.key)) ++ "."))

structure TermSelector where
  dimension : String
  key : String
  deriving DecidableEq

def termsBySelectors (reads : FootprintReads) (selectors : List TermSelector) :
    Except Refusal (List TaxonomyTerm) :=
  selectors.mapM fun selector => termByRef reads selector.dimension selector.key

structure ScopeItemInput where
  name : String
  description : String := ""
  jurisdiction : String
  regimeTerm : String
  officialReference : String := ""
  sourceUrl : String

def regimeDimension : String := "regime"

def scopeItemKeyMaxChars : Nat := 80

/-- `_jurisdiction`. -/
def jurisdictionByKey (reads : FootprintReads) (key : String) : Except Refusal Jurisdiction :=
  let active := reads.jurisdictions.filter (·.active)
  demand (active.find? (·.key == key)) (unknownKey (quoted key ++
    " is not an active jurisdiction. Valid keys: " ++
    joined ((orderBy (·.sortOrder) (·.key) active).map (·.key)) ++ "."))

def keyBase (reads : FootprintReads) (name : String) : List Char :=
  let words := (reads.slugify name).toList.map fun letter => if letter = '-' then '_' else letter
  match (words.take scopeItemKeyMaxChars).rdropWhile (· == '_') with
  | [] => "scope_item".toList
  | base => base

/-- `^base(_[0-9]+)?$`. -/
def derivedFrom (base key : List Char) : Bool :=
  base.isPrefixOf key &&
    match key.drop base.length with
    | [] => true
    | '_' :: digits => digits != [] && digits.all (·.isDigit)
    | _ => false

/-- `letters[: most - less]`: a stop below zero counts from the end. -/
def cutTo (letters : List Char) (most less : Nat) : List Char :=
  if less ≤ most then letters.take (most - less) else letters.take (letters.length - (less - most))

/-- The key tried in the given place: the base itself, then `_2`, `_3` and so on, within the cap. -/
def candidateKey (base : List Char) : Nat → List Char
  | 1 => base
  | number =>
    let suffix := '_' :: Nat.toDigits 10 number
    (cutTo base scopeItemKeyMaxChars suffix.length).rdropWhile (· == '_') ++ suffix

/-- `while key in taken`. -/
def freeKey (taken : List (List Char)) (base : List Char) : (tries number : Nat) → List Char
  | 0, number => candidateKey base number
  | tries + 1, number =>
    if candidateKey base number ∈ taken then freeKey taken base tries (number + 1)
    else candidateKey base number

def sourceNotPublic : Refusal where
  code := "source_not_public"
  detail := "sourceUrl: give the address of a public https page."

def descriptionTooLong (limit : Nat) : Refusal where
  code := "description_too_long"
  detail := "Keep the description to " ++ toString limit ++ " characters."

/-- The loop of `scope_item_drafts` over the inputs, with the keys taken so far. -/
def draftItems (reads : FootprintReads) (taken : List (List Char)) :
    List ScopeItemInput → Except Refusal (List ScopeItemDraft)
  | [] => .ok []
  | entry :: rest => do
    require (reads.publicHttpsUrl entry.sourceUrl = true) sourceNotPublic
    require (entry.description.length ≤ reads.descriptionMaxChars)
      (descriptionTooLong reads.descriptionMaxChars)
    let key := freeKey taken (keyBase reads entry.name) (taken.length + 2) 1
    let jurisdiction ← jurisdictionByKey reads entry.jurisdiction
    let regimeTerm ← termByRef reads regimeDimension entry.regimeTerm
    let drafts ← draftItems reads (key :: taken) rest
    .ok ({ key := String.ofList key
           name := entry.name
           description := entry.description
           jurisdiction := jurisdiction.id
           regimeTerm := regimeTerm.id
           officialReference := entry.officialReference
           sourceUrl := entry.sourceUrl } :: drafts)

/-- `scope_item_drafts`: a key is never reused, a declined or removed item's included. -/
def scopeItemDrafts (reads : FootprintReads) (state : FootprintState) (inputs : List ScopeItemInput) :
    Except Refusal (List ScopeItemDraft) :=
  let bases := inputs.map fun entry => keyBase reads entry.name
  let taken := (state.scopeItems.map (·.key.toList)).filter fun key => bases.any (derivedFrom · key)
  draftItems reads taken inputs

/-- `scope_items_in_scope`: the items a request would take out, each in scope now. -/
def scopeItemsInScope (state : FootprintState) (keys : List String) : Except Refusal (List ScopeItem) := do
  require keys.Nodup (validationError "Name each scope item once in a change.")
  let there := state.scopeItems.filter (·.status == .inScope)
  let valid := orderBy (fun _ => 0) id (there.map (·.key))
  keys.mapM fun key => demand (there.find? (·.key == key)) (unknownKey (quoted key ++
    " is not a scope item in the regulatory scope. Valid keys: " ++
    (if valid = [] then "none" else joined valid) ++ "."))

structure FootprintEntityTermSelector where
  orgUnitId : Id
  dimension : String
  key : String

/-- `ENTITY_SCOPE_DIMENSIONS`: the licence-bound ones. -/
def entityScopeDimensions : List String := ["regime", "service_type", "licensed_activity"]

def notALegalEntity : Refusal where
  code := "not_a_legal_entity"
  detail := "orgUnitId: name an active legal entity of this organisation."

def dimensionNotNarrowable (dimension : String) : Refusal where
  code := "dimension_not_narrowable"
  detail := quoted dimension ++ " is not a dimension a company's own scope narrows. Valid dimensions: " ++
    joined entityScopeDimensions ++ "."

/-- One company line: the legal entity and the term. -/
abbrev EntityLine := OrgUnit × TaxonomyTerm

def EntityLine.ids (line : EntityLine) : Id × Id := (line.1.id, line.2.id)

def entityLine (reads : FootprintReads) (state : FootprintState) (exclude : Bool)
    (line : FootprintEntityTermSelector) : Except Refusal EntityLine := do
  let unit ← demand
    (reads.orgUnits.find? fun unit => unit.id == line.orgUnitId && unit.legalEntity && unit.active)
    notALegalEntity
  require (line.dimension ∈ entityScopeDimensions) (dimensionNotNarrowable line.dimension)
  let term ← termByRef reads line.dimension line.key
  require (decide ((unit.id, term.id) ∈ state.excluded) ≠ exclude)
    (validationError (line.dimension ++ ":" ++ line.key ++ " is " ++
      (if exclude then "already outside" else "not outside") ++ " " ++ unit.name ++ "'s own scope."))
  .ok (unit, term)

def entityLines (reads : FootprintReads) (state : FootprintState) (exclude : Bool)
    (selectors : List FootprintEntityTermSelector) : Except Refusal (List EntityLine) := do
  let found ← selectors.mapM (entityLine reads state exclude)
  require (found.map EntityLine.ids).Nodup (validationError "Name each company line once in a change.")
  .ok found

end Grc.Taxonomy
