import Grc.Lib.Forest
import Grc.Lib.Runs
import Grc.Proposals.Kinds
import Grc.Taxonomy.Footprint

/-! The bank's organisation: adding a unit, and changing one in a transaction that locks that unit alone and walks up from its
new parent over rows other transactions may be writing. -/
namespace Grc.Tenants

open Grc.Shared Grc.Lib
open Grc.Proposals (strip)
open Grc.Taxonomy (FootprintReads termByRef validationError)

inductive OrgUnitKind where
  | group
  | legalEntity
  | businessArea
  | businessUnit
  | function
  deriving DecidableEq

structure OrgUnit where
  id : Id
  kind : OrgUnitKind
  name : String
  parent : Option Id := none
  orgNumber : String := ""
  lei : String := ""
  countryCode : String := ""
  entityTerm : Option Id := none
  headUser : Option Id := none
  active : Bool := true
  version : Nat := 1

/-- The fields a create or a change sends, a field left out or null as none. -/
structure UnitFields where
  name : Option String := none
  parentId : Option Id := none
  orgNumber : Option String := none
  lei : Option String := none
  countryCode : Option String := none
  entityTerm : Option String := none
  headUserId : Option Id := none
  active : Option Bool := none

/-- A change under way: the unit it locked, what it sets, and the ancestor its walk tests next. -/
structure Change where
  unit : Id
  fields : UnitFields
  entityTerm : Option Id
  ancestor : Option Id

/-- A bank's organisation, as committed, and the changes under way. -/
structure Organisation where
  tenantId : Id
  units : Keyed OrgUnit.id := {}
  changes : List Change := []
  audit : List AuditEvent := []

/-- What a call reads outside the organisation, at its own time. -/
structure OrgReads where
  library : FootprintReads
  activeMembers : List Id := []
  /-- `str.upper`. -/
  upper : String → String := String.toUpper

def isUpperAscii (c : Char) : Bool := 'A' ≤ c && c ≤ 'Z'

def isAsciiDigit (c : Char) : Bool := '0' ≤ c && c ≤ '9'

/-- `LEI.fullmatch`. -/
def isLei (text : String) : Bool :=
  let chars := text.toList
  chars.length == 20 && (chars.take 18).all (fun c => isUpperAscii c || isAsciiDigit c) && (chars.drop 18).all isAsciiDigit

/-- `COUNTRY.fullmatch`. -/
def isCountry (text : String) : Bool := text.toList.length == 2 && text.toList.all isUpperAscii

/-- `_not_found`. -/
def unitNotFound : Refusal := { code := "not_found", detail := "Not found." }

def waits : Refusal := { code := "lock", detail := "" }

def parentOf (units : Keyed OrgUnit.id) (unit : Id) : Option Id := (units.rows.find? (·.id == unit)).bind (·.parent)

/-- Some of `ENTITY_ONLY` are sent. -/
def UnitFields.entityOnly (fields : UnitFields) : Bool :=
  fields.orgNumber.any (· ≠ "") || fields.lei.any (· ≠ "") || fields.countryCode.any (· ≠ "") || fields.entityTerm.any (· ≠ "")

/-- The checks `_apply_unit_fields` makes before it comes to the parent. -/
def checkFields (reads : OrgReads) (kind : OrgUnitKind) (fields : UnitFields) : Except Refusal (Option Id) := do
  require (kind = .legalEntity ∨ fields.entityOnly = false) (validationError
    "Only a legal entity carries a registration number, an LEI, a country or a legal-entity term.")
  require (∀ lei ∈ fields.lei, lei ≠ "" → isLei (reads.upper lei) = true)
    (validationError "An LEI is 20 letters and digits, ending in two digits.")
  require (∀ country ∈ fields.countryCode, country ≠ "" → isCountry (reads.upper country) = true)
    (validationError "A country is its two-letter ISO 3166 code, such as SE.")
  let term ← optionally (termByRef reads.library "legal_entity") fields.entityTerm
  .ok (term.map fun term => term.id)

def orgUnitOf (units : Keyed OrgUnit.id) (unit : Id) : Except Refusal OrgUnit :=
  demand (units.rows.find? (·.id == unit)) unitNotFound

/-- `active_member`, of the head. -/
def activeHead (reads : OrgReads) (fields : UnitFields) : Except Refusal Unit :=
  require (∀ head ∈ fields.headUserId, head ∈ reads.activeMembers) {
    code := "unknown_member", detail := "That person is not an active member of your organisation." }

/-- The columns `_apply_unit_fields` sets. -/
def setFields (reads : OrgReads) (fields : UnitFields) (entityTerm : Option Id) (unit : OrgUnit) : OrgUnit :=
  { unit with
    name := fields.name.getD unit.name
    orgNumber := (fields.orgNumber.map strip).getD unit.orgNumber
    lei := (fields.lei.map fun lei => reads.upper (strip lei)).getD unit.lei
    countryCode := (fields.countryCode.map fun country => reads.upper (strip country)).getD unit.countryCode
    entityTerm := entityTerm <|> unit.entityTerm
    parent := fields.parentId <|> unit.parent
    headUser := fields.headUserId <|> unit.headUser
    active := fields.active.getD unit.active }

def OrgUnitKind.value : OrgUnitKind → String
  | group => "group"
  | legalEntity => "legal_entity"
  | businessArea => "business_area"
  | businessUnit => "business_unit"
  | function => "function"

def unitSnapshot (reads : OrgReads) (unit : OrgUnit) : List (String × AuditValue) :=
  let termKey := (unit.entityTerm.bind fun id => reads.library.table.terms.find? (·.id == id)).map (·.key)
  [("kind", .text unit.kind.value), ("name", .text unit.name), ("parentId", .ofId unit.parent), ("orgNumber", .text unit.orgNumber),
    ("lei", .text unit.lei), ("countryCode", .text unit.countryCode), ("entityTerm", .ofText termKey),
    ("headUserId", .ofId unit.headUser), ("active", .flag unit.active)]

/-- `changed`: the fields whose value moved, before and after. -/
def changedFields (before after : List (String × AuditValue)) : List (String × AuditValue) × List (String × AuditValue) :=
  let moved := (before.zip after).filter fun pair => pair.1.2 ≠ pair.2.2
  (moved.map Prod.fst, moved.map Prod.snd)

def unitEvent (action summary : String) (actor : Actor) (tenant : Id) (unit : OrgUnit) (before after : List (String × AuditValue)) :
    AuditEvent where
  action := action
  actor := actor
  subjectType := "org_unit"
  subjectId := some unit.id
  subjectTitle := unit.name
  summary := summary
  tenantId := some tenant
  before := before
  after := after

def parentFree (changes : List Change) (unit : Option Id) (fields : UnitFields) : Prop :=
  ∀ parent ∈ fields.parentId, ∀ other ∈ changes, some other.unit ≠ unit → other.unit ≠ parent

instance (changes : List Change) (unit : Option Id) (fields : UnitFields) : Decidable (parentFree changes unit fields) :=
  inferInstanceAs (Decidable (∀ parent ∈ fields.parentId, ∀ other ∈ changes, some other.unit ≠ unit → other.unit ≠ parent))

/-- `create_org_unit`: a unit of its own has nothing under it, so its parent needs no walk. -/
def createOrgUnit (org : Organisation) (reads : OrgReads) (actor : Actor) (kind : OrgUnitKind) (name : String) (fields : UnitFields) :
    Except Refusal Organisation := do
  let entityTerm ← checkFields reads kind fields
  let _ ← optionally (orgUnitOf org.units) fields.parentId
  activeHead reads fields
  require (parentFree org.changes none fields) waits
  let make (id : Id) : OrgUnit := setFields reads fields entityTerm { id, kind, name }
  let unit := make org.units.fresh
  .ok { org with
    units := org.units.create make fun _ => rfl
    audit := record org.audit (unitEvent "org_unit.created" "Added a unit to the organisation." actor org.tenantId unit []
      (unitSnapshot reads unit)) }

/-- `update_org_unit` from `locked` to the first row of `_parent`'s walk. -/
def beginChange (org : Organisation) (reads : OrgReads) (id : Id) (fields : UnitFields) (expectedVersion : Option Nat) :
    Except Refusal Organisation := do
  require (∀ other ∈ org.changes, other.unit ≠ id) waits
  let unit ← orgUnitOf org.units id
  require (∀ version ∈ expectedVersion, version = unit.version) {
    code := "stale_write", detail := "Someone changed this first. Reload and try again." }
  let entityTerm ← checkFields reads unit.kind fields
  let _ ← optionally (orgUnitOf org.units) fields.parentId
  .ok { org with changes := org.changes ++ [{ unit := id, fields, entityTerm, ancestor := fields.parentId }] }

def Organisation.without (org : Organisation) (unit : Id) : List Change := org.changes.filter (·.unit ≠ unit)

/-- One turn of `_parent`'s walk: meeting the unit itself refuses the change, and else the next row up is read. -/
def walkUp (org : Organisation) (id : Id) : Except Refusal Organisation := do
  let change ← demand (org.changes.find? (·.unit == id)) waits
  let ancestor ← demand change.ancestor waits
  if ancestor = id then .ok { org with changes := org.without id }
  else .ok { org with changes := org.changes.map fun other =>
    if other.unit = id then { other with ancestor := parentOf org.units ancestor } else other }

def OrgUnit.saved (reads : OrgReads) (fields : UnitFields) (entityTerm : Option Id) (unit : OrgUnit) : OrgUnit :=
  { setFields reads fields entityTerm unit with version := unit.version + 1 }

/-- The rest of `update_org_unit`, once its walk has come to the top, and its commit. -/
def saveChange (org : Organisation) (reads : OrgReads) (actor : Actor) (id : Id) : Except Refusal Organisation := do
  let change ← demand (org.changes.find? (·.unit == id)) waits
  require (change.ancestor = none) waits
  activeHead reads change.fields
  let unit ← orgUnitOf org.units id
  require (parentFree org.changes (some id) change.fields) waits
  let after := unit.saved reads change.fields change.entityTerm
  let (before, moved) := changedFields (unitSnapshot reads unit) (unitSnapshot reads after)
  .ok { org with
    units := org.units.update (·.id == id) (OrgUnit.saved reads change.fields change.entityTerm) fun _ => rfl
    changes := org.without id
    audit := record org.audit (unitEvent "org_unit.updated" "Changed a unit of the organisation." actor org.tenantId after before moved) }

/-- What may happen next in a bank's organisation. -/
inductive OrgStep where
  | create (reads : OrgReads) (actor : Actor) (kind : OrgUnitKind) (name : String) (fields : UnitFields)
  | begin_ (reads : OrgReads) (unit : Id) (fields : UnitFields) (expectedVersion : Option Nat)
  | walk (unit : Id)
  | save (reads : OrgReads) (actor : Actor) (unit : Id)
  /-- A change is refused, or the database ends it in a deadlock. -/
  | abort (unit : Id)

def Organisation.step (org : Organisation) : OrgStep → Except Refusal Organisation
  | .create reads actor kind name fields => createOrgUnit org reads actor kind name fields
  | .begin_ reads unit fields expectedVersion => beginChange org reads unit fields expectedVersion
  | .walk unit => walkUp org unit
  | .save reads actor unit => saveChange org reads actor unit
  | .abort unit => .ok { org with changes := org.without unit }

end Grc.Tenants
