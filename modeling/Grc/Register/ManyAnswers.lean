import Grc.Lib.Lists
import Grc.Register.Entries
import Grc.Register.Units
import Grc.Taxonomy.Matching

/-! Many applicability answers in one call: each lands on a register entry, on a legal entity's row of one or on a unit of
its Statement of Applicability. The rows are read under their locks, changed in memory and written together. -/
namespace Grc.Register.Many

open Grc.Shared Grc.Lib
open Grc.Library (validationError)
open Grc.Register.Desk (RecordHeading)
open Grc.Register.Units (wordOf recordAll)
open Grc.Taxonomy (TaxonomyTerm)

/-- Which of the three tables a row is of, with what the table's own columns say of its place. -/
inductive Place where
  | entry (obligation : Id)
  | scope (entry orgUnit : Id) (product : Option Id)
  | unit (scope : Id) (reference : String) (live : Bool)
  deriving DecidableEq

inductive RowKind where
  | tenantObligation
  | tenantObligationScope
  | soaUnit
  deriving DecidableEq

/-- `type(row)`. -/
def Place.kind : Place → RowKind
  | .entry _ => .tenantObligation
  | .scope _ _ _ => .tenantObligationScope
  | .unit _ _ _ => .soaUnit

/-- A row an answer may land on: its place, and the columns an answer reads and writes. -/
structure Row where
  id : Id
  place : Place
  applicability : Applicability := .notAssessed
  applicabilityReason : String := ""
  applicabilityDecidedAt : Option Instant := none
  applicabilityDecidedBy : Option Id := none
  version : Nat

structure Tables where
  rows : Keyed Row.id := {}
  audit : List AuditEvent := []

abbrev Writing := Tx Tables Refusal

/-- An active legal entity. -/
structure LegalEntity where
  id : Id
  name : String
  entityTerm : Option TaxonomyTerm := none

/-- What a call reads beside the register, as row-level security shows it. -/
structure Reads where
  tenant : Id
  headings : List (Id × RecordHeading) := []
  entities : List LegalEntity := []
  /-- The terms outside an entity's own scope. -/
  exclusions : List (Id × TaxonomyTerm) := []
  /-- `obligation_scopes`. -/
  scopes : Id → List TaxonomyTerm := fun _ => []
  /-- Whether the bank has its one default compliance status. -/
  defaultStatus : Bool := true
  /-- What `schedule_first` records for the answers that apply; it writes no row of the register. -/
  scheduleFirst : List (Id × Option Id) → Except Refusal (List AuditEvent) := fun _ => .ok []
  /-- `REGISTER_BULK_MAX`. -/
  bulkMax : Nat
  now : Instant

/-- `_Answer`; the schema refuses a legal entity and a unit together. -/
structure Answer where
  obligation : Id
  orgUnit : Option Id := none
  unit : Option Id := none
  applicability : ApplicabilityAnswer
  reason : String
  oneTarget : orgUnit = none ∨ unit = none := by decide
  deriving DecidableEq

/-- `answer[:3]`. -/
def Answer.target (answer : Answer) : Id × Option Id × Option Id := (answer.obligation, answer.orgUnit, answer.unit)

/-- `RegisterApplicability`, the name of the person aside. -/
structure Stored where
  obligation : Id
  orgUnit : Option Id
  unit : Option Id
  applicability : ApplicabilityAnswer
  reason : String
  decidedAt : Instant
  decidedBy : Id
  version : Nat

/-! ## The entities an obligation spans -/

def termsIn (terms : List TaxonomyTerm) (dimension : String) : List Id := (terms.filter (·.dimension.key == dimension)).map (·.id)

/-- `_outside_scope`, of one entity. -/
def outsideScope (reads : Reads) (entity : LegalEntity) : List TaxonomyTerm := (reads.exclusions.filter (·.1 == entity.id)).map (·.2)

def spans (carried : List TaxonomyTerm) (entity : LegalEntity) (outside : List TaxonomyTerm) : Bool :=
  let ofItsType := entity.entityTerm.all fun term =>
    termsIn carried term.dimension.key == [] || (termsIn carried term.dimension.key).contains term.id
  ofItsType && (outside.map (·.dimension.key)).all fun dimension =>
    termsIn carried dimension == [] || (termsIn carried dimension).any fun id => !(termsIn outside dimension).contains id

/-- `entities_spanned`, of one obligation. -/
def entitiesSpanned (reads : Reads) (obligation : Id) : List LegalEntity :=
  reads.entities.filter fun entity => spans (reads.scopes obligation) entity (outsideScope reads entity)

/-! ## The rows -/

def headingOf (reads : Reads) (obligation : Id) : Option RecordHeading := (reads.headings.find? (·.1 == obligation)).map (·.2)

def entryOn (rows : List Row) (obligation : Id) : Option Row := rows.find? (·.place == .entry obligation)

def scopeOn (rows : List Row) (entry orgUnit : Id) : Option Row := rows.find? (·.place == .scope entry orgUnit none)

/-- A unit nobody removed, with the row it is listed under. -/
def liveUnit (rows : List Row) (id : Id) : Option (Row × Row) := do
  let unit ← rows.find? (·.id == id)
  match unit.place with
  | .unit scope _ true =>
    let scope ← rows.find? (·.id == scope)
    some (unit, scope)
  | _ => none

/-- The obligation a scope row is of. -/
def obligationOf (rows : List Row) (scope : Row) : Option Id :=
  match scope.place with
  | .scope entry _ _ =>
    (rows.find? (·.id == entry)).bind fun entry => match entry.place with
      | .entry obligation => some obligation
      | _ => none
  | _ => none

/-- `wanted`: of each unit the answers name, the obligation the last of them names it under. -/
def wantedUnder (answers : List Answer) (unit : Id) : Option Id :=
  ((answers.filter (·.unit == some unit)).getLast?).map (·.obligation)

/-- `_locked_units`, of one unit of `wanted`. -/
def lockUnit (rows : List Row) (answers : List Answer) (unit : Id) : Except Refusal Unit := do
  let notHere : Refusal := { code := "not_found", detail := "That unit is not here." }
  let (_, scope) ← demand (liveUnit rows unit) notHere
  let obligation ← demand (obligationOf rows scope) notHere
  require (wantedUnder answers unit = some obligation) notHere
  require (scope.applicability = .applies) {
    code := "scope_not_applicable"
    detail := "This unit's legal entity does not follow the standard. Set its conformance to applies first." }

/-- The row an answer lands on. -/
def rowFor (rows : List Row) (answer : Answer) : Option Row :=
  match answer.unit, answer.orgUnit with
  | some unit, _ => rows.find? (·.id == unit)
  | none, some orgUnit => (entryOn rows answer.obligation).bind fun entry => scopeOn rows entry.id orgUnit
  | none, none => entryOn rows answer.obligation

/-! ## What is created -/

def Row.newEntry (obligation : Id) (id : Id) : Row := { id, place := .entry obligation, version := 1 }

/-- `_new_scopes` makes a row of version 0, for the answer that comes to count as its first. -/
def Row.newScope (place : Id × Id) (id : Id) : Row := { id, place := .scope place.1 place.2 none, version := 0 }

def titleOf (heading : RecordHeading) : String := heading.instrumentShortName ++ ", " ++ heading.referenceLabel

def entryCreated (reads : Reads) (actor : Actor) (row : Row) (obligation : Id) : AuditEvent where
  action := "register.entry_created"
  actor := actor
  subjectType := "tenant_obligation"
  subjectId := some row.id
  subjectTitle := ((headingOf reads obligation).map titleOf).getD ""
  summary := "Register entry created."
  tenantId := some reads.tenant
  after := [("obligationId", .ref obligation), ("applicability", .text "not_assessed")]

/-- `ensure_register_entries`, of the obligations without an entry. -/
def ensureEntries (reads : Reads) (actor : Actor) (missing : List Id) (tables : Tables) : Tables × List AuditEvent :=
  let rows := tables.rows.createAll Row.newEntry (fun _ _ => rfl) missing
  let created := rows.rows.drop tables.rows.rows.length
  ({ tables with rows }, (created.zip missing).map fun each => entryCreated reads actor each.1 each.2)

/-- `new`: the pairs of an entry and a legal entity that have no row. -/
def newScopes (rows : List Row) (answers : List Answer) : List (Id × Id) :=
  let wanted := answers.filterMap fun answer => match answer.unit, answer.orgUnit with
    | none, some orgUnit => (entryOn rows answer.obligation).map fun entry => (entry.id, orgUnit)
    | _, _ => none
  (wanted.dedup).filter fun place => scopeOn rows place.1 place.2 = none

/-! ## The answers -/

/-- `_write`, of the row in memory. -/
def Row.answered (person : Id) (now : Instant) (answer : Answer) (row : Row) : Row :=
  { row with
    applicability := Units.kindOf answer.applicability
    applicabilityReason := answer.reason
    applicabilityDecidedAt := some now
    applicabilityDecidedBy := some person
    version := row.version + 1 }

/-- The event of one answer. -/
def answerEvent (reads : Reads) (actor : Actor) (rows : List Row) (answer : Answer) (row : Row) : AuditEvent :=
  let title := ((headingOf reads answer.obligation).map titleOf).getD ""
  let nameOf (orgUnit : Id) : String := ((reads.entities.find? (·.id == orgUnit)).map (·.name)).getD ""
  let before : List (String × AuditValue) := [("applicability", .text (wordOf row.applicability.out)),
    ("reason", if row.applicabilityReason = "" then .absent else .text row.applicabilityReason)]
  let after (orgUnit : Option Id) : List (String × AuditValue) := [("obligationId", .ref answer.obligation), ("orgUnitId", .ofId orgUnit),
    ("applicability", .text (wordOf answer.applicability)), ("reason", .text answer.reason)]
  let event : AuditEvent := {
    action := "register.applicability_set", actor, subjectType := "tenant_obligation", subjectId := (entryOn rows answer.obligation).map (·.id)
    subjectTitle := title, summary := "Applicability set to " ++ wordOf answer.applicability ++ ".", tenantId := some reads.tenant
    before, after := after answer.orgUnit }
  match row.place with
  | .unit scope reference _ =>
    let orgUnit := (rows.find? (·.id == scope)).bind fun scope => match scope.place with
      | .scope _ orgUnit _ => some orgUnit
      | _ => none
    { event with
      subjectType := "soa_unit"
      subjectId := some row.id
      subjectTitle := title ++ ", " ++ (orgUnit.map nameOf).getD "" ++ ", " ++ reference
      after := after orgUnit ++ [("unitId", .ref row.id)] }
  | _ => { event with subjectTitle := match answer.orgUnit with
      | some orgUnit => title ++ ", " ++ nameOf orgUnit
      | none => title }

def Answer.stored (person : Id) (now : Instant) (answer : Answer) (version : Nat) : Stored where
  obligation := answer.obligation
  orgUnit := answer.orgUnit
  unit := answer.unit
  applicability := answer.applicability
  reason := answer.reason
  decidedAt := now
  decidedBy := person
  version := version

/-- What the loop over the answers has gathered: the rows in memory, those written, what it answers and what it recorded. -/
structure Gathered where
  memory : List Row
  written : List Id := []
  stored : List Stored := []
  events : List AuditEvent := []

/-- One turn of the loop. A row two answers name is one object, so the second finds what the first left. -/
def Gathered.write (reads : Reads) (actor : Actor) (person : Id) (gathered : Gathered) (answer : Answer) : Except Refusal Gathered := do
  let row ← demand (rowFor gathered.memory answer) internalError
  .ok {
    memory := gathered.memory.map fun held => if held.id = row.id then held.answered person reads.now answer else held
    written := gathered.written ++ [row.id]
    stored := gathered.stored ++ [answer.stored person reads.now (row.version + 1)]
    events := gathered.events ++ [answerEvent reads actor gathered.memory answer row] }

/-- What one group of `_update` sets. -/
structure Given where
  kind : RowKind
  applicability : Applicability
  reason : String
  deriving DecidableEq

def Row.given (row : Row) : Given := { kind := row.place.kind, applicability := row.applicability, reason := row.applicabilityReason }

def Row.stamped (person : Id) (now : Instant) (given : Given) (row : Row) : Row :=
  { row with
    applicability := given.applicability
    applicabilityReason := given.reason
    applicabilityDecidedAt := some now
    applicabilityDecidedBy := some person
    version := row.version + 1 }

/-- `_update`: one statement for each kind of row, answer and reason. -/
def updateRows (person : Id) (now : Instant) (written : List Row) (table : Keyed Row.id) : Keyed Row.id :=
  table.updateGroups (Row.stamped person now) (fun _ _ => rfl) (grouped Row.id Row.given written)

/-- `applied`: the entries answered "applies", and the legal entities. -/
def applied (rows : List Row) (answers : List Answer) : List (Id × Option Id) :=
  answers.filterMap fun answer =>
    if answer.applicability = .applies ∧ answer.unit = none then (entryOn rows answer.obligation).map fun entry => (entry.id, answer.orgUnit)
    else none

/-- Every check of `_store` that comes before its first write. -/
def checkAnswers (reads : Reads) (answers : List Answer) (rows : List Row) : Except Refusal Unit := do
  require (∀ answer ∈ answers, (headingOf reads answer.obligation).isSome) { code := "not_found", detail := "That obligation is not here." }
  require (∀ answer ∈ answers, ∀ orgUnit ∈ answer.orgUnit, orgUnit ∈ (entitiesSpanned reads answer.obligation).map (·.id))
    { code := "not_found", detail := "That legal entity is not one this obligation spans." }
  (answers.filterMap (·.unit)).eraseDups.forM (lockUnit rows answers)

/-- `_store`, for many answers. -/
def store (reads : Reads) (actor : Actor) (answers : List Answer) : Writing (List Stored) := do
  let person ← Tx.check fun _ => demand actor.id { code := "permission_denied", detail := "A person must do this." }
  Tx.check fun tables => checkAnswers reads answers tables.rows.rows
  let missing ← Tx.check fun tables => .ok ((answers.map (·.obligation)).dedup.filter fun obligation => entryOn tables.rows.rows obligation = none)
  Tx.check fun _ => require (missing = [] ∨ reads.defaultStatus = true) internalError
  let before ← Tx.check fun tables => .ok (ensureEntries reads actor missing tables).2
  Tx.write fun tables => (ensureEntries reads actor missing tables).1
  let places ← Tx.check fun tables => .ok (newScopes tables.rows.rows answers)
  Tx.check fun _ => require (places = [] ∨ reads.defaultStatus = true) internalError
  Tx.write fun tables => { tables with rows := tables.rows.createAll Row.newScope (fun _ _ => rfl) places }
  let gathered ← Tx.check fun tables => answers.foldlM (Gathered.write reads actor person) { memory := tables.rows.rows }
  let written := gathered.memory.filter fun row => row.id ∈ gathered.written
  Tx.write fun tables => { tables with rows := updateRows person reads.now written tables.rows }
  let duties ← Tx.check fun tables => reads.scheduleFirst (applied tables.rows.rows answers)
  let audit ← Tx.check fun tables => recordAll tables.audit (before ++ gathered.events ++ duties)
  Tx.write fun tables => { tables with audit }
  pure gathered.stored

/-- `set_applicability_many`, one request: a refusal takes its transaction back. -/
def setApplicabilityMany (reads : Reads) (actor : Actor) (answers : List Answer) : Writing (List Stored) :=
  Tx.atomic do
    Tx.check fun _ => require (answers.length ≤ reads.bulkMax)
      (validationError ("Send at most " ++ toString reads.bulkMax ++ " answers in one call."))
    Tx.check fun _ => require ((answers.map Answer.target).Nodup)
      (validationError "Each obligation, legal entity or unit may be answered once in a call.")
    store reads actor answers

end Grc.Register.Many
