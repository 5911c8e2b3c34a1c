import Grc.Proposals.Kinds
import Grc.Register.Gaps

/-! Statement of Applicability units: a legal entity's clauses and controls of a standard, listed one by
one or pasted with a dry run, fixed once a decision, a status or a gap stands on them. -/
namespace Grc.Register.Units

open Grc.Shared Grc.Lib
open Grc.Library (validationError)
open Grc.Proposals (strip)

def unitReferenceMax : Nat := 64
def unitTitleMax : Nat := 300

/-- What `audit_event.subject_title` holds. -/
def subjectTitleMax : Nat := 500

/-- A row of `soa_unit`; its compliance status stands here as the category of the status row. -/
structure SoaUnit where
  id : Id
  scope : Id
  reference : String
  title : String
  applicability : Applicability := .notAssessed
  applicabilityReason : String := ""
  applicabilityDecidedAt : Option Instant := none
  applicabilityDecidedBy : Option Id := none
  complianceStatus : ComplianceCategory := .notAssessed
  version : Nat := 1
  removedAt : Option Instant := none
  removedBy : Option Id := none
  deriving DecidableEq

/-- A row of `tenant_obligation_scope`, with its entry's obligation and its entity's name. -/
structure Scope where
  id : Id
  obligation : Id
  orgUnit : Id
  orgUnitName : String
  product : Option Id := none
  applicability : Applicability := .notAssessed
  deriving DecidableEq

/-- An obligation the bank sees, with how a record outside the library names it. -/
structure Heading where
  obligation : Id
  standard : Bool
  instrumentShortName : String
  refLabel : String
  deriving DecidableEq

structure Tables where
  tenant : Id
  headings : List Heading := []
  /-- The active legal entities. -/
  legalEntities : List Id := []
  scopes : Keyed Scope.id := {}
  units : Keyed SoaUnit.id := {}
  gaps : Keyed Gap.id := {}
  /-- The category of the bank's default compliance status. -/
  defaultStatus : ComplianceCategory := .notAssessed
  audit : List AuditEvent := []

/-- A person's session. -/
structure Session where
  person : Id
  label : String

def Session.actor (session : Session) : Actor := { kind := .user, id := some session.person, label := session.label }

/-- `RegisterUnitBody`. -/
structure UnitBody where
  orgUnitId : Id
  reference : String
  title : String

/-- `RegisterUnitPatch`, a field left out or null as none. -/
structure UnitPatch where
  reference : Option String := none
  title : Option String := none

/-- `PastedAnswer`. -/
inductive PastedAnswer where
  | applies
  | notApplicable

def PastedAnswer.word : PastedAnswer → ApplicabilityAnswer
  | applies => .applies
  | notApplicable => .notApplicable

/-- `RegisterUnitPasteLine`. -/
structure PasteLine where
  reference : String
  title : String
  applicability : Option PastedAnswer := none
  reason : Option String := none

/-- `RegisterUnitPasteBody`. -/
structure PasteBody where
  orgUnitId : Id
  lines : List PasteLine
  dryRun : Bool := true

inductive PasteOutcome where
  | willCreate
  | created
  | refused

inductive PasteProblem where
  | emptyLine
  | referenceTooLong
  | titleTooLong
  | duplicateReference
  | referenceExists
  | reasonMissing

/-- `RegisterUnitPasteRow`. -/
structure PasteRow where
  line : Nat
  reference : String
  title : String
  outcome : PasteOutcome
  problem : Option PasteProblem
  unitId : Option Id := none

/-- `RegisterUnitPaste`. -/
structure UnitPaste where
  dryRun : Bool
  rows : List PasteRow
  created : Nat

/-- `_Answer`, for a unit. -/
structure Answer where
  obligation : Id
  unit : Id
  applicability : ApplicabilityAnswer
  reason : String

def kindOf : ApplicabilityAnswer → Applicability
  | .applies => .applies
  | .notApplicable => .doesNotApply
  | .underAssessment => .notAssessed

def wordOf : ApplicabilityAnswer → String
  | .applies => "applies"
  | .notApplicable => "not_applicable"
  | .underAssessment => "under_assessment"

/-- `record()` of several events; a title the column does not hold fails the write. -/
def recordAll (log events : List AuditEvent) : Except Refusal (List AuditEvent) := do
  require (∀ event ∈ events, event.subjectTitle.length ≤ subjectTitleMax) internalError
  .ok (log ++ events)

/-! ## Where a unit may exist -/

/-- `_standard`: the obligation, under a standard. -/
def standard (tables : Tables) (obligation : Id) : Except Refusal Heading := do
  let heading ← demand (tables.headings.find? (·.obligation == obligation))
    { code := "not_found", detail := "That obligation is not here." }
  require (heading.standard = true) {
    code := "units_only_under_standards", detail := "Units are listed only under a standard's conformance obligation." }
  .ok heading

def conformanceScope (tables : Tables) (obligation orgUnit : Id) : Except Refusal (Heading × Scope) := do
  let heading ← standard tables obligation
  require (orgUnit ∈ tables.legalEntities) { code := "not_found", detail := "That legal entity is not here." }
  let refused : Refusal := {
    code := "scope_not_applicable"
    detail := "Units are listed only for a legal entity that follows the standard. Set its conformance to applies first." }
  let scope ← demand (tables.scopes.rows.find? fun scope =>
    scope.obligation == obligation && scope.orgUnit == orgUnit && scope.product == none) refused
  require (scope.applicability = .applies) refused
  .ok (heading, scope)

/-! ## The history of a unit -/

def SoaUnit.live (unit : SoaUnit) : Bool := unit.removedAt.isNone

/-- `has_gap`: a gap on the unit, among those a statement sees. -/
def hasGap (gaps : Keyed Gap.id) (unit : Id) : Bool := gaps.rows.any (·.unit == some unit)

def hasHistory (gaps : Keyed Gap.id) (unit : SoaUnit) : Bool :=
  unit.applicabilityDecidedAt.isSome || unit.complianceStatus != .notAssessed || hasGap gaps unit.id

namespace Tables
variable (tables : Tables)

def liveUnits (scope : Id) : List SoaUnit := tables.units.rows.filter fun unit => unit.live && unit.scope == scope

/-- `soa_unit_live_reference_unique`, for a row not counting itself. -/
def referenceFree (scope : Id) (reference : String) (itself : Option Id) : Prop :=
  ∀ unit ∈ tables.liveUnits scope, some unit.id ≠ itself → unit.reference ≠ reference

instance (scope : Id) (reference : String) (itself : Option Id) : Decidable (tables.referenceFree scope reference itself) := by
  unfold referenceFree
  infer_instance

def soaUnits : List Register.SoaUnit :=
  tables.units.rows.filterMap fun unit => (tables.scopes.rows.find? (·.id == unit.scope)).map fun scope => {
    id := unit.id, obligation := scope.obligation, orgUnit := scope.orgUnit, applicability := unit.applicability
    removed := !unit.live }

end Tables

/-! ## Writes -/

def cleaned (value : String) : Except Refusal String := do
  require (strip value ≠ "") (validationError "Write a reference and a title in your own words.")
  .ok (strip value)

/-- The row `_insert_many` makes of a line. -/
def SoaUnit.listed (scope : Id) (status : ComplianceCategory) (line : String × String) (id : Id) : SoaUnit :=
  { id, scope, reference := line.1, title := line.2, complianceStatus := status }

def unitEvent (session : Session) (tenant : Id) (action summary : String) (unit : SoaUnit)
    (before after : List (String × AuditValue)) : AuditEvent where
  action := action
  actor := session.actor
  subjectType := "soa_unit"
  subjectId := some unit.id
  subjectTitle := unit.reference
  summary := summary
  tenantId := some tenant
  before := before
  after := after

def SoaUnit.names (unit : SoaUnit) : List (String × AuditValue) := [("reference", .text unit.reference), ("title", .text unit.title)]

def duplicateKey (listed : String) : Refusal := { code := "duplicate_key", detail := "This entity already lists " ++ listed ++ "." }

/-- `_insert_many`: the lines' units, in one insert, under the unique key of the live references. -/
def insertMany (tables : Tables) (session : Session) (scope : Scope) (lines : List (String × String)) :
    Except Refusal (Tables × List SoaUnit) := do
  let listed := match lines with
    | [line] => line.1
    | _ => "one of these references"
  require ((lines.map (·.1)).Nodup ∧ ∀ line ∈ lines, tables.referenceFree scope.id line.1 none) (duplicateKey listed)
  let units := tables.units.createAll (SoaUnit.listed scope.id tables.defaultStatus) (fun _ _ => rfl) lines
  let created := units.rows.drop tables.units.rows.length
  let audit ← recordAll tables.audit (created.map fun unit =>
    unitEvent session tables.tenant "register.unit_created" "Unit added." unit []
      ([("scopeId", .ref scope.id), ("orgUnitId", .ref scope.orgUnit)] ++ unit.names))
  .ok ({ tables with units, audit }, created)

/-- `create_unit`, its checks on the tables as it read them. -/
def createUnit (seen tables : Tables) (session : Session) (obligation : Id) (body : UnitBody) : Except Refusal Tables := do
  let (_, scope) ← conformanceScope seen obligation body.orgUnitId
  let reference ← cleaned body.reference
  let title ← cleaned body.title
  let (stored, _) ← insertMany tables session scope [(reference, title)]
  .ok stored

/-- `_unit_for_write`: the row as it is under its lock, with the gaps the statement saw. -/
def unitForWrite (seen tables : Tables) (id : Id) (expectedVersion : Option Nat) : Except Refusal SoaUnit := do
  let unit ← demand (tables.units.rows.find? fun unit => unit.id == id && unit.live)
    { code := "not_found", detail := "That unit is not here." }
  require (expectedVersion = some unit.version)
    { code := "stale_write", detail := "Someone changed this first. Reload and try again." }
  require (hasHistory seen.gaps unit = false) {
    code := "unit_has_history"
    detail := "This unit has a decision, a status or a gap, so it stays as it is. Add a new unit instead." }
  .ok unit

/-- `save(update_fields=[…])` of one unit. -/
def Tables.saveUnit (tables : Tables) (id : Id) (change : SoaUnit → SoaUnit) (named : ∀ unit, (change unit).id = unit.id) : Tables :=
  { tables with units := tables.units.update (·.id == id) change named }

def SoaUnit.renamed (reference title : String) (unit : SoaUnit) : SoaUnit :=
  { unit with reference, title, version := unit.version + 1 }

def updateUnit (seen tables : Tables) (session : Session) (id : Id) (body : UnitPatch) (expectedVersion : Option Nat) :
    Except Refusal Tables := do
  let unit ← unitForWrite seen tables id expectedVersion
  let reference ← body.reference.elim (.ok unit.reference) cleaned
  let title ← body.title.elim (.ok unit.title) cleaned
  require (tables.referenceFree unit.scope reference (some id)) (duplicateKey reference)
  let renamed := unit.renamed reference title
  let audit ← recordAll tables.audit
    [unitEvent session tables.tenant "register.unit_renamed" "Unit renamed." renamed unit.names renamed.names]
  .ok { tables.saveUnit id (SoaUnit.renamed reference title) (fun _ => rfl) with audit }

def SoaUnit.removed (session : Session) (now : Instant) (unit : SoaUnit) : SoaUnit :=
  { unit with removedAt := some now, removedBy := some session.person, version := unit.version + 1 }

def removeUnit (seen tables : Tables) (session : Session) (now : Instant) (id : Id) (expectedVersion : Option Nat) :
    Except Refusal Tables := do
  let unit ← unitForWrite seen tables id expectedVersion
  let audit ← recordAll tables.audit [unitEvent session tables.tenant "register.unit_removed" "Unit removed." unit
    [("removedAt", .absent)] [("removedAt", .number now)]]
  .ok { tables.saveUnit id (SoaUnit.removed session now) (fun _ => rfl) with audit }

/-! ## Answers -/

def lastAnswer (answers : List Answer) (unit : Id) : Option Answer := answers.reverse.find? (·.unit == unit)

def headingOf (seen : Tables) (answer : Answer) : Except Refusal Heading :=
  demand (seen.headings.find? (·.obligation == answer.obligation)) { code := "not_found", detail := "That obligation is not here." }

/-- `_locked_units`, of one unit: its row under its lock, its scope as the statement saw it. -/
def lockedUnit (seen tables : Tables) (answers : List Answer) (answer : Answer) : Except Refusal (Scope × SoaUnit) := do
  let notHere : Refusal := { code := "not_found", detail := "That unit is not here." }
  let unit ← demand (tables.units.rows.find? fun unit => unit.id == answer.unit && unit.live) notHere
  let scope ← demand (seen.scopes.rows.find? (·.id == unit.scope)) notHere
  require ((lastAnswer answers answer.unit).map (·.obligation) = some scope.obligation) notHere
  require (scope.applicability = .applies) {
    code := "scope_not_applicable"
    detail := "This unit's legal entity does not follow the standard. Set its conformance to applies first." }
  .ok (scope, unit)

def answerTitle (heading : Heading) (scope : Scope) (reference : String) : String :=
  heading.instrumentShortName ++ ", " ++ heading.refLabel ++ ", " ++ scope.orgUnitName ++ ", " ++ reference

def answerEvent (session : Session) (tenant : Id) (answer : Answer) (heading : Heading) (found : Scope × SoaUnit) : AuditEvent where
  action := "register.applicability_set"
  actor := session.actor
  subjectType := "soa_unit"
  subjectId := some answer.unit
  subjectTitle := answerTitle heading found.1 found.2.reference
  summary := "Applicability set to " ++ wordOf answer.applicability ++ "."
  tenantId := some tenant
  after := [("obligationId", .ref answer.obligation), ("applicability", .text (wordOf answer.applicability)),
    ("reason", .text answer.reason), ("orgUnitId", .ref found.1.orgUnit), ("unitId", .ref answer.unit)]

/-- The columns `_update` writes. -/
def SoaUnit.answered (person : Id) (decidedAt : Instant) (answers : List Answer) (unit : SoaUnit) : SoaUnit :=
  match lastAnswer answers unit.id with
  | some answer => { unit with
      applicability := kindOf answer.applicability, applicabilityReason := answer.reason
      applicabilityDecidedAt := some decidedAt, applicabilityDecidedBy := some person, version := unit.version + 1 }
  | none => unit

theorem SoaUnit.answered_id (person : Id) (decidedAt : Instant) (answers : List Answer) (unit : SoaUnit) :
    (unit.answered person decidedAt answers).id = unit.id := by
  unfold answered
  split <;> rfl

/-- `_store`, of answers for units. -/
def store (seen tables : Tables) (session : Session) (now : Instant) (answers : List Answer) (expectedVersion : Option Nat) :
    Except Refusal Tables := do
  let person ← demand session.actor.id { code := "permission_denied", detail := "A person must do this." }
  let headings ← answers.mapM (headingOf seen)
  let found ← answers.mapM (lockedUnit seen tables answers)
  require (∀ expected ∈ expectedVersion, ∀ each ∈ found.head?, expected = each.2.version)
    { code := "stale_write", detail := "Someone changed this first. Reload and try again." }
  let audit ← recordAll tables.audit ((answers.zip (headings.zip found)).map fun each =>
    answerEvent session tables.tenant each.1 each.2.1 each.2.2)
  .ok { tables with
    units := tables.units.update (fun unit => answers.any (·.unit == unit.id)) (SoaUnit.answered person now answers)
      (SoaUnit.answered_id person now answers)
    audit }

/-- `set_applicability`, of a unit. -/
def setApplicability (seen tables : Tables) (session : Session) (now : Instant) (answer : Answer) (expectedVersion : Option Nat) :
    Except Refusal Tables :=
  store seen tables session now [answer] expectedVersion

/-- `set_applicability_many`, of units. -/
def setApplicabilityMany (cap : Nat) (seen tables : Tables) (session : Session) (now : Instant) (answers : List Answer) :
    Except Refusal Tables := do
  require (answers.length ≤ cap) (validationError ("Send at most " ++ toString cap ++ " answers in one call."))
  require ((answers.map fun answer => (answer.obligation, answer.unit)).Nodup)
    (validationError "Each obligation, legal entity or unit may be answered once in a call.")
  store seen tables session now answers none

/-! ## Paste -/

def halfDecided (pasted : PasteLine) : Option PasteProblem :=
  let hasReason := strip (pasted.reason.getD "") != ""
  if pasted.applicability.isSome != hasReason then some .reasonMissing else none

/-- `_problem`. -/
def problemOf (reference title : String) (seen existing : List String) : Option PasteProblem :=
  if reference = "" ∨ title = "" then some .emptyLine
  else if unitReferenceMax < reference.length then some .referenceTooLong
  else if unitTitleMax < title.length then some .titleTooLong
  else if reference ∈ seen then some .duplicateReference
  else if reference ∈ existing then some .referenceExists
  else none

/-- The loop of `paste_units` over the lines. -/
def pasteRows (existing : List String) : Nat → List String → List PasteLine → List PasteRow
  | _, _, [] => []
  | line, seen, pasted :: rest =>
    let reference := strip pasted.reference
    let title := strip pasted.title
    let problem := (problemOf reference title seen existing).or (halfDecided pasted)
    { line, reference, title, outcome := if problem.isSome then .refused else .willCreate, problem } ::
      pasteRows existing (line + 1) (reference :: seen) rest

/-- What `paste_units` checks before it reads the lines. -/
def pasteScope (cap : Nat) (seen : Tables) (obligation : Id) (body : PasteBody) (mayDecide : Bool) :
    Except Refusal (Heading × Scope) := do
  let found ← conformanceScope seen obligation body.orgUnitId
  require (body.lines.length ≤ cap) (validationError ("Paste at most " ++ toString cap ++ " lines in one call."))
  require (mayDecide = true ∨ ∀ pasted ∈ body.lines, pasted.applicability = none) {
    code := "permission_denied", detail := "You do not have access to this."
    extra := [("requiredPermission", .text "applicability.approve")] }
  .ok found

def judgedRows (seen : Tables) (scope : Scope) (body : PasteBody) : List PasteRow :=
  pasteRows ((seen.liveUnits scope.id).map (·.reference)) 1 [] body.lines

def carriedAnswers (obligation : Id) (created : List SoaUnit) (lines : List PasteLine) : List Answer :=
  (created.zip lines).filterMap fun (unit, pasted) => pasted.applicability.map fun answer =>
    { obligation, unit := unit.id, applicability := answer.word, reason := strip (pasted.reason.getD "") }

def createdRows (rows : List PasteRow) (created : List SoaUnit) : List PasteRow :=
  (rows.zip created).map fun (row, unit) => { row with outcome := .created, unitId := some unit.id }

/-- `paste_units`, its checks on the tables as it read them. -/
def pasteUnits (cap : Nat) (seen tables : Tables) (session : Session) (now : Instant) (obligation : Id) (body : PasteBody)
    (mayDecide : Bool) : Except Refusal (Tables × UnitPaste) := do
  let (_, scope) ← pasteScope cap seen obligation body mayDecide
  let rows := judgedRows seen scope body
  if body.dryRun = true ∨ ∃ row ∈ rows, row.problem.isSome = true then
    .ok (tables, { dryRun := true, rows, created := 0 })
  else do
    let (listed, created) ← insertMany tables session scope (rows.map fun row => (row.reference, row.title))
    let answers := carriedAnswers obligation created body.lines
    let stored ← if answers = [] then .ok listed else setApplicabilityMany cap listed listed session now answers
    .ok (stored, { dryRun := false, rows := createdRows rows created, created := created.length })

/-! ## Gaps -/

/-- `_unit` of a gap under way: the live unit under its obligation, locked. -/
def entityOfUnit (tables : Tables) (obligation unit : Id) (orgUnit : Option Id) : Except Refusal Id :=
  Register.entityOfUnit { tenant := tables.tenant, units := tables.soaUnits } obligation unit orgUnit

/-- `create_gap`, the gap's own fields given: what it checks of the unit it names, and the row it writes. -/
def createGap (tables : Tables) (obligation : Id) (gap : Gap) : Except Refusal Tables := do
  let orgUnit ← gap.unit.elim (.ok gap.orgUnit) fun unit => (entityOfUnit tables obligation unit gap.orgUnit).map some
  .ok { tables with gaps := tables.gaps.create (fun id => { gap with id, orgUnit }) fun _ => rfl }

def amendGap (tables : Tables) (gap : Gap) : Tables :=
  { tables with gaps := tables.gaps.update (·.id == gap.id) (fun old => { gap with id := old.id, unit := old.unit }) fun _ => rfl }

end Grc.Register.Units
