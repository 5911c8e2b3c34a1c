import Grc.Lib.Runs
import Grc.Library.Reading
import Grc.Register.Status

/-! Gaps and risk acceptance: recording a gap, amending it, and accepting its risk behind four eyes. -/
namespace Grc.Register

open Grc.Shared Grc.Lib
open Grc.Library (validationError)

/-- `GapCategory`. -/
inductive GapCategory where
  | open_
  | remediating
  | riskAccepted
  | closed
  deriving DecidableEq

namespace GapCategory

def movable : List GapCategory := [open_, remediating]

def patchTargets : List GapCategory := movable ++ [closed]

def reopenable : List GapCategory := [closed, riskAccepted]

end GapCategory

/-- A row of the bank's gap status list. -/
structure GapStatus where
  id : Id
  key : String
  kind : GapCategory
  active : Bool := true
  isSystem : Bool := false

/-- A row of another of the bank's lists, as a gap names it. -/
structure ListKey where
  id : Id
  key : String
  active : Bool := true

structure Gap where
  id : Id
  tenantObligation : Id
  orgUnit : Option Id := none
  unit : Option Id := none
  title : String
  description : String := ""
  severity : Id
  source : Id
  status : Id
  identifiedBy : Id
  owner : Option Id := none
  ownerTeam : Option Id := none
  targetDate : Option Day := none
  remediation : String := ""
  acceptanceReason : Option Id := none
  acceptanceNote : String := ""
  acceptanceRequestedBy : Option Id := none
  acceptanceRequestedAt : Option Instant := none
  acceptedBy : Option Id := none
  acceptedAt : Option Instant := none
  closedBy : Option Id := none
  closedAt : Option Instant := none
  version : Nat := 1

/-- `ACCEPTED_FACTS`: what a risk acceptance is given on. -/
structure AcceptedFacts where
  title : String
  description : String
  remediation : String
  severity : Id
  targetDate : Option Day

def Gap.acceptedFacts (gap : Gap) : AcceptedFacts where
  title := gap.title
  description := gap.description
  remediation := gap.remediation
  severity := gap.severity
  targetDate := gap.targetDate

/-- A register entry, as a gap reads it. -/
structure EntryAnswer where
  id : Id
  obligation : Id
  applicability : Applicability := .notAssessed

/-- A legal entity's answer under an entry. -/
structure EntityAnswer where
  tenantObligation : Id
  orgUnit : Id
  product : Option Id := none
  applicability : Applicability

/-- A unit of a Statement of Applicability, under its obligation and legal entity. -/
structure SoaUnit where
  id : Id
  obligation : Id
  orgUnit : Id
  applicability : Applicability
  removed : Bool := false

/-- What a gap reads of its bank. -/
structure Bank where
  tenant : Id
  /-- The obligations the bank sees. -/
  headings : List (Id × String) := []
  entries : Keyed EntryAnswer.id := {}
  answers : List EntityAnswer := []
  units : List SoaUnit := []
  legalEntities : List Id := []
  activeMembers : List Id := []
  statuses : Keyed GapStatus.id := {}
  ratings : List ListKey := []
  sources : List ListKey := []
  reasons : List ListKey := []
  teams : List ListKey := []

structure GapStore where
  bank : Bank
  gaps : Keyed Gap.id := {}
  audit : List AuditEvent := []

/-- `RegisterGapBody`. -/
structure GapBody where
  title : String
  description : Option String := none
  severity : String
  source : String
  orgUnitId : Option Id := none
  unitId : Option Id := none
  ownerId : Option Id := none
  ownerTeam : Option String := none
  targetDate : Option Day := none
  remediation : Option String := none

/-- `RegisterGapPatch`, a field left out or null as none. -/
structure GapPatch where
  title : Option String := none
  description : Option String := none
  severity : Option String := none
  status : Option String := none
  ownerId : Option Id := none
  ownerTeam : Option String := none
  targetDate : Option Day := none
  remediation : Option String := none

/-- `RegisterRiskAcceptanceBody`. -/
structure RiskAcceptanceBody where
  reason : String
  note : Option String := none

/-- `_row`: an active row of a list by key. -/
def activeRow (rows : List ListKey) (listName key : String) : Except Refusal Id :=
  (demand (rows.find? fun row => row.key == key && row.active) {
    code := "unknown_key"
    detail := quoted key ++ " is not in the bank's " ++ listName ++ " list. Use one of: " ++
      joined ((rows.filter (·.active)).map (·.key)) ++ "." }).map (·.id)

/-- `_row(GapStatus, …)`. -/
def activeStatus (bank : Bank) (key : String) : Except Refusal GapStatus :=
  demand (bank.statuses.rows.find? fun row => row.key == key && row.active) {
    code := "unknown_key"
    detail := quoted key ++ " is not in the bank's gap_status list. Use one of: " ++
      joined ((bank.statuses.rows.filter (·.active)).map (·.key)) ++ "." }

/-- `_category_row`: the one system row of a category. -/
def categoryRow (bank : Bank) (category : GapCategory) : Except Refusal GapStatus :=
  match bank.statuses.rows.filter fun row => row.kind == category && row.isSystem with
  | [row] => .ok row
  | _ => .error internalError

def kindOf (bank : Bank) (status : Id) : Option GapCategory := (bank.statuses.rows.find? (·.id == status)).map (·.kind)

/-- `_category`. -/
def categoryOf (bank : Bank) (gap : Gap) : Except Refusal GapCategory := demand (kindOf bank gap.status) internalError

/-- `_member`. -/
def memberOf (bank : Bank) (user : Id) : Except Refusal Id := do
  require (user ∈ bank.activeMembers) { code := "unknown_member", detail := "That person is not an active member of the bank." }
  .ok user

/-- `_owner`: the owner columns a write sets, a person or a team. -/
def ownerOf (bank : Bank) (ownerId : Option Id) (ownerTeam : Option String) : Except Refusal (Option (Option Id × Option Id)) := do
  require (ownerId = none ∨ ownerTeam = none) (validationError "A gap is owned by a person or a team, not both.")
  match ownerId, ownerTeam with
  | some person, _ => (memberOf bank person).map fun person => some (some person, none)
  | none, some team => (activeRow bank.teams "team" team).map fun team => some (none, some team)
  | none, none => .ok none

def refuseDoesNotApply (applicability : Applicability) : Except Refusal Unit :=
  require (applicability ≠ .doesNotApply) {
    code := "does_not_apply", detail := "This obligation does not apply here, so it has no gap. Set it to apply first." }

/-- `_entity`. -/
def requireEntity (bank : Bank) (entry : Option EntryAnswer) (orgUnit : Id) : Except Refusal Unit := do
  require (orgUnit ∈ bank.legalEntities) { code := "not_found", detail := "That legal entity is not here." }
  match entry.bind fun entry => bank.answers.find? fun answer =>
      answer.tenantObligation == entry.id && answer.orgUnit == orgUnit && answer.product == none with
  | some answer => refuseDoesNotApply answer.applicability
  | none => .ok ()

/-- `_unit`: the legal entity of a live unit under the obligation. -/
def entityOfUnit (bank : Bank) (obligation unit : Id) (orgUnit : Option Id) : Except Refusal Id := do
  let unknown : Refusal := {
    code := "unknown_unit", detail := "That unit is not one of this obligation's units for this legal entity." }
  let unit ← demand (bank.units.find? fun row => row.id == unit && !row.removed && row.obligation == obligation) unknown
  require (orgUnit = none ∨ orgUnit = some unit.orgUnit) unknown
  refuseDoesNotApply unit.applicability
  .ok unit.orgUnit

/-- `_locked`: the gap's row. -/
def locked (store : GapStore) (gap : Id) : Except Refusal Gap :=
  demand (store.gaps.rows.find? (·.id == gap)) { code := "not_found", detail := "That gap is not here." }

def who (actor : Actor) : Except Refusal Id := demand actor.id { code := "forbidden", detail := "Only a person works on gaps." }

/-- `_invalid`. -/
def invalidTransition (detail : String) : Refusal := { code := "invalid_transition", detail }

/-- `_facts`: what an audit row may say about a gap. -/
def gapFacts (bank : Bank) (gap : Gap) : List (String × AuditValue) :=
  let keyIn (rows : List ListKey) (id : Id) : Option String := (rows.find? (·.id == id)).map (·.key)
  let statusKey := (bank.statuses.rows.find? (·.id == gap.status)).map (·.key)
  [("severity", .ofText (keyIn bank.ratings gap.severity)), ("source", .ofText (keyIn bank.sources gap.source)),
    ("status", .ofText statusKey), ("ownerId", .ofId gap.owner), ("ownerTeam", .ofText (gap.ownerTeam.bind (keyIn bank.teams))),
    ("targetDate", .ofText (gap.targetDate.map Library.isoformat)), ("orgUnitId", .ofId gap.orgUnit), ("unitId", .ofId gap.unit)]

def gapEvent (action summary : String) (actor : Actor) (tenant : Id) (gap : Gap) (before after : List (String × AuditValue))
    (stepUp : Option Id) : AuditEvent where
  action := action
  actor := actor
  subjectType := "gap"
  subjectId := some gap.id
  subjectTitle := gap.title
  summary := summary
  tenantId := some tenant
  before := before
  after := after
  stepUpAssertionId := stepUp

/-- `ensure_register_entry`: the bank's entry on an obligation, created by the first write that needs it. -/
def ensureRegisterEntry (store : GapStore) (actor : Actor) (obligation : Id) : Except Refusal (GapStore × Id) :=
  match store.bank.entries.rows.find? (·.obligation == obligation) with
  | some entry => .ok (store, entry.id)
  | none => do
    let heading ← demand (store.bank.headings.find? (·.1 == obligation)) {
      code := "not_found", detail := "That obligation is not here." }
    let id := store.bank.entries.fresh
    let event : AuditEvent := {
      action := "register.entry_created", actor, subjectType := "tenant_obligation", subjectId := some id
      subjectTitle := heading.2, summary := "Register entry created.", tenantId := some store.bank.tenant
      after := [("obligationId", .ref obligation), ("applicability", .text "not_assessed")] }
    let entries := store.bank.entries.create (fun id => { id, obligation }) fun _ => rfl
    .ok ({ store with bank := { store.bank with entries }, audit := record store.audit event }, id)

def createGap (store : GapStore) (actor : Actor) (obligation : Id) (body : GapBody) : Except Refusal GapStore := do
  let bank := store.bank
  let existing := bank.entries.rows.find? (·.obligation == obligation)
  existing.elim (.ok ()) fun entry => refuseDoesNotApply entry.applicability
  let orgUnit ← body.unitId.elim (.ok body.orgUnitId) fun unit => (entityOfUnit bank obligation unit body.orgUnitId).map some
  orgUnit.elim (.ok ()) (requireEntity bank existing)
  let severity ← activeRow bank.ratings "risk_rating" body.severity
  let source ← activeRow bank.sources "gap_source" body.source
  let owner ← ownerOf bank body.ownerId body.ownerTeam
  let (entered, entry) ← ensureRegisterEntry store actor obligation
  let status ← categoryRow bank .open_
  let identifiedBy ← who actor
  let make (id : Id) : Gap := {
    id, tenantObligation := entry, orgUnit, unit := body.unitId, title := body.title
    description := body.description.getD "", severity, source, status := status.id, identifiedBy
    owner := owner.bind Prod.fst, ownerTeam := owner.bind Prod.snd, targetDate := body.targetDate
    remediation := body.remediation.getD "" }
  let gap := make entered.gaps.fresh
  .ok { entered with
    gaps := entered.gaps.create make fun _ => rfl
    audit := record entered.audit (gapEvent "register.gap_recorded" "Gap recorded." actor bank.tenant gap []
      (("obligationId", .ref obligation) :: gapFacts bank gap) none) }

def Gap.noAcceptance (gap : Gap) : Gap :=
  { gap with
    acceptanceReason := none, acceptanceNote := "", acceptanceRequestedBy := none, acceptanceRequestedAt := none
    acceptedBy := none, acceptedAt := none }

/-- What a patch changes, its keys resolved. -/
structure GapChanges where
  title : Option String
  description : Option String
  remediation : Option String
  targetDate : Option Day
  severity : Option Id
  owner : Option (Option Id × Option Id)
  status : Option GapStatus

def GapPatch.restates (body : GapPatch) : Bool :=
  body.title.isSome || body.description.isSome || body.remediation.isSome || body.severity.isSome || body.targetDate.isSome

/-- The columns a patch sets. -/
def GapChanges.apply (changes : GapChanges) (actor : Actor) (at_ : Instant) (gap : Gap) : Gap :=
  let amended := { gap with
    title := changes.title.getD gap.title
    description := changes.description.getD gap.description
    remediation := changes.remediation.getD gap.remediation
    targetDate := changes.targetDate <|> gap.targetDate
    severity := changes.severity.getD gap.severity
    owner := changes.owner.elim gap.owner Prod.fst
    ownerTeam := changes.owner.elim gap.ownerTeam Prod.snd
    status := changes.status.elim gap.status (·.id)
    version := gap.version + 1 }
  -- a waiting acceptance is moot once the gap is closed
  if changes.status.map (·.kind) = some .closed
  then { amended.noAcceptance with closedBy := actor.id, closedAt := some at_ } else amended

theorem GapChanges.apply_id (changes : GapChanges) (actor : Actor) (at_ : Instant) (gap : Gap) :
    (changes.apply actor at_ gap).id = gap.id := by
  unfold GapChanges.apply
  split
  · rfl
  · rfl

/-- `gap.save()`, with its audit row. -/
def saveGap (store : GapStore) (gap : Id) (change : Gap → Gap) (named : ∀ gap, (change gap).id = gap.id) (event : AuditEvent) : GapStore :=
  { store with gaps := store.gaps.update (·.id == gap) change named, audit := record store.audit event }

def GapPatch.edited (body : GapPatch) : List String :=
  (if body.title.isSome then ["title"] else []) ++ (if body.description.isSome then ["description"] else []) ++
    if body.remediation.isSome then ["remediation"] else []

def updateGap (store : GapStore) (actor : Actor) (at_ : Instant) (id : Id) (body : GapPatch) (expectedVersion : Option Nat) :
    Except Refusal GapStore := do
  let bank := store.bank
  let gap ← locked store id
  require (expectedVersion = some gap.version) {
    code := "stale_write", detail := "Someone changed this gap since you read it. Reload it and try again." }
  mayRestate bank gap body
  let severity ← optionally (activeRow bank.ratings "risk_rating") body.severity
  let owner ← ownerOf bank body.ownerId body.ownerTeam
  let status ← optionally (movedTo bank actor gap) body.status
  let changes : GapChanges := {
    title := body.title, description := body.description, remediation := body.remediation, targetDate := body.targetDate
    severity, owner, status }
  let changed := changes.apply actor at_ gap
  .ok (saveGap store gap.id (changes.apply actor at_) (changes.apply_id actor at_)
    (gapEvent "register.gap_amended" "Gap amended." actor bank.tenant changed (gapFacts bank gap)
      (gapFacts bank changed ++ [("edited", .texts body.edited)]) none))
where
  /-- A risk acceptance holds the facts the second person saw. -/
  mayRestate (bank : Bank) (gap : Gap) (body : GapPatch) : Except Refusal Unit :=
    if body.restates = true then do
      let category ← categoryOf bank gap
      require (category ≠ .riskAccepted)
        (invalidTransition "The risk on this gap was accepted as it stands. Reopen the gap to change it.")
      require (gap.acceptanceRequestedBy = none) {
        code := "request_pending"
        detail := "A risk acceptance is waiting for approval on this gap as it stands. Close the gap or wait for the decision." }
    else .ok ()
  /-- The status a patch names, when the gap may move there. -/
  movedTo (bank : Bank) (actor : Actor) (gap : Gap) (key : String) : Except Refusal GapStatus := do
    let target ← activeStatus bank key
    let category ← categoryOf bank gap
    require (category ∈ GapCategory.movable ∧ target.kind ∈ GapCategory.patchTargets) (invalidTransition
      "A gap moves between open and remediating and on to closed here; accept a risk or reopen a gap with its own action.")
    if target.kind = .closed then (who actor).map fun _ => target else .ok target

def Gap.askAcceptance (reason requester : Id) (note : String) (at_ : Instant) (gap : Gap) : Gap :=
  { gap with
    acceptanceReason := some reason, acceptanceNote := note, acceptanceRequestedBy := some requester
    acceptanceRequestedAt := some at_, version := gap.version + 1 }

def requestRiskAcceptance (store : GapStore) (actor : Actor) (at_ : Instant) (id : Id) (body : RiskAcceptanceBody) :
    Except Refusal GapStore := do
  let gap ← locked store id
  let category ← categoryOf store.bank gap
  require (category ∈ GapCategory.movable) (invalidTransition "Only an open or remediating gap can have its risk accepted.")
  require (gap.acceptanceRequestedBy = none) {
    code := "request_pending", detail := "A risk acceptance is already waiting for approval on this gap." }
  let reason ← activeRow store.bank.reasons "risk_acceptance_reason" body.reason
  let requester ← who actor
  .ok (saveGap store gap.id (Gap.askAcceptance reason requester (body.note.getD "") at_) (fun _ => rfl)
    (gapEvent "register.gap_risk_acceptance_requested" "Risk acceptance requested." actor store.bank.tenant gap []
      [("reason", .text body.reason), ("requestedBy", .ref requester)] none))

def Gap.accept (status approver : Id) (at_ : Instant) (gap : Gap) : Gap :=
  { gap with status, acceptedBy := some approver, acceptedAt := some at_, version := gap.version + 1 }

/-- `approve_risk_acceptance`: the second person accepts the risk. -/
def approveRiskAcceptance (store : GapStore) (actor : Actor) (at_ : Instant) (id stepUp : Id) : Except Refusal GapStore := do
  let gap ← locked store id
  let category ← categoryOf store.bank gap
  require (gap.acceptanceRequestedBy ≠ none ∧ gap.acceptedBy = none ∧ category ∈ GapCategory.movable)
    (invalidTransition "No risk acceptance is waiting for approval on this gap.")
  let approver ← who actor
  require (gap.acceptanceRequestedBy ≠ some approver) {
    code := "four_eyes_violation", detail := "You asked for this risk to be accepted, so someone else approves it." }
  let status ← categoryRow store.bank .riskAccepted
  let accepted := gap.accept status.id approver at_
  let reason := (gap.acceptanceReason.bind fun id => store.bank.reasons.find? (·.id == id)).map (·.key)
  .ok (saveGap store gap.id (Gap.accept status.id approver at_) (fun _ => rfl)
    (gapEvent "register.gap_risk_accepted" "Risk accepted." actor store.bank.tenant gap (gapFacts store.bank gap)
      (gapFacts store.bank accepted ++ [("reason", .ofText reason), ("requestedBy", .ofId gap.acceptanceRequestedBy),
        ("approvedBy", .ref approver)]) (some stepUp)))

def Gap.reopen (status : Id) (gap : Gap) : Gap :=
  { gap.noAcceptance with closedBy := none, closedAt := none, status, version := gap.version + 1 }

def reopenGap (store : GapStore) (actor : Actor) (id : Id) : Except Refusal GapStore := do
  let gap ← locked store id
  let category ← categoryOf store.bank gap
  require (category ∈ GapCategory.reopenable) (invalidTransition "Only a closed or risk-accepted gap can be reopened.")
  let status ← categoryRow store.bank .open_
  .ok (saveGap store gap.id (Gap.reopen status.id) (fun _ => rfl)
    (gapEvent "register.gap_reopened" "Gap reopened." actor store.bank.tenant gap (gapFacts store.bank gap)
      (gapFacts store.bank (gap.reopen status.id)) none))

end Grc.Register
