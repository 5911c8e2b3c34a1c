import Grc.Shared.Audit

/-! The case state machine: the seven fixed categories, the edges drawn between them and the
guards on each edge. Everything else reads it. -/
namespace Grc.Cases

open Grc.Shared

inductive CaseStatusCategory where
  | new
  | assigned
  | assessing
  | implementing
  | signoff
  | closed
  | dismissed
  deriving DecidableEq

/-- The fixed close categories a bank's own closure reasons sit inside. -/
inductive CloseReason where
  | signedOff
  | notApplicable
  | noAction
  deriving DecidableEq

def CaseStatusCategory.value : CaseStatusCategory → String
  | .new => "new"
  | .assigned => "assigned"
  | .assessing => "assessing"
  | .implementing => "implementing"
  | .signoff => "signoff"
  | .closed => "closed"
  | .dismissed => "dismissed"

/-- `TRANSITIONS`. Only a one-person close reopens; the guard below says so. -/
def transitions : CaseStatusCategory → List CaseStatusCategory
  | .new => [.assigned, .dismissed]
  | .dismissed => [.new]
  | .assigned => [.assessing, .closed]
  | .assessing => [.implementing, .closed]
  | .implementing => [.signoff]
  | .signoff => [.implementing, .closed]
  | .closed => [.new]

def Edge (fromStatus toStatus : CaseStatusCategory) : Prop := toStatus ∈ transitions fromStatus

instance (fromStatus toStatus : CaseStatusCategory) : Decidable (Edge fromStatus toStatus) :=
  inferInstanceAs (Decidable (toStatus ∈ transitions fromStatus))

/-- `ONE_PERSON_CLOSE`: the close reasons one person may choose. -/
def onePersonClose : List CloseReason := [.noAction, .notApplicable]

/-- What the guards read about a case, the move and the person making it. -/
structure CaseFacts where
  ownerSet : Bool
  reasonGiven : Bool
  whySaved : Bool
  openActionCount : Nat
  cleanEvidenceCount : Nat
  signoffRequester : Option Id
  actor : Option Id
  closeReasonKind : Option CloseReason

/-- A named predicate on one edge. `onRequest` guards test what the move supplies. -/
structure Guard where
  name : String
  code : String
  holds : CaseFacts → Bool
  onRequest : Bool := false

def closeReasonGiven : Guard where
  name := "close_reason_given"
  code := "reason_required"
  holds facts := facts.closeReasonKind.isSome
  onRequest := true

/-- `close_reason_kind in ONE_PERSON_CLOSE`, which no missing kind is. -/
def CaseFacts.closesOnOnePerson (facts : CaseFacts) : Bool :=
  match facts.closeReasonKind with
  | none => false
  | some kind => onePersonClose.contains kind

def onePersonCloseGuard : Guard where
  name := "one_person_close"
  code := "four_eyes_violation"
  holds := CaseFacts.closesOnOnePerson
  onRequest := true

def secondPerson : Guard where
  name := "second_person"
  code := "four_eyes_violation"
  holds facts :=
    match facts.signoffRequester, facts.actor with
    | some requester, some actor => actor != requester
    | _, _ => false

/-- `GUARDS`: what an edge asks beyond being drawn. -/
def guards : CaseStatusCategory → CaseStatusCategory → List Guard
  | .new, .assigned =>
    [{ name := "owner_on_triage", code := "owner_required", holds := (·.ownerSet), onRequest := true }]
  | .new, .dismissed =>
    [{ name := "reason_on_dismissal", code := "reason_required", holds := (·.reasonGiven), onRequest := true }]
  | .assigned, .closed => [closeReasonGiven, onePersonCloseGuard]
  | .assessing, .implementing =>
    [{ name := "why_saved", code := "why_required", holds := (·.whySaved) }]
  | .assessing, .closed => [closeReasonGiven, onePersonCloseGuard]
  | .implementing, .signoff =>
    [{ name := "no_open_action", code := "open_actions", holds := (·.openActionCount == 0) },
     { name := "clean_evidence", code := "evidence_missing",
       holds := fun facts => decide (1 ≤ facts.cleanEvidenceCount) }]
  | .signoff, .closed => [secondPerson]
  | .closed, .new =>
    [{ name := "restorable_close", code := "invalid_transition", holds := CaseFacts.closesOnOnePerson }]
  | _, _ => []

/-- `_DETAIL`: the sentence a refused move answers with. -/
def detail : String → String
  | "owner_required" => "Choose an owner to triage the case."
  | "reason_required" => "Choose a reason."
  | "why_required" => "Save why the change matters before starting the work."
  | "open_actions" => "Every action must be done before sign-off can be requested."
  | "evidence_missing" => "Attach at least one piece of evidence before requesting sign-off."
  | "four_eyes_violation" => "A second person must sign off."
  | _ => "This case cannot move there from where it is now."

/-- `InvalidTransition`: `invalid_transition`, or the failing guard's own code. -/
def invalidTransition (code : String) : Refusal := { code, detail := detail code }

/-- Refuse unless the move is drawn and every guard on it holds, first failing guard first. -/
def checkTransition (fromStatus toStatus : CaseStatusCategory) (facts : CaseFacts) :
    Except Refusal Unit :=
  if Edge fromStatus toStatus then
    match (guards fromStatus toStatus).find? (fun guard => !guard.holds facts) with
    | none => .ok ()
    | some guard => .error (invalidTransition guard.code)
  else .error (invalidTransition "invalid_transition")

/-- The categories a case may move to, guards on what the move supplies left aside. -/
def allowedTransitions (category : CaseStatusCategory) (facts : CaseFacts) :
    List CaseStatusCategory :=
  (transitions category).filter fun toStatus =>
    (guards category toStatus).all fun guard => guard.onRequest || guard.holds facts

def isOpen : CaseStatusCategory → Bool
  | .closed | .dismissed => false
  | _ => true

variable {facts : CaseFacts}

theorem checkTransition_ok {fromStatus toStatus : CaseStatusCategory} :
    checkTransition fromStatus toStatus facts = .ok () ↔
      Edge fromStatus toStatus ∧ ∀ guard ∈ guards fromStatus toStatus, guard.holds facts = true := by
  unfold checkTransition
  by_cases drawn : Edge fromStatus toStatus
  · simp only [drawn, if_true, true_and]
    cases failing : (guards fromStatus toStatus).find? (fun guard => !guard.holds facts) with
    | none =>
      have passed := List.find?_eq_none.mp failing
      simpa using passed
    | some guard =>
      have refused := List.find?_some failing
      have member := List.mem_of_find?_eq_some failing
      simp only [reduceCtorEq, false_iff]
      intro passed
      simp [passed guard member] at refused
  · simp [drawn]

theorem Edge.ne {fromStatus toStatus : CaseStatusCategory} (drawn : Edge fromStatus toStatus) :
    toStatus ≠ fromStatus := by
  cases fromStatus <;> cases toStatus <;> simp_all [Edge, transitions]

theorem closesOnOnePerson_iff :
    facts.closesOnOnePerson = true ↔
      ∃ kind, facts.closeReasonKind = some kind ∧ kind ≠ .signedOff := by
  unfold CaseFacts.closesOnOnePerson
  cases facts.closeReasonKind with
  | none => simp
  | some kind => cases kind <;> simp [onePersonClose]

theorem restorable_of_check {toStatus : CaseStatusCategory}
    (checked : checkTransition .closed toStatus facts = .ok ()) :
    toStatus = .new ∧ ∃ kind, facts.closeReasonKind = some kind ∧ kind ≠ .signedOff := by
  obtain ⟨drawn, passed⟩ := checkTransition_ok.mp checked
  have same : toStatus = .new := by simpa [Edge, transitions] using drawn
  subst same
  exact ⟨rfl, closesOnOnePerson_iff.mp (by simpa [guards] using passed)⟩

theorem signoff_of_check {fromStatus : CaseStatusCategory}
    (checked : checkTransition fromStatus .signoff facts = .ok ()) :
    fromStatus = .implementing ∧ facts.openActionCount = 0 ∧ 1 ≤ facts.cleanEvidenceCount := by
  obtain ⟨drawn, passed⟩ := checkTransition_ok.mp checked
  have same : fromStatus = .implementing := by
    cases fromStatus <;> simp_all [Edge, transitions]
  subst same
  simpa [guards] using passed

theorem secondPerson_of_check
    (checked : checkTransition .signoff .closed facts = .ok ()) :
    ∃ requester actor, facts.signoffRequester = some requester ∧ facts.actor = some actor ∧
      actor ≠ requester := by
  obtain ⟨_, passed⟩ := checkTransition_ok.mp checked
  have holds := passed secondPerson (by simp [guards])
  simp only [secondPerson] at holds
  split at holds
  · rename_i requester actor requested acting
    exact ⟨requester, actor, requested, acting, by simpa using holds⟩
  · simp at holds

end Grc.Cases

/-! The stored rows of one bank's case and the lists of the bank its moves are resolved
against. A stored case carries the database's CHECKs, so no write can break them. -/
namespace Grc.Cases

open Grc.Shared

/-- A calendar date, by its ordinal. -/
abbrev Date := Nat

/-- A row of a bank's list. Its key never changes once stored. -/
structure ListRow where
  id : Id
  key : String

structure CaseSubStatus extends ListRow where
  kind : CaseStatusCategory

structure ClosureReason extends ListRow where
  kind : Option CloseReason
  active : Bool := true

structure ChangeCase where
  id : Id
  tenantId : Id
  changeId : Id
  changeTitle : String := ""
  status : CaseStatusCategory := .new
  urgency : ListRow
  urgencyConfirmed : Bool := false
  footprintMatch : Bool
  owner : Option Id := none
  ownerTeam : Option ListRow := none
  soWhatText : String := ""
  soWhatConfirmed : Bool := false
  soWhatConfirmedBy : Option Id := none
  soWhatConfirmedAt : Option Instant := none
  subStatus : Option CaseSubStatus := none
  triagedBy : Option Id := none
  triagedAt : Option Instant := none
  dismissedReason : Option ListRow := none
  dismissedBy : Option Id := none
  dismissedAt : Option Instant := none
  signoffRequestedBy : Option Id := none
  signoffRequestedAt : Option Instant := none
  signedOffBy : Option Id := none
  closeReason : Option ClosureReason := none
  closedNote : String := ""
  closedAt : Option Instant := none
  triageDueAt : Option Instant := none
  version : Nat := 1

/-- `OWNED_CATEGORIES`: a case in any of them has an owner. -/
def ownedCategories : List CaseStatusCategory := [.assigned, .assessing, .implementing, .signoff]

/-- The CHECK constraints of `change_case`. -/
structure ChangeCase.Checked (row : ChangeCase) : Prop where
  soWhatConfirmationNamesAPerson :
    row.soWhatConfirmed = row.soWhatConfirmedBy.isSome ∧ row.soWhatConfirmed = row.soWhatConfirmedAt.isSome
  dismissalNeedsAReason : row.status = .dismissed → row.dismissedReason.isSome = true
  workedCaseHasAnOwner : row.status ∈ ownedCategories → row.owner.isSome = true
  fourEyes : row.signedOffBy.isSome = true →
    row.signoffRequestedBy.isSome = true ∧ row.signedOffBy ≠ row.signoffRequestedBy

instance (row : ChangeCase) : Decidable row.Checked :=
  decidable_of_iff
    ((row.soWhatConfirmed = row.soWhatConfirmedBy.isSome ∧ row.soWhatConfirmed = row.soWhatConfirmedAt.isSome) ∧
      (row.status = .dismissed → row.dismissedReason.isSome = true) ∧
      (row.status ∈ ownedCategories → row.owner.isSome = true) ∧
      (row.signedOffBy.isSome = true →
        row.signoffRequestedBy.isSome = true ∧ row.signedOffBy ≠ row.signoffRequestedBy))
    ⟨fun ⟨confirmed, dismissal, owned, eyes⟩ => ⟨confirmed, dismissal, owned, eyes⟩,
      fun ⟨confirmed, dismissal, owned, eyes⟩ => ⟨confirmed, dismissal, owned, eyes⟩⟩

inductive AssessmentApplies where
  | yes
  | partly
  | no
  deriving DecidableEq

def AssessmentApplies.value : AssessmentApplies → String
  | .yes => "yes"
  | .partly => "partly"
  | .no => "no"

structure ImpactAssessment where
  applies : AssessmentApplies := .yes
  why : String := ""
  whatMustChange : String := ""
  internalDeadline : Option Date := none
  effort : Option ListRow := none
  saved : Bool := false
  savedBy : Option Id := none
  savedAt : Option Instant := none
  version : Nat := 1

/-- One thing that must be done. It is removed with `removedAt`, never deleted. -/
structure Action where
  id : Id
  title : String
  owner : Id
  dueDate : Date
  createdBy : Id
  doneAt : Option Instant := none
  doneBy : Option Id := none
  removedAt : Option Instant := none
  removedBy : Option Id := none
  version : Nat := 1

def Action.isOpen (row : Action) : Bool := row.doneAt.isNone && row.removedAt.isNone

def Action.live (row : Action) : Bool := row.removedAt.isNone

inductive EvidenceKind where
  | file
  | link
  | reference
  deriving DecidableEq

def EvidenceKind.value : EvidenceKind → String
  | .file => "file"
  | .link => "link"
  | .reference => "reference"

inductive ScanState where
  | pending
  | clean
  | infected
  | error
  deriving DecidableEq

def ScanState.value : ScanState → String
  | .pending => "pending"
  | .clean => "clean"
  | .infected => "infected"
  | .error => "error"

structure Evidence where
  id : Id
  kind : EvidenceKind
  name : String
  storageKey : String := ""
  url : String := ""
  contentHash : String := ""
  sizeBytes : Option Nat := none
  mimeType : String := ""
  uploadedBy : Id
  removedAt : Option Instant := none
  scanState : ScanState := .pending
  scannedAt : Option Instant := none

def Evidence.live (row : Evidence) : Bool := row.removedAt.isNone

def Evidence.isClean (row : Evidence) : Bool := row.live && row.scanState == .clean

/-- One move of a case, written in the transaction of the move. -/
structure CaseTransition where
  fromStatus : CaseStatusCategory
  toStatus : CaseStatusCategory
  movedAt : Instant
  byUser : Option Id
  note : String := ""
  deriving DecidableEq

/-- Everything one case holds: its row, what hangs off it, its ledger and its audit rows. -/
structure CaseFile where
  case : ChangeCase
  checked : case.Checked
  assessment : Option ImpactAssessment := none
  actions : List Action := []
  evidence : List Evidence := []
  transitions : List CaseTransition := []
  audit : List AuditEvent := []

def CaseFile.openActionCount (file : CaseFile) : Nat := (file.actions.filter Action.isOpen).length

def CaseFile.cleanEvidenceCount (file : CaseFile) : Nat := (file.evidence.filter Evidence.isClean).length

end Grc.Cases
