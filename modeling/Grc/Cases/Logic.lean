import Grc.Cases.State
import Grc.Lib.Checks

/-! What every case workflow module shares: the bank a call is made in, `If-Match`, the facts
the guards read and the one way a case changes category. -/
namespace Grc.Cases

open Grc.Shared Grc.Lib

/-- What a call reads of the bank beside its case, as it stands when the call is made. -/
structure Bank where
  now : Instant := 0
  urgencies : List ListRow := []
  teams : List ListRow := []
  efforts : List ListRow := []
  dismissalReasons : List ListRow := []
  /-- The bank's active sub-statuses. -/
  subStatuses : List CaseSubStatus := []
  /-- The bank's closure reasons, retired ones included. -/
  closureReasons : List ClosureReason := []
  /-- The system row keyed `signed_off` is seeded with its kind, and no edit changes either. -/
  signedOffKind : ∀ reason ∈ closureReasons, reason.key = "signed_off" → reason.kind = some .signedOff
  /-- Active members of the bank, and those of them whose roles work cases. -/
  members : List Id := []
  caseWorkers : List Id := []
  /-- Memberships not deactivated, and those whose roles hold `cases.work`. -/
  memberships : List Id := []
  workRoles : List Id := []
  /-- The absent approvers a delegate stands in for, the requester left out. -/
  onBehalfOf : Id → Option Id → List String := fun _ _ => []
  caseActionsMax : Nat := 200
  caseEvidenceMax : Nat := 200

/-- A bank that has filled no list yet. -/
def Bank.bare : Bank := { signedOffKind := by simp }

def moved : String := "case.moved"

def caseSubject : String := "change_case"

/-- `StaleWrite`: `If-Match` missing or older than the row. -/
def staleWrite (currentVersion : Nat) : Refusal where
  code := "stale_write"
  detail := "Someone changed this case first. Reload it and try again."
  extra := [("currentVersion", .number currentVersion)]

def checkVersion (version : Nat) (expected : Option Nat) : Except Refusal Unit :=
  require (expected = some version) (staleWrite version)

def closeReasonKind (case : ChangeCase) : Option CloseReason := case.closeReason.bind (·.kind)

/-- The guards' facts: what a move supplies is read off the row the caller has set in memory,
the counts and the saved assessment off what is stored. -/
def caseFacts (file : CaseFile) (case : ChangeCase) (actor : Option Id) : CaseFacts where
  ownerSet := case.owner.isSome
  reasonGiven := case.dismissedReason.isSome
  whySaved := file.assessment.any (·.saved)
  openActionCount := file.openActionCount
  cleanEvidenceCount := file.cleanEvidenceCount
  signoffRequester := case.signoffRequestedBy
  actor := actor
  closeReasonKind := closeReasonKind case

/-- `case.save()`: the row as set in memory, unless a CHECK of the table refuses it. -/
def save (file : CaseFile) (case : ChangeCase) : Except Refusal CaseFile :=
  if checked : case.Checked then .ok { file with case, checked } else .error internalError

/-- What a move adds beside its row: the note on the ledger and the audit row's extras. -/
structure MoveNote where
  note : String := ""
  audit : List (String × AuditValue) := []
  stepUpAssertionId : Option Id := none

/-- The audit row of one move. -/
def movedEvent (actor : Actor) (case : ChangeCase) (toStatus : CaseStatusCategory) (extras : MoveNote) :
    AuditEvent where
  action := moved
  actor := actor
  subjectType := caseSubject
  subjectId := some case.id
  subjectTitle := case.changeTitle
  summary := actor.label ++ " moved a case from " ++ case.status.value ++ " to " ++ toStatus.value ++ "."
  tenantId := some case.tenantId
  before := [("status", .text case.status.value)]
  after := [("status", .text toStatus.value), ("version", .number (case.version + 1))] ++ extras.audit
  stepUpAssertionId := extras.stepUpAssertionId

/-- Move `case` to `toStatus` if the state machine allows it, or refuse and write nothing. -/
def transition (bank : Bank) (file : CaseFile) (case : ChangeCase) (toStatus : CaseStatusCategory)
    (actor : Actor) (user : Option Id) (extras : MoveNote := {}) : Except Refusal CaseFile := do
  checkTransition case.status toStatus (caseFacts file case user)
  let saved ← save file { case with status := toStatus, version := case.version + 1 }
  let row : CaseTransition :=
    { fromStatus := case.status, toStatus, movedAt := bank.now, byUser := user, note := extras.note }
  .ok { saved with
    transitions := file.transitions ++ [row]
    audit := record file.audit (movedEvent actor case toStatus extras) }

/-- `_row`: the row a key names in a list, or `unknown_key` with the list's valid keys. -/
def namedRow {Row : Type} (listName : String) (keyOf : Row → String) (rows : List Row) (key : String) :
    Except Refusal Row :=
  let valid := rows.map keyOf
  demand (rows.find? fun row => keyOf row == key)
    { code := "unknown_key"
      detail := "Not a " ++ listName ++ " key: " ++ key ++ ". Valid keys: " ++ ", ".intercalate valid ++ "."
      extra := [("vocabulary", .text listName), ("validKeys", .texts valid)] }

theorem save_ok {file next : CaseFile} {case : ChangeCase} :
    save file case = .ok next ↔ ∃ checked : case.Checked, next = { file with case, checked } := by
  unfold save
  split
  · rename_i checked
    simp [checked, eq_comm]
  · rename_i refused
    simp [refused]

theorem CaseFile.signer_ne_requester (file : CaseFile) {signer : Id}
    (signed : file.case.signedOffBy = some signer) :
    ∃ requester, file.case.signoffRequestedBy = some requester ∧ signer ≠ requester := by
  obtain ⟨requested, different⟩ := file.checked.fourEyes (by simp [signed])
  obtain ⟨requester, same⟩ := Option.isSome_iff_exists.mp requested
  refine ⟨requester, same, ?_⟩
  rintro rfl
  exact different (signed.trans same.symm)

theorem transition_ok {bank : Bank} {file next : CaseFile} {case : ChangeCase}
    {toStatus : CaseStatusCategory} {actor : Actor} {user : Option Id} {extras : MoveNote} :
    transition bank file case toStatus actor user extras = .ok next ↔
      checkTransition case.status toStatus (caseFacts file case user) = .ok () ∧
        ∃ checked : { case with status := toStatus, version := case.version + 1 : ChangeCase }.Checked,
          next = { file with
            case := { case with status := toStatus, version := case.version + 1 }
            checked
            transitions := file.transitions ++
              [{ fromStatus := case.status, toStatus, movedAt := bank.now, byUser := user,
                 note := extras.note }]
            audit := file.audit ++ [movedEvent actor case toStatus extras] } := by
  unfold transition
  simp only [bind_ok, save_ok]
  constructor
  · rintro ⟨_, allowed, saved, ⟨checked, rfl⟩, accepted⟩
    cases accepted
    exact ⟨allowed, checked, rfl⟩
  · rintro ⟨allowed, checked, rfl⟩
    exact ⟨(), allowed, _, ⟨checked, rfl⟩, rfl⟩

theorem namedRow_ok {Row : Type} {listName key : String} {keyOf : Row → String} {rows : List Row}
    {row : Row} (found : namedRow listName keyOf rows key = .ok row) : row ∈ rows ∧ keyOf row = key := by
  have first : rows.find? (fun row => keyOf row == key) = some row := by simpa [namedRow] using found
  exact ⟨List.mem_of_find?_eq_some first, by simpa using List.find?_some first⟩

end Grc.Cases

/-! One case per bank per change: what `create_cases` writes for one bank. -/
namespace Grc.Cases

open Grc.Shared

/-- What a case carries of its change. -/
structure ChangeFacts where
  id : Id
  title : String := ""
  urgency : ListRow
  soWhatDraft : String := ""

/-- `_create_case`: a case in `new`, the change's suggestions unconfirmed on it. -/
def createCase (id tenantId : Id) (facts : ChangeFacts) (footprintMatch : Bool) (triageDueAt : Instant) :
    CaseFile where
  case :=
    { id, tenantId, changeId := facts.id, changeTitle := facts.title, urgency := facts.urgency,
      footprintMatch, soWhatText := facts.soWhatDraft, triageDueAt := some triageDueAt }
  checked := ⟨by simp, by simp, by simp [ownedCategories], by simp⟩
  audit :=
    [{ action := "case.created", actor := .ofSystem "change-registered", subjectType := caseSubject,
       subjectId := some id, subjectTitle := facts.title,
       summary := "A registered change opened a case that needs triage.", tenantId := some tenantId,
       after := [("status", .text "new"), ("footprintMatch", .flag footprintMatch),
         ("urgencyConfirmed", .flag false)] }]

end Grc.Cases

/-! Sign-off: requested by one person, approved by a second with a passkey, or sent back. -/
namespace Grc.Cases

open Grc.Shared Grc.Lib

/-- `implementing` to `signoff`. A refusal for open actions or missing evidence carries the
counts beside its code. -/
def requestSignoff (bank : Bank) (actor : Actor) (user : Id) (expectedVersion : Option Nat)
    (file : CaseFile) : Except Refusal CaseFile := do
  checkVersion file.case.version expectedVersion
  let case := { file.case with
    signoffRequestedBy := some user
    signoffRequestedAt := some bank.now }
  match transition bank file case .signoff actor (some user) with
  | .ok next => .ok next
  | .error refusal =>
    if refusal.code ∈ ["open_actions", "evidence_missing"] then
      .error { refusal with extra :=
        [("openActionCount", .number file.openActionCount),
         ("cleanEvidenceCount", .number file.cleanEvidenceCount)] }
    else .error refusal

/-- `signoff` to `closed` by a second person, the step-up named on the audit row. Only the
sign-off edge: the other ways to `closed` are another route. -/
def approveSignoff (bank : Bank) (actor : Actor) (user : Id) (expectedVersion : Option Nat)
    (note : String) (stepUpAssertionId : Id) (file : CaseFile) : Except Refusal CaseFile := do
  checkVersion file.case.version expectedVersion
  require (file.case.status = .signoff) (invalidTransition "invalid_transition")
  let reason ← demand (bank.closureReasons.find? fun row => row.key == "signed_off") internalError
  let case := { file.case with
    signedOffBy := some user
    closeReason := some reason
    closedNote := note
    closedAt := some bank.now }
  let absent := match bank.onBehalfOf user file.case.signoffRequestedBy with
    | [] => []
    | names => [("onBehalfOf", AuditValue.texts names)]
  transition bank file case .closed actor (some user)
    { note, audit := absent, stepUpAssertionId := some stepUpAssertionId }

/-- `signoff` back to `implementing`. The request columns are cleared, so the next request is
a fresh one by whoever asks. -/
def sendBackSignoff (bank : Bank) (actor : Actor) (user : Id) (expectedVersion : Option Nat)
    (note : String) (file : CaseFile) : Except Refusal CaseFile := do
  checkVersion file.case.version expectedVersion
  let case := { file.case with signoffRequestedBy := none, signoffRequestedAt := none }
  transition bank file case .implementing actor (some user) { note }

variable {expectedVersion : Option Nat} {file next : CaseFile}

theorem requestSignoff_ok {bank : Bank} {actor : Actor} {user : Id}

    (accepted : requestSignoff bank actor user expectedVersion file = .ok next) :
    transition bank file { file.case with
        signoffRequestedBy := some user, signoffRequestedAt := some bank.now } .signoff actor (some user) =
      .ok next := by
  simp only [requestSignoff, bind_ok] at accepted
  obtain ⟨_, -, asked⟩ := accepted
  split at asked
  · rename_i moved allowed
    rw [allowed, asked]
  · split at asked <;> simp at asked

theorem approveSignoff_ok {bank : Bank} {actor : Actor} {user : Id}
    {note : String} {stepUpAssertionId : Id}
    (accepted : approveSignoff bank actor user expectedVersion note stepUpAssertionId file = .ok next) :
    file.case.status = .signoff ∧ ∃ reason extras, reason.kind = some CloseReason.signedOff ∧
      transition bank file { file.case with
          signedOffBy := some user, closeReason := some reason, closedNote := note,
          closedAt := some bank.now } .closed actor (some user) extras = .ok next := by
  simp only [approveSignoff, bind_ok, require_ok, demand_ok] at accepted
  obtain ⟨_, -, _, waiting, reason, found, moved⟩ := accepted
  have listed := List.mem_of_find?_eq_some found
  have keyed : reason.key = "signed_off" := by simpa using List.find?_some found
  exact ⟨waiting, reason, _, bank.signedOffKind reason listed keyed, moved⟩

theorem sendBackSignoff_ok {bank : Bank} {actor : Actor} {user : Id}
    {note : String}
    (accepted : sendBackSignoff bank actor user expectedVersion note file = .ok next) :
    ∃ extras, transition bank file { file.case with
        signoffRequestedBy := none, signoffRequestedAt := none } .implementing actor (some user) extras =
      .ok next := by
  simp only [sendBackSignoff, bind_ok] at accepted
  obtain ⟨_, -, moved⟩ := accepted
  exact ⟨_, moved⟩

end Grc.Cases

/-! The bank's own "So what?" on a case. A save and a confirmation read the row without a
lock and write four columns of it back; a draft arrives in one statement. -/
namespace Grc.Cases

open Grc.Shared Grc.Lib

def soWhatSaved : String := "case.so_what_saved"
def soWhatConfirmed : String := "case.so_what_confirmed"
def draftApplied : String := "case.so_what_draft_applied"

/-- `_write`: the columns of `update_fields`, with the words the request holds. The version
is raised in the database, so no other column of the row is touched. `seen` is the row as the
request read it, which only the audit row still says something about. -/
def writeSoWhat (bank : Bank) (actor : Actor) (user : Id) (text action : String) (seen : ChangeCase)
    (file : CaseFile) : Except Refusal CaseFile := do
  let saved ← save file { file.case with
    soWhatText := text
    soWhatConfirmed := true
    soWhatConfirmedBy := some user
    soWhatConfirmedAt := some bank.now
    version := file.case.version + 1 }
  .ok { saved with
    audit := record saved.audit
      { action, actor, subjectType := caseSubject, subjectId := some file.case.id,
        subjectTitle := file.case.changeTitle,
        summary := actor.label ++ " settled what a change means for this company.",
        tenantId := some file.case.tenantId,
        before := [("soWhatConfirmed", .flag seen.soWhatConfirmed)],
        after := [("soWhatConfirmed", .flag true), ("characters", .number text.length)] } }

/-- `save_so_what`, from the row it read. -/
def saveSoWhat (bank : Bank) (actor : Actor) (user : Id) (text : String) (seen : ChangeCase)
    (file : CaseFile) : Except Refusal CaseFile :=
  writeSoWhat bank actor user text soWhatSaved seen file

/-- `confirm_so_what`, from the row it read: the words it read, written back as confirmed. -/
def confirmSoWhat (bank : Bank) (actor : Actor) (user : Id) (seen : ChangeCase) (file : CaseFile) :
    Except Refusal CaseFile := do
  require (seen.soWhatText ≠ "") notFound
  writeSoWhat bank actor user seen.soWhatText soWhatConfirmed seen file

/-- `_apply_draft_in_tenant`, one statement: an unconfirmed copy whose words differ. -/
def applyDraft (draft : String) (file : CaseFile) : CaseFile :=
  if file.case.soWhatConfirmed = false ∧ file.case.soWhatText ≠ draft then
    { file with
      case := { file.case with soWhatText := draft }
      checked := ⟨file.checked.1, file.checked.2, file.checked.3, file.checked.4⟩
      audit := record file.audit
        { action := draftApplied, actor := .ofSystem "so-what-drafted",
          subjectType := "regulatory_change", subjectId := some file.case.changeId,
          subjectTitle := file.case.changeTitle,
          summary := "A drafted answer to “So what?” arrived for a change.",
          tenantId := some file.case.tenantId, after := [("casesUpdated", .number 1)] } }
  else file

theorem writeSoWhat_ok {bank : Bank} {actor : Actor} {user : Id} {text action : String}
    {seen : ChangeCase} {file next : CaseFile}
    (accepted : writeSoWhat bank actor user text action seen file = .ok next) :
    next.case = { file.case with
      soWhatText := text
      soWhatConfirmed := true
      soWhatConfirmedBy := some user
      soWhatConfirmedAt := some bank.now
      version := file.case.version + 1 } ∧
    next.assessment = file.assessment ∧ next.actions = file.actions ∧ next.evidence = file.evidence ∧
    next.transitions = file.transitions ∧
    ∃ event, next.audit = file.audit ++ [event] ∧ event.action = action := by
  simp only [writeSoWhat, bind_ok, save_ok] at accepted
  obtain ⟨saved, ⟨checked, rfl⟩, written⟩ := accepted
  cases written
  exact ⟨rfl, rfl, rfl, rfl, rfl, _, rfl, rfl⟩

theorem confirmSoWhat_ok {bank : Bank} {actor : Actor} {user : Id} {seen : ChangeCase}
    {file next : CaseFile} (accepted : confirmSoWhat bank actor user seen file = .ok next) :
    seen.soWhatText ≠ "" ∧
      writeSoWhat bank actor user seen.soWhatText soWhatConfirmed seen file = .ok next := by
  simp only [confirmSoWhat, bind_ok, require_ok] at accepted
  obtain ⟨_, drafted, written⟩ := accepted
  exact ⟨drafted, written⟩

end Grc.Cases
