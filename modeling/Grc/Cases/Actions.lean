import Grc.Cases.Logic

/-! Actions with an owner and a due date, locked while the case waits for sign-off. Every
write holds the case's row lock, so what it reads of the case is what is stored. -/
namespace Grc.Cases

open Grc.Shared Grc.Lib

structure CasesActionBody where
  title : String
  titled : title ≠ ""
  ownerId : Option Id := none
  dueDate : Date

structure CasesActionPatch where
  title : Option String := none
  ownerId : Option Id := none
  dueDate : Option Date := none
  done : Option Bool := none

/-- `LOCKED`: where a sign-off has been asked for or given, the actions are what it covers. -/
def locked : List CaseStatusCategory := [.signoff, .closed]

def worked : List CaseStatusCategory := [.assessing, .implementing]

/-- Actions change only while the case is worked. -/
def checkOpenToWork (case : ChangeCase) : Except Refusal Unit := do
  require (case.status ∉ locked)
    { code := "actions_locked"
      detail := "The actions are locked while the case waits for sign-off. Send it back to change them." }
  require (case.status ∈ worked)
    { code := "invalid_transition", detail := "Start the assessment before planning actions." }

/-- `_member`: an active member of this bank, else `unknown_member`. -/
def member (bank : Bank) (userId : Option Id) : Except Refusal Id := do
  let unknown : Refusal :=
    { code := "unknown_member", detail := "Choose an owner who is a member of this company." }
  let named ← demand userId unknown
  require (named ∈ bank.members) unknown
  .ok named

/-- `_values`: what an audit row may say about an action. -/
def Action.values (row : Action) : List (String × AuditValue) :=
  [("ownerId", .ref row.owner), ("dueDate", .number row.dueDate), ("done", .flag row.doneAt.isSome),
   ("removed", .flag row.removedAt.isSome), ("version", .number row.version)]

def actionEvent (action : String) (row : Action) (case : ChangeCase) (actor : Actor)
    (before : List (String × AuditValue)) (summary : String) : AuditEvent where
  action := action
  actor := actor
  subjectType := "action"
  subjectId := some row.id
  subjectTitle := case.changeTitle
  summary := actor.label ++ summary
  tenantId := some case.tenantId
  before := before
  after := row.values ++ [("caseId", .ref case.id)]

def startWork (bank : Bank) (actor : Actor) (user : Id) (file : CaseFile) : Except Refusal CaseFile :=
  if file.case.status = .assessing then
    transition bank file file.case .implementing actor (some user)
  else .ok file

/-- A new action on the case, under the case's `If-Match`. -/
def addAction (bank : Bank) (actor : Actor) (user : Id) (expectedVersion : Option Nat)
    (body : CasesActionBody) (file : CaseFile) : Except Refusal CaseFile := do
  checkOpenToWork file.case
  checkVersion file.case.version expectedVersion
  require ((file.actions.filter Action.live).length < bank.caseActionsMax)
    { code := "too_many_actions"
      detail := "A case holds at most " ++ toString bank.caseActionsMax ++
        " actions. Remove one that is no longer needed first." }
  let owner ← member bank (body.ownerId <|> file.case.owner)
  let worked ← startWork bank actor user file
  -- Rows are never deleted, so their number is an id nothing else has.
  let row : Action :=
    { id := file.actions.length, title := body.title, owner, dueDate := body.dueDate, createdBy := user }
  .ok { worked with
    actions := worked.actions ++ [row]
    audit := record worked.audit
      (actionEvent "case.action_added" row worked.case actor [] " added an action to a case.") }

/-- `_locked_action`: the live action, read under its case's row lock, then the lock of the
category and the action's own version. -/
def lockedAction (file : CaseFile) (actionId : Id) (expectedVersion : Option Nat) :
    Except Refusal Action := do
  let row ← demand (file.actions.find? fun row => row.id == actionId && row.live) notFound
  checkOpenToWork file.case
  checkVersion row.version expectedVersion
  .ok row

/-- `row.save()`: the row with this id, replaced. -/
def putAction (rows : List Action) (saved : Action) : List Action :=
  rows.map fun row => if row.id = saved.id then saved else row

def patchedOwner (bank : Bank) (row : Action) (body : CasesActionPatch) : Except Refusal Id :=
  match body.ownerId with
  | none => .ok row.owner
  | some userId => member bank (some userId)

/-- Edit, complete or reopen an action. -/
def updateAction (bank : Bank) (actor : Actor) (user : Id) (actionId : Id)
    (expectedVersion : Option Nat) (body : CasesActionPatch) (file : CaseFile) :
    Except Refusal CaseFile := do
  let row ← lockedAction file actionId expectedVersion
  let owner ← patchedOwner bank row body
  let finished := body.done = some true ∧ row.doneAt = none
  let reopened := body.done = some false
  let saved := { row with
    title := body.title.getD row.title
    owner
    dueDate := body.dueDate.getD row.dueDate
    doneAt := if finished then some bank.now else if reopened then none else row.doneAt
    doneBy := if finished then some user else if reopened then none else row.doneBy
    version := row.version + 1 }
  .ok { file with
    actions := putAction file.actions saved
    audit := record file.audit
      (actionEvent "case.action_changed" saved file.case actor row.values " changed an action on a case.") }

/-- Remove an action: `removedAt` is set, and the row stays. -/
def deleteAction (bank : Bank) (actor : Actor) (user : Id) (actionId : Id)
    (expectedVersion : Option Nat) (file : CaseFile) : Except Refusal CaseFile := do
  let row ← lockedAction file actionId expectedVersion
  let saved := { row with
    removedAt := some bank.now, removedBy := some user, version := row.version + 1 }
  .ok { file with
    actions := putAction file.actions saved
    audit := record file.audit
      (actionEvent "case.action_removed" saved file.case actor row.values " removed an action from a case.") }

theorem checkOpenToWork_ok {case : ChangeCase} {answer : Unit} :
    checkOpenToWork case = .ok answer ↔ case.status ∈ worked := by
  simp only [checkOpenToWork, bind_ok, require_ok]
  constructor
  · rintro ⟨_, -, works⟩
    exact works
  · intro works
    refine ⟨(), ?_, works⟩
    cases status : case.status <;> simp_all [worked, locked]

variable {expectedVersion : Option Nat}

theorem lockedAction_ok {file : CaseFile} {actionId : Id} {row : Action}
    (found : lockedAction file actionId expectedVersion = .ok row) : file.case.status ∈ worked := by
  simp only [lockedAction, bind_ok, checkOpenToWork_ok] at found
  obtain ⟨_, -, _, works, -⟩ := found
  exact works

variable {file next : CaseFile}

theorem addAction_ok {bank : Bank} {actor : Actor} {user : Id}
    {body : CasesActionBody}
    (accepted : addAction bank actor user expectedVersion body file = .ok next) :
    ∃ worked row event, event.action = "case.action_added" ∧
      next = { worked with actions := worked.actions ++ [row], audit := worked.audit ++ [event] } ∧
      ((file.case.status = .assessing ∧
          transition bank file file.case .implementing actor (some user) = .ok worked) ∨
        (file.case.status = .implementing ∧ worked = file)) := by
  simp only [addAction, bind_ok, checkOpenToWork_ok] at accepted
  obtain ⟨_, open_, _, -, _, -, owner, -, settled, moved, recorded⟩ := accepted
  refine ⟨settled, _, _, rfl, (Except.ok.inj recorded).symm, ?_⟩
  unfold startWork at moved
  by_cases assessing : file.case.status = .assessing
  · rw [if_pos assessing] at moved
    exact .inl ⟨assessing, moved⟩
  · rw [if_neg assessing] at moved
    have implementing : file.case.status = .implementing := by simpa [worked, assessing] using open_
    exact .inr ⟨implementing, (Except.ok.inj moved).symm⟩

theorem updateAction_ok {bank : Bank} {actor : Actor} {user actionId : Id}
    {body : CasesActionPatch}
    (accepted : updateAction bank actor user actionId expectedVersion body file = .ok next) :
    file.case.status ∈ worked ∧ ∃ saved event, event.action = "case.action_changed" ∧
      next = { file with actions := putAction file.actions saved, audit := file.audit ++ [event] } := by
  simp only [updateAction, bind_ok] at accepted
  obtain ⟨row, found, owner, -, written⟩ := accepted
  exact ⟨lockedAction_ok found, _, _, rfl, (Except.ok.inj written).symm⟩

theorem deleteAction_ok {bank : Bank} {actor : Actor} {user actionId : Id}

    (accepted : deleteAction bank actor user actionId expectedVersion file = .ok next) :
    file.case.status ∈ worked ∧ ∃ saved event, event.action = "case.action_removed" ∧
      next = { file with actions := putAction file.actions saved, audit := file.audit ++ [event] } := by
  simp only [deleteAction, bind_ok] at accepted
  obtain ⟨row, found, written⟩ := accepted
  exact ⟨lockedAction_ok found, _, _, rfl, (Except.ok.inj written).symm⟩

end Grc.Cases

/-! Evidence: attached, scanned and removed. Removal sets `removedAt` and nothing else; a
scan's verdict is written once, under the row's lock. -/
namespace Grc.Cases

open Grc.Shared Grc.Lib

/-- What the server measured of a file it was sent: the type the header, the name and the
bytes agree on (none when they do not), the size and the hash. -/
structure Upload where
  identified : Option String
  sizeBytes : Nat
  contentHash : String
  storageKey : String

structure CasesEvidenceForm where
  kind : EvidenceKind
  name : String
  url : String := ""
  /-- Whether `url` is a full https address without spaces or control characters. -/
  httpsAddress : Bool := false
  file : Option Upload := none

/-- The deployment's file intake: whether a scanner is configured, and `EVIDENCE_MAX_BYTES`
with how it is printed in megabytes. -/
structure Intake where
  scannerConfigured : Bool := true
  evidenceMaxBytes : Nat := 26214400
  megabytes : String := "25"

/-- A closed or dismissed case's evidence stays; while the case waits for sign-off its
evidence is locked, as its actions are. -/
def refuseWhenClosed (case : ChangeCase) : Except Refusal Unit := do
  require (case.status ∉ [CaseStatusCategory.closed, .dismissed])
    { code := "case_closed", detail := "This case is closed, so its evidence cannot change." }
  require (case.status ≠ .signoff)
    { code := "evidence_locked"
      detail := "The evidence is locked while the case waits for sign-off. Send it back to change it." }

def invalidEvidence (detail : String) : Refusal := { code := "validation_error", detail }

def refusedFile (intake : Intake) : Refusal :=
  invalidEvidence ("This file cannot be attached. Attach a PDF, Word, Excel, PowerPoint, PNG, JPEG, " ++
    "text or CSV file of at most " ++ intake.megabytes ++
    " MB whose name ends in its type.")

/-- `_store`: the file measured, identified and written to storage, or refused. -/
def storeFile (intake : Intake) (row : Evidence) (file : Upload) : Except Refusal Evidence := do
  require (intake.scannerConfigured = true)
    { code := "scanner_unavailable", detail := "Files cannot be attached right now. Try again later." }
  require (file.sizeBytes ≠ 0 ∧ file.sizeBytes ≤ intake.evidenceMaxBytes) (refusedFile intake)
  let mime ← demand file.identified (refusedFile intake)
  .ok { row with
    storageKey := file.storageKey, contentHash := file.contentHash,
    sizeBytes := some file.sizeBytes, mimeType := mime }

def evidenceEvent (action : String) (actor : Actor) (case : ChangeCase) (row : Evidence)
    (summary : String) (more : List (String × AuditValue)) : AuditEvent where
  action := action
  actor := actor
  subjectType := "evidence"
  subjectId := some row.id
  subjectTitle := case.changeTitle
  summary := summary
  tenantId := some case.tenantId
  after := [("evidenceId", .ref row.id), ("caseId", .ref case.id)] ++ more

/-- The row a form opens: stored and pending, or with nothing to scan. -/
def openedEvidence (bank : Bank) (intake : Intake) (form : CasesEvidenceForm) (drafted : Evidence) :
    Except Refusal Evidence :=
  match form.file with
  | none => .ok { drafted with url := form.url, scanState := .clean, scannedAt := some bank.now }
  | some upload => storeFile intake drafted upload

/-- A file, a link or a reference on the case. A file starts `pending`; a link and a
reference have nothing to scan. -/
def addEvidence (bank : Bank) (intake : Intake) (actor : Actor) (user : Id) (form : CasesEvidenceForm)
    (file : CaseFile) : Except Refusal CaseFile := do
  refuseWhenClosed file.case
  require ((form.kind = .file) = (form.file.isSome = true))
    (invalidEvidence "Send the file part with a file, and only with a file.")
  require (form.kind = .link → form.httpsAddress = true)
    (invalidEvidence "A link must be a full https address.")
  require (form.kind ≠ .link → form.url = "") (invalidEvidence "Only a link has an address.")
  require ((file.evidence.filter Evidence.live).length < bank.caseEvidenceMax)
    { code := "evidence_limit_reached"
      detail := "A case holds at most " ++ toString bank.caseEvidenceMax ++
        " pieces of evidence. Remove one to add another." }
  let drafted : Evidence :=
    { id := file.evidence.length, kind := form.kind, name := form.name, uploadedBy := user }
  let row ← openedEvidence bank intake form drafted
  let measured := match form.file with
    | none => []
    | some _ => [("contentHash", AuditValue.text row.contentHash),
        ("sizeBytes", .number (row.sizeBytes.getD 0)), ("mimeType", .text row.mimeType)]
  .ok { file with
    evidence := file.evidence ++ [row]
    audit := record file.audit
      (evidenceEvent "case.evidence_attached" actor file.case row
        (actor.label ++ " attached a " ++ form.kind.value ++ " to a case as evidence.")
        ([("kind", .text form.kind.value)] ++ measured)) }

def putEvidence (rows : List Evidence) (saved : Evidence) : List Evidence :=
  rows.map fun row => if row.id = saved.id then saved else row

/-- Remove a piece of evidence, read again under its case's row lock. -/
def removeEvidence (bank : Bank) (actor : Actor) (evidenceId : Id) (file : CaseFile) :
    Except Refusal CaseFile := do
  let row ← demand (file.evidence.find? fun row => row.id == evidenceId && row.live) notFound
  refuseWhenClosed file.case
  let saved := { row with removedAt := some bank.now }
  .ok { file with
    evidence := putEvidence file.evidence saved
    audit := record file.audit
      (evidenceEvent "case.evidence_removed" actor file.case saved
        (actor.label ++ " removed a piece of evidence from a case.")
        [("removedAt", .number bank.now)]) }

/-- What a scan may answer. -/
structure ScanResult where
  state : ScanState
  decided : state ≠ .pending
  signature : Option String := none

def awaits (evidenceId : Id) (row : Evidence) : Bool := row.id == evidenceId && row.scanState == .pending

def Evidence.scanned (row : Evidence) (result : ScanResult) (now : Instant) : Evidence :=
  { row with scanState := result.state, scannedAt := some now }

/-- The write half of `scan_evidence`: the row is read again under its lock, and a file
already decided is left alone. -/
def scanEvidence (bank : Bank) (evidenceId : Id) (result : ScanResult) (file : CaseFile) : CaseFile :=
  match file.evidence.find? (awaits evidenceId) with
  | none => file
  | some row =>
    { file with
      evidence := file.evidence.map fun row =>
        if awaits evidenceId row then row.scanned result bank.now else row
      audit := record file.audit
        { evidenceEvent "case.evidence_scanned" (.ofSystem "malware scan") file.case row
            ("The malware scan of a file attached to a case answered " ++ result.state.value ++ ".") [] with
          after := [("evidenceId", .ref row.id), ("scanState", .text result.state.value),
            ("signature", .ofText result.signature)] } }

theorem cleanEvidence_le_scanned (evidenceId : Id) (result : ScanResult) (now : Instant)
    (rows : List Evidence) :
    (rows.filter Evidence.isClean).length ≤
      ((rows.map fun row => if awaits evidenceId row then row.scanned result now else row).filter
        Evidence.isClean).length := by
  rw [← List.countP_eq_length_filter, ← List.countP_eq_length_filter, List.countP_map]
  refine List.countP_mono_left fun row _ clean => ?_
  have decided : awaits evidenceId row = false := by
    simp only [Evidence.isClean, Bool.and_eq_true, beq_iff_eq] at clean
    simp [awaits, clean.2]
  simpa [decided] using clean

theorem refuseWhenClosed_ok {case : ChangeCase} {answer : Unit} :
    refuseWhenClosed case = .ok answer ↔
      case.status ≠ .closed ∧ case.status ≠ .dismissed ∧ case.status ≠ .signoff := by
  simp [refuseWhenClosed, bind_ok, and_assoc]

theorem addEvidence_ok {bank : Bank} {intake : Intake} {actor : Actor} {user : Id}
    {form : CasesEvidenceForm} {file next : CaseFile}
    (accepted : addEvidence bank intake actor user form file = .ok next) :
    (file.case.status ≠ .closed ∧ file.case.status ≠ .dismissed ∧ file.case.status ≠ .signoff) ∧
      ∃ row event, event.action = "case.evidence_attached" ∧
        next = { file with evidence := file.evidence ++ [row], audit := file.audit ++ [event] } := by
  simp only [addEvidence, bind_ok, refuseWhenClosed_ok] at accepted
  obtain ⟨_, open_, _, -, _, -, _, -, _, -, row, -, written⟩ := accepted
  exact ⟨open_, _, _, rfl, (Except.ok.inj written).symm⟩

theorem removeEvidence_ok {bank : Bank} {actor : Actor} {evidenceId : Id} {file next : CaseFile}
    (accepted : removeEvidence bank actor evidenceId file = .ok next) :
    (file.case.status ≠ .closed ∧ file.case.status ≠ .dismissed ∧ file.case.status ≠ .signoff) ∧
      ∃ saved event, event.action = "case.evidence_removed" ∧
        next = { file with
          evidence := putEvidence file.evidence saved, audit := file.audit ++ [event] } := by
  simp only [removeEvidence, bind_ok, refuseWhenClosed_ok] at accepted
  obtain ⟨row, -, _, open_, written⟩ := accepted
  exact ⟨open_, _, _, rfl, (Except.ok.inj written).symm⟩

end Grc.Cases
