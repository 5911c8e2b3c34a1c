import Grc.Cases.Logic

/-! Triage, dismissal, restore and the one-person close. Each sets what its move supplies on
the row in memory and moves the case through `transition`. -/
namespace Grc.Cases

open Grc.Shared Grc.Lib

structure CasesTriageBody where
  urgency : String
  ownerId : Id
  ownerTeam : Option String := none
  subStatus : Option String := none

structure CasesCloseBody where
  reasonKey : String
  note : String := ""

/-- `ONE_PERSON_CLOSE_FROM`: the categories a case closes from on one person's word. -/
def onePersonCloseFrom : List CaseStatusCategory := [.assigned, .assessing]

/-- `_owner`: the person a triage names, when they work cases of this bank. -/
def ownerOf (bank : Bank) (ownerId : Id) : Except Refusal Id := do
  require (ownerId ∈ bank.caseWorkers) (invalidTransition "owner_required")
  .ok ownerId

/-- `_row("case_sub_status", …, kind=…)`: only the rows of the category the move goes into. -/
def subStatusOfKind (bank : Bank) (category : CaseStatusCategory) (key : String) :
    Except Refusal CaseSubStatus :=
  namedRow "case_sub_status" (·.key) (bank.subStatuses.filter (·.kind == category)) key

/-- `new` to `assigned`, with a confirmed urgency and an owner. -/
def triageChange (bank : Bank) (actor : Actor) (user : Id) (expectedVersion : Option Nat)
    (body : CasesTriageBody) (file : CaseFile) : Except Refusal CaseFile := do
  checkVersion file.case.version expectedVersion
  let urgency ← namedRow "urgency" (·.key) bank.urgencies body.urgency
  let owner ← ownerOf bank body.ownerId
  let ownerTeam ← optionally (namedRow "team" (·.key) bank.teams) body.ownerTeam
  let subStatus ← optionally (subStatusOfKind bank .assigned) body.subStatus
  let case := { file.case with
    urgency
    urgencyConfirmed := true
    owner := some owner
    ownerTeam
    subStatus
    triagedBy := some user
    triagedAt := some bank.now }
  let team := match ownerTeam with
    | some row => [("ownerTeam", AuditValue.text row.key)]
    | none => []
  transition bank file case .assigned actor (some user)
    { audit := [("ownerId", .ref owner), ("urgency", .text urgency.key)] ++ team }

/-- `new` to `dismissed`, with a reason from the bank's list. -/
def dismissChange (bank : Bank) (actor : Actor) (user : Id) (expectedVersion : Option Nat)
    (reasonKey : String) (file : CaseFile) : Except Refusal CaseFile := do
  checkVersion file.case.version expectedVersion
  let reason ← namedRow "dismissal_reason" (·.key) bank.dismissalReasons reasonKey
  let case := { file.case with
    dismissedReason := some reason
    dismissedBy := some user
    dismissedAt := some bank.now
    subStatus := none }
  transition bank file case .dismissed actor (some user) { audit := [("reasonKey", .text reason.key)] }

/-- `dismissed`, or a one-person close, back to `new`. The decision is cleared only once the
move is allowed, because the machine reads the close reason. -/
def restoreChange (bank : Bank) (actor : Actor) (user : Id) (expectedVersion : Option Nat)
    (file : CaseFile) : Except Refusal CaseFile := do
  checkVersion file.case.version expectedVersion
  let moved ← transition bank file file.case .new actor (some user)
  save moved { moved.case with
    dismissedReason := none
    dismissedBy := none
    dismissedAt := none
    closeReason := none
    closedAt := none
    closedNote := ""
    subStatus := none }

/-- `assigned` or `assessing` to `closed` on one person's word. -/
def closeWithoutAction (bank : Bank) (actor : Actor) (user : Id) (expectedVersion : Option Nat)
    (body : CasesCloseBody) (file : CaseFile) : Except Refusal CaseFile := do
  checkVersion file.case.version expectedVersion
  require (file.case.status ∈ onePersonCloseFrom) (invalidTransition "invalid_transition")
  let reason ← namedRow "close_reason" (·.key) (bank.closureReasons.filter (·.active)) body.reasonKey
  let case := { file.case with
    closeReason := some reason
    closedNote := body.note
    closedAt := some bank.now
    subStatus := none }
  transition bank file case .closed actor (some user)
    { note := body.note, audit := [("reasonKey", .text reason.key)] }

variable {bank : Bank}

theorem subStatusOfKind_ok {category : CaseStatusCategory} {key : String}
    {row : CaseSubStatus} (found : subStatusOfKind bank category key = .ok row) : row.kind = category := by
  have member := (namedRow_ok found).1
  simpa using (List.mem_filter.mp member).2

variable {expectedVersion : Option Nat} {file next : CaseFile} {actor : Actor} {user : Id}

theorem triageChange_ok
    {body : CasesTriageBody}
    (accepted : triageChange bank actor user expectedVersion body file = .ok next) :
    ∃ urgency owner ownerTeam subStatus extras,
      (∀ placed, subStatus = some placed → placed.kind = .assigned) ∧
      transition bank file { file.case with
        urgency, urgencyConfirmed := true, owner := some owner, ownerTeam, subStatus,
        triagedBy := some user, triagedAt := some bank.now } .assigned actor (some user) extras =
        .ok next := by
  simp only [triageChange, bind_ok] at accepted
  obtain ⟨_, -, urgency, -, owner, -, ownerTeam, -, subStatus, placed, moved⟩ := accepted
  refine ⟨urgency, owner, ownerTeam, subStatus, _, ?_, moved⟩
  rintro row rfl
  rcases optionally_ok.mp placed with ⟨-, absent⟩ | ⟨key, found, -, same, resolved⟩
  · simp at absent
  · cases same
    exact subStatusOfKind_ok resolved

theorem dismissChange_ok
    {reasonKey : String}
    (accepted : dismissChange bank actor user expectedVersion reasonKey file = .ok next) :
    ∃ reason extras, transition bank file { file.case with
        dismissedReason := some reason, dismissedBy := some user, dismissedAt := some bank.now,
        subStatus := none } .dismissed actor (some user) extras = .ok next := by
  simp only [dismissChange, bind_ok] at accepted
  obtain ⟨_, -, reason, -, moved⟩ := accepted
  exact ⟨reason, _, moved⟩

theorem restoreChange_ok

    (accepted : restoreChange bank actor user expectedVersion file = .ok next) :
    ∃ moved, transition bank file file.case .new actor (some user) = .ok moved ∧
      save moved { moved.case with
        dismissedReason := none, dismissedBy := none, dismissedAt := none, closeReason := none,
        closedAt := none, closedNote := "", subStatus := none } = .ok next := by
  simp only [restoreChange, bind_ok] at accepted
  obtain ⟨_, -, moved, allowed, cleared⟩ := accepted
  exact ⟨moved, allowed, cleared⟩

theorem closeWithoutAction_ok
    {body : CasesCloseBody}
    (accepted : closeWithoutAction bank actor user expectedVersion body file = .ok next) :
    file.case.status ∈ onePersonCloseFrom ∧ ∃ reason extras, transition bank file { file.case with
        closeReason := some reason, closedNote := body.note, closedAt := some bank.now,
        subStatus := none } .closed actor (some user) extras = .ok next := by
  simp only [closeWithoutAction, bind_ok, require_ok] at accepted
  obtain ⟨_, -, _, drawn, reason, -, moved⟩ := accepted
  exact ⟨drawn, reason, _, moved⟩

end Grc.Cases

/-! The impact assessment. Starting it is a move; saving it moves the case nowhere, except
that `applies = no` closes it on one person's word. -/
namespace Grc.Cases

open Grc.Shared Grc.Lib

def assessmentSaved : String := "case.assessment_saved"

/-- `SAVABLE`: where the assessment is open for saving. -/
def savable : List CaseStatusCategory := [.assessing, .implementing]

/-- A saved assessment says why; the body's own schema asks for at least one character. -/
structure CasesAssessmentBody where
  applies : AssessmentApplies
  why : String
  saysWhy : why ≠ ""
  whatMustChange : String := ""
  internalDeadline : Option Date := none
  effort : Option String := none
  subStatus : Option String := none

/-- `assigned` to `assessing`, opening an empty assessment at version 1. A case triaged
again opens the assessment it already has. -/
def startAssessment (bank : Bank) (actor : Actor) (user : Id) (expectedVersion : Option Nat)
    (file : CaseFile) : Except Refusal CaseFile := do
  checkVersion file.case.version expectedVersion
  let moved ← transition bank file { file.case with subStatus := none } .assessing actor (some user)
  .ok { moved with assessment := some (moved.assessment.getD {}) }

/-- `_sub_status`: the active sub-status of that category, or `unknown_key`. -/
def subStatusInside (bank : Bank) (category : CaseStatusCategory) (key : String) :
    Except Refusal CaseSubStatus :=
  let rows := bank.subStatuses.filter (·.kind == category)
  let valid := rows.map (·.key)
  demand (rows.find? fun row => row.key == key)
    { code := "unknown_key"
      detail := "Not a case_sub_status key of " ++ category.value ++ ": " ++ key ++ ". Valid keys: " ++
        ", ".intercalate valid ++ "."
      extra := [("vocabulary", .text "case_sub_status"), ("validKeys", .texts valid)] }

def permissionDenied : Refusal where
  code := "permission_denied"
  detail := "Only someone who works the case can close it as not applicable."

def nonEmpty (key : Option String) : Option String := key.filter (· ≠ "")

/-- The audit row of a save: keys, dates and the version, never a text. -/
def assessmentSavedEvent (actor : Actor) (case : ChangeCase) (assessment : ImpactAssessment)
    (closes : Bool) : AuditEvent where
  action := assessmentSaved
  actor := actor
  subjectType := caseSubject
  subjectId := some case.id
  subjectTitle := case.changeTitle
  summary := actor.label ++ " saved the impact assessment."
  tenantId := some case.tenantId
  after :=
    [("applies", .text assessment.applies.value),
     ("internalDeadline", match assessment.internalDeadline with
      | none => .absent
      | some date => .number date),
     ("effort", .ofText (assessment.effort.map (·.key))),
     ("subStatus", .ofText (case.subStatus.map (·.key))),
     ("closeReason", if closes then .ofText (case.closeReason.map (·.key)) else .absent),
     ("version", .number case.version)]

/-- The assessment a save stores over the one it found. -/
def replaced (bank : Bank) (user : Id) (body : CasesAssessmentBody) (effort : Option ListRow)
    (found : ImpactAssessment) : ImpactAssessment where
  applies := body.applies
  why := body.why
  whatMustChange := body.whatMustChange
  internalDeadline := body.internalDeadline
  effort := effort
  saved := true
  savedBy := some user
  savedAt := some bank.now
  version := found.version + 1

/-- Where a save leaves the case: closed as not applicable, with the bank's first active reason
of that kind, or where it is. -/
def settleCase (bank : Bank) (actor : Actor) (user : Id) (closes : Bool)
    (subStatus : Option CaseSubStatus) (file : CaseFile) : Except Refusal CaseFile :=
  if closes then
    let reason := bank.closureReasons.find? fun row => row.active && row.kind == some .notApplicable
    transition bank file { file.case with subStatus, closeReason := reason, closedAt := some bank.now }
      .closed actor (some user)
  else save file { file.case with subStatus, version := file.case.version + 1 }

/-- The whole assessment, replacing what was saved, under the case's `If-Match`. -/
def saveAssessment (bank : Bank) (actor : Actor) (user : Id) (expectedVersion : Option Nat)
    (body : CasesAssessmentBody) (mayClose : Bool) (file : CaseFile) : Except Refusal CaseFile := do
  let closes := body.applies == .no
  require (closes = true → mayClose = true) permissionDenied
  checkVersion file.case.version expectedVersion
  require (file.case.status ∈ savable) (invalidTransition "invalid_transition")
  let endingIn := if closes then .closed else file.case.status
  let effort ← optionally (namedRow "effort_size" (·.key) bank.efforts) (nonEmpty body.effort)
  let subStatus ← optionally (subStatusInside bank endingIn) (nonEmpty body.subStatus)
  let found ← demand file.assessment internalError
  let assessment := replaced bank user body effort found
  let settled ← settleCase bank actor user closes subStatus { file with assessment := some assessment }
  .ok { settled with
    audit := record settled.audit (assessmentSavedEvent actor settled.case assessment closes) }

theorem subStatusInside_ok {bank : Bank} {category : CaseStatusCategory} {key : String}
    {row : CaseSubStatus} (found : subStatusInside bank category key = .ok row) :
    row.kind = category := by
  have first := demand_ok.mp found
  simpa using (List.mem_filter.mp (List.mem_of_find?_eq_some first)).2

theorem startAssessment_ok {bank : Bank} {actor : Actor} {user : Id} {expectedVersion : Option Nat}
    {file next : CaseFile}
    (accepted : startAssessment bank actor user expectedVersion file = .ok next) :
    ∃ moved, transition bank file { file.case with subStatus := none } .assessing actor (some user) =
        .ok moved ∧ next = { moved with assessment := some (moved.assessment.getD {}) } := by
  simp only [startAssessment, bind_ok] at accepted
  obtain ⟨_, -, moved, allowed, opened⟩ := accepted
  exact ⟨moved, allowed, (Except.ok.inj opened).symm⟩

theorem saveAssessment_ok {bank : Bank} {actor : Actor} {user : Id} {expectedVersion : Option Nat}
    {body : CasesAssessmentBody} {mayClose : Bool} {file next : CaseFile}
    (accepted : saveAssessment bank actor user expectedVersion body mayClose file = .ok next) :
    file.case.status ∈ savable ∧ ∃ assessment subStatus settled event,
      event.action = assessmentSaved ∧ next = { settled with audit := settled.audit ++ [event] } ∧
      ((∃ reason, (∀ placed, subStatus = some placed → placed.kind = .closed) ∧
          transition bank { file with assessment := some assessment }
            { file.case with subStatus, closeReason := reason, closedAt := some bank.now }
            .closed actor (some user) = .ok settled) ∨
        ((∀ placed, subStatus = some placed → placed.kind = file.case.status) ∧
          save { file with assessment := some assessment }
            { file.case with subStatus, version := file.case.version + 1 } = .ok settled)) := by
  simp only [saveAssessment, bind_ok, require_ok] at accepted
  obtain ⟨_, -, _, -, _, open_, effort, -, subStatus, placed, found, -, settled, written, recorded⟩ :=
    accepted
  have inside : ∀ row, subStatus = some row →
      row.kind = if body.applies == .no then .closed else file.case.status := by
    rintro row rfl
    rcases optionally_ok.mp placed with ⟨-, absent⟩ | ⟨key, named, -, same, resolved⟩
    · simp at absent
    · cases same
      exact subStatusInside_ok resolved
  refine ⟨open_, replaced bank user body effort found, subStatus, settled, _, rfl, (Except.ok.inj recorded).symm, ?_⟩
  unfold settleCase at written
  by_cases closes : (body.applies == .no) = true
  · rw [if_pos closes] at written
    exact .inl ⟨_, fun row same => by simpa [closes] using inside row same, written⟩
  · rw [if_neg closes] at written
    exact .inr ⟨fun row same => by simpa [closes] using inside row same, written⟩

end Grc.Cases
