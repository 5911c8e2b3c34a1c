import Grc.Cases.Run

/-! What every accepted call leaves of its case: it moves it once, through the machine, with
its ledger row and its audit row, or it leaves category, ledger and sign-off alone. -/
namespace Grc.Cases

open Grc.Shared Grc.Lib Grc.Tenants

def movedEvents (audit : List AuditEvent) : List AuditEvent := audit.filter (·.action == moved)

theorem movedEvents_append (audit more : List AuditEvent) :
    movedEvents (audit ++ more) = movedEvents audit ++ movedEvents more := List.filter_append _ _

theorem movedEvents_other {more : List AuditEvent} (other : ∀ event ∈ more, event.action ≠ moved) :
    movedEvents more = [] := by
  simpa [movedEvents] using other

/-- `event` is the audit row of the move `row` of that case, whose version it raised. -/
structure Records (caseId : Id) (version : Nat) (row : CaseTransition) (event : AuditEvent) : Prop where
  action : event.action = moved
  subject : event.subjectType = caseSubject ∧ event.subjectId = some caseId
  before : event.before = [("status", .text row.fromStatus.value)]
  after : ∃ more, event.after =
    [("status", .text row.toStatus.value), ("version", .number version)] ++ more

/-- What an accepted call that moves the case has done. -/
structure Move (file next : CaseFile) (row : CaseTransition) (event : AuditEvent) (facts : CaseFacts) :
    Prop where
  identity : next.case.id = file.case.id
  allowed : checkTransition row.fromStatus row.toStatus facts = .ok ()
  leaves : row.fromStatus = file.case.status
  arrives : next.case.status = row.toStatus
  ledger : next.transitions = file.transitions ++ [row]
  audit : movedEvents next.audit = movedEvents file.audit ++ [event]
  records : Records file.case.id (file.case.version + 1) row event
  version : file.case.version + 1 ≤ next.case.version
  counted : facts.openActionCount = file.openActionCount ∧
    facts.cleanEvidenceCount = file.cleanEvidenceCount
  held : row.toStatus ∈ locked →
    next.openActionCount = file.openActionCount ∧ file.cleanEvidenceCount ≤ next.cleanEvidenceCount
  asker : next.case.signoffRequestedBy = facts.signoffRequester
  asked : row.toStatus = .signoff → next.case.signoffRequestedBy.isSome = true
  reason : row.fromStatus = .closed → facts.closeReasonKind = closeReasonKind file.case
  signed : row.fromStatus = .signoff → row.toStatus = .closed →
    next.case.signedOffBy.isSome = true ∧ closeReasonKind next.case = some .signedOff

/-- What a call that moves the case nowhere leaves as it was. -/
structure Kept (file next : CaseFile) : Prop where
  identity : next.case.id = file.case.id
  status : next.case.status = file.case.status
  ledger : next.transitions = file.transitions
  audit : movedEvents next.audit = movedEvents file.audit
  version : file.case.version ≤ next.case.version
  held : file.case.status ∈ locked →
    next.openActionCount = file.openActionCount ∧ file.cleanEvidenceCount ≤ next.cleanEvidenceCount
  signoff : next.case.signoffRequestedBy = file.case.signoffRequestedBy ∧
    next.case.signedOffBy = file.case.signedOffBy
  reason : file.case.status = .closed → next.case.closeReason = file.case.closeReason

theorem Kept.refl (file : CaseFile) : Kept file file :=
  { identity := rfl, status := rfl, ledger := rfl, audit := rfl, version := Nat.le_refl _,
    held := fun _ => ⟨rfl, Nat.le_refl _⟩, signoff := ⟨rfl, rfl⟩, reason := fun _ => rfl }

theorem Kept.trans {file mid next : CaseFile} (first : Kept file mid) (second : Kept mid next) :
    Kept file next where
  identity := second.identity.trans first.identity
  status := second.status.trans first.status
  ledger := second.ledger.trans first.ledger
  audit := second.audit.trans first.audit
  version := Nat.le_trans first.version second.version
  held := by
    intro locked
    obtain ⟨sameOpen, moreClean⟩ := first.held locked
    obtain ⟨sameOpen', moreClean'⟩ := second.held (first.status ▸ locked)
    exact ⟨sameOpen'.trans sameOpen, Nat.le_trans moreClean moreClean'⟩
  signoff := ⟨second.signoff.1.trans first.signoff.1, second.signoff.2.trans first.signoff.2⟩
  reason := by
    intro closed
    exact (second.reason (first.status.trans closed)).trans (first.reason closed)

theorem Move.kept {file mid next : CaseFile} {row : CaseTransition} {event : AuditEvent}
    {facts : CaseFacts} (move : Move file mid row event facts) (kept : Kept mid next) :
    Move file next row event facts where
  identity := kept.identity.trans move.identity
  allowed := move.allowed
  leaves := move.leaves
  arrives := kept.status.trans move.arrives
  ledger := kept.ledger.trans move.ledger
  audit := kept.audit.trans move.audit
  records := move.records
  version := Nat.le_trans move.version kept.version
  counted := move.counted
  held := by
    intro arrived
    obtain ⟨sameOpen, moreClean⟩ := move.held arrived
    obtain ⟨sameOpen', moreClean'⟩ := kept.held (move.arrives ▸ arrived)
    exact ⟨sameOpen'.trans sameOpen, Nat.le_trans moreClean moreClean'⟩
  asker := kept.signoff.1.trans move.asker
  asked := by
    intro arrived
    rw [kept.signoff.1]
    exact move.asked arrived
  reason := move.reason
  signed := by
    intro left arrived
    obtain ⟨signer, reason⟩ := move.signed left arrived
    refine ⟨kept.signoff.2 ▸ signer, ?_⟩
    rw [closeReasonKind, kept.reason (move.arrives.trans arrived)]
    exact reason

theorem Move.of_transition {bank : Bank} {file next : CaseFile} {case : ChangeCase}
    {toStatus : CaseStatusCategory} {actor : Actor} {user : Option Id} {extras : MoveNote}
    (accepted : transition bank file case toStatus actor user extras = .ok next)
    (identity : case.id = file.case.id) (status : case.status = file.case.status)
    (version : case.version = file.case.version)
    (asked : toStatus = .signoff → case.signoffRequestedBy.isSome = true)
    (reason : case.status = .closed → closeReasonKind case = closeReasonKind file.case)
    (signed : case.status = .signoff → toStatus = .closed →
      case.signedOffBy.isSome = true ∧ closeReasonKind case = some .signedOff) :
    Move file next
      { fromStatus := case.status, toStatus, movedAt := bank.now, byUser := user, note := extras.note }
      (movedEvent actor case toStatus extras) (caseFacts file case user) := by
  obtain ⟨allowed, checked, rfl⟩ := transition_ok.mp accepted
  exact
    { identity, allowed, leaves := status, arrives := rfl, ledger := rfl
      audit := by
        rw [movedEvents_append]
        rfl
      records := ⟨rfl, ⟨rfl, by rw [← identity]; rfl⟩, rfl, extras.audit, by rw [← version]; rfl⟩
      version := Nat.le_of_eq (congrArg (· + 1) version.symm)
      counted := ⟨rfl, rfl⟩, held := fun _ => ⟨rfl, Nat.le_refl _⟩, asker := rfl, asked, reason
      signed }

def Effect (file next : CaseFile) : Prop :=
  Kept file next ∨ ∃ row event facts, Move file next row event facts

theorem Kept.of_rows {file next : CaseFile} {events : List AuditEvent}
    (sameCase : next.case = file.case) (ledger : next.transitions = file.transitions)
    (audit : next.audit = file.audit ++ events) (other : ∀ event ∈ events, event.action ≠ moved)
    (held : file.case.status ∈ locked →
      next.openActionCount = file.openActionCount ∧ file.cleanEvidenceCount ≤ next.cleanEvidenceCount) :
    Kept file next where
  identity := by rw [sameCase]
  status := by rw [sameCase]
  ledger := ledger
  audit := by rw [audit, movedEvents_append, movedEvents_other other, List.append_nil]
  version := Nat.le_of_eq (by rw [sameCase])
  held := held
  signoff := by simp [sameCase]
  reason := by simp [sameCase]

theorem single_other {event : AuditEvent} (action : String) (named : event.action = action)
    (other : action ≠ moved) : ∀ one ∈ [event], one.action ≠ moved := by
  intro one member
  rw [List.mem_singleton.mp member, named]
  exact other

theorem not_locked_of_worked {status : CaseStatusCategory} (working : status ∈ worked) : status ∉ locked := by
  cases status <;> simp_all [worked, locked]

section Moves
variable {bank : Bank} {actor : Actor} {user : Id} {expectedVersion : Option Nat} {file next : CaseFile}

theorem triageChange_effect {body : CasesTriageBody}
    (accepted : triageChange bank actor user expectedVersion body file = .ok next) : Effect file next := by
  obtain ⟨urgency, owner, ownerTeam, subStatus, extras, -, moved⟩ := triageChange_ok accepted
  exact .inr ⟨_, _, _, .of_transition moved rfl rfl rfl (by simp) (fun _ => rfl) (by simp)⟩

theorem dismissChange_effect {reasonKey : String}
    (accepted : dismissChange bank actor user expectedVersion reasonKey file = .ok next) :
    Effect file next := by
  obtain ⟨reason, extras, moved⟩ := dismissChange_ok accepted
  exact .inr ⟨_, _, _, .of_transition moved rfl rfl rfl (by simp) (fun _ => rfl) (by simp)⟩

theorem restoreChange_effect
    (accepted : restoreChange bank actor user expectedVersion file = .ok next) : Effect file next := by
  obtain ⟨back, moved, cleared⟩ := restoreChange_ok accepted
  obtain ⟨checked, rfl⟩ := save_ok.mp cleared
  have move := Move.of_transition moved rfl rfl rfl (by simp) (fun _ => rfl) (by simp)
  refine .inr ⟨_, _, _, move.kept ?_⟩
  have status : back.case.status = .new := move.arrives
  exact
    { identity := rfl, status := rfl, ledger := rfl, audit := rfl, version := Nat.le_refl _,
      held := fun _ => ⟨rfl, Nat.le_refl _⟩, signoff := ⟨rfl, rfl⟩, reason := by simp [status] }

theorem closeWithoutAction_effect {body : CasesCloseBody}
    (accepted : closeWithoutAction bank actor user expectedVersion body file = .ok next) :
    Effect file next := by
  obtain ⟨drawn, reason, extras, moved⟩ := closeWithoutAction_ok accepted
  refine .inr ⟨_, _, _, .of_transition moved rfl rfl rfl (by simp) ?_ ?_⟩
  · intro closed
    have closed' : file.case.status = .closed := closed
    simp [closed', onePersonCloseFrom] at drawn
  · intro waiting
    have waiting' : file.case.status = .signoff := waiting
    simp [waiting', onePersonCloseFrom] at drawn

theorem startAssessment_effect
    (accepted : startAssessment bank actor user expectedVersion file = .ok next) : Effect file next := by
  obtain ⟨begun, moved, rfl⟩ := startAssessment_ok accepted
  have move := Move.of_transition moved rfl rfl rfl (by simp) (fun _ => rfl) (by simp)
  refine .inr ⟨_, _, _, move.kept ?_⟩
  exact .of_rows rfl rfl (List.append_nil _).symm (by simp) fun _ => ⟨rfl, Nat.le_refl _⟩

theorem saveAssessment_effect {body : CasesAssessmentBody} {mayClose : Bool}
    (accepted : saveAssessment bank actor user expectedVersion body mayClose file = .ok next) :
    Effect file next := by
  obtain ⟨open_, assessment, subStatus, settled, event, named, rfl, written⟩ :=
    saveAssessment_ok accepted
  have recorded : Kept settled { settled with audit := settled.audit ++ [event] } :=
    .of_rows rfl rfl rfl (single_other _ named (by decide)) fun _ => ⟨rfl, Nat.le_refl _⟩
  rcases written with ⟨reason, -, moved⟩ | ⟨-, stored⟩
  · have move := Move.of_transition moved rfl rfl rfl (by simp)
      (by
        intro closed
        have closed' : file.case.status = .closed := closed
        simp [closed', savable] at open_)
      (by
        intro waiting
        have waiting' : file.case.status = .signoff := waiting
        simp [waiting', savable] at open_)
    exact .inr ⟨_, _, _, ({ move with } : Move file settled _ _ _).kept recorded⟩
  · obtain ⟨checked, rfl⟩ := save_ok.mp stored
    refine .inl (Kept.trans ?_ recorded)
    exact
      { identity := rfl, status := rfl, ledger := rfl, audit := rfl, version := Nat.le_succ _,
        held := fun _ => ⟨rfl, Nat.le_refl _⟩, signoff := ⟨rfl, rfl⟩, reason := fun _ => rfl }

theorem addAction_effect {body : CasesActionBody}
    (accepted : addAction bank actor user expectedVersion body file = .ok next) : Effect file next := by
  obtain ⟨started, row, event, named, rfl, begun⟩ := addAction_ok accepted
  have other := single_other _ named (by decide)
  rcases begun with ⟨assessing, moved⟩ | ⟨implementing, rfl⟩
  · have move := Move.of_transition moved rfl rfl rfl (by simp) (fun _ => rfl) (by simp)
    have status : started.case.status = .implementing := move.arrives
    exact .inr ⟨_, _, _, move.kept (.of_rows rfl rfl rfl other (by simp [status, locked]))⟩
  · exact .inl (.of_rows rfl rfl rfl other (by simp [implementing, locked]))

theorem requestSignoff_effect
    (accepted : requestSignoff bank actor user expectedVersion file = .ok next) : Effect file next := by
  have moved := requestSignoff_ok accepted
  exact .inr ⟨_, _, _, .of_transition moved rfl rfl rfl (by simp) (fun _ => rfl) (by simp)⟩

theorem approveSignoff_effect {note : String} {stepUpAssertionId : Id}
    (accepted : approveSignoff bank actor user expectedVersion note stepUpAssertionId file = .ok next) :
    Effect file next := by
  obtain ⟨waiting, reason, extras, signedOff, moved⟩ := approveSignoff_ok accepted
  refine .inr ⟨_, _, _, .of_transition moved rfl rfl rfl (by simp) ?_ ?_⟩
  · simp [waiting]
  · intro _ _
    exact ⟨rfl, signedOff⟩

theorem sendBackSignoff_effect {note : String}
    (accepted : sendBackSignoff bank actor user expectedVersion note file = .ok next) :
    Effect file next := by
  obtain ⟨extras, moved⟩ := sendBackSignoff_ok accepted
  exact .inr ⟨_, _, _, .of_transition moved rfl rfl rfl (by simp) (fun _ => rfl) (by simp)⟩

end Moves

section Rows
variable {bank : Bank} {actor : Actor} {user : Id} {expectedVersion : Option Nat} {file next : CaseFile}

theorem updateAction_effect {actionId : Id} {body : CasesActionPatch}
    (accepted : updateAction bank actor user actionId expectedVersion body file = .ok next) :
    Effect file next := by
  obtain ⟨working, saved, event, named, rfl⟩ := updateAction_ok accepted
  exact .inl (.of_rows rfl rfl rfl (single_other _ named (by decide))
    fun frozen => absurd frozen (not_locked_of_worked working))

theorem deleteAction_effect {actionId : Id}
    (accepted : deleteAction bank actor user actionId expectedVersion file = .ok next) :
    Effect file next := by
  obtain ⟨working, saved, event, named, rfl⟩ := deleteAction_ok accepted
  exact .inl (.of_rows rfl rfl rfl (single_other _ named (by decide))
    fun frozen => absurd frozen (not_locked_of_worked working))

theorem not_locked_of_open (open_ : file.case.status ≠ .closed ∧ file.case.status ≠ .dismissed ∧
    file.case.status ≠ .signoff) : file.case.status ∉ locked := by
  simp [locked, open_]

theorem addEvidence_effect {intake : Intake} {form : CasesEvidenceForm}
    (accepted : addEvidence bank intake actor user form file = .ok next) : Effect file next := by
  obtain ⟨open_, row, event, named, rfl⟩ := addEvidence_ok accepted
  exact .inl (.of_rows rfl rfl rfl (single_other _ named (by decide))
    fun frozen => absurd frozen (not_locked_of_open open_))

theorem removeEvidence_effect {evidenceId : Id}
    (accepted : removeEvidence bank actor evidenceId file = .ok next) : Effect file next := by
  obtain ⟨open_, saved, event, named, rfl⟩ := removeEvidence_ok accepted
  exact .inl (.of_rows rfl rfl rfl (single_other _ named (by decide))
    fun frozen => absurd frozen (not_locked_of_open open_))

theorem scanEvidence_kept (bank : Bank) (evidenceId : Id) (result : ScanResult) (file : CaseFile) :
    Kept file (scanEvidence bank evidenceId result file) := by
  unfold scanEvidence
  split
  · exact .refl file
  · rename_i row found
    refine .of_rows rfl rfl rfl (single_other "case.evidence_scanned" rfl (by decide)) fun _ => ⟨rfl, ?_⟩
    exact cleanEvidence_le_scanned evidenceId result bank.now file.evidence

theorem writeSoWhat_kept {text action : String} {seen : ChangeCase} (other : action ≠ moved)
    (accepted : writeSoWhat bank actor user text action seen file = .ok next) : Kept file next := by
  obtain ⟨sameCase, -, sameActions, sameEvidence, sameLedger, event, sameAudit, named⟩ :=
    writeSoWhat_ok accepted
  exact
    { identity := by rw [sameCase]
      status := by rw [sameCase]
      ledger := sameLedger
      audit := by rw [sameAudit, movedEvents_append, movedEvents_other (single_other _ named other),
        List.append_nil]
      version := by
        rw [sameCase]
        exact Nat.le_succ _
      held := fun _ => ⟨by rw [CaseFile.openActionCount, sameActions]; rfl,
        Nat.le_of_eq (by rw [CaseFile.cleanEvidenceCount, CaseFile.cleanEvidenceCount, sameEvidence])⟩
      signoff := by simp [sameCase]
      reason := by simp [sameCase] }

theorem confirmSoWhat_kept {seen : ChangeCase}
    (accepted : confirmSoWhat bank actor user seen file = .ok next) : Kept file next := by
  exact writeSoWhat_kept (by decide) (confirmSoWhat_ok accepted).2

theorem applyDraft_kept (words : String) (file : CaseFile) : Kept file (applyDraft words file) := by
  unfold applyDraft
  split
  · exact
      { identity := rfl, status := rfl, ledger := rfl
        audit := by
          rw [record_eq, movedEvents_append, movedEvents_other (single_other draftApplied rfl (by decide)),
            List.append_nil]
        version := Nat.le_refl _, held := fun _ => ⟨rfl, Nat.le_refl _⟩, signoff := ⟨rfl, rfl⟩
        reason := fun _ => rfl }
  · exact .refl file

theorem recompute_kept (verdict : Bool) (file : CaseFile) : Kept file (recompute verdict file) := by
  unfold recompute
  split
  · exact
      { identity := rfl, status := rfl, ledger := rfl, audit := rfl, version := Nat.le_refl _,
        held := fun _ => ⟨rfl, Nat.le_refl _⟩, signoff := ⟨rfl, rfl⟩, reason := fun _ => rfl }
  · exact .refl file

theorem removeMember_kept {removal : Removal} (accepted : removeMember bank removal file = .ok next) :
    Kept file next := by
  simp only [removeMember, bind_ok] at accepted
  obtain ⟨_, -, handed, case_, actions_⟩ := accepted
  have caseKept : Kept file handed := by
    rcases reassignCase_ok case_ with rfl | ⟨person, checked, event, named, rfl⟩
    · exact .refl _
    · exact
        { identity := rfl, status := rfl, ledger := rfl
          audit := by
            rw [movedEvents_append, movedEvents_other (single_other _ named (by decide)), List.append_nil]
          version := Nat.le_succ _, held := fun _ => ⟨rfl, Nat.le_refl _⟩, signoff := ⟨rfl, rfl⟩
          reason := fun _ => rfl }
  obtain ⟨actions, events, named, rfl, sameOpen⟩ := reassignActions_ok actions_
  refine caseKept.trans (.of_rows rfl rfl rfl ?_ fun _ => ⟨sameOpen, Nat.le_refl _⟩)
  intro event member
  rw [named event member]
  decide

end Rows

theorem execute_effect {bank : Bank} {command : Command} {file next : CaseFile}
    (accepted : execute bank command file = .ok next) : Effect file next := by
  cases command with
  | triage caller body => exact triageChange_effect accepted
  | dismiss caller reasonKey => exact dismissChange_effect accepted
  | restore caller => exact restoreChange_effect accepted
  | closeWithoutAction caller body => exact closeWithoutAction_effect accepted
  | startAssessment caller => exact startAssessment_effect accepted
  | saveAssessment caller body mayClose => exact saveAssessment_effect accepted
  | addAction caller body => exact addAction_effect accepted
  | updateAction caller actionId body => exact updateAction_effect accepted
  | deleteAction caller actionId => exact deleteAction_effect accepted
  | addEvidence intake caller form => exact addEvidence_effect accepted
  | removeEvidence caller evidenceId => exact removeEvidence_effect accepted
  | scanEvidence evidenceId result =>
    cases accepted
    exact .inl (scanEvidence_kept bank evidenceId result file)
  | requestSignoff caller => exact requestSignoff_effect accepted
  | approveSignoff caller note stepUpAssertionId => exact approveSignoff_effect accepted
  | sendBackSignoff caller note => exact sendBackSignoff_effect accepted
  | saveSoWhat caller text seen => exact .inl (writeSoWhat_kept (by decide) accepted)
  | confirmSoWhat caller seen => exact .inl (confirmSoWhat_kept accepted)
  | removeMember removal => exact .inl (removeMember_kept accepted)

theorem step_effect {call : Call} {file next : CaseFile} (accepted : step file call = .ok next) :
    Effect file next := by
  cases call with
  | command bank command => exact execute_effect accepted
  | draft words =>
    cases accepted
    exact .inl (applyDraft_kept words file)
  | verdict inFootprint =>
    cases accepted
    exact .inl (recompute_kept inFootprint file)

/-- Who makes a call that names a version of the case. -/
def Command.onCase : Command → Option Caller
  | .triage caller _ | .dismiss caller _ | .restore caller | .closeWithoutAction caller _ | .startAssessment caller
  | .saveAssessment caller _ _ | .addAction caller _ | .requestSignoff caller | .approveSignoff caller _ _
  | .sendBackSignoff caller _ => some caller
  | _ => none

theorem execute_versioned {bank : Bank} {command : Command} {caller : Caller} {file next : CaseFile} (names : command.onCase = some caller)
    (accepted : execute bank command file = .ok next) : caller.expectedVersion = some file.case.version := by
  cases command <;> cases names
  case saveAssessment | addAction =>
    obtain ⟨_, -, accepted⟩ := bind_ok.mp accepted
    obtain ⟨_, checked, -⟩ := bind_ok.mp accepted
    exact require_ok.mp checked
  all_goals
    obtain ⟨_, checked, -⟩ := bind_ok.mp accepted
    exact require_ok.mp checked

/-- Once a call has moved the case or raised its version, none that names a version read before is accepted, whatever is done in between. -/
def StaleRefused (file : CaseFile) : Prop :=
  ∀ call next, step file call = .ok next → next.transitions ≠ file.transitions ∨ next.case.version ≠ file.case.version →
    ∀ calls bank command caller, command.onCase = some caller → (∀ version ∈ caller.expectedVersion, version ≤ file.case.version) →
      ∀ last, execute bank command (run step next calls) ≠ .ok last

theorem case_staleRefused (file : CaseFile) : StaleRefused file := by
  intro call next accepted changed calls bank command caller names read last done
  have raised : file.case.version < next.case.version := by
    rcases step_effect accepted with kept | ⟨row, event, facts, move⟩
    · exact kept.version.lt_of_ne' (changed.resolve_left (not_not.mpr kept.ledger))
    · exact move.version
  have onward : next.case.version ≤ (run step next calls).case.version := by
    refine @run_invariant _ _ _ step next (next.case.version ≤ ·.case.version) (le_refl _) (fun before call after above done => ?_) calls
    rcases step_effect done with kept | ⟨row, event, facts, move⟩
    · exact above.trans kept.version
    · exact above.trans ((Nat.le_succ _).trans move.version)
  exact absurd (read _ (execute_versioned names done)) (Nat.not_le.mpr (raised.trans_le onward))

end Grc.Cases
