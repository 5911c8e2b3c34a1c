import Grc.Cases.Assessment
import Grc.Cases.Actions
import Grc.Tenants.Reassignment
import Grc.Lib.Runs

/-! Every call that writes one case: what people ask for, each made in the bank as it stands
then, and what the outbox handlers do to the row. -/
namespace Grc.Cases

open Grc.Shared Grc.Lib Grc.Tenants

/-- Who writes, and the version `If-Match` names. -/
structure Caller where
  actor : Actor
  user : Id
  expectedVersion : Option Nat := none

inductive Command where
  | triage (caller : Caller) (body : CasesTriageBody)
  | dismiss (caller : Caller) (reasonKey : String)
  | restore (caller : Caller)
  | closeWithoutAction (caller : Caller) (body : CasesCloseBody)
  | startAssessment (caller : Caller)
  | saveAssessment (caller : Caller) (body : CasesAssessmentBody) (mayClose : Bool)
  | addAction (caller : Caller) (body : CasesActionBody)
  | updateAction (caller : Caller) (actionId : Id) (body : CasesActionPatch)
  | deleteAction (caller : Caller) (actionId : Id)
  | addEvidence (intake : Intake) (caller : Caller) (form : CasesEvidenceForm)
  | removeEvidence (caller : Caller) (evidenceId : Id)
  | scanEvidence (evidenceId : Id) (result : ScanResult)
  | requestSignoff (caller : Caller)
  | approveSignoff (caller : Caller) (note : String) (stepUpAssertionId : Id)
  | sendBackSignoff (caller : Caller) (note : String)
  | saveSoWhat (caller : Caller) (text : String) (seen : ChangeCase)
  | confirmSoWhat (caller : Caller) (seen : ChangeCase)
  | removeMember (removal : Removal)

def execute (bank : Bank) : Command → CaseFile → Except Refusal CaseFile
  | .triage caller body => triageChange bank caller.actor caller.user caller.expectedVersion body
  | .dismiss caller reasonKey =>
    dismissChange bank caller.actor caller.user caller.expectedVersion reasonKey
  | .restore caller => restoreChange bank caller.actor caller.user caller.expectedVersion
  | .closeWithoutAction caller body =>
    Grc.Cases.closeWithoutAction bank caller.actor caller.user caller.expectedVersion body
  | .startAssessment caller =>
    Grc.Cases.startAssessment bank caller.actor caller.user caller.expectedVersion
  | .saveAssessment caller body mayClose =>
    Grc.Cases.saveAssessment bank caller.actor caller.user caller.expectedVersion body mayClose
  | .addAction caller body =>
    Grc.Cases.addAction bank caller.actor caller.user caller.expectedVersion body
  | .updateAction caller actionId body =>
    Grc.Cases.updateAction bank caller.actor caller.user actionId caller.expectedVersion body
  | .deleteAction caller actionId =>
    Grc.Cases.deleteAction bank caller.actor caller.user actionId caller.expectedVersion
  | .addEvidence intake caller form =>
    Grc.Cases.addEvidence bank intake caller.actor caller.user form
  | .removeEvidence caller evidenceId => Grc.Cases.removeEvidence bank caller.actor evidenceId
  | .scanEvidence evidenceId result =>
    fun file => .ok (Grc.Cases.scanEvidence bank evidenceId result file)
  | .requestSignoff caller =>
    Grc.Cases.requestSignoff bank caller.actor caller.user caller.expectedVersion
  | .approveSignoff caller note stepUpAssertionId =>
    Grc.Cases.approveSignoff bank caller.actor caller.user caller.expectedVersion note stepUpAssertionId
  | .sendBackSignoff caller note =>
    Grc.Cases.sendBackSignoff bank caller.actor caller.user caller.expectedVersion note
  | .saveSoWhat caller text seen => Grc.Cases.saveSoWhat bank caller.actor caller.user text seen
  | .confirmSoWhat caller seen => Grc.Cases.confirmSoWhat bank caller.actor caller.user seen
  | .removeMember removal => Grc.Tenants.removeMember bank removal

/-- `_recompute`, on one row: an open case whose stored answer differs is brought up to the
verdict. Its audit row is the bank's, not the case's. -/
def recompute (verdict : Bool) (file : CaseFile) : CaseFile :=
  if isOpen file.case.status = true ∧ file.case.footprintMatch ≠ verdict then
    { file with
      case := { file.case with footprintMatch := verdict }
      checked := ⟨file.checked.1, file.checked.2, file.checked.3, file.checked.4⟩ }
  else file

/-- One write to a case: somebody's call, made in the bank as it stands then, or a handler of
the outbox. -/
inductive Call where
  | command (bank : Bank) (command : Command)
  | draft (words : String)
  | verdict (inFootprint : Bool)

def step (file : CaseFile) : Call → Except Refusal CaseFile
  | .command bank command => execute bank command file
  | .draft words => .ok (applyDraft words file)
  | .verdict inFootprint => .ok (recompute inFootprint file)

end Grc.Cases
