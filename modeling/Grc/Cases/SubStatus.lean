import Grc.Cases.Effects

/-! Whether a case's sub-status sits inside the category the case is in, call by call and
over runs. Four calls move the case and carry the sub-status it had across. -/
namespace Grc.Cases

open Grc.Shared Grc.Lib Grc.Tenants

def Placed (file : CaseFile) : Prop :=
  ∀ placed, file.case.subStatus = some placed → placed.kind = file.case.status

instance (file : CaseFile) : Decidable (Placed file) :=
  decidable_of_iff (file.case.subStatus.all fun placed => placed.kind == file.case.status) (by
    unfold Placed
    cases file.case.subStatus <;> simp)

/-- The calls whose move leaves the sub-status where it was: the first action on an assessing
case, and the three moves of a sign-off. -/
def CarriesSubStatus (file : CaseFile) : Call → Prop
  | .command _ (.addAction _ _) => file.case.status = .assessing
  | .command _ (.requestSignoff _) => True
  | .command _ (.approveSignoff _ _ _) => True
  | .command _ (.sendBackSignoff _ _) => True
  | _ => False

def NoneCarried (file : CaseFile) (call : Call) : Prop :=
  CarriesSubStatus file call → file.case.subStatus = none

theorem placed_of_none {file : CaseFile} (none_set : file.case.subStatus = none) : Placed file := by
  intro placed set
  rw [none_set] at set
  cases set

variable {file next : CaseFile}

theorem transition_subStatus {bank : Bank} {case : ChangeCase}
    {toStatus : CaseStatusCategory} {actor : Actor} {user : Option Id} {extras : MoveNote}
    (moved : transition bank file case toStatus actor user extras = .ok next) :
    next.case.subStatus = case.subStatus ∧ next.case.status = toStatus ∧ toStatus ≠ case.status := by
  obtain ⟨allowed, checked, rfl⟩ := transition_ok.mp moved
  exact ⟨rfl, rfl, (checkTransition_ok.mp allowed).1.ne⟩

theorem carried_of_transition {bank : Bank} {case : ChangeCase}
    {toStatus : CaseStatusCategory} {actor : Actor} {user : Option Id} {extras : MoveNote}
    (moved : transition bank file case toStatus actor user extras = .ok next)
    (sub : case.subStatus = file.case.subStatus) (status : case.status = file.case.status) :
    next.case.status ≠ file.case.status ∧ next.case.subStatus = file.case.subStatus := by
  obtain ⟨stored, arrived, left⟩ := transition_subStatus moved
  refine ⟨?_, stored.trans sub⟩
  rw [arrived, ← status]
  exact left

section Calls
variable {bank : Bank} {actor : Actor} {user : Id} {expectedVersion : Option Nat} {file next : CaseFile}

theorem triageChange_placed {body : CasesTriageBody}
    (accepted : triageChange bank actor user expectedVersion body file = .ok next) : Placed next := by
  obtain ⟨urgency, owner, ownerTeam, subStatus, extras, inside, moved⟩ := triageChange_ok accepted
  obtain ⟨stored, arrived, -⟩ := transition_subStatus moved
  intro placed set
  rw [arrived]
  exact inside placed (stored.symm.trans set)

theorem dismissChange_placed {reasonKey : String}
    (accepted : dismissChange bank actor user expectedVersion reasonKey file = .ok next) :
    Placed next := by
  obtain ⟨reason, extras, moved⟩ := dismissChange_ok accepted
  exact placed_of_none (transition_subStatus moved).1

theorem restoreChange_placed
    (accepted : restoreChange bank actor user expectedVersion file = .ok next) : Placed next := by
  obtain ⟨back, -, cleared⟩ := restoreChange_ok accepted
  obtain ⟨checked, rfl⟩ := save_ok.mp cleared
  exact placed_of_none rfl

theorem closeWithoutAction_placed {body : CasesCloseBody}
    (accepted : closeWithoutAction bank actor user expectedVersion body file = .ok next) :
    Placed next := by
  obtain ⟨-, reason, extras, moved⟩ := closeWithoutAction_ok accepted
  exact placed_of_none (transition_subStatus moved).1

theorem startAssessment_placed
    (accepted : startAssessment bank actor user expectedVersion file = .ok next) : Placed next := by
  obtain ⟨begun, moved, rfl⟩ := startAssessment_ok accepted
  exact placed_of_none (transition_subStatus moved).1

theorem saveAssessment_placed {body : CasesAssessmentBody} {mayClose : Bool}
    (accepted : saveAssessment bank actor user expectedVersion body mayClose file = .ok next) :
    Placed next := by
  obtain ⟨-, assessment, subStatus, settled, event, -, rfl, written⟩ := saveAssessment_ok accepted
  rcases written with ⟨reason, inside, moved⟩ | ⟨inside, stored⟩
  · obtain ⟨set_, arrived, -⟩ := transition_subStatus moved
    intro placed set
    rw [arrived]
    exact inside placed (set_.symm.trans set)
  · obtain ⟨checked, rfl⟩ := save_ok.mp stored
    exact inside

end Calls

/-- A call that is not one of the four leaves the sub-status in its place, and one of the four
carries it into another category. -/
theorem execute_subStatus {bank : Bank} {command : Command}
    (accepted : execute bank command file = .ok next) :
    (¬CarriesSubStatus file (.command bank command) ∧
        (Placed next ∨
          next.case.status = file.case.status ∧ next.case.subStatus = file.case.subStatus)) ∨
      (CarriesSubStatus file (.command bank command) ∧
        next.case.status ≠ file.case.status ∧ next.case.subStatus = file.case.subStatus) := by
  cases command with
  | triage caller body => exact .inl ⟨id, .inl (triageChange_placed accepted)⟩
  | dismiss caller reasonKey => exact .inl ⟨id, .inl (dismissChange_placed accepted)⟩
  | restore caller => exact .inl ⟨id, .inl (restoreChange_placed accepted)⟩
  | closeWithoutAction caller body => exact .inl ⟨id, .inl (closeWithoutAction_placed accepted)⟩
  | startAssessment caller => exact .inl ⟨id, .inl (startAssessment_placed accepted)⟩
  | saveAssessment caller body mayClose => exact .inl ⟨id, .inl (saveAssessment_placed accepted)⟩
  | addAction caller body =>
    obtain ⟨started, row, event, -, rfl, begun⟩ := addAction_ok accepted
    rcases begun with ⟨assessing, moved⟩ | ⟨implementing, rfl⟩
    · have carried := carried_of_transition moved rfl rfl
      exact .inr ⟨assessing, carried⟩
    · refine .inl ⟨?_, .inr ⟨rfl, rfl⟩⟩
      intro assessing
      have assessing' : started.case.status = .assessing := assessing
      simp [implementing] at assessing'
  | updateAction caller actionId body =>
    obtain ⟨-, saved, event, -, rfl⟩ := updateAction_ok accepted
    exact .inl ⟨id, .inr ⟨rfl, rfl⟩⟩
  | deleteAction caller actionId =>
    obtain ⟨-, saved, event, -, rfl⟩ := deleteAction_ok accepted
    exact .inl ⟨id, .inr ⟨rfl, rfl⟩⟩
  | addEvidence intake caller form =>
    obtain ⟨-, row, event, -, rfl⟩ := addEvidence_ok accepted
    exact .inl ⟨id, .inr ⟨rfl, rfl⟩⟩
  | removeEvidence caller evidenceId =>
    obtain ⟨-, saved, event, -, rfl⟩ := removeEvidence_ok accepted
    exact .inl ⟨id, .inr ⟨rfl, rfl⟩⟩
  | scanEvidence evidenceId result =>
    cases accepted
    have same : (scanEvidence bank evidenceId result file).case = file.case := by
      unfold scanEvidence
      split <;> rfl
    exact .inl ⟨id, .inr ⟨by rw [same], by rw [same]⟩⟩
  | requestSignoff caller =>
    exact .inr ⟨trivial, carried_of_transition (requestSignoff_ok accepted) rfl rfl⟩
  | approveSignoff caller note stepUpAssertionId =>
    obtain ⟨-, reason, extras, -, moved⟩ := approveSignoff_ok accepted
    exact .inr ⟨trivial, carried_of_transition moved rfl rfl⟩
  | sendBackSignoff caller note =>
    obtain ⟨extras, moved⟩ := sendBackSignoff_ok accepted
    exact .inr ⟨trivial, carried_of_transition moved rfl rfl⟩
  | saveSoWhat caller text seen =>
    have same := (writeSoWhat_ok accepted).1
    exact .inl ⟨id, .inr ⟨by rw [same], by rw [same]⟩⟩
  | confirmSoWhat caller seen =>
    have same := (writeSoWhat_ok (confirmSoWhat_ok accepted).2).1
    exact .inl ⟨id, .inr ⟨by rw [same], by rw [same]⟩⟩
  | removeMember removal =>
    rcases removeMember_case accepted with same | ⟨person, same⟩
    · exact .inl ⟨id, .inr ⟨by rw [same], by rw [same]⟩⟩
    · exact .inl ⟨id, .inr ⟨by rw [same], by rw [same]⟩⟩

theorem step_subStatus {call : Call} (accepted : step file call = .ok next) :
    (¬CarriesSubStatus file call ∧
        (Placed next ∨
          next.case.status = file.case.status ∧ next.case.subStatus = file.case.subStatus)) ∨
      (CarriesSubStatus file call ∧
        next.case.status ≠ file.case.status ∧ next.case.subStatus = file.case.subStatus) := by
  cases call with
  | command bank command => exact execute_subStatus accepted
  | draft words =>
    cases accepted
    refine .inl ⟨id, .inr ?_⟩
    unfold applyDraft
    split <;> exact ⟨rfl, rfl⟩
  | verdict inFootprint =>
    cases accepted
    refine .inl ⟨id, .inr ?_⟩
    unfold recompute
    split <;> exact ⟨rfl, rfl⟩

theorem step_placed_iff {call : Call} (inside : Placed file)
    (accepted : step file call = .ok next) : Placed next ↔ NoneCarried file call := by
  rcases step_subStatus accepted with ⟨other, placed | ⟨status, sub⟩⟩ | ⟨carries, status, sub⟩
  · exact ⟨fun _ carries => absurd carries other, fun _ => placed⟩
  · refine ⟨fun _ carries => absurd carries other, fun _ placed set => ?_⟩
    rw [status]
    exact inside placed (sub.symm.trans set)
  · constructor
    · intro arrived _
      cases set : file.case.subStatus with
      | none => rfl
      | some placed =>
        have left := inside placed set
        have stayed := arrived placed (sub.trans set)
        exact absurd (stayed.symm.trans left) status
    · intro cleared
      exact placed_of_none (sub.trans (cleared carries))

/-- Over a whole run, the sub-status belongs to the category in every state reached exactly
when each call of the four was made on a case that carried none. -/
theorem run_placed_iff (id tenantId : Id) (facts : ChangeFacts) (footprintMatch : Bool)
    (triageDueAt : Instant) (calls : List Call) :
    (∀ first, first <+: calls →
        Placed (run step (createCase id tenantId facts footprintMatch triageDueAt) first)) ↔
      Meets step NoneCarried (createCase id tenantId facts footprintMatch triageDueAt) calls := by
  let start := createCase id tenantId facts footprintMatch triageDueAt
  have opened : (fun file : CaseFile => Placed file) start := placed_of_none rfl
  refine holds_throughout_iff_meets opened ?_ calls
  intro file call next inside accepted
  exact step_placed_iff inside accepted

section Example

/-- A bank with one sub-status inside `assessing` and one person, 7, who works cases. -/
def smallBank : Bank := { Bank.bare with
  urgencies := [{ id := 1, key := "act_now" }]
  subStatuses := [{ id := 2, key := "waiting_for_legal", kind := .assessing }]
  members := [7]
  caseWorkers := [7] }

def caller (version : Nat) : Caller where
  actor := { kind := .user, id := some 7, label := "Sara" }
  user := 7
  expectedVersion := some version

theorem says_why : "It changes our reporting." ≠ "" := by decide

theorem policy_titled : "Update the policy" ≠ "" := by decide

/-- Triage, start, save with a sub-status of `assessing`, and the first action. -/
def firstAction : List Call :=
  [.command smallBank (.triage (caller 1) { urgency := "act_now", ownerId := 7 }),
   .command smallBank (.startAssessment (caller 2)),
   .command smallBank (.saveAssessment (caller 3)
     { applies := .yes, why := "It changes our reporting.", saysWhy := says_why,
       subStatus := some "waiting_for_legal" } true),
   .command smallBank (.addAction (caller 4)
     { title := "Update the policy", titled := policy_titled, dueDate := 20261010 })]

theorem firstAction_misplaces :
    ¬∀ (id tenantId : Id) (facts : ChangeFacts) (footprintMatch : Bool) (triageDueAt : Instant)
      (calls : List Call),
      Placed (run step (createCase id tenantId facts footprintMatch triageDueAt) calls) := by
  intro placed
  have inside := placed 1 1 { id := 3, urgency := { id := 1, key := "act_now" } } true 0 firstAction
  revert inside
  decide +kernel

end Example

end Grc.Cases
