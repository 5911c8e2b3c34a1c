import Grc.Cases.Logic

/-! Removing a member who owns open work: what the removal does to one case. A case and an
action pass to a person, and the team beside a case's owner stays. -/
namespace Grc.Tenants

open Grc.Shared Grc.Lib Grc.Cases

/-- The new owners a removal names, by kind of work. -/
structure Removal where
  actor : Actor
  userId : Id
  caseOwner : Option Id := none
  actionOwner : Option Id := none
  memberName : String := ""
  stepUpAssertionId : Id

/-- `owned_work["case"]`: a case neither closed nor dismissed. -/
def ownsCase (userId : Id) (case : ChangeCase) : Prop := case.owner = some userId ∧ isOpen case.status = true

instance (userId : Id) (case : ChangeCase) : Decidable (ownsCase userId case) :=
  inferInstanceAs (Decidable (_ ∧ _))

/-- `owned_work["action"]`: an action neither done nor removed. -/
def ownsAction (userId : Id) (row : Action) : Bool := row.owner == userId && row.isOpen

def reassignmentRequired : Refusal where
  code := "reassignment_required"
  detail := "This member still holds work. Name a new owner for each kind before removing them."

/-- `_targets`: each named owner is another current member, and a case's works cases. -/
def checkTargets (bank : Bank) (removal : Removal) : Except Refusal Unit := do
  require (∀ person ∈ removal.caseOwner.toList ++ removal.actionOwner.toList,
      person ∈ bank.memberships ∧ person ≠ removal.userId)
    { code := "unknown_member", detail := "A new owner must be another current member of this bank." }
  require (∀ person ∈ removal.caseOwner, person ∈ bank.workRoles)
    { code := "unknown_member", detail := "A case's new owner must be a member who works cases." }

def reassignedEvent (removal : Removal) (kind subjectType title : String) (subjectId tenantId : Id)
    (before after : List (String × AuditValue)) : AuditEvent where
  action := kind ++ ".reassigned"
  actor := removal.actor
  subjectType := subjectType
  subjectId := some subjectId
  subjectTitle := title
  summary := "Reassigned on the removal of " ++ removal.memberName ++ "."
  tenantId := some tenantId
  before := before
  after := after
  stepUpAssertionId := some removal.stepUpAssertionId

def caseOwnerIds (case : ChangeCase) : List (String × AuditValue) :=
  [("ownerId", .ofId case.owner), ("ownerTeamId", .ofId (case.ownerTeam.map (·.id)))]

/-- The case, handed to its new owner when the member holds it. -/
def reassignCase (removal : Removal) (file : CaseFile) : Except Refusal CaseFile :=
  if ownsCase removal.userId file.case then do
    let person ← demand removal.caseOwner reassignmentRequired
    let saved ← save file { file.case with owner := some person, version := file.case.version + 1 }
    .ok { saved with
      audit := record saved.audit
        (reassignedEvent removal "case" caseSubject file.case.changeTitle file.case.id file.case.tenantId
          (caseOwnerIds file.case) (caseOwnerIds saved.case)) }
  else .ok file

/-- The member's open actions, handed to their new owner. -/
def reassignActions (removal : Removal) (file : CaseFile) : Except Refusal CaseFile :=
  match file.actions.filter (ownsAction removal.userId) with
  | [] => .ok file
  | held => do
    let person ← demand removal.actionOwner reassignmentRequired
    .ok { file with
      actions := file.actions.map fun row =>
        if ownsAction removal.userId row then { row with owner := person, version := row.version + 1 }
        else row
      audit := file.audit ++ held.map fun row =>
        reassignedEvent removal "action" "action" row.title row.id file.case.tenantId
          [("ownerId", .ref row.owner)] [("ownerId", .ref person)] }

/-- `remove_member`, as far as it touches this case. -/
def removeMember (bank : Bank) (removal : Removal) (file : CaseFile) : Except Refusal CaseFile := do
  checkTargets bank removal
  let handed ← reassignCase removal file
  reassignActions removal handed

variable {file next : CaseFile} {removal : Removal}

theorem reassignCase_ok
    (accepted : reassignCase removal file = .ok next) :
    next = file ∨ ∃ person checked event, event.action = "case.reassigned" ∧
      next = { file with
        case := { file.case with owner := some person, version := file.case.version + 1 }
        checked
        audit := file.audit ++ [event] } := by
  unfold reassignCase at accepted
  split at accepted
  · simp only [bind_ok, save_ok] at accepted
    obtain ⟨person, -, saved, ⟨checked, rfl⟩, written⟩ := accepted
    exact .inr ⟨person, checked, _, by rfl, (Except.ok.inj written).symm⟩
  · exact .inl (Except.ok.inj accepted).symm

theorem reassignActions_ok
    (accepted : reassignActions removal file = .ok next) :
    ∃ actions events, (∀ event ∈ events, event.action = "action.reassigned") ∧
      next = { file with actions, audit := file.audit ++ events } ∧
      (actions.filter Action.isOpen).length = file.openActionCount := by
  unfold reassignActions at accepted
  split at accepted
  · refine ⟨file.actions, [], by simp, ?_, rfl⟩
    simpa using (Except.ok.inj accepted).symm
  · simp only [bind_ok] at accepted
    obtain ⟨person, -, written⟩ := accepted
    refine ⟨_, _, ?_, (Except.ok.inj written).symm, ?_⟩
    · intro event member
      obtain ⟨row, -, rfl⟩ := List.mem_map.mp member
      rfl
    · unfold CaseFile.openActionCount
      induction file.actions with
      | nil => rfl
      | cons row rest ih =>
        by_cases owned : ownsAction removal.userId row = true
        · have sameOpen : ({ row with owner := person, version := row.version + 1 } : Action).isOpen =
              row.isOpen := rfl
          simp only [List.map_cons, if_pos owned, List.filter_cons, sameOpen]
          split <;> simp [ih]
        · simp only [List.map_cons, if_neg owned, List.filter_cons]
          split <;> simp [ih]

theorem removeMember_case {bank : Bank}
    (accepted : removeMember bank removal file = .ok next) :
    next.case = file.case ∨
      ∃ person, next.case = { file.case with owner := some person, version := file.case.version + 1 } := by
  simp only [removeMember, bind_ok] at accepted
  obtain ⟨_, -, handed, case_, actions_⟩ := accepted
  obtain ⟨actions, events, -, rfl, -⟩ := reassignActions_ok actions_
  rcases reassignCase_ok case_ with rfl | ⟨person, checked, event, -, rfl⟩
  · exact .inl rfl
  · exact .inr ⟨person, rfl⟩

end Grc.Tenants
