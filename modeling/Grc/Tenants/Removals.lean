import Grc.Cases.State
import Grc.Lib.Tx
import Grc.Register.Duties
import Grc.Register.Gaps

/-! Removing a member who owns open work: the seven kinds of record a person owns, the new owner named for each, and the removal that
hands them over, ends what the member took part in and deactivates the membership. -/
namespace Grc.Tenants.MemberRemoval

open Grc.Shared Grc.Lib
open Grc.Register (GapCategory DutyStatus)
open Grc.Cases (CaseStatusCategory)

/-- `ReassignableKind`. -/
inductive WorkKind where
  | registerEntry
  | registerEntity
  | gap
  | dutyOccurrence
  | internalItem
  | case_
  | action
  deriving DecidableEq

def WorkKind.value : WorkKind → String
  | registerEntry => "register_entry"
  | registerEntity => "register_entity"
  | gap => "gap"
  | dutyOccurrence => "duty_occurrence"
  | internalItem => "internal_item"
  | case_ => "case"
  | action => "action"

def personOnly : List WorkKind := [.case_, .action]

/-- A person or a team, exactly one of them. -/
inductive Successor (Team : Type) where
  | person (user : Id)
  | team (team : Team)

namespace Successor
variable {Team : Type}

def userId : Successor Team → Option Id
  | person user => some user
  | team _ => none

def team? : Successor Team → Option Team
  | person _ => none
  | team key => some key

end Successor

/-- `TenantRemovalOwner`: who takes over one kind of work, a team by its key. -/
structure RemovalOwner where
  kind : WorkKind
  successor : Successor String

/-- A new owner, its team found. -/
abbrev Target := Successor Id

/-- A bank's register entry, its owner columns and what the audit names it by. -/
structure TenantObligation where
  id : Id
  obligation : Id
  firstLineOwner : Option Id := none
  complianceContact : Option Id := none
  ownerTeam : Option Id := none
  version : Nat := 1

/-- The owner columns of a row a person or a team owns, never both. -/
structure OneOwner where
  owner : Option Id := none
  ownerTeam : Option Id := none
  oneOwnerKind : owner = none ∨ ownerTeam = none := by decide

/-- The columns a new owner takes. -/
def OneOwner.of (target : Target) : OneOwner where
  owner := target.userId
  ownerTeam := target.team?
  oneOwnerKind := by
    cases target
    · exact .inr rfl
    · exact .inl rfl

/-- A legal entity's row of a register entry, with the obligation of its entry. -/
structure TenantObligationScope extends OneOwner where
  id : Id
  obligation : Id
  version : Nat := 1

structure Gap extends OneOwner where
  id : Id
  title : String := ""
  status : GapCategory := .open_
  version : Nat := 1

/-- An occurrence of a duty, with its duty's title. -/
structure DutyOccurrence extends OneOwner where
  id : Id
  title : String := ""
  status : DutyStatus := .upcoming
  version : Nat := 1

/-- An item of the bank. It has no version. -/
structure InternalItem extends OneOwner where
  id : Id
  name : String := ""
  active : Bool := true

/-- A case, with its change's title. -/
structure ChangeCase where
  id : Id
  title : String := ""
  status : CaseStatusCategory := .new
  owner : Option Id := none
  ownerTeam : Option Id := none
  version : Nat := 1

structure Action where
  id : Id
  title : String := ""
  owner : Id
  doneAt : Option Instant := none
  removedAt : Option Instant := none
  version : Nat := 1

/-- A person or a team that takes part in an entry or a case. -/
structure Participant where
  id : Id
  tenantObligation : Option Id := none
  case_ : Option Id := none
  user : Option Id := none
  team : Option Id := none
  removedAt : Option Instant := none
  removedBy : Option Id := none

structure Team where
  id : Id
  key : String
  active : Bool := true

structure TeamMember where
  id : Id
  team : Id
  user : Id

/-- A membership, with its person's name and address and the permissions of each of its roles. -/
structure Membership where
  id : Id
  user : Id
  name : String := ""
  email : String := ""
  roles : List (List String) := []
  deactivatedAt : Option Instant := none

structure UserSession where
  id : Id
  user : Id
  revokedAt : Option Instant := none

/-- A credential of the bank: a person's own token or another. -/
structure ApiKey where
  id : Id
  personal : Bool := true
  actsAsUser : Option Id := none
  revokedAt : Option Instant := none

structure Invitation where
  id : Id
  email : String
  acceptedAt : Option Instant := none
  revokedAt : Option Instant := none

/-- How an obligation is named: its instrument and its place in it. -/
structure Heading where
  instrumentShortName : String
  referenceLabel : String

/-- One bank, as far as a removal reads or writes it. -/
structure Bank where
  tenantId : Id := 0
  headings : List (Id × Heading) := []
  memberships : Keyed Membership.id := {}
  teams : Keyed Team.id := {}
  entries : Keyed TenantObligation.id := {}
  scopes : Keyed TenantObligationScope.id := {}
  gaps : Keyed Gap.id := {}
  occurrences : Keyed DutyOccurrence.id := {}
  items : Keyed InternalItem.id := {}
  cases : Keyed ChangeCase.id := {}
  actions : Keyed Action.id := {}
  participants : Keyed Participant.id := {}
  teamMembers : Keyed TeamMember.id := {}
  sessions : Keyed UserSession.id := {}
  apiKeys : Keyed ApiKey.id := {}
  invitations : Keyed Invitation.id := {}
  audit : List AuditEvent := []

/-- A call of `remove_member`, and the clock it reads. -/
structure Removal where
  user : Id
  owners : List RemovalOwner
  actor : Actor
  stepUpAssertionId : Id
  now : Instant

/-- A kind of work as a removal finds it, hands it over and audits it. -/
structure WorkTable {Row : Type} (key : Row → Nat) where
  kind : WorkKind
  subjectType : String
  rows : Bank → Keyed key
  put : Keyed key → Bank → Bank
  /-- `owned_work`. -/
  held : Id → Row → Bool
  /-- `_new_owner`, saved with the next version. -/
  newOwner : Id → Target → Row → Row
  /-- `_owner_ids`. -/
  ownerIds : Row → List (String × Option Id)
  /-- `_title`. -/
  title : List (Id × Heading) → Row → String
  named : ∀ user target row, key (newOwner user target row) = key row

/-- `_title`, of a row known by its obligation. -/
def headed (headings : List (Id × Heading)) (obligation : Id) : String :=
  (headings.lookup obligation).elim "" fun heading => heading.instrumentShortName ++ ", " ++ heading.referenceLabel

def passed (user : Id) (next held : Option Id) : Option Id := if held = some user then next else held

/-- On a register entry, the person columns the member held pass to the new person; to a team, the team becomes the owner and those
columns are cleared. -/
def entryTable : WorkTable TenantObligation.id where
  kind := .registerEntry
  subjectType := "tenant_obligation"
  rows := (·.entries)
  put := fun entries bank => { bank with entries }
  held := fun user row => row.firstLineOwner == some user || row.complianceContact == some user
  newOwner := fun user target row => { row with
    firstLineOwner := passed user target.userId row.firstLineOwner
    complianceContact := passed user target.userId row.complianceContact
    ownerTeam := target.team? <|> row.ownerTeam
    version := row.version + 1 }
  ownerIds := fun row =>
    [("firstLineOwnerId", row.firstLineOwner), ("complianceContactId", row.complianceContact), ("ownerTeamId", row.ownerTeam)]
  title := fun headings row => headed headings row.obligation
  named := fun _ _ _ => rfl

def scopeTable : WorkTable TenantObligationScope.id where
  kind := .registerEntity
  subjectType := "tenant_obligation_scope"
  rows := (·.scopes)
  put := fun scopes bank => { bank with scopes }
  held := fun user row => row.owner == some user
  newOwner := fun _ target row => { row with toOneOwner := .of target, version := row.version + 1 }
  ownerIds := fun row => [("ownerId", row.owner), ("ownerTeamId", row.ownerTeam)]
  title := fun headings row => headed headings row.obligation
  named := fun _ _ _ => rfl

/-- The gaps not closed. -/
def gapTable : WorkTable Gap.id where
  kind := .gap
  subjectType := "gap"
  rows := (·.gaps)
  put := fun gaps bank => { bank with gaps }
  held := fun user row => row.owner == some user && row.status != .closed
  newOwner := fun _ target row => { row with toOneOwner := .of target, version := row.version + 1 }
  ownerIds := fun row => [("ownerId", row.owner), ("ownerTeamId", row.ownerTeam)]
  title := fun _ row => row.title
  named := fun _ _ _ => rfl

/-- The open duty occurrences. -/
def occurrenceTable : WorkTable DutyOccurrence.id where
  kind := .dutyOccurrence
  subjectType := "duty_occurrence"
  rows := (·.occurrences)
  put := fun occurrences bank => { bank with occurrences }
  held := fun user row => row.owner == some user && row.status.isOpen
  newOwner := fun _ target row => { row with toOneOwner := .of target, version := row.version + 1 }
  ownerIds := fun row => [("ownerId", row.owner), ("ownerTeamId", row.ownerTeam)]
  title := fun _ row => row.title
  named := fun _ _ _ => rfl

/-- The active internal items. -/
def itemTable : WorkTable InternalItem.id where
  kind := .internalItem
  subjectType := "internal_item"
  rows := (·.items)
  put := fun items bank => { bank with items }
  held := fun user row => row.owner == some user && row.active
  newOwner := fun _ target row => { row with toOneOwner := .of target }
  ownerIds := fun row => [("ownerUserId", row.owner), ("ownerTeamId", row.ownerTeam)]
  title := fun _ row => row.name
  named := fun _ _ _ => rfl

/-- The cases not closed or dismissed. The team beside a case's owner stays. -/
def caseTable : WorkTable ChangeCase.id where
  kind := .case_
  subjectType := "change_case"
  rows := (·.cases)
  put := fun cases bank => { bank with cases }
  held := fun user row => row.owner == some user && Cases.isOpen row.status
  newOwner := fun _ target row => { row with owner := target.userId, version := row.version + 1 }
  ownerIds := fun row => [("ownerId", row.owner), ("ownerTeamId", row.ownerTeam)]
  title := fun _ row => row.title
  named := fun _ _ _ => rfl

/-- The actions neither done nor removed. An action always names a person. -/
def actionTable : WorkTable Action.id where
  kind := .action
  subjectType := "action"
  rows := (·.actions)
  put := fun actions bank => { bank with actions }
  held := fun user row => row.owner == user && row.doneAt.isNone && row.removedAt.isNone
  newOwner := fun _ target row => { row with owner := target.userId.getD row.owner, version := row.version + 1 }
  ownerIds := fun row => [("ownerId", some row.owner)]
  title := fun _ row => row.title
  named := fun _ _ _ => rfl

section Counts
variable (bank : Bank) (user : Id)

def WorkTable.count {Row : Type} {key : Row → Nat} (table : WorkTable key) : WorkKind × Nat :=
  (table.kind, ((table.rows bank).rows.filter (table.held user)).length)

/-- What `owned_work` counts, in the contract's kind order. -/
def ownedCounts : List (WorkKind × Nat) :=
  [entryTable.count bank user, scopeTable.count bank user, gapTable.count bank user, occurrenceTable.count bank user,
    itemTable.count bank user, caseTable.count bank user, actionTable.count bank user]

def participates (user : Id) (row : Participant) : Bool := row.user == some user && row.removedAt.isNone

def openWorkCounts : List (String × Nat) :=
  ((ownedCounts bank user).map (fun each => (each.1.value, each.2)) ++
    [("participation", (bank.participants.rows.filter (participates user)).length),
      ("team_membership", (bank.teamMembers.rows.filter (·.user == user)).length)]).filter (·.2 != 0)

end Counts

def reassignmentRequired (counts : List (String × Nat)) : Refusal where
  code := "reassignment_required"
  detail := "This member still holds work. Name a new owner for each kind before removing them."
  extra := counts.map fun each => (each.1, .number each.2)

def unknownMember (detail : String) : Refusal := { code := "unknown_member", detail }

def validationError (detail : String) : Refusal := { code := "validation_error", detail }

def findTeam (bank : Bank) (key : String) : Except Refusal Id :=
  (demand (bank.teams.rows.find? fun team => team.key == key && team.active)
    { code := "unknown_key", detail := "That is not one of this bank's teams." }).map (·.id)

def resolve (bank : Bank) : Successor String → Except Refusal Target
  | .person user => .ok (.person user)
  | .team key => (findTeam bank key).map .team

def caseOwner (owners : List RemovalOwner) : Option Id := (owners.find? (·.kind == .case_)).bind (·.successor.userId)

/-- `_targets`: each named kind's new owner, another active member of the bank or an active team of it. -/
def targets (bank : Bank) (user : Id) (owners : List RemovalOwner) : Except Refusal (List (WorkKind × Target)) := do
  require (owners.map (·.kind)).Nodup (validationError "Name each kind of work once.")
  require
    (∀ owner ∈ owners, ∀ person ∈ owner.successor.userId,
      person ≠ user ∧ ∃ row ∈ bank.memberships.rows, row.user = person ∧ row.deactivatedAt = none)
    (unknownMember "A new owner must be another current member of this bank.")
  require (∀ owner ∈ owners, owner.kind ∈ personOnly → owner.successor.team? = none)
    (validationError "Cases and actions pass to a person, never to a team.")
  require
    (∀ person ∈ caseOwner owners,
      ∃ row ∈ bank.memberships.rows, row.user = person ∧ ∃ role ∈ row.roles, "cases.work" ∈ role)
    (unknownMember "A case's new owner must be a member who works cases.")
  owners.mapM fun owner => (resolve bank owner.successor).map fun target => (owner.kind, target)

def membershipOf (bank : Bank) (user : Id) : Except Refusal Membership :=
  demand (bank.memberships.rows.find? fun row => row.user == user && row.deactivatedAt.isNone) notFound

/-- An audit event of the removal. -/
def audited (removal : Removal) (tenantId : Id) (action subjectType : String) (subjectId : Id) (subjectTitle summary : String)
    (before after : List (String × AuditValue)) : AuditEvent where
  action
  actor := removal.actor
  subjectType
  subjectId := some subjectId
  subjectTitle
  summary
  tenantId := some tenantId
  before
  after
  stepUpAssertionId := some removal.stepUpAssertionId

def recorded (event : Bank → AuditEvent) : Tx Bank Refusal PUnit :=
  Tx.write fun bank => { bank with audit := record bank.audit (event bank) }

section Reassign
variable (removal : Removal) (member : Membership)

/-- One row, handed over and audited. -/
def reassignRow {Row : Type} {key : Row → Nat} (table : WorkTable key) (target : Target) (row : Row) : Tx Bank Refusal PUnit := do
  Tx.write fun bank =>
    table.put ((table.rows bank).update (fun other => key other == key row) (table.newOwner removal.user target)
      (table.named removal.user target)) bank
  recorded fun bank =>
    audited removal bank.tenantId (table.kind.value ++ ".reassigned") table.subjectType (key row) (table.title bank.headings row)
      ("Reassigned on the removal of " ++ member.name ++ ".")
      ((table.ownerIds row).map fun each => (each.1, .ofId each.2))
      ((table.ownerIds (table.newOwner removal.user target row)).map fun each => (each.1, .ofId each.2))

/-- The rows of one kind the member holds, under their locks, one after the other. -/
def reassign {Row : Type} {key : Row → Nat} (table : WorkTable key) (named : List (WorkKind × Target)) : Tx Bank Refusal PUnit :=
  Tx.given (named.lookup table.kind) fun target => do
    let rows ← Tx.check fun bank =>
      .ok (((table.rows bank).rows.filter (table.held removal.user)).mergeSort fun row other => key row ≤ key other)
    Tx.each rows (reassignRow removal member table target)

/-- `_end_participations`: stamped removed, never deleted. -/
def endParticipations : Tx Bank Refusal PUnit := do
  let rows ← Tx.check fun bank =>
    .ok ((bank.participants.rows.filter (participates removal.user)).mergeSort fun row other => row.id ≤ other.id)
  Tx.each rows fun row => do
    Tx.write fun bank => { bank with
      participants := bank.participants.update (·.id == row.id)
        (fun row => { row with removedAt := some removal.now, removedBy := removal.actor.id }) fun _ => rfl }
    recorded fun bank =>
      audited removal bank.tenantId "participant.removed" "participant" row.id member.name
        "Participation ended with the member's removal." []
        [("participantId", .ref row.id), ("tenantObligationId", .ofId row.tenantObligation), ("caseId", .ofId row.case_)]

/-- `_end_team_memberships`: what each team owns stays the team's. -/
def endTeamMemberships : Tx Bank Refusal PUnit := do
  let rows ← Tx.check fun bank =>
    .ok ((bank.teamMembers.rows.filter (·.user == removal.user)).mergeSort fun row other => row.id ≤ other.id)
  Tx.each rows fun row => do
    Tx.write fun bank => { bank with teamMembers := bank.teamMembers.delete (·.id == row.id) }
    recorded fun bank =>
      audited removal bank.tenantId "team_member.removed" "team" row.team
        ((bank.teams.rows.find? (·.id == row.team)).elim "" (·.key)) (member.name ++ " left the team with their removal.")
        [("userId", .ref removal.user)] [("userId", .absent)]

end Reassign

/-- `assert_not_last_admin`, of a member who leaves. -/
def assertNotLastAdmin (bank : Bank) (member : Membership) : Except Refusal Unit :=
  require
    ("members.manage" ∈ member.roles.flatten →
      ∃ row ∈ bank.memberships.rows, row.deactivatedAt = none ∧ row.user ≠ member.user ∧ "members.manage" ∈ row.roles.flatten)
    { code := "last_admin", detail := "A tenant always keeps one administrator." }

def liveSession (user : Id) (row : UserSession) : Bool := row.user == user && row.revokedAt.isNone

def liveToken (user : Id) (row : ApiKey) : Bool := row.personal && row.actsAsUser == some user && row.revokedAt.isNone

def openInvitation (email : String) (row : Invitation) : Bool := row.email == email && row.acceptedAt.isNone && row.revokedAt.isNone

/-- What a deactivation writes and closes. -/
def deactivated (removal : Removal) (member : Membership) (bank : Bank) : Bank :=
  { bank with
    memberships := bank.memberships.update (·.id == member.id) (fun row => { row with deactivatedAt := some removal.now }) fun _ => rfl
    sessions := bank.sessions.update (liveSession member.user) (fun row => { row with revokedAt := some removal.now }) fun _ => rfl
    apiKeys := bank.apiKeys.update (liveToken member.user) (fun row => { row with revokedAt := some removal.now }) fun _ => rfl
    invitations := bank.invitations.update (openInvitation member.email) (fun row => { row with revokedAt := some removal.now }) fun _ => rfl
    audit := record bank.audit <|
      let revoked := (bank.sessions.rows.filter (liveSession member.user)).length
      let tokens := (bank.apiKeys.rows.filter (liveToken member.user)).length
      let closed := (bank.invitations.rows.filter (openInvitation member.email)).length
      audited removal bank.tenantId "member.deactivated" "membership" member.id member.name
        ("Member deactivated; " ++ toString revoked ++ " session(s) revoked, " ++ toString closed ++ " open invitation(s) closed.")
        [("deactivatedAt", .absent)]
        [("deactivatedAt", .number removal.now), ("invitationsClosed", .number closed), ("tokensRevoked", .number tokens)] }

/-- `deactivate_member`: refused while the member still holds work, takes part in items or is in a team. -/
def deactivateMember (removal : Removal) : Tx Bank Refusal PUnit := do
  let member ← Tx.check fun bank => membershipOf bank removal.user
  Tx.check fun bank => require (openWorkCounts bank removal.user = []) (reassignmentRequired (openWorkCounts bank removal.user))
  Tx.check fun bank => assertNotLastAdmin bank member
  Tx.write (deactivated removal member)

/-- What a removal writes, in one savepoint. -/
def writes (removal : Removal) (member : Membership) (named : List (WorkKind × Target)) : Tx Bank Refusal PUnit := do
  reassign removal member entryTable named
  reassign removal member scopeTable named
  reassign removal member gapTable named
  reassign removal member occurrenceTable named
  reassign removal member itemTable named
  reassign removal member caseTable named
  reassign removal member actionTable named
  endParticipations removal member
  endTeamMemberships removal member
  deactivateMember removal

/-- `remove_member`: every check before the first write, and the writes in one savepoint. -/
def removeMember (removal : Removal) : Tx Bank Refusal PUnit := do
  let member ← Tx.check fun bank => membershipOf bank removal.user
  let named ← Tx.check fun bank => targets bank removal.user removal.owners
  Tx.check fun bank =>
    let missing := (ownedCounts bank removal.user).filter fun each => each.2 != 0 && (named.lookup each.1).isNone
    require (missing = []) (reassignmentRequired (missing.map fun each => (each.1.value, each.2)))
  (writes removal member named).atomic

end Grc.Tenants.MemberRemoval
