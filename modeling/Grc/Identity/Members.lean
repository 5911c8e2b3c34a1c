import Grc.Lib.Runs
import Grc.Proposals.Kinds
import Grc.Taxonomy.Footprint
import Mathlib.Logic.Function.Basic

/-! A bank's members and roles: each change reads and checks in one turn and writes in a later one, while other changes do the
same over rows it does not lock. -/
namespace Grc.Identity

open Grc.Shared Grc.Lib
open Grc.Proposals (strip)
open Grc.Taxonomy (validationError)

def membersManage : String := "members.manage"

def tenantPermissions : List String :=
  ["library.read", "watch.read", "roadmap.read", "search.use", "comments.write", "problems.report", "register.read", "cases.read",
    "reports.read", "audit.read", "footprint.request", "footprint.approve", "cases.triage", "cases.work", "cases.contribute",
    "cases.signoff", "register.edit", "gaps.edit", "applicability.approve", "risk.accept.approve", "proposals.create",
    "private_records.approve", "exports.create", "ai_log.read", membersManage, "roles.manage", "security.manage", "vocab.manage",
    "workflow.manage", "agents.manage", "integrations.manage", "agent_access.manage", "tokens.create"]

inductive UserStatus where
  | invited
  | active
  | deactivated
  deriving DecidableEq

structure TenantRole where
  id : Id
  key : String
  permissions : List String
  usageNote : String := ""
  sortOrder : Nat := 0
  isSystem : Bool := false
  active : Bool := true
  deriving DecidableEq

structure RoleLabel where
  role : Id
  language : String
  text : String

structure Membership where
  id : Id
  user : Id
  title : String := ""
  deactivatedAt : Option Instant := none

structure MembershipRole where
  id : Id
  membership : Id
  role : Id

/-- The memberships of one bank: a person has one at most. -/
structure MembershipTable extends Keyed Membership.id where
  users : (rows.map (·.user)).Nodup := by exact List.nodup_nil

/-- `save(update_fields=…)` of one membership. -/
def MembershipTable.save (table : MembershipTable) (id : Id) (change : Membership → Membership)
    (named : ∀ row, (change row).id = row.id) (owned : ∀ row, (change row).user = row.user) : MembershipTable where
  toKeyed := table.toKeyed.update (·.id == id) change named
  users := by
    have same : ((table.toKeyed.update (·.id == id) change named).rows.map (·.user)) = table.rows.map (·.user) := by
      rw [Keyed.update, List.map_map]
      refine List.map_congr_left fun row _ => ?_
      simp only [Function.comp_apply]
      split
      · exact owned row
      · rfl
    exact same ▸ table.users

/-- The links of memberships to roles. An id is drawn once. -/
structure LinkTable where
  rows : List MembershipRole := []
  next : Id := 0
  drawn : ∀ link ∈ rows, link.id < next := by simp

/-- `MembershipRole.objects.create(…)`. -/
def LinkTable.create (table : LinkTable) (membership role : Id) : LinkTable where
  rows := table.rows ++ [{ id := table.next, membership, role }]
  next := table.next + 1
  drawn := by
    intro link member
    rcases List.mem_append.mp member with there | new
    · exact Nat.lt_succ_of_lt (table.drawn link there)
    · rw [List.mem_singleton.mp new]
      exact Nat.lt_succ_self _

/-- `DELETE … WHERE membership = …`, of the rows it saw when it began. -/
def LinkTable.delete (table : LinkTable) (membership : Id) (seen : List Id) : LinkTable where
  rows := table.rows.filter fun link => !(link.membership == membership && seen.contains link.id)
  next := table.next
  drawn := fun link member => table.drawn link (List.mem_filter.mp member).1

/-- A change under way: what it read, and what it is about to write. -/
inductive Work where
  | updating (membership : Membership) (given : Option (List TenantRole)) (title : Option String)
      (before : List (String × AuditValue)) (seen : Option (List Id))
  | deactivating (membership : Membership)
  /-- With labels that are refused, once the role's columns are saved. -/
  | editing (before role : TenantRole) (labels : Except Refusal (List (String × String)))
  | retiring (role : TenantRole)

/-- A bank's members and roles as committed, and the changes under way. -/
structure Members where
  tenantId : Id
  roles : Keyed TenantRole.id := {}
  labels : List RoleLabel := []
  memberships : MembershipTable := { rows := [] }
  links : LinkTable := {}
  statuses : Id → UserStatus := fun _ => .active
  works : Id → Option Work := fun _ => none
  audit : List AuditEvent := []

/-- What a role's writes read elsewhere. -/
structure RoleReads where
  /-- The keys of the active languages. -/
  languages : List String := ["en", "sv"]
  /-- `str.lower`. -/
  lower : String → String := String.toLower

/-- What a deactivation reads and closes in other tables. -/
structure DeactivationReads where
  openWork : List (String × Nat) := []
  sessionsRevoked : Nat := 0
  tokensRevoked : Nat := 0
  invitationsClosed : Nat := 0

/-- `membership.roles.all()`. -/
def Members.rolesOf (members : Members) (membership : Id) : List TenantRole :=
  (members.links.rows.filter (·.membership == membership)).filterMap fun link => members.roles.rows.find? (·.id == link.role)

def permissionsOf (roles : List TenantRole) : List String := roles.flatMap (·.permissions)

section
variable (members : Members)

def Members.membershipOf (user : Id) : Except Refusal Membership :=
  demand (members.memberships.rows.find? fun row => row.user == user && row.deactivatedAt.isNone) notFound

/-- `tenant_role_by_key`. -/
def Members.roleByKey (reads : RoleReads) (key : String) : Except Refusal TenantRole :=
  demand (members.roles.rows.find? (·.key == reads.lower (strip key))) notFound

/-- `roles_by_keys`, of the active roles. -/
def Members.rolesByKeys (keys : List String) : Except Refusal (List TenantRole) := do
  let wanted := keys.eraseDups
  require (wanted ≠ []) { code := "roles_required", detail := "Pick at least one role." }
  let found (key : String) := members.roles.rows.find? fun role => role.active && role.key == key
  let unknown := wanted.filter fun key => (found key).isNone
  require (unknown = []) { code := "unknown_key", detail := "Unknown role: " ++ ", ".intercalate unknown ++ "." }
  .ok (wanted.filterMap found)

/-- A member in whom nothing has ended and whose roles grant `members.manage`. -/
def Members.administers (row : Membership) : Bool :=
  row.deactivatedAt.isNone && (permissionsOf (members.rolesOf row.id)).contains membersManage

def Members.adminsBesides (user : Id) : Nat :=
  (members.memberships.rows.filter fun row => members.administers row && row.user != user).length

def Members.assertNotLastAdmin (membership : Membership) (keepsMembersManage : Bool) : Except Refusal Unit :=
  require (¬((permissionsOf (members.rolesOf membership.id)).contains membersManage = true ∧ keepsMembersManage = false ∧
    members.adminsBesides membership.user = 0)) { code := "last_admin", detail := "A tenant always keeps one administrator." }

end

def roleKeys (roles : List TenantRole) : AuditValue := .texts ((roles.map (·.key)).insertionSort (· ≤ ·))

def memberSnapshot (roles : List TenantRole) (title : String) : List (String × AuditValue) :=
  [("roles", roleKeys roles), ("title", .text title)]

def Members.turn (members : Members) (work : Id) (at_ : Option Work) : Members :=
  { members with works := Function.update members.works work at_ }

def busy : Refusal := internalError

/-- `update_member`, up to its writes. -/
def beginUpdate (members : Members) (work user : Id) (roleKeys : Option (List String)) (title : Option String) :
    Except Refusal Members := do
  require ((members.works work).isNone = true) busy
  let membership ← members.membershipOf user
  let given ← optionally members.rolesByKeys roleKeys
  let _ ← optionally (fun roles => members.assertNotLastAdmin membership ((permissionsOf roles).contains membersManage)) given
  let before := memberSnapshot (members.rolesOf membership.id) membership.title
  .ok (members.turn work (some (.updating membership given title before none)))

/-- The delete of `update_member` begins, over the links committed by now. -/
def seeLinks (members : Members) (work : Id) : Except Refusal Members :=
  match members.works work with
  | some (.updating membership (some given) title before none) =>
    let seen := (members.links.rows.filter (·.membership == membership.id)).map (·.id)
    .ok (members.turn work (some (.updating membership (some given) title before (some seen))))
  | _ => .error busy

/-- `deactivate_member`, up to its writes. -/
def beginDeactivate (members : Members) (work user : Id) (reads : DeactivationReads) : Except Refusal Members := do
  require ((members.works work).isNone = true) busy
  let membership ← members.membershipOf user
  require (reads.openWork = []) {
    code := "reassignment_required"
    detail := "This member still holds work. Name a new owner for each kind before removing them."
    extra := [("errors", .records (reads.openWork.map fun held => [("field", .inr held.1), ("count", .inl held.2),
      ("message", .inr "Needs a new owner or ends with the removal.")]))] }
  members.assertNotLastAdmin membership false
  .ok (members.turn work (some (.deactivating membership)))

def validatePermissions (values : List String) : Except Refusal (List String) := do
  let wanted := values.eraseDups.insertionSort (· ≤ ·)
  let unknown := wanted.filter fun value => !tenantPermissions.contains value
  require (unknown = []) { code := "unknown_key", detail := "Unknown permission: " ++ ", ".intercalate unknown ++ "." }
  .ok wanted

def validateLabels (reads : RoleReads) (labels : List (String × String)) : Except Refusal (List (String × String)) := do
  let cleaned := (labels.filter fun label => strip label.2 ≠ "").map fun label => (label.1, strip label.2)
  require (cleaned ≠ []) { code := "label_required", detail := "Give the role a label in at least one language." }
  let unknown := ((cleaned.map Prod.fst).filter fun language => !reads.languages.contains language).insertionSort (· ≤ ·)
  require (unknown = []) { code := "unknown_key", detail := "Unknown language: " ++ ", ".intercalate unknown ++ "." }
  .ok cleaned

/-- `update_or_create` of one label. -/
def writeLabel (role : Id) (labels : List RoleLabel) (label : String × String) : List RoleLabel :=
  if labels.any (fun row => row.role == role && row.language == label.1) = true then
    labels.map fun row => if row.role = role ∧ row.language = label.1 then { row with text := label.2 } else row
  else labels ++ [{ role, language := label.1, text := label.2 }]

def writeLabels (role : Id) (labels : List RoleLabel) (given : List (String × String)) : List RoleLabel :=
  given.foldl (writeLabel role) labels

def systemRole (detail : String) : Refusal := { code := "system_role", detail }

/-- The labels `update_role` writes, if any are sent. -/
def labelsSent (reads : RoleReads) (labels : Option (List (String × String))) : Except Refusal (List (String × String)) :=
  (optionally (validateLabels reads) (labels.filter (· ≠ []))).map (·.getD [])

/-- The refusals of `update_role` that come before its first write, and the permissions it saves. -/
def grantedSent (role : TenantRole) (permissions : Option (List String)) : Except Refusal (List String) := do
  require (permissions.isSome = true → role.isSystem = false)
    (systemRole "A system role's permissions follow the product; relabel it instead.")
  let granted ← optionally validatePermissions permissions
  .ok (granted.getD role.permissions)

/-- The role `update_role` saves: every column as it was loaded, the ones sent aside. -/
def TenantRole.edit (role : TenantRole) (granted : List String) (usageNote : Option String) : TenantRole :=
  { role with
    permissions := granted
    usageNote := (usageNote.map strip).getD role.usageNote }

/-- `update_role`, up to its writes. -/
def beginEdit (members : Members) (work : Id) (reads : RoleReads) (key : String) (labels : Option (List (String × String)))
    (usageNote : Option String) (permissions : Option (List String)) : Except Refusal Members := do
  require ((members.works work).isNone = true) busy
  let role ← members.roleByKey reads key
  let granted ← grantedSent role permissions
  .ok (members.turn work (some (.editing role (role.edit granted usageNote) (labelsSent reads labels))))

/-- `retire_role`, up to its write. -/
def beginRetire (members : Members) (work : Id) (reads : RoleReads) (key : String) : Except Refusal Members := do
  require ((members.works work).isNone = true) busy
  let role ← members.roleByKey reads key
  require (role.isSystem = false) (systemRole "System roles can be relabelled, not retired.")
  let inUse := members.links.rows.filter fun link => link.role == role.id &&
    members.memberships.rows.any fun row => row.id == link.membership && row.deactivatedAt.isNone
  require (inUse = []) { code := "role_in_use", detail := toString inUse.length ++ " member(s) hold this role. Reassign them first." }
  .ok (members.turn work (some (.retiring role)))

/-- The links of `update_member`: those it saw go, and one comes for each role given. -/
def LinkTable.replace (table : LinkTable) (membership : Id) (seen : List Id) (given : List TenantRole) : LinkTable :=
  given.foldl (fun links role => links.create membership role.id) (table.delete membership seen)

/-- `membership_role_unique`. -/
def LinkTable.Free (table : LinkTable) (membership : Id) (seen : List Id) (given : List TenantRole) : Prop :=
  ∀ role ∈ given, ∀ link ∈ (table.delete membership seen).rows, link.membership = membership → link.role ≠ role.id

instance (table : LinkTable) (membership : Id) (seen : List Id) (given : List TenantRole) : Decidable (table.Free membership seen given) :=
  inferInstanceAs (Decidable (∀ role ∈ given, ∀ link ∈ (table.delete membership seen).rows, link.membership = membership →
    link.role ≠ role.id))

def Membership.entitle (title : Option String) (row : Membership) : Membership :=
  { row with title := (title.map strip).getD row.title }

def Membership.deactivate (now : Instant) (row : Membership) : Membership := { row with deactivatedAt := some now }

def TenantRole.write (saved row : TenantRole) : TenantRole := { saved with id := row.id }

def TenantRole.retire (row : TenantRole) : TenantRole := { row with active := false }

def memberEvent (members : Members) (actor : Actor) (action summary : String) (membership : Membership)
    (before after : List (String × AuditValue)) (stepUp : Option Id) : AuditEvent where
  action := action
  actor := actor
  subjectType := "membership"
  subjectId := some membership.id
  summary := summary
  tenantId := some members.tenantId
  before := before
  after := after
  stepUpAssertionId := stepUp

def roleEvent (members : Members) (actor : Actor) (action summary : String) (role : TenantRole)
    (before after : List (String × AuditValue)) (stepUp : Option Id) : AuditEvent where
  action := action
  actor := actor
  subjectType := "tenant_role"
  subjectId := some role.id
  subjectTitle := role.key
  summary := summary
  tenantId := some members.tenantId
  before := before
  after := after
  stepUpAssertionId := stepUp

def roleSnapshot (labels : List RoleLabel) (role : TenantRole) : List (String × AuditValue) :=
  [("permissions", .texts (role.permissions.insertionSort (· ≤ ·))), ("usage_note", .text role.usageNote),
    ("labels", .records [(labels.filter (·.role == role.id)).map fun label => (label.language, .inr label.text)])]

section
variable (members : Members)

def saveUpdate (actor : Actor) (stepUp : Option Id) (membership : Membership) (given : Option (List TenantRole))
    (title : Option String) (before : List (String × AuditValue)) (seen : List Id) : Except Refusal Members := do
  require (∀ roles ∈ given, members.links.Free membership.id seen roles) internalError
  let saved := { members with
    links := given.elim members.links (members.links.replace membership.id seen)
    memberships := members.memberships.save membership.id (Membership.entitle title) (fun _ => rfl) (fun _ => rfl) }
  let after := memberSnapshot (saved.rolesOf membership.id) (membership.entitle title).title
  .ok { saved with
    audit := record members.audit
      (memberEvent members actor "member.updated" "Member roles or title changed." membership before after stepUp) }

def saveDeactivation (actor : Actor) (stepUp : Option Id) (reads : DeactivationReads) (now : Instant) (membership : Membership) : Members :=
  { members with
    memberships := members.memberships.save membership.id (Membership.deactivate now) (fun _ => rfl) (fun _ => rfl)
    audit := record members.audit (memberEvent members actor "member.deactivated"
      ("Member deactivated; " ++ toString reads.sessionsRevoked ++ " session(s) revoked, " ++ toString reads.invitationsClosed ++
        " open invitation(s) closed.") membership [("deactivatedAt", .absent)]
      [("deactivatedAt", .number now), ("invitationsClosed", .number reads.invitationsClosed),
        ("tokensRevoked", .number reads.tokensRevoked)] stepUp) }

/-- The first write of `update_role`. -/
def saveRole (role : TenantRole) : Members :=
  { members with roles := members.roles.update (·.id == role.id) role.write fun _ => rfl }

/-- The writes of `update_role`: labels that are refused leave the role saved, and no audit row. -/
def saveEdit (actor : Actor) (stepUp : Option Id) (before role : TenantRole) (labels : Except Refusal (List (String × String))) : Members :=
  match labels with
  | .error _ => saveRole members role
  | .ok given =>
    let written := writeLabels role.id members.labels given
    { saveRole members role with
      labels := written
      audit := record members.audit (roleEvent members actor "role.updated" ("Role " ++ role.key ++ " updated.") role
        (roleSnapshot members.labels before) (roleSnapshot written role) stepUp) }

def saveRetirement (actor : Actor) (role : TenantRole) : Members :=
  { members with
    roles := members.roles.update (·.id == role.id) TenantRole.retire fun _ => rfl
    audit := record members.audit (roleEvent members actor "role.retired" ("Role " ++ role.key ++ " retired.") role
      [("active", .flag true)] [("active", .flag false)] none) }

/-- The writes of a change under way, and its commit. -/
def saveWork (work : Id) (actor : Actor) (stepUp : Option Id) (reads : DeactivationReads) (now : Instant) : Except Refusal Members :=
  match members.works work with
  | some (.updating membership none title before _) =>
    (saveUpdate members actor stepUp membership none title before []).map (·.turn work none)
  | some (.updating membership (some given) title before (some seen)) =>
    (saveUpdate members actor stepUp membership (some given) title before seen).map (·.turn work none)
  | some (.deactivating membership) => .ok ((saveDeactivation members actor stepUp reads now membership).turn work none)
  | some (.editing before role labels) => .ok ((saveEdit members actor stepUp before role labels).turn work none)
  | some (.retiring role) => .ok ((saveRetirement members actor role).turn work none)
  | _ => .error busy

def createRole (reads : RoleReads) (actor : Actor) (key : String) (labels : List (String × String))
    (usageNote : String) (permissions : List String) (stepUp : Option Id) : Except Refusal Members := do
  let normalised := reads.lower (strip key)
  require (normalised ≠ "") { code := "key_required", detail := "A role needs a key." }
  require (∀ role ∈ members.roles.rows, reads.lower role.key ≠ normalised)
    { code := "duplicate_key", detail := "A role with that key already exists." }
  let cleaned ← validateLabels reads labels
  let granted ← validatePermissions permissions
  let make (id : Id) : TenantRole :=
    { id, key := normalised, permissions := granted, usageNote := strip usageNote, sortOrder := members.roles.rows.length }
  let role := make members.roles.fresh
  .ok { members with
    roles := members.roles.create make fun _ => rfl
    labels := writeLabels role.id members.labels cleaned
    audit := record members.audit (roleEvent members actor "role.created"
      ("Role " ++ normalised ++ " created with " ++ toString granted.length ++ " permissions.") role []
      [("key", .text normalised), ("permissions", .texts granted)] stepUp) }

/-- `reissue_enrolment`, of what it leaves in these tables: the person awaits enrolment again. -/
def reissue (user : Id) : Except Refusal Members := do
  let _ ← members.membershipOf user
  .ok { members with statuses := Function.update members.statuses user .invited }

end

/-- What may happen next to a bank's members and roles. -/
inductive MemberStep where
  | createRole (reads : RoleReads) (actor : Actor) (key : String) (labels : List (String × String)) (usageNote : String)
      (permissions : List String) (stepUp : Option Id)
  | beginUpdate (work user : Id) (roleKeys : Option (List String)) (title : Option String)
  | seeLinks (work : Id)
  | beginDeactivate (work user : Id) (reads : DeactivationReads)
  | beginEdit (work : Id) (reads : RoleReads) (key : String) (labels : Option (List (String × String))) (usageNote : Option String)
      (permissions : Option (List String))
  | beginRetire (work : Id) (reads : RoleReads) (key : String)
  | save (work : Id) (actor : Actor) (stepUp : Option Id) (reads : DeactivationReads) (now : Instant)
  | reissue (user : Id)
  /-- A change is refused, or fails and is rolled back. -/
  | abort (work : Id)

def Members.step (members : Members) : MemberStep → Except Refusal Members
  | .createRole reads actor key labels usageNote permissions stepUp =>
    Identity.createRole members reads actor key labels usageNote permissions stepUp
  | .beginUpdate work user roleKeys title => Identity.beginUpdate members work user roleKeys title
  | .seeLinks work => Identity.seeLinks members work
  | .beginDeactivate work user reads => Identity.beginDeactivate members work user reads
  | .beginEdit work reads key labels usageNote permissions =>
    Identity.beginEdit members work reads key labels usageNote permissions
  | .beginRetire work reads key => Identity.beginRetire members work reads key
  | .save work actor stepUp reads now => saveWork members work actor stepUp reads now
  | .reissue user => Identity.reissue members user
  | .abort work => .ok (members.turn work none)

end Grc.Identity
