import Grc.Identity.Members

/-! Whether a bank keeps an administrator, over every run of overlapping changes of its members and roles. -/
namespace Grc.Identity

open Grc.Shared Grc.Lib

/-- Some active member's roles grant `members.manage`. -/
def Members.HasAdmin (members : Members) : Prop := ∃ row ∈ members.memberships.rows, members.administers row = true

/-- A role as stored grants `members.manage`. -/
def Grants (roles : Keyed TenantRole.id) (role : Id) : Prop := ∃ row ∈ roles.rows, row.id = role ∧ membersManage ∈ row.permissions

def LinkTable.Links (links : LinkTable) (membership role : Id) : Prop := ∃ link ∈ links.rows, link.membership = membership ∧ link.role = role

/-- The member an update changes is still active, and keeps a role that grants `members.manage`: one of those given, or one
given by another change since this one looked. -/
def Members.KeepsGrant (members : Members) (membership : Id) (seen : List Id) (given : List TenantRole) : Prop :=
  (∃ row ∈ members.memberships.rows, row.id = membership ∧ row.deactivatedAt = none) ∧
    ∃ role, Grants members.roles role ∧
      ((∃ each ∈ given, each.id = role) ∨ (members.links.delete membership seen).Links membership role)

/-- Some active member holds `members.manage` through another role than the one that changes. -/
def Members.GrantedBeside (members : Members) (role : Id) : Prop :=
  ∃ row ∈ members.memberships.rows, row.deactivatedAt = none ∧
    ∃ other, other ≠ role ∧ Grants members.roles other ∧ members.links.Links row.id other

/-- What a change is about to take leaves an administrator, on the rows as they stand when it is saved. -/
def LeavesAdmin (members : Members) : MemberStep → Prop
  | .save work _ _ _ _ =>
    match members.works work with
    | some (.updating membership (some given) _ _ (some seen)) =>
      members.adminsBesides membership.user ≠ 0 ∨ members.KeepsGrant membership.id seen given
    | some (.deactivating membership) => members.adminsBesides membership.user ≠ 0
    | some (.editing _ role _) => membersManage ∈ role.permissions ∨ members.GrantedBeside role.id
    | _ => True
  | _ => True

variable {members next : Members}

theorem mem_permissionsOf {id : Id} :
    membersManage ∈ permissionsOf (members.rolesOf id) ↔ ∃ role, Grants members.roles role ∧ members.links.Links id role := by
  simp only [permissionsOf, Members.rolesOf, List.mem_flatMap, List.mem_filterMap, List.mem_filter, beq_iff_eq]
  constructor
  · rintro ⟨role, ⟨link, ⟨there, held⟩, found⟩, granted⟩
    have named := List.find?_some found
    exact ⟨link.role, ⟨role, List.mem_of_find?_eq_some found, beq_iff_eq.mp named, granted⟩, link, there, held, rfl⟩
  · rintro ⟨_, ⟨role, stored, rfl, granted⟩, link, there, held, named⟩
    refine ⟨role, ⟨link, ⟨there, held⟩, ?_⟩, granted⟩
    cases found : members.roles.rows.find? (·.id == link.role) with
    | none => exact absurd (List.find?_eq_none.mp found role stored) (by simp [named])
    | some other =>
      have same := List.find?_some found
      exact congrArg some (members.roles.eq_of_key (List.mem_of_find?_eq_some found) stored ((beq_iff_eq.mp same).trans named))

theorem administers_iff {row : Membership} : members.administers row = true ↔
    row.deactivatedAt = none ∧ ∃ role, Grants members.roles role ∧ members.links.Links row.id role := by
  rw [Members.administers, Bool.and_eq_true, Option.isNone_iff_eq_none, List.contains_iff_mem, mem_permissionsOf]

theorem adminsBesides_ne_zero {user : Id} : members.adminsBesides user ≠ 0 ↔
    ∃ row ∈ members.memberships.rows, members.administers row = true ∧ row.user ≠ user := by
  rw [Members.adminsBesides, ← Nat.pos_iff_ne_zero, List.length_pos_iff_exists_mem]
  simp only [List.mem_filter, Bool.and_eq_true, bne_iff_ne]

theorem Members.HasAdmin.mono (admin : members.HasAdmin) (same : next.memberships = members.memberships)
    (roles : ∀ role, Grants members.roles role → Grants next.roles role)
    (links : ∀ membership role, members.links.Links membership role → next.links.Links membership role) : next.HasAdmin := by
  obtain ⟨row, there, administers⟩ := admin
  obtain ⟨active, role, granted, linked⟩ := administers_iff.mp administers
  exact ⟨row, same ▸ there, administers_iff.mpr ⟨active, role, roles role granted, links row.id role linked⟩⟩

theorem Members.HasAdmin.same (admin : members.HasAdmin) (memberships : next.memberships = members.memberships)
    (roles : next.roles = members.roles) (links : next.links = members.links) : next.HasAdmin :=
  admin.mono memberships (fun _ => roles ▸ id) (fun _ _ => links ▸ id)

theorem links_replace {links : LinkTable} {membership : Id} {seen : List Id} {given : List TenantRole} {owner role : Id} :
    (links.replace membership seen given).Links owner role ↔
      (links.delete membership seen).Links owner role ∨ owner = membership ∧ ∃ each ∈ given, each.id = role := by
  unfold LinkTable.replace
  generalize links.delete membership seen = table
  induction given generalizing table with
  | nil => simp
  | cons first rest ih =>
    have created : (table.create membership first.id).Links owner role ↔ table.Links owner role ∨ owner = membership ∧ first.id = role := by
      unfold LinkTable.Links LinkTable.create
      constructor
      · rintro ⟨link, member, rfl, rfl⟩
        rcases List.mem_append.mp member with there | new
        · exact .inl ⟨link, there, rfl, rfl⟩
        · rw [List.mem_singleton.mp new]
          exact .inr ⟨rfl, rfl⟩
      · rintro (⟨link, there, held, named⟩ | ⟨rfl, rfl⟩)
        · exact ⟨link, List.mem_append_left _ there, held, named⟩
        · exact ⟨_, List.mem_append_right _ List.mem_cons_self, rfl, rfl⟩
    rw [List.foldl_cons, ih, created, List.exists_mem_cons_iff]
    tauto

theorem links_delete {links : LinkTable} {membership : Id} {seen : List Id} {owner role : Id} (apart : owner ≠ membership) :
    (links.delete membership seen).Links owner role ↔ links.Links owner role := by
  unfold LinkTable.Links LinkTable.delete
  constructor
  · rintro ⟨link, member, held, named⟩
    exact ⟨link, (List.mem_filter.mp member).1, held, named⟩
  · rintro ⟨link, there, rfl, named⟩
    exact ⟨link, List.mem_filter.mpr ⟨there, by simp [apart]⟩, rfl, named⟩

theorem mem_save {table : MembershipTable} {id : Id} {change : Membership → Membership} (named : ∀ row, (change row).id = row.id)
    (owned : ∀ row, (change row).user = row.user) {row : Membership} :
    row ∈ (table.save id change named owned).rows ↔ ∃ stored ∈ table.rows, row = if stored.id = id then change stored else stored := by
  simp only [MembershipTable.save, Keyed.update, List.mem_map, beq_iff_eq]
  exact exists_congr fun _ => and_congr_right fun _ => eq_comm

theorem MembershipTable.user_iff (table : MembershipTable) {row other : Membership} (here : row ∈ table.rows) (there : other ∈ table.rows) :
    row.user = other.user ↔ row.id = other.id := by
  constructor
  · intro same
    exact congrArg _ (List.inj_on_of_nodup_map table.users here there same)
  · intro same
    exact congrArg _ (table.eq_of_key here there same)

def Work.membership : Work → Option Membership
  | updating membership _ _ _ _ | deactivating membership => some membership
  | _ => none

def Members.Known (members : Members) (membership : Membership) : Prop :=
  ∃ row ∈ members.memberships.rows, row.id = membership.id ∧ row.user = membership.user

def Members.Sound (members : Members) : Prop :=
  ∀ work at_ membership, members.works work = some at_ → at_.membership = some membership → members.Known membership

theorem adminsBesides_of_known {membership : Membership} (known : members.Known membership) :
    members.adminsBesides membership.user ≠ 0 ↔
      ∃ row ∈ members.memberships.rows, members.administers row = true ∧ row.id ≠ membership.id := by
  obtain ⟨stored, there, named, owned⟩ := known
  rw [adminsBesides_ne_zero]
  refine exists_congr fun row => and_congr_right fun here => and_congr_right fun _ => not_congr ?_
  rw [← owned, ← named]
  exact members.memberships.user_iff here there

section Saves
variable {actor : Actor} {stepUp : Option Id} {membership : Membership} {given : List TenantRole} {title : Option String}
  {before : List (String × AuditValue)} {seen : List Id}

theorem saveUpdate_admin_iff (known : members.Known membership)
    (done : saveUpdate members actor stepUp membership (some given) title before seen = .ok next) :
    next.HasAdmin ↔ members.adminsBesides membership.user ≠ 0 ∨ members.KeepsGrant membership.id seen given := by
  simp only [saveUpdate, bind_ok, require_ok, Except.ok.injEq] at done
  obtain ⟨-, -, rfl⟩ := done
  rw [adminsBesides_of_known known]
  constructor
  · rintro ⟨row, there, administers⟩
    obtain ⟨active, role, granted, linked⟩ := administers_iff.mp administers
    obtain ⟨stored, here, rfl⟩ := (mem_save _ (by exact fun _ => rfl)).mp there
    by_cases same : stored.id = membership.id
    · rw [if_pos same] at active linked
      refine .inr ⟨⟨stored, here, same, active⟩, role, granted, ?_⟩
      have linked : (members.links.replace membership.id seen given).Links stored.id role := linked
      rw [same, links_replace] at linked
      exact linked.symm.imp And.right id
    · rw [if_neg same] at active linked
      have linked : (members.links.replace membership.id seen given).Links stored.id role := linked
      rw [links_replace, links_delete same] at linked
      have kept := linked.resolve_right fun its => same its.1
      exact .inl ⟨stored, here, administers_iff.mpr ⟨active, role, granted, kept⟩, same⟩
  · rintro (⟨row, there, administers, apart⟩ | ⟨⟨row, there, same, active⟩, role, granted, linked⟩)
    · obtain ⟨active, role, granted, linked⟩ := administers_iff.mp administers
      refine ⟨row, (mem_save _ (by exact fun _ => rfl)).mpr ⟨row, there, (if_neg apart).symm⟩, administers_iff.mpr ⟨active, role, granted, ?_⟩⟩
      exact links_replace.mpr (.inl ((links_delete apart).mpr linked))
    · refine ⟨row.entitle title, (mem_save _ (by exact fun _ => rfl)).mpr ⟨row, there, (if_pos same).symm⟩, administers_iff.mpr ⟨active, role, granted, ?_⟩⟩
      refine links_replace.mpr ?_
      show (members.links.delete membership.id seen).Links row.id role ∨ row.id = membership.id ∧ _
      rw [same]
      exact linked.symm.imp id (⟨rfl, ·⟩)

theorem saveTitle_admin (admin : members.HasAdmin)
    (done : saveUpdate members actor stepUp membership none title before [] = .ok next) : next.HasAdmin := by
  simp only [saveUpdate, bind_ok, require_ok, Except.ok.injEq] at done
  obtain ⟨-, -, rfl⟩ := done
  obtain ⟨row, there, administers⟩ := admin
  obtain ⟨active, role, granted, linked⟩ := administers_iff.mp administers
  by_cases same : row.id = membership.id
  · exact ⟨row.entitle title, (mem_save _ (by exact fun _ => rfl)).mpr ⟨row, there, (if_pos same).symm⟩, administers_iff.mpr ⟨active, role, granted, linked⟩⟩
  · exact ⟨row, (mem_save _ (by exact fun _ => rfl)).mpr ⟨row, there, (if_neg same).symm⟩, administers_iff.mpr ⟨active, role, granted, linked⟩⟩

theorem saveDeactivation_admin_iff {reads : DeactivationReads} {now : Instant} (known : members.Known membership) :
    (saveDeactivation members actor stepUp reads now membership).HasAdmin ↔ members.adminsBesides membership.user ≠ 0 := by
  rw [adminsBesides_of_known known]
  constructor
  · rintro ⟨row, there, administers⟩
    obtain ⟨active, role, granted, linked⟩ := administers_iff.mp administers
    obtain ⟨stored, here, rfl⟩ := (mem_save _ (by exact fun _ => rfl)).mp there
    by_cases same : stored.id = membership.id
    · rw [if_pos same] at active
      cases active
    · rw [if_neg same] at active linked
      exact ⟨stored, here, administers_iff.mpr ⟨active, role, granted, linked⟩, same⟩
  · rintro ⟨row, there, administers, apart⟩
    obtain ⟨active, role, granted, linked⟩ := administers_iff.mp administers
    exact ⟨row, (mem_save _ (by exact fun _ => rfl)).mpr ⟨row, there, (if_neg apart).symm⟩, administers_iff.mpr ⟨active, role, granted, linked⟩⟩

theorem mem_update_roles {roles : Keyed TenantRole.id} {id : Id} {change : TenantRole → TenantRole}
    (named : ∀ row, (change row).id = row.id) {row : TenantRole} :
    row ∈ (roles.update (·.id == id) change named).rows ↔ ∃ stored ∈ roles.rows, row = if stored.id = id then change stored else stored := by
  simp only [Keyed.update, List.mem_map, beq_iff_eq]
  exact exists_congr fun _ => and_congr_right fun _ => eq_comm

/-- Where there is an administrator, saving a role leaves one exactly when the role still grants, or another one does. -/
theorem saveRole_admin_iff {role : TenantRole} (admin : members.HasAdmin) :
    (saveRole members role).HasAdmin ↔ membersManage ∈ role.permissions ∨ members.GrantedBeside role.id := by
  have beside : ∀ other, other ≠ role.id → (Grants (saveRole members role).roles other ↔ Grants members.roles other) := by
    intro other apart
    constructor
    · rintro ⟨row, there, rfl, granted⟩
      obtain ⟨stored, here, rfl⟩ := (mem_update_roles (by exact fun _ => rfl)).mp there
      by_cases same : stored.id = role.id
      · rw [if_pos same] at apart
        exact absurd same apart
      · rw [if_neg same] at granted ⊢
        exact ⟨stored, here, rfl, granted⟩
    · rintro ⟨row, there, rfl, granted⟩
      exact ⟨row, (mem_update_roles (by exact fun _ => rfl)).mpr ⟨row, there, (if_neg apart).symm⟩, rfl, granted⟩
  constructor
  · rintro ⟨row, there, administers⟩
    obtain ⟨active, other, granted, linked⟩ := administers_iff.mp administers
    by_cases same : other = role.id
    · obtain ⟨saved, written, named, grants⟩ := granted
      obtain ⟨stored, here, rfl⟩ := (mem_update_roles (by exact fun _ => rfl)).mp written
      by_cases its : stored.id = role.id
      · rw [if_pos its] at grants
        exact .inl grants
      · rw [if_neg its] at named
        exact absurd (named.trans same) its
    · exact .inr ⟨row, there, active, other, same, (beside other same).mp granted, linked⟩
  · rintro (grants | ⟨row, there, active, other, apart, granted, linked⟩)
    · obtain ⟨row, there, administers⟩ := admin
      obtain ⟨active, other, granted, linked⟩ := administers_iff.mp administers
      refine ⟨row, there, administers_iff.mpr ⟨active, other, ?_, linked⟩⟩
      by_cases same : other = role.id
      · obtain ⟨stored, here, named, -⟩ := granted
        exact ⟨role.write stored, (mem_update_roles (by exact fun _ => rfl)).mpr ⟨stored, here, (if_pos (named.trans same)).symm⟩, named, grants⟩
      · exact (beside other same).mpr granted
    · exact ⟨row, there, administers_iff.mpr ⟨active, other, (beside other apart).mpr granted, linked⟩⟩

theorem saveEdit_admin_iff {loaded role : TenantRole} {labels : Except Refusal (List (String × String))} (admin : members.HasAdmin) :
    (saveEdit members actor stepUp loaded role labels).HasAdmin ↔
      membersManage ∈ role.permissions ∨ members.GrantedBeside role.id := by
  cases labels with
  | error _ => exact saveRole_admin_iff admin
  | ok _ => exact Iff.trans ⟨fun admin => admin.same rfl rfl rfl, fun admin => admin.same rfl rfl rfl⟩ (saveRole_admin_iff admin)

theorem saveRetirement_admin {role : TenantRole} (admin : members.HasAdmin) : (saveRetirement members actor role).HasAdmin := by
  refine admin.mono rfl ?_ fun _ _ => id
  rintro _ ⟨row, there, rfl, granted⟩
  by_cases same : row.id = role.id
  · exact ⟨row.retire, (mem_update_roles (by exact fun _ => rfl)).mpr ⟨row, there, (if_pos same).symm⟩, rfl, granted⟩
  · exact ⟨row, (mem_update_roles (by exact fun _ => rfl)).mpr ⟨row, there, (if_neg same).symm⟩, rfl, granted⟩

end Saves

theorem Members.Known.save {membership : Membership} (known : members.Known membership) {id : Id} {change : Membership → Membership}
    (named : ∀ row, (change row).id = row.id) (owned : ∀ row, (change row).user = row.user)
    (saved : next.memberships = members.memberships.save id change named owned) : next.Known membership := by
  obtain ⟨row, there, same, owns⟩ := known
  refine ⟨if row.id = id then change row else row, saved ▸ (mem_save named owned).mpr ⟨row, there, rfl⟩, ?_, ?_⟩
  · split
    · exact (named row).trans same
    · exact same
  · split
    · exact (owned row).trans owns
    · exact owns

theorem Members.Sound.turn (sound : members.Sound) {work : Id} {at_ : Option Work}
    (known : ∀ each membership, at_ = some each → each.membership = some membership → members.Known membership) :
    (members.turn work at_).Sound := by
  intro other each membership there its
  simp only [Members.turn, Function.update_apply] at there
  split at there
  · exact known each membership there its
  · exact sound other each membership there its

theorem Members.Sound.later (sound : members.Sound) (works : next.works = members.works)
    (known : ∀ membership, members.Known membership → next.Known membership) : next.Sound := by
  intro work each membership there its
  exact known membership (sound work each membership (works ▸ there) its)

theorem known_of_membershipOf {user : Id} {membership : Membership} (found : members.membershipOf user = .ok membership) :
    members.Known membership := by
  rw [Members.membershipOf, demand_ok] at found
  exact ⟨membership, List.mem_of_find?_eq_some found, rfl, rfl⟩

theorem step_membersSound {step : MemberStep} (sound : members.Sound) (done : members.step step = .ok next) : next.Sound := by
  cases step with
  | createRole reads actor key labels usageNote permissions stepUp =>
    simp only [Members.step, createRole, bind_ok, require_ok, Except.ok.injEq] at done
    obtain ⟨_, _, _, _, _, _, _, _, rfl⟩ := done
    exact sound.later rfl fun _ known => known
  | beginUpdate work user roleKeys title =>
    simp only [Members.step, beginUpdate, bind_ok, require_ok, Except.ok.injEq] at done
    obtain ⟨_, _, membership, found, given, _, _, _, rfl⟩ := done
    refine sound.turn ?_
    rintro _ _ ⟨⟩ ⟨⟩
    exact known_of_membershipOf found
  | seeLinks work =>
    simp only [Members.step, seeLinks] at done
    split at done
    · rename_i membership given title before there
      cases done
      refine sound.turn ?_
      rintro _ _ ⟨⟩ ⟨⟩
      exact sound work _ membership there rfl
    · cases done
  | beginDeactivate work user reads =>
    simp only [Members.step, beginDeactivate, bind_ok, require_ok, Except.ok.injEq] at done
    obtain ⟨_, _, membership, found, _, _, _, _, rfl⟩ := done
    refine sound.turn ?_
    rintro _ _ ⟨⟩ ⟨⟩
    exact known_of_membershipOf found
  | beginEdit work reads key labels usageNote permissions =>
    simp only [Members.step, beginEdit, bind_ok, require_ok, Except.ok.injEq] at done
    obtain ⟨_, _, role, _, _, _, rfl⟩ := done
    refine sound.turn ?_
    rintro _ _ ⟨⟩ ⟨⟩
  | beginRetire work reads key =>
    simp only [Members.step, beginRetire, bind_ok, require_ok, Except.ok.injEq] at done
    obtain ⟨_, _, role, _, _, _, _, _, rfl⟩ := done
    refine sound.turn ?_
    rintro _ _ ⟨⟩ ⟨⟩
  | save work actor stepUp reads now =>
    have ended : ∀ {saved : Members}, saved.Sound → (saved.turn work none).Sound := by
      intro saved sound
      exact sound.turn fun _ _ none => (by cases none)
    simp only [Members.step, saveWork] at done
    split at done
    · obtain ⟨saved, written, rfl⟩ := map_ok.mp done
      simp only [saveUpdate, bind_ok, require_ok, Except.ok.injEq] at written
      obtain ⟨_, _, rfl⟩ := written
      exact ended (sound.later rfl fun _ known => known.save _ (by exact fun _ => rfl) rfl)
    · obtain ⟨saved, written, rfl⟩ := map_ok.mp done
      simp only [saveUpdate, bind_ok, require_ok, Except.ok.injEq] at written
      obtain ⟨_, _, rfl⟩ := written
      exact ended (sound.later rfl fun _ known => known.save _ (by exact fun _ => rfl) rfl)
    · cases done
      exact ended (sound.later rfl fun _ known => known.save _ (by exact fun _ => rfl) rfl)
    · rename_i before role labels _
      cases done
      cases labels with
      | error _ | ok _ => exact ended (sound.later rfl fun _ known => known)
    · cases done
      exact ended (sound.later rfl fun _ known => known)
    · cases done
  | reissue user =>
    simp only [Members.step, reissue, bind_ok, Except.ok.injEq] at done
    obtain ⟨_, _, rfl⟩ := done
    exact sound.later rfl fun _ known => known
  | abort work =>
    cases done
    exact sound.turn fun _ _ none => (by cases none)

/-- Where there is an administrator, a step leaves one exactly when what it takes leaves one. -/
theorem step_admin_iff {step : MemberStep} (sound : members.Sound) (admin : members.HasAdmin) (done : members.step step = .ok next) :
    next.HasAdmin ↔ LeavesAdmin members step := by
  cases step with
  | createRole reads actor key labels usageNote permissions stepUp =>
    simp only [Members.step, createRole, bind_ok, require_ok, Except.ok.injEq] at done
    obtain ⟨_, _, _, _, _, _, _, _, rfl⟩ := done
    refine iff_of_true (admin.mono rfl ?_ fun _ _ => id) trivial
    rintro _ ⟨row, there, rfl, granted⟩
    exact ⟨row, (Keyed.mem_create _).mpr (.inl there), rfl, granted⟩
  | beginUpdate work user roleKeys title =>
    simp only [Members.step, beginUpdate, bind_ok, require_ok, Except.ok.injEq] at done
    obtain ⟨_, _, membership, found, given, _, _, _, rfl⟩ := done
    exact iff_of_true (admin.same rfl rfl rfl) trivial
  | seeLinks work =>
    simp only [Members.step, seeLinks] at done
    split at done
    · cases done
      exact iff_of_true (admin.same rfl rfl rfl) trivial
    · cases done
  | beginDeactivate work user reads =>
    simp only [Members.step, beginDeactivate, bind_ok, require_ok, Except.ok.injEq] at done
    obtain ⟨_, _, membership, found, _, _, _, _, rfl⟩ := done
    exact iff_of_true (admin.same rfl rfl rfl) trivial
  | beginEdit work reads key labels usageNote permissions =>
    simp only [Members.step, beginEdit, bind_ok, require_ok, Except.ok.injEq] at done
    obtain ⟨_, _, role, _, _, _, rfl⟩ := done
    exact iff_of_true (admin.same rfl rfl rfl) trivial
  | beginRetire work reads key =>
    simp only [Members.step, beginRetire, bind_ok, require_ok, Except.ok.injEq] at done
    obtain ⟨_, _, role, _, _, _, _, _, rfl⟩ := done
    exact iff_of_true (admin.same rfl rfl rfl) trivial
  | save work actor stepUp reads now =>
    have turned : ∀ {saved : Members}, (saved.turn work none).HasAdmin ↔ saved.HasAdmin := by
      intro saved
      exact ⟨fun admin => admin.same rfl rfl rfl, fun admin => admin.same rfl rfl rfl⟩
    simp only [Members.step, saveWork] at done
    split at done
    · rename_i membership title before seen there
      obtain ⟨saved, written, rfl⟩ := map_ok.mp done
      simp only [LeavesAdmin, there]
      exact iff_of_true (turned.mpr (saveTitle_admin admin written)) trivial
    · rename_i membership given title before seen there
      obtain ⟨saved, written, rfl⟩ := map_ok.mp done
      simp only [LeavesAdmin, there]
      exact turned.trans (saveUpdate_admin_iff (sound work _ membership there rfl) written)
    · rename_i membership there
      cases done
      simp only [LeavesAdmin, there]
      exact turned.trans (saveDeactivation_admin_iff (sound work _ membership there rfl))
    · rename_i before role labels there
      cases done
      simp only [LeavesAdmin, there]
      exact turned.trans (saveEdit_admin_iff admin)
    · rename_i role there
      cases done
      simp only [LeavesAdmin, there]
      exact iff_of_true (turned.mpr (saveRetirement_admin admin)) trivial
    · cases done
  | reissue user =>
    simp only [Members.step, reissue, bind_ok, Except.ok.injEq] at done
    obtain ⟨_, _, rfl⟩ := done
    exact iff_of_true (admin.same rfl rfl rfl) trivial
  | abort work =>
    cases done
    exact iff_of_true (admin.same rfl rfl rfl) trivial

/-- A bank that has an administrator, and no change under way, keeps one throughout a run of changes exactly when each of them is saved
while what it takes leaves one. -/
theorem run_keepsAdmin_iff (start : Members) (admin : start.HasAdmin) (idle : ∀ work, start.works work = none) (steps : List MemberStep) :
    (∀ first, first <+: steps → (run Members.step start first).HasAdmin) ↔ Meets Members.step LeavesAdmin start steps := by
  refine holds_throughout_iff (fun members : Members => members.Sound ∧ members.HasAdmin) ?_ (fun _ held => held.2) ?_ ?_ steps
  · refine ⟨?_, admin⟩
    intro work each membership there _
    rw [idle work] at there
    cases there
  · intro members step next held done
    exact step_admin_iff held.1 held.2 done
  · intro members step next held leaves done
    exact ⟨step_membersSound held.1 done, (step_admin_iff held.1 held.2 done).mpr leaves⟩

/-- Anna alone administers, through a role of the bank's own. -/
def ownRole : Members where
  tenantId := 1
  roles := { rows := [{ id := 0, key := "admin", permissions := [membersManage, "roles.manage"], isSystem := true },
    { id := 1, key := "operations", permissions := [membersManage, "roles.manage"] }], keyed := by decide }
  memberships := { rows := [{ id := 0, user := 7 }], keyed := by decide, users := by decide }
  links := { rows := [{ id := 0, membership := 0, role := 1 }], next := 1 }

theorem ownRole_admin : ownRole.HasAdmin := ⟨{ id := 0, user := 7 }, List.mem_cons_self, by decide +kernel⟩

def editsOwnRole : List MemberStep :=
  [.beginEdit 0 {} "operations" none none (some ["roles.manage"]), .save 0 { kind := .user, id := some 7 } (some 3) {} 0]

theorem editsOwnRole_leavesNone : ¬∀ (start : Members), start.HasAdmin → (∀ work, start.works work = none) → ∀ steps,
    (run Members.step start steps).HasAdmin := by
  intro claim
  obtain ⟨row, there, administers⟩ := claim ownRole ownRole_admin (fun _ => rfl) editsOwnRole
  have none_ : (run Members.step ownRole editsOwnRole).memberships.rows.all
      (fun row => !(run Members.step ownRole editsOwnRole).administers row) = true := by
    decide +kernel
  have ended := List.all_eq_true.mp none_ row there
  rw [administers] at ended
  cases ended

theorem keepsAdmin_ownRole : (∀ first, first <+: editsOwnRole → (run Members.step ownRole first).HasAdmin) ↔
    Meets Members.step LeavesAdmin ownRole editsOwnRole :=
  run_keepsAdmin_iff ownRole ownRole_admin (fun _ => rfl) editsOwnRole

end Grc.Identity

/-! One edit of a role, from what it refuses to what its transaction commits: a refusal commits what was written before it. -/
namespace Grc.Identity

open Grc.Shared Grc.Lib

/-- What an edit answers, and what its transaction commits. -/
structure Edited where
  answer : Except Refusal Unit
  left : Members

def updateRole (members : Members) (reads : RoleReads) (actor : Actor) (role : TenantRole) (labels : Option (List (String × String)))
    (usageNote : Option String) (permissions : Option (List String)) (stepUp : Option Id) : Edited :=
  match grantedSent role permissions with
  | .error refusal => { answer := .error refusal, left := members }
  | .ok granted => {
      answer := (labelsSent reads labels).map fun _ => ()
      left := saveEdit members actor stepUp role (role.edit granted usageNote) (labelsSent reads labels) }

/-- The route: the role the key names, then its edit. -/
def patchRole (members : Members) (reads : RoleReads) (actor : Actor) (key : String) (labels : Option (List (String × String)))
    (usageNote : Option String) (permissions : Option (List String)) (stepUp : Option Id) : Edited :=
  match members.roleByKey reads key with
  | .error refusal => { answer := .error refusal, left := members }
  | .ok role => updateRole members reads actor role labels usageNote permissions stepUp

/-- An audit row with what an edit found of a role, and what it left. -/
structure Tells (members left : Members) (event : AuditEvent) : Prop where
  before : ∃ role ∈ members.roles.rows, event.subjectId = some role.id ∧ event.before = roleSnapshot members.labels role
  after : ∃ role ∈ left.roles.rows, event.subjectId = some role.id ∧ event.after = roleSnapshot left.labels role

/-- An edit is all or nothing: one that is refused leaves every role and label as it was, and one that changes them leaves one audit row
more, which tells of it. -/
structure AllOrNothing (members : Members) (done : Edited) : Prop where
  refused : ∀ refusal, done.answer = .error refusal →
    done.left.roles.rows = members.roles.rows ∧ done.left.labels = members.labels
  recorded : ¬(done.left.roles.rows = members.roles.rows ∧ done.left.labels = members.labels) →
    ∃ event, done.left.audit = members.audit ++ [event] ∧ Tells members done.left event

/-- Labels that are refused come with nothing that would change the role's columns. -/
def LabelsCheckedFirst (members : Members) (reads : RoleReads) (key : String) (labels : Option (List (String × String)))
    (usageNote : Option String) (permissions : Option (List String)) : Prop :=
  ∀ role, members.roleByKey reads key = .ok role → ∀ granted, grantedSent role permissions = .ok granted →
    ∀ refusal, labelsSent reads labels = .error refusal → role.edit granted usageNote = role

variable {members : Members} {reads : RoleReads} {actor : Actor} {key : String} {labels : Option (List (String × String))}
  {usageNote : Option String} {permissions : Option (List String)} {stepUp : Option Id} {role edited : TenantRole}

theorem mem_of_roleByKey (found : members.roleByKey reads key = .ok role) : role ∈ members.roles.rows :=
  List.mem_of_find?_eq_some (demand_ok.mp found)

theorem mem_saveRole (there : role ∈ members.roles.rows) (same : edited.id = role.id) : edited ∈ (saveRole members edited).roles.rows := by
  refine List.mem_map.mpr ⟨role, there, ?_⟩
  have picked : (role.id == edited.id) = true := beq_iff_eq.mpr same.symm
  rw [if_pos picked, TenantRole.write, ← same]

theorem saveRole_roles_iff (there : role ∈ members.roles.rows) (same : edited.id = role.id) :
    (saveRole members edited).roles.rows = members.roles.rows ↔ edited = role := by
  constructor
  · intro unchanged
    have here := mem_saveRole there same
    rw [unchanged] at here
    exact members.roles.eq_of_key here there same
  · rintro rfl
    have each : ∀ row ∈ members.roles.rows, (if (row.id == edited.id) = true then edited.write row else row) = row := by
      intro row here
      split
      · rename_i its
        obtain rfl := members.roles.eq_of_key here there (beq_iff_eq.mp its)
        rfl
      · rfl
    exact (List.map_congr_left each).trans (List.map_id _)

theorem saveEdit_tells {granted : List String} {given : List (String × String)} (there : role ∈ members.roles.rows) :
    ∃ event, (saveEdit members actor stepUp role (role.edit granted usageNote) (.ok given)).audit = members.audit ++ [event] ∧
      Tells members (saveEdit members actor stepUp role (role.edit granted usageNote) (.ok given)) event :=
  ⟨_, rfl, ⟨role, there, rfl, rfl⟩, ⟨role.edit granted usageNote, mem_saveRole there rfl, rfl, rfl⟩⟩

theorem AllOrNothing.untouched {refusal : Refusal} : AllOrNothing members { answer := .error refusal, left := members } :=
  ⟨fun _ _ => ⟨rfl, rfl⟩, fun changed => absurd ⟨rfl, rfl⟩ changed⟩

/-- An edit is all or nothing exactly when labels it refuses come with no new permissions and no new note. -/
theorem patchRole_allOrNothing_iff (members : Members) (reads : RoleReads) (actor : Actor) (key : String)
    (labels : Option (List (String × String))) (usageNote : Option String) (permissions : Option (List String)) (stepUp : Option Id) :
    AllOrNothing members (patchRole members reads actor key labels usageNote permissions stepUp) ↔
      LabelsCheckedFirst members reads key labels usageNote permissions := by
  unfold patchRole LabelsCheckedFirst
  cases found : members.roleByKey reads key with
  | error _ =>
    refine iff_of_true .untouched ?_
    intro role its
    cases its
  | ok role =>
    have there := mem_of_roleByKey found
    simp only [updateRole, Except.ok.injEq, forall_eq']
    cases checked : grantedSent role permissions with
    | error _ =>
      refine iff_of_true .untouched ?_
      intro granted its
      cases its
    | ok granted =>
      simp only [Except.ok.injEq, forall_eq']
      have same : (role.edit granted usageNote).id = role.id := rfl
      cases given : labelsSent reads labels with
      | ok given =>
        refine iff_of_true ⟨?_, fun _ => saveEdit_tells there⟩ ?_
        · intro refusal answered
          cases answered
        · intro refusal answered
          cases answered
      | error refusal =>
        constructor
        · intro whole _ _
          exact (saveRole_roles_iff there same).mp (whole.refused refusal rfl).1
        · intro unchanged
          have left := (saveRole_roles_iff there same).mpr (unchanged refusal rfl)
          exact ⟨fun _ _ => ⟨left, rfl⟩, fun changed => absurd ⟨left, rfl⟩ changed⟩

def operations : Members where
  tenantId := 1
  roles := { rows := [{ id := 0, key := "operations", permissions := ["cases.read"] }], keyed := by decide }

/-- Sent with a label in a language the product does not offer, new permissions are saved, though the edit is refused. -/
theorem refusedEdit_saves : ¬AllOrNothing operations
    (patchRole operations {} { kind := .user, id := some 7 } "operations" (some [("xx", "Drift")]) none (some ["cases.work"]) (some 3)) := by
  intro whole
  have answered : (patchRole operations {} { kind := .user, id := some 7 } "operations" (some [("xx", "Drift")]) none
      (some ["cases.work"]) (some 3)).answer = .error { code := "unknown_key", detail := "Unknown language: xx." } := by
    decide +kernel
  have changed : (patchRole operations {} { kind := .user, id := some 7 } "operations" (some [("xx", "Drift")]) none
      (some ["cases.work"]) (some 3)).left.roles.rows ≠ operations.roles.rows := by
    decide +kernel
  exact changed (whole.refused _ answered).1

end Grc.Identity
