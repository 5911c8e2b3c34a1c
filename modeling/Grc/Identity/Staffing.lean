import Grc.Identity.EnrolmentRuns

/-! Who is platform staff: the grants a bootstrap commits beside what happens to people's accounts, each transaction with what it has read of the
grants so far. -/
namespace Grc.Identity

open Grc.Shared Grc.Lib
open Grc.Proposals (strip)

structure PlatformRoleAssignment where
  user : Id
  role : String
  deriving DecidableEq

/-- A bootstrap that has made its checks and not committed. -/
structure Bootstrap where
  email : String
  role : String
  /-- The account is new: its row waits for the commit. -/
  inserts : Bool

/-- The identity tables and the platform's grants as committed, and the transactions under way: what each has read of who is staff, and the
bootstraps. -/
structure Staffing where
  accounts : Accounts := {}
  assignments : List PlatformRoleAssignment := []
  looks : List (Id × List Id) := []
  bootstraps : List (Id × Bootstrap) := []

/-- The rows of `ensure_platform_roles`. -/
def platformRoles : List String := ["library_editor", "platform_admin"]

namespace Staffing

variable (settings : IdentitySettings) (digests : Digests) (staffing : Staffing)

def staff : List Id := staffing.assignments.map (·.user)

def seenBy (transaction : Id) : Accounts :=
  { staffing.accounts with platformStaff := ((staffing.looks.find? (·.1 == transaction)).map (·.2)).getD staffing.staff }

/-- A bootstrap under way has inserted an account for the address, which another insert of it waits for. -/
def insertsMeanwhile (next : Accounts) : Bool :=
  staffing.bootstraps.any fun each => each.2.inserts && (staffing.accounts.userOf each.2.email).isNone && (next.userOf each.2.email).isSome

def commit (transaction : Id) (next : Accounts) : Except Refusal Staffing := do
  require (staffing.insertsMeanwhile next = false) busy
  .ok { staffing with accounts := next, looks := staffing.looks.filter (·.1 ≠ transaction) }

/-- An operation of the identity tables. Nothing but a bootstrap grants a platform role. -/
def account (transaction : Id) : AccountStep → Except Refusal Staffing
  | .staff _ => .error busy
  | step => ((staffing.seenBy transaction).step settings digests step).bind (staffing.commit transaction)

/-- `create_tenant`, of a bank under an id of its own. -/
def createTenant (transaction tenant : Id) (name email : String) (granted : List String) (token : String) : Except Refusal Staffing := do
  let seen := staffing.seenBy transaction
  require (strip name ≠ "") { code := "name_required", detail := "Give the organisation a name." }
  require (∀ user ∈ seen.users.rows, user.email = cleanEmail email → seen.holdsPlatformRole user.id = false) {
    code := "platform_account"
    detail := "That address belongs to platform staff. Invite the bank's administrator with an address of their own." }
  require ((∀ row ∈ seen.memberships.rows, row.tenant ≠ tenant) ∧ ∀ row ∈ seen.invitations.rows, row.tenant ≠ some tenant) internalError
  let invited ← seen.createInvitation settings digests (some tenant) email granted token
  staffing.commit transaction invited

/-- `belongs_to_a_tenant`, of an account under its address. -/
def belongsToATenant (user : Option User) (email : String) : Bool :=
  (staffing.accounts.memberships.rows.any fun row => user.any (·.id == row.user)) ||
    staffing.accounts.invitations.rows.any fun row => row.tenant.isSome && row.email == email && row.acceptedAt.isNone && row.revokedAt.isNone

def held (user : Option User) : List String := (staffing.assignments.filter fun row => user.any (·.id == row.user)).map (·.role)

def commandError (detail : String) : Refusal := { code := "command_error", detail }

/-- `bootstrap_platform`, up to its writes. -/
def beginBootstrap (transaction : Id) (email role : String) (addRole : Bool) : Except Refusal Staffing := do
  let cleaned := cleanEmail email
  let wanted := lower (strip role)
  require (∀ each ∈ staffing.bootstraps, each.1 ≠ transaction) busy
  require (wanted ∈ platformRoles)
    (commandError (wanted ++ " is not a platform role. Pick one of: " ++ ", ".intercalate platformRoles ++ "."))
  let user := staffing.accounts.userOf cleaned
  require (staffing.belongsToATenant user cleaned = false)
    (commandError (cleaned ++ " belongs to a bank. Platform staff are separate accounts: use an address of their own."))
  require (∀ row ∈ user, staffing.accounts.hasLivePasskey row.id = false)
    (commandError (cleaned ++ " already holds a passkey; nothing to bootstrap."))
  let others := (staffing.held user).filter (· ≠ wanted)
  require (others = [] ∨ addRole = true)
    (commandError (cleaned ++ " already holds " ++ ", ".intercalate others ++ ". Pass --add-role to grant " ++ wanted ++ " as well."))
  .ok { staffing with bootstraps := staffing.bootstraps ++ [(transaction, { email := cleaned, role := wanted, inserts := user.isNone })] }

/-- `get_or_create` of a grant. -/
def grant (user : Id) (role : String) : List PlatformRoleAssignment :=
  if ⟨user, role⟩ ∈ staffing.assignments then staffing.assignments else staffing.assignments ++ [⟨user, role⟩]

/-- `bootstrap_platform`, from its writes to its commit. -/
def finishBootstrap (transaction : Id) (token : String) : Except Refusal Staffing := do
  let (_, bootstrap) ← demand (staffing.bootstraps.find? (·.1 == transaction)) busy
  let known := staffing.accounts.withUser bootstrap.email
  let user ← demand (known.userOf bootstrap.email) internalError
  let invited ← known.createInvitation settings digests none bootstrap.email [] token
  .ok { staffing with
    accounts := invited
    assignments := staffing.grant user.id bootstrap.role
    bootstraps := staffing.bootstraps.filter (·.1 ≠ transaction) }

end Staffing

/-- What may happen next. -/
inductive StaffingStep where
  /-- A transaction reads who is staff, which it goes by until it commits. -/
  | look (transaction : Id)
  | account (transaction : Id) (step : AccountStep)
  | createTenant (transaction tenant : Id) (name email : String) (granted : List String) (token : String)
  | beginBootstrap (transaction : Id) (email role : String) (addRole : Bool)
  | finishBootstrap (transaction : Id) (token : String)
  /-- A transaction fails and is rolled back. -/
  | abort (transaction : Id)

def Staffing.step (settings : IdentitySettings) (digests : Digests) (staffing : Staffing) : StaffingStep → Except Refusal Staffing
  | .look transaction => .ok { staffing with looks := (transaction, staffing.staff) :: staffing.looks.filter (·.1 ≠ transaction) }
  | .account transaction step => staffing.account settings digests transaction step
  | .createTenant transaction tenant name email granted token =>
    staffing.createTenant settings digests transaction tenant name email granted token
  | .beginBootstrap transaction email role addRole => staffing.beginBootstrap transaction email role addRole
  | .finishBootstrap transaction token => staffing.finishBootstrap settings digests transaction token
  | .abort transaction => .ok { staffing with
      looks := staffing.looks.filter (·.1 ≠ transaction)
      bootstraps := staffing.bootstraps.filter (·.1 ≠ transaction) }

end Grc.Identity

/-! Runs of bootstraps beside everything that happens to accounts: no account is both platform staff's and a bank's while neither side
commits what the other has committed before it. -/
namespace Grc.Identity

open Grc.Shared Grc.Lib

variable {settings : IdentitySettings} {digests : Digests} {accounts next : Accounts} {staffing after : Staffing}

def Accounts.Member (accounts : Accounts) (user : Id) : Prop := ∃ row ∈ accounts.memberships.rows, row.user = user

/-- The account a step takes into a bank, where it accepts a bank's invitation. -/
def Accounts.joins (accounts : Accounts) : AccountStep → Option Id
  | .finishRegistration ceremony _ _ =>
    match accounts.ceremonyOf ceremony with
    | some (.registering session (some invitation) _ credentialId _) =>
      if (accounts.passkeys.rows.any (·.credentialId == credentialId)) = true ∨ session.kind ≠ .enrolment ∨ invitation.tenant = none ∨
          accounts.holdsPlatformRole session.user = true then none
      else some session.user
    | _ => none
  | _ => none

theorem Accounts.Member.alike {user : Id} (same : next.memberships = accounts.memberships) : next.Member user ↔ accounts.Member user := by
  rw [Member, Member, same]

theorem nobody_iff {member : Prop} {other : Id} : member ↔ member ∨ (none : Option Id) = some other :=
  ⟨.inl, fun either => either.resolve_right fun its => by cases its⟩

theorem member_update {memberships : Keyed BankMembership.id} {picked : BankMembership → Bool} {change : BankMembership → BankMembership}
    (named : ∀ row, (change row).id = row.id) (owned : ∀ row, (change row).user = row.user) {user : Id} :
    (∃ row ∈ (memberships.update picked change named).rows, row.user = user) ↔ ∃ row ∈ memberships.rows, row.user = user := by
  have each : ∀ row : BankMembership, (if picked row = true then change row else row).user = row.user := by
    intro row
    split
    · exact owned row
    · rfl
  constructor
  · rintro ⟨row, there, rfl⟩
    obtain ⟨old, here, rfl⟩ := Keyed.mem_update.mp there
    exact ⟨old, here, (each old).symm⟩
  · rintro ⟨row, there, rfl⟩
    exact ⟨_, Keyed.mem_update.mpr ⟨row, there, rfl⟩, each row⟩

theorem join_member {tenant user other : Id} {granted : List String} :
    (accounts.join tenant user granted).Member other ↔ accounts.Member other ∨ other = user := by
  unfold Accounts.join
  split
  · rename_i known
    obtain ⟨row, there, its⟩ := List.any_eq_true.mp known
    have owner := (Bool.and_eq_true_iff.mp its).2
    refine Iff.trans (member_update (by exact fun _ => rfl) (by exact fun _ => rfl)) ⟨.inl, ?_⟩
    rintro (member | rfl)
    · exact member
    · exact ⟨row, there, beq_iff_eq.mp owner⟩
  · simp only [Accounts.Member, Keyed.mem_create]
    constructor
    · rintro ⟨row, old | rfl, rfl⟩
      · exact .inl ⟨row, old, rfl⟩
      · exact .inr rfl
    · rintro (⟨row, there, rfl⟩ | rfl)
      · exact ⟨row, .inl there, rfl⟩
      · exact ⟨_, .inr rfl, rfl⟩

theorem accept_member {invitation : Invitation} {user other : Id} {now : Instant} :
    (accounts.accept invitation user now).Member other ↔ accounts.Member other ∨ other = user ∧ invitation.tenant ≠ none := by
  unfold Accounts.accept
  cases found : invitation.tenant with
  | none => exact ⟨.inl, fun either => either.resolve_right fun its => its.2 rfl⟩
  | some tenant =>
    rw [join_member]
    exact or_congr Iff.rfl ⟨fun same => ⟨same, fun none_ => by cases none_⟩, fun its => its.1⟩

/-- A registration takes its person into a bank where it accepts the bank's invitation. -/
theorem finishRegistration_member {ceremony other : Id} {policy : Option SecurityPolicy} {refreshHash : String}
    (done : accounts.finishRegistration settings ceremony policy refreshHash = .ok next) :
    next.Member other ↔ accounts.Member other ∨ accounts.joins (.finishRegistration ceremony policy refreshHash) = some other := by
  unfold Accounts.finishRegistration at done
  split at done
  · rename_i session invitation challenge credentialId now found
    have none_ : ∀ {taken : Option Id}, taken = none → (accounts.Member other ↔ accounts.Member other ∨ taken = some other) := by
      rintro _ rfl
      exact nobody_iff
    simp only [Accounts.joins, found]
    split at done
    · rename_i taken
      cases done
      refine Iff.trans (Accounts.Member.alike rfl) (none_ ?_)
      cases invitation with
      | none => rfl
      | some open_ => exact if_pos (.inl taken)
    · rename_i free
      split at done
      · rename_i full
        cases done
        refine Iff.trans (Accounts.Member.alike rfl) (none_ ?_)
        cases invitation with
        | none => rfl
        | some open_ => exact if_pos (.inr (.inl full))
      · rename_i enrolment
        split at done
        · rename_i staff
          cases done
          refine Iff.trans (Accounts.Member.alike rfl) (none_ ?_)
          cases invitation with
          | none => rfl
          | some open_ => exact if_pos (.inr (.inr (.inr (Bool.and_eq_true_iff.mp staff).2)))
        · rename_i unstaffed
          cases done
          cases invitation with
          | none => exact Iff.trans (Accounts.Member.alike rfl) (none_ rfl)
          | some open_ =>
            refine Iff.trans accept_member (or_congr Iff.rfl ?_)
            change _ ↔ (if _ then none else some session.user) = some other
            by_cases bank : open_.tenant = none
            · rw [if_pos (.inr (.inr (.inl bank)))]
              exact iff_of_false (fun its => its.2 bank) fun its => by cases its
            · have outsider : ¬accounts.holdsPlatformRole session.user = true := by
                intro staff
                refine unstaffed (Bool.and_eq_true_iff.mpr ⟨?_, staff⟩)
                exact Option.isSome_iff_ne_none.mpr bank
              rw [if_neg (by
                rintro (taken | full | platform | staff)
                · exact free taken
                · exact enrolment full
                · exact bank platform
                · exact outsider staff)]
              exact ⟨fun its => congrArg some its.1.symm, fun its => ⟨(Option.some.inj its).symm, bank⟩⟩
  · cases done

/-- Whom the banks know after a step: those they knew, and the one the step takes in. -/
theorem step_member {step : AccountStep} {other : Id} (done : accounts.step settings digests step = .ok next) :
    next.Member other ↔ accounts.Member other ∨ accounts.joins step = some other := by
  have quiet : ∀ {last : Accounts}, last.memberships = accounts.memberships → (last.Member other ↔ accounts.Member other ∨ none = some other) :=
    fun same => (Accounts.Member.alike same).trans nobody_iff
  have known : ∀ email, (accounts.withUser email).memberships = accounts.memberships := by
    intro email
    unfold Accounts.withUser
    split <;> rfl
  cases step with
  | createInvitation tenant email granted token =>
    simp only [Accounts.step, Accounts.createInvitation, bind_ok, Except.ok.injEq] at done
    obtain ⟨_, _, user, _, _, _, _, _, rfl⟩ := done
    exact quiet (known _)
  | resendInvitation id token =>
    simp only [Accounts.step, Accounts.resendInvitation, bind_ok, Except.ok.injEq] at done
    obtain ⟨_, _, _, _, rfl⟩ := done
    exact quiet rfl
  | requestCode email code salt =>
    simp only [Accounts.step, Accounts.requestCode] at done
    split at done
    · split at done
      · cases done
        exact quiet rfl
      · split at done
        · cases done
          exact quiet rfl
        · cases done
    · cases done
      exact quiet rfl
  | openInvitation token code salt =>
    simp only [Accounts.step, Accounts.openInvitation, bind_ok, Except.ok.injEq] at done
    obtain ⟨_, _, _, _, _, _, _, _, rfl⟩ := done
    exact quiet (known _)
  | beginVerify ceremony email =>
    simp only [Accounts.step, Accounts.beginVerify, bind_ok, Except.ok.injEq] at done
    obtain ⟨_, _, rfl⟩ := done
    exact quiet rfl
  | beginVerifyByToken ceremony token =>
    simp only [Accounts.step, Accounts.beginVerifyByToken, bind_ok, Except.ok.injEq] at done
    obtain ⟨_, _, _, _, _, _, rfl⟩ := done
    exact quiet rfl
  | checkCode ceremony given =>
    simp only [Accounts.step, Accounts.checkCode] at done
    repeat' split at done
    all_goals
      cases done
      try exact quiet rfl
  | finishVerify ceremony policy refreshHash =>
    simp only [Accounts.step, Accounts.finishVerify] at done
    split at done
    · cases done
      exact quiet rfl
    · cases done
  | registrationOptions session =>
    simp only [Accounts.step, Accounts.registrationOptions, bind_ok, Except.ok.injEq] at done
    obtain ⟨_, _, rfl⟩ := done
    exact quiet rfl
  | beginRegistration ceremony session challenge credentialId =>
    simp only [Accounts.step, Accounts.beginRegistration, bind_ok, Except.ok.injEq] at done
    obtain ⟨_, _, row, found, _, _, _, _, _, _, rfl⟩ := done
    exact quiet rfl
  | failRegistration session challenge =>
    simp only [Accounts.step, Accounts.failRegistration, bind_ok, Except.ok.injEq] at done
    obtain ⟨_, _, _, _, _, _, rfl⟩ := done
    exact quiet rfl
  | finishRegistration ceremony policy refreshHash => exact finishRegistration_member done
  | signIn passkey policy refreshHash =>
    simp only [Accounts.step, Accounts.signIn, bind_ok, Except.ok.injEq] at done
    obtain ⟨_, _, _, _, rfl⟩ := done
    exact quiet rfl
  | refreshSession id reads presentedHash newHash =>
    simp only [Accounts.step, Accounts.refreshSession] at done
    split at done <;> cases done <;> exact quiet rfl
  | removePasskey session passkey =>
    simp only [Accounts.step, Accounts.removePasskey, bind_ok, Except.ok.injEq] at done
    obtain ⟨_, _, _, _, _, _, rfl⟩ := done
    exact quiet rfl
  | reissueEnrolment tenant user token =>
    simp only [Accounts.step, Accounts.reissueEnrolment, bind_ok] at done
    obtain ⟨_, _, person, _, _, _, done⟩ := done
    split at done <;> cases done <;> exact quiet rfl
  | mint session scopes keyPrefix secret expiresAt =>
    simp only [Accounts.step, Accounts.mint, bind_ok, Except.ok.injEq] at done
    obtain ⟨row, _, tenant, _, _, _, _, _, _, _, rfl⟩ := done
    exact quiet rfl
  | deactivateMember tenant user | regrant membership granted =>
    cases done
    exact Iff.trans (member_update (by exact fun _ => rfl) (by exact fun _ => rfl)) nobody_iff
  | tick | revokeInvitation | revokeSession | revokeKey | staff | abort =>
    cases done
    exact quiet rfl

namespace Staffing

def Apart (staffing : Staffing) : Prop := ∀ row ∈ staffing.assignments, ¬staffing.accounts.Member row.user

/-- A registration takes nobody into a bank who has been given a platform role by now, and a bootstrap gives none to an account a bank
has come to know. -/
def KeepsApart (staffing : Staffing) : StaffingStep → Prop
  | .account transaction step => ∀ user ∈ (staffing.seenBy transaction).joins step, ∀ row ∈ staffing.assignments, row.user ≠ user
  | .finishBootstrap transaction _ => ∀ each ∈ staffing.bootstraps.find? (·.1 == transaction),
    ∀ user ∈ (staffing.accounts.withUser each.2.email).userOf each.2.email, ∀ row ∈ staffing.accounts.memberships.rows, row.user ≠ user.id
  | _ => True

instance (staffing : Staffing) (step : StaffingStep) : Decidable (staffing.KeepsApart step) := by
  cases step <;> unfold KeepsApart <;> infer_instance

theorem commit_ok {transaction : Id} (done : staffing.commit transaction next = .ok after) :
    after.accounts = next ∧ after.assignments = staffing.assignments := by
  simp only [commit, bind_ok, Except.ok.injEq] at done
  obtain ⟨_, _, rfl⟩ := done
  exact ⟨rfl, rfl⟩

theorem Apart.alike (apart : staffing.Apart) (accounts : ∀ user, after.accounts.Member user → staffing.accounts.Member user)
    (assignments : after.assignments = staffing.assignments) : after.Apart := by
  intro row there member
  rw [assignments] at there
  exact apart row there (accounts row.user member)

theorem mem_grant {user : Id} {role : String} {row : PlatformRoleAssignment} :
    row ∈ staffing.grant user role ↔ row ∈ staffing.assignments ∨ row = ⟨user, role⟩ := by
  unfold grant
  split
  · rename_i held
    constructor
    · exact .inl
    · rintro (old | rfl)
      · exact old
      · exact held
  · rw [List.mem_append, List.mem_singleton]

theorem createInvitation_member {tenant : Option Id} {email token : String} {granted : List String} {user : Id}
    (done : accounts.createInvitation settings digests tenant email granted token = .ok next) : next.Member user ↔ accounts.Member user := by
  have step : accounts.step settings digests (.createInvitation tenant email granted token) = .ok next := done
  exact (step_member step).trans nobody_iff.symm

theorem account_apart_iff {transaction : Id} {step : AccountStep} (apart : staffing.Apart)
    (done : staffing.account settings digests transaction step = .ok after) :
    after.Apart ↔ staffing.KeepsApart (.account transaction step) := by
  have ran : ∃ next, (staffing.seenBy transaction).step settings digests step = .ok next ∧ staffing.commit transaction next = .ok after := by
    unfold account at done
    split at done
    · cases done
    · exact bind_ok.mp done
  obtain ⟨next, ran, done⟩ := ran
  obtain ⟨rfl, assignments⟩ := commit_ok done
  have members : ∀ user, after.accounts.Member user ↔
      staffing.accounts.Member user ∨ (staffing.seenBy transaction).joins step = some user := fun user => step_member ran
  constructor
  · rintro left user joined row there rfl
    refine left row ?_ ((members row.user).mpr (.inr joined))
    rw [assignments]
    exact there
  · intro keeps row there member
    rw [assignments] at there
    rcases (members row.user).mp member with old | joined
    · exact apart row there old
    · exact keeps row.user joined row there rfl

theorem finishBootstrap_apart_iff {transaction : Id} {token : String} (apart : staffing.Apart)
    (done : staffing.finishBootstrap settings digests transaction token = .ok after) :
    after.Apart ↔ staffing.KeepsApart (.finishBootstrap transaction token) := by
  simp only [finishBootstrap, bind_ok, demand_ok, Except.ok.injEq] at done
  obtain ⟨⟨_, bootstrap⟩, found, user, known, invited, created, rfl⟩ := done
  have members : ∀ other, invited.Member other ↔ staffing.accounts.Member other := by
    intro other
    rw [createInvitation_member created]
    refine Accounts.Member.alike ?_
    unfold Accounts.withUser
    split <;> rfl
  simp only [KeepsApart, found, Option.mem_def, Option.some.injEq, forall_eq', known]
  constructor
  · intro left row there owned
    exact left ⟨user.id, bootstrap.role⟩ (mem_grant.mpr (.inr rfl)) ((members user.id).mpr ⟨row, there, owned⟩)
  · intro unknown row there member
    have old := (members row.user).mp member
    rcases mem_grant.mp there with before | rfl
    · exact apart row before old
    · obtain ⟨membership, here, owned⟩ := old
      exact unknown membership here owned

theorem step_apart_iff {step : StaffingStep} (apart : staffing.Apart) (done : staffing.step settings digests step = .ok after) :
    after.Apart ↔ staffing.KeepsApart step := by
  cases step with
  | look transaction =>
    cases done
    exact iff_of_true apart trivial
  | account transaction step => exact account_apart_iff apart done
  | createTenant transaction tenant name email granted token =>
    simp only [Staffing.step, createTenant, bind_ok] at done
    obtain ⟨_, _, _, _, _, _, invited, created, done⟩ := done
    obtain ⟨rfl, assignments⟩ := commit_ok done
    refine iff_of_true (apart.alike ?_ assignments) trivial
    exact fun user => (createInvitation_member created).mp
  | beginBootstrap transaction email role addRole =>
    simp only [Staffing.step, beginBootstrap, bind_ok, Except.ok.injEq] at done
    obtain ⟨_, _, _, _, _, _, _, _, _, _, rfl⟩ := done
    exact iff_of_true apart trivial
  | finishBootstrap transaction token => exact finishBootstrap_apart_iff apart done
  | abort transaction =>
    cases done
    exact iff_of_true apart trivial

/-- From tables where no account is both, a run keeps platform staff and banks' members apart throughout exactly when each registration and
each bootstrap commits while the other side has not taken its account. -/
theorem run_apart_iff (settings : IdentitySettings) (digests : Digests) (start : Staffing) (apart : start.Apart) (steps : List StaffingStep) :
    (∀ first, first <+: steps → (run (Staffing.step settings digests) start first).Apart) ↔
      Meets (Staffing.step settings digests) KeepsApart start steps :=
  holds_throughout_iff_meets apart (fun _ _ _ apart done => step_apart_iff apart done) steps

theorem apart_empty : ({} : Staffing).Apart := by
  intro row there
  cases there

/-- Bank 7 has invited Ann and thought better of it. A bootstrap for her address makes its checks; the bank invites her again, and she
enrols; then the bootstrap commits. -/
def bootstrapWhileEnrolling : List StaffingStep :=
  [.account 0 (.createInvitation (some 7) "ann@bank.lu" ["library.read"] "first"), .account 0 (.revokeInvitation 0),
    .beginBootstrap 1 "ann@bank.lu" "platform_admin" false,
    .account 0 (.createInvitation (some 7) "ann@bank.lu" ["library.read"] "invited")] ++
    (enrols "invited" "salt" "refresh" "key" 0 0).map (.account 0 ·) ++ [.finishBootstrap 1 "console"]

theorem bootstrapWhileEnrolling_both : ¬∀ steps, ∀ first, first <+: steps →
    (run (Staffing.step {} plainDigests) {} first).Apart := by
  intro claim
  have apart := claim bootstrapWhileEnrolling _ (List.prefix_refl _)
  have both : (⟨0, "platform_admin"⟩ ∈ (run (Staffing.step {} plainDigests) {} bootstrapWhileEnrolling).assignments) ∧
      ∃ row ∈ (run (Staffing.step {} plainDigests) {} bootstrapWhileEnrolling).accounts.memberships.rows, row.user = 0 := by
    decide +kernel
  exact apart _ both.1 both.2

/-- A bootstrap that checks after the invitation is refused, and one that commits before it keeps the bank from inviting her. -/
def bootstrapBeforeEnrolling : List StaffingStep :=
  [.account 0 (.createInvitation (some 7) "bo@bank.lu" ["library.read"] "invited"), .beginBootstrap 1 "bo@bank.lu" "platform_admin" false,
    .beginBootstrap 2 "ann@bank.lu" "platform_admin" false, .finishBootstrap 2 "console",
    .account 0 (.createInvitation (some 7) "ann@bank.lu" ["library.read"] "too late")]

theorem bootstrapBeforeEnrolling_apart : Meets (Staffing.step {} plainDigests) KeepsApart {} bootstrapBeforeEnrolling ∧
    ∀ first, first <+: bootstrapBeforeEnrolling → (run (Staffing.step {} plainDigests) {} first).Apart := by
  have met : Meets (Staffing.step {} plainDigests) KeepsApart {} bootstrapBeforeEnrolling := by decide +kernel
  exact ⟨met, (run_apart_iff {} plainDigests {} apart_empty bootstrapBeforeEnrolling).mpr met⟩

end Staffing
end Grc.Identity
