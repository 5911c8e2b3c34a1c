import Grc.Identity.Members
import Grc.Identity.Sessions

/-! People across banks: their accounts, memberships, invitations, emailed codes, passkeys, sessions and tokens. -/
namespace Grc.Identity

open Grc.Shared Grc.Lib
open Grc.Proposals (strip)

structure User where
  id : Id
  email : String
  status : UserStatus := .invited
  deactivatedAt : Option Instant := none

/-- A person's membership of one bank, with what its roles grant as they stand. -/
structure BankMembership where
  id : Id
  tenant : Id
  user : Id
  granted : List String := []
  deactivatedAt : Option Instant := none

inductive InvitationKind where
  | invite
  | reenrolment

structure Invitation where
  id : Id
  tenant : Option Id
  email : String
  kind : InvitationKind
  tokenHash : String
  /-- What the invited roles grant. -/
  granted : List String
  expiresAt : Instant
  acceptedAt : Option Instant := none
  acceptedUser : Option Id := none
  revokedAt : Option Instant := none

structure OtpCode where
  id : Id
  user : Id
  email : String
  codeHash : String
  salt : String
  attempts : Nat := 0
  maxAttempts : Nat
  expiresAt : Instant
  consumedAt : Option Instant := none

/-- A registration challenge. -/
structure AuthChallenge where
  id : Id
  user : Id
  session : Id
  expiresAt : Instant
  consumedAt : Option Instant := none

structure WebAuthnCredential where
  id : Id
  user : Id
  credentialId : String
  retiredAt : Option Instant := none

inductive CredentialKind where
  | service
  | personal
  deriving DecidableEq

structure ApiKey where
  id : Id
  tenant : Option Id
  kind : CredentialKind
  actsAsUser : Option Id := none
  scopes : List String
  keyPrefix : String
  keyHash : String
  expiresAt : Option Instant := none
  revokedAt : Option Instant := none

/-- A ceremony under way: a code being verified, one found right whose session is not yet committed, or a passkey being registered. -/
inductive Ceremony where
  | verifying (email : String) (invitation : Option Invitation) (code : Option OtpCode) (now : Instant)
  | admitted (code : OtpCode) (invitation : Invitation) (seen : Id) (now : Instant)
  | registering (session : UserSession) (invitation : Option Invitation) (challenge : Id) (credentialId : String) (now : Instant)

/-- What stood when an enrolment session stored a passkey. -/
structure Enrolled where
  user : Id
  session : Id
  heldLive : Bool
  invited : Bool
  deriving DecidableEq

/-- What a person held when a bank re-issued their enrolment. -/
structure Reissued where
  sessions : List Id
  passkeys : List Id
  tokens : List Id
  deriving DecidableEq

/-- The identity tables as committed, the ceremonies under way, and three accounts of what happened: the first passkey id not yet
drawn when each enrolment session's code was checked, the passkeys enrolment sessions stored, and the re-issued enrolments. -/
structure Accounts where
  clock : Instant := 0
  users : Keyed User.id := {}
  platformStaff : List Id := []
  memberships : Keyed BankMembership.id := {}
  invitations : Keyed Invitation.id := {}
  codes : Keyed OtpCode.id := {}
  challenges : Keyed AuthChallenge.id := {}
  sessions : Keyed UserSession.id := {}
  passkeys : Keyed WebAuthnCredential.id := {}
  keys : Keyed ApiKey.id := {}
  ceremonies : List (Id × Ceremony) := []
  seenAt : Id → Id := fun _ => 0
  enrolled : List Enrolled := []
  reissued : List Reissued := []

structure IdentitySettings extends SessionSettings where
  invitationTtlHours : Nat := 72
  enrolmentCodeTtlMinutes : Nat := 10
  enrolmentCodeMaxAttempts : Nat := 5
  challengeTtlSeconds : Nat := 120

/-- What is drawn or computed elsewhere: the hash of a random token, and the keyed hash of a code with its salt. -/
structure Digests where
  hashToken : String → String
  hashCode : String → String → String

def lower (text : String) : String := text.toLower

/-- `normalise_email`, and the cleaning of an address a form carries. -/
def cleanEmail (email : String) : String := lower (strip email)

def Invitation.isOpen (invitation : Invitation) (now : Instant) : Bool :=
  invitation.acceptedAt.isNone && invitation.revokedAt.isNone && now < invitation.expiresAt

namespace Accounts
variable (settings : IdentitySettings) (digests : Digests) (accounts : Accounts)

def userOf (email : String) : Option User := accounts.users.rows.find? (·.email == email)

/-- `get_or_create_user`. -/
def withUser (email : String) : Accounts :=
  match accounts.userOf email with
  | some _ => accounts
  | none => { accounts with users := accounts.users.create (fun id => { id, email }) fun _ => rfl }

/-- `find_open_for_email`: the newest one open for the address in any bank. -/
def findOpenForEmail (email : String) : Option Invitation :=
  accounts.invitations.rows.reverse.find? fun row => row.email == email && row.isOpen accounts.clock

def findOpenForTenant (email : String) (tenant : Option Id) : Option Invitation :=
  accounts.invitations.rows.reverse.find? fun row => row.tenant == tenant && row.email == email && row.isOpen accounts.clock

def findByToken (token : String) : Option Invitation := accounts.invitations.rows.find? (·.tokenHash == digests.hashToken token)

def hasLivePasskey (user : Id) : Bool := accounts.passkeys.rows.any fun row => row.user == user && row.retiredAt.isNone

/-- `holds_a_platform_role`. -/
def holdsPlatformRole (user : Id) : Bool := accounts.platformStaff.contains user

def activeMembership (tenant user : Id) : Option BankMembership :=
  accounts.memberships.rows.find? fun row => row.tenant == tenant && row.user == user && row.deactivatedAt.isNone

/-- An earlier open invitation for the same address in this bank is superseded. -/
def supersede (tenant : Option Id) (email : String) : Accounts :=
  { accounts with
    invitations := accounts.invitations.update
      (fun row => row.tenant == tenant && row.email == email && row.acceptedAt.isNone && row.revokedAt.isNone)
      (fun row => { row with revokedAt := some accounts.clock }) fun _ => rfl }

def hours (count : Nat) : Nat := seconds (3600 * count)

/-- The writes of `create_invitation`. -/
def invite (tenant : Option Id) (email : String) (kind : InvitationKind) (granted : List String) (token : String) : Accounts :=
  let superseded := accounts.supersede tenant email
  { superseded with
    invitations := superseded.invitations.create (fun id => {
      id, tenant, email, kind, granted
      tokenHash := digests.hashToken token
      expiresAt := accounts.clock + hours settings.invitationTtlHours }) fun _ => rfl }

def platformAccount : Refusal where
  code := "platform_account"
  detail := "That address belongs to platform staff, who sign in with an account of their own. " ++
    "Invite this person with a work address the platform does not use."

/-- `create_invitation`, of a person asked to join. -/
def createInvitation (tenant : Option Id) (email : String) (granted : List String) (token : String) : Except Refusal Accounts := do
  let cleaned := cleanEmail email
  require (cleaned.toList.contains '@' = true) { code := "invalid_email", detail := "Enter a valid email address." }
  let known := accounts.withUser cleaned
  let user ← demand (known.userOf cleaned) internalError
  require (tenant.isSome = true → known.holdsPlatformRole user.id = false) platformAccount
  require (∀ bank ∈ tenant, (known.activeMembership bank user.id).isNone = true)
    { code := "already_member", detail := "That person is already a member." }
  .ok (known.invite settings digests tenant cleaned .invite granted token)

def invitationClosed : Refusal := { code := "invitation_closed", detail := "This invitation is no longer open." }

def resendInvitation (id : Id) (token : String) : Except Refusal Accounts := do
  let invitation ← demand (accounts.invitations.rows.find? (·.id == id)) notFound
  require (invitation.acceptedAt = none ∧ invitation.revokedAt = none) invitationClosed
  .ok { accounts with
    invitations := accounts.invitations.update (·.id == id) (fun row => { row with
      tokenHash := digests.hashToken token
      expiresAt := accounts.clock + hours settings.invitationTtlHours }) fun _ => rfl }

def revokeInvitation (id : Id) : Accounts :=
  { accounts with
    invitations := accounts.invitations.update (fun row => row.id == id && row.revokedAt.isNone && row.acceptedAt.isNone)
      (fun row => { row with revokedAt := some accounts.clock }) fun _ => rfl }

/-- Some ceremony has claimed the code's row and not committed. -/
def codeLocked (code : Id) : Bool :=
  accounts.ceremonies.any fun each =>
    match each.2 with
    | .admitted held _ _ _ => held.id == code
    | _ => false

/-- Some ceremony has claimed the challenge's row and not committed. -/
def challengeLocked (challenge : Id) : Bool :=
  accounts.ceremonies.any fun each =>
    match each.2 with
    | .registering _ _ held _ _ => held == challenge
    | _ => false

/-- The codes `issue_code` spends are free of another transaction's lock. -/
def codesFree (email : String) : Bool :=
  accounts.codes.rows.all fun row => !(row.email == email && row.consumedAt.isNone && accounts.codeLocked row.id)

def issueCode (user : User) (code salt : String) : Accounts :=
  { accounts with
    codes := (accounts.codes.update (fun row => row.email == user.email && row.consumedAt.isNone)
      (fun row => { row with consumedAt := some accounts.clock }) fun _ => rfl).create (fun id => {
        id, user := user.id, email := user.email, salt
        codeHash := digests.hashCode code salt
        maxAttempts := settings.enrolmentCodeMaxAttempts
        expiresAt := accounts.clock + seconds (60 * settings.enrolmentCodeTtlMinutes) }) fun _ => rfl }

/-- `request_code`: it answers every address alike, and sends a code where there is a user, an invitation and no passkey. -/
def requestCode (email code salt : String) : Except Refusal Accounts :=
  let cleaned := cleanEmail email
  match accounts.userOf cleaned, accounts.findOpenForEmail cleaned with
  | some user, some _ =>
    if accounts.hasLivePasskey user.id = true then .ok accounts
    else if accounts.codesFree user.email = true then .ok (accounts.issueCode settings digests user code salt)
    else .error busy
  | _, _ => .ok accounts

def invitationExpired : Refusal where
  code := "invitation_expired"
  detail := "This invitation link has expired or was already used."

def openInvitation (token code salt : String) : Except Refusal Accounts := do
  let invitation ← demand (accounts.findByToken digests token) invitationExpired
  require (invitation.isOpen accounts.clock = true) invitationExpired
  let known := accounts.withUser invitation.email
  let user ← demand (known.userOf invitation.email) internalError
  require (known.codesFree user.email = true) busy
  .ok (known.issueCode settings digests user code salt)

def openCode (email : String) : Option OtpCode :=
  accounts.codes.rows.reverse.find? fun row => row.email == email && row.consumedAt.isNone && accounts.clock < row.expiresAt

def turn (ceremony : Id) (at_ : Option Ceremony) : Accounts :=
  { accounts with ceremonies := accounts.ceremonies.filter (·.1 ≠ ceremony) ++ at_.toList.map (ceremony, ·) }

def ceremonyOf (ceremony : Id) : Option Ceremony := (accounts.ceremonies.find? (·.1 == ceremony)).map (·.2)

/-- `verify_code`, up to its first write. -/
def beginVerify (ceremony : Id) (email : String) : Except Refusal Accounts := do
  require ((accounts.ceremonyOf ceremony).isNone = true) busy
  let cleaned := cleanEmail email
  .ok (accounts.turn ceremony (some (.verifying cleaned (accounts.findOpenForEmail cleaned) (accounts.openCode cleaned) accounts.clock)))

/-- `verify_invitation_code`, up to its first write. -/
def beginVerifyByToken (ceremony : Id) (token : String) : Except Refusal Accounts := do
  require ((accounts.ceremonyOf ceremony).isNone = true) busy
  let invitation ← demand (accounts.findByToken digests token) invitationExpired
  require (invitation.isOpen accounts.clock = true) invitationExpired
  .ok (accounts.turn ceremony (some (.verifying invitation.email (some invitation) (accounts.openCode invitation.email) accounts.clock)))

def spend (code : OtpCode) : OtpCode := { code with attempts := code.attempts + 1 }

def consume (now : Instant) (code : OtpCode) : OtpCode := { spend code with consumedAt := some now }

def putCode (id : Id) (change : OtpCode → OtpCode) (named : ∀ row, (change row).id = row.id) : Accounts :=
  { accounts with codes := accounts.codes.update (·.id == id) change named }

/-- `_claim_attempt` claims: the row as committed is unconsumed and has an attempt left. -/
def claims (id : Id) : Bool := accounts.codes.rows.any fun row => row.id == id && row.consumedAt.isNone && row.attempts < row.maxAttempts

/-- `_verify`, from its first write to its answer: what it refuses it commits, and a right code's session is not committed yet. -/
def checkCode (ceremony : Id) (given : String) : Except Refusal Accounts :=
  match accounts.ceremonyOf ceremony with
  | some (.verifying _ invitation code now) =>
    match code with
    | none => .ok (accounts.turn ceremony none)
    | some row =>
      if accounts.codeLocked row.id = true then .error busy
      else if row.maxAttempts ≤ row.attempts ∨ accounts.claims row.id = false then .ok (accounts.turn ceremony none)
      else if digests.hashCode (strip given) row.salt ≠ row.codeHash then
        .ok ((accounts.putCode row.id spend fun _ => rfl).turn ceremony none)
      else match invitation with
        | none => .ok ((accounts.putCode row.id (consume now) fun _ => rfl).turn ceremony none)
        | some open_ =>
          if accounts.hasLivePasskey row.user = true then .ok ((accounts.putCode row.id (consume now) fun _ => rfl).turn ceremony none)
          else .ok (accounts.turn ceremony (some (.admitted row open_ accounts.passkeys.fresh now)))
  | _ => .error busy

/-- `create_session`. -/
def openSession (user : Id) (tenant : Option Id) (kind : SessionKind) (policy : Option SecurityPolicy) (refreshHash : String)
    (now : Instant) (id : Id) : UserSession where
  id := id
  user := user
  tenant := tenant
  kind := kind
  refreshTokenHash := refreshHash
  createdAt := now
  lastSeenAt := now
  expiresAt := now + (limits settings.toSessionSettings policy).2

/-- The commit of a right code: the code is spent, and the enrolment session is there. -/
def finishVerify (ceremony : Id) (policy : Option SecurityPolicy) (refreshHash : String) : Except Refusal Accounts :=
  match accounts.ceremonyOf ceremony with
  | some (.admitted code invitation seen now) =>
    let make := openSession settings code.user invitation.tenant .enrolment policy refreshHash now
    .ok { (accounts.putCode code.id (consume now) fun _ => rfl).turn ceremony none with
      sessions := accounts.sessions.create make fun _ => rfl
      seenAt := Function.update accounts.seenAt accounts.sessions.fresh seen }
  | _ => .error busy

/-- What `resolve_access_token` asks of the session's row and of its person and bank, for a session that is not a support session. -/
def resolves (session : UserSession) : Bool :=
  decide (session.live accounts.clock) && session.kind != .support &&
    (accounts.users.rows.any fun user => user.id == session.user && user.status != .deactivated) &&
    (session.kind == .enrolment || session.tenant.all fun bank => (accounts.activeMembership bank session.user).isSome)

def sessionOf (id : Id) : Except Refusal UserSession :=
  demand (accounts.sessions.rows.find? fun row => row.id == id && accounts.resolves row) { code := "unauthenticated", detail := "Sign in again." }

def registrationOptions (session : Id) : Except Refusal Accounts := do
  let row ← accounts.sessionOf session
  .ok { accounts with
    challenges := accounts.challenges.create (fun id => {
      id, user := row.user, session := row.id
      expiresAt := accounts.clock + seconds settings.challengeTtlSeconds }) fun _ => rfl }

def registrationFailed : Refusal := { code := "registration_failed", detail := "The passkey could not be registered. Try again." }

/-- `_consume_challenge` claims the row of an open challenge of this session. -/
def opens (session : UserSession) (challenge : Id) : Bool :=
  accounts.challenges.rows.any fun row => row.id == challenge && row.session == session.id && row.user == session.user &&
    row.consumedAt.isNone && accounts.clock < row.expiresAt

def challengeExpired : Refusal := { code := "challenge_expired", detail := "The challenge has expired. Start again." }

/-- The invitation `verify_registration` looks for, in an enrolment session. -/
def invitationFor (session : UserSession) : Option Invitation :=
  if session.kind = .enrolment then
    (accounts.users.rows.find? (·.id == session.user)).bind fun user => accounts.findOpenForTenant user.email session.tenant
  else none

/-- `verify_registration`, up to the insert of the credential, of a response that verifies. -/
def beginRegistration (ceremony session challenge : Id) (credentialId : String) : Except Refusal Accounts := do
  require ((accounts.ceremonyOf ceremony).isNone = true) busy
  let row ← accounts.sessionOf session
  let invitation := accounts.invitationFor row
  require (∀ open_ ∈ invitation, open_.tenant.isSome = true → accounts.holdsPlatformRole row.user = false) platformAccount
  require (accounts.challengeLocked challenge = false) busy
  require (accounts.opens row challenge = true) challengeExpired
  .ok (accounts.turn ceremony (some (.registering row invitation challenge credentialId accounts.clock)))

/-- A response that does not verify spends its challenge. -/
def failRegistration (session challenge : Id) : Except Refusal Accounts := do
  let row ← accounts.sessionOf session
  require (accounts.challengeLocked challenge = false) busy
  require (accounts.opens row challenge = true) challengeExpired
  .ok { accounts with
    challenges := accounts.challenges.update (·.id == challenge) (fun row => { row with consumedAt := some accounts.clock }) fun _ => rfl }

/-- The membership `accept_invitation` creates, or brings back with the roles of the new invitation. -/
def join (tenant user : Id) (granted : List String) : Accounts :=
  if (accounts.memberships.rows.any fun row => row.tenant == tenant && row.user == user) = true then
    { accounts with
      memberships := accounts.memberships.update (fun row => row.tenant == tenant && row.user == user && row.deactivatedAt.isSome)
        (fun row => { row with deactivatedAt := none, granted }) fun _ => rfl }
  else { accounts with memberships := accounts.memberships.create (fun id => { id, tenant, user, granted }) fun _ => rfl }

/-- `accept_invitation`, where it does not refuse. -/
def accept (invitation : Invitation) (user : Id) (now : Instant) : Accounts :=
  let marked := { accounts with
    invitations := accounts.invitations.update (·.id == invitation.id)
      (fun row => { row with acceptedAt := some now, acceptedUser := some user }) fun _ => rfl }
  match invitation.tenant with
  | none => marked
  | some tenant => marked.join tenant user invitation.granted

/-- `choose_tenant`: the person's oldest active membership. -/
def chooseTenant (user : Id) : Option Id :=
  (accounts.memberships.rows.find? fun row => row.user == user && row.deactivatedAt.isNone).map (·.tenant)

/-- `revoke_session`. -/
def endSession (id : Id) (reason : String) : Accounts :=
  { accounts with
    sessions := accounts.sessions.update (fun row => row.id == id && row.revokedAt.isNone) (·.revoke accounts.clock reason) fun _ => rfl }

def storePasskey (session : UserSession) (challenge : Id) (credentialId : String) (now : Instant) : Accounts :=
  { accounts with
    passkeys := accounts.passkeys.create (fun id => { id, user := session.user, credentialId }) fun _ => rfl
    challenges := accounts.challenges.update (·.id == challenge) (fun row => { row with consumedAt := some now }) fun _ => rfl }

/-- What an enrolment session's registration ends with: the account is active, and a full session takes its place. -/
def replaceSession (session : UserSession) (policy : Option SecurityPolicy) (refreshHash : String) (now : Instant) : Accounts :=
  let activated := { accounts with
    users := accounts.users.update (·.id == session.user) (fun row => { row with status := .active }) fun _ => rfl }
  let ended := activated.endSession session.id "enrolment_completed"
  let tenant := session.tenant <|> ended.chooseTenant session.user
  { ended with sessions := ended.sessions.create (openSession settings session.user tenant .full policy refreshHash now) fun _ => rfl }

def invited (user : Id) (tenant : Option Id) : Bool :=
  (accounts.users.rows.find? (·.id == user)).any fun row => (accounts.findOpenForTenant row.email tenant).isSome

/-- The account of what stood when an enrolment session stored a passkey. -/
def tell (session : UserSession) (stored : Accounts) : Accounts :=
  { stored with
    enrolled := accounts.enrolled ++ [{
      user := session.user, session := session.id
      heldLive := accounts.hasLivePasskey session.user
      invited := accounts.invited session.user session.tenant }] }

/-- `verify_registration`, from the insert of the credential to its commit. A refusal of the acceptance leaves the credential. -/
def finishRegistration (ceremony : Id) (policy : Option SecurityPolicy) (refreshHash : String) : Except Refusal Accounts :=
  match accounts.ceremonyOf ceremony with
  | some (.registering session invitation challenge credentialId now) =>
    if (accounts.passkeys.rows.any (·.credentialId == credentialId)) = true then
      .ok { accounts.turn ceremony none with
        challenges := accounts.challenges.update (·.id == challenge) (fun row => { row with consumedAt := some now }) fun _ => rfl }
    else
      let stored := (accounts.storePasskey session challenge credentialId now).turn ceremony none
      if session.kind ≠ .enrolment then .ok stored
      else if (invitation.any fun open_ => open_.tenant.isSome && accounts.holdsPlatformRole session.user) = true then
        .ok (accounts.tell session stored)
      else
        let accepted := invitation.elim stored fun open_ => stored.accept open_ session.user now
        .ok (accounts.tell session (accepted.replaceSession settings session policy refreshHash now))
  | _ => .error busy

/-- `verify_authentication`, of an assertion that verifies. -/
def signIn (passkey : Id) (policy : Option SecurityPolicy) (refreshHash : String) : Except Refusal Accounts := do
  let row ← demand (accounts.passkeys.rows.find? fun row => row.id == passkey && row.retiredAt.isNone)
    { code := "signin_failed", detail := "Sign-in failed." }
  require ((accounts.users.rows.any fun user => user.id == row.user && user.status == .active) = true)
    { code := "signin_failed", detail := "Sign-in failed." }
  let make := openSession settings row.user (accounts.chooseTenant row.user) .full policy refreshHash accounts.clock
  .ok { accounts with sessions := accounts.sessions.create make fun _ => rfl }

/-- `remove_passkey`, under the lock of the person's live passkeys. -/
def removePasskey (session passkey : Id) : Except Refusal Accounts := do
  let row ← accounts.sessionOf session
  let live := accounts.passkeys.rows.filter fun credential => credential.user == row.user && credential.retiredAt.isNone
  require ((live.any (·.id == passkey)) = true) notFound
  require ((live.any (·.id != passkey)) = true) { code := "last_passkey", detail := "You cannot remove your last passkey." }
  .ok { accounts with
    passkeys := accounts.passkeys.update (·.id == passkey) (fun row => { row with retiredAt := some accounts.clock }) fun _ => rfl }

def visible (zone : Id) (tenant : Option Id) : Bool := tenant == none || tenant == some zone

def holdings (user : Id) : Reissued where
  sessions := (accounts.sessions.rows.filter (·.user == user)).map (·.id)
  passkeys := (accounts.passkeys.rows.filter (·.user == user)).map (·.id)
  tokens := (accounts.keys.rows.filter fun row => row.kind == .personal && row.actsAsUser == some user).map (·.id)

/-- What `reissue_enrolment` ends: the sessions the bank's zone shows, every passkey, and the tokens minted in the bank. -/
def endHoldings (zone user : Id) : Accounts :=
  { accounts with
    sessions := accounts.sessions.update (fun row => row.user == user && row.revokedAt.isNone && visible zone row.tenant)
      (·.revoke accounts.clock "reenrolment") fun _ => rfl
    passkeys := accounts.passkeys.update (fun row => row.user == user && row.retiredAt.isNone)
      (fun row => { row with retiredAt := some accounts.clock }) fun _ => rfl
    keys := accounts.keys.update
      (fun row => row.tenant == some zone && row.kind == .personal && row.actsAsUser == some user && row.revokedAt.isNone)
      (fun row => { row with revokedAt := some accounts.clock }) fun _ => rfl
    users := accounts.users.update (·.id == user) (fun row => { row with status := .invited }) fun _ => rfl
    reissued := accounts.reissued ++ [accounts.holdings user] }

/-- `reissue_enrolment`, in the bank's zone. A session of no bank is shown there and cannot be written there. -/
def reissueEnrolment (zone user : Id) (token : String) : Except Refusal Accounts := do
  let membership ← demand (accounts.activeMembership zone user) notFound
  let person ← demand (accounts.users.rows.find? (·.id == user)) internalError
  require (∀ row ∈ accounts.sessions.rows, row.user = user → row.revokedAt = none → row.tenant ≠ none) internalError
  let ended := accounts.endHoldings zone user
  if accounts.holdsPlatformRole user = true then .ok ended
  else .ok (ended.invite settings digests (some zone) person.email .reenrolment membership.granted token)

def scopeBacking : List (String × String) :=
  [("library:read", "library.read"), ("search:read", "search.use"), ("upcoming:read", "roadmap.read"), ("tenant:read", "register.read")]

def personPermissions (tenant user : Id) : Option (List String) :=
  if (accounts.users.rows.any fun row => row.id == user && row.deactivatedAt.isNone && row.status == .active) = true then
    (accounts.activeMembership tenant user).map (·.granted)
  else none

def unbacked (held scopes : List String) : List String :=
  scopes.filter fun scope => !(scopeBacking.lookup scope).any held.contains

/-- `resolve_api_key`, of a personal token. -/
def resolvesToken (key : ApiKey) : Bool :=
  key.revokedAt.isNone && (key.expiresAt.all fun expiry => accounts.clock < expiry) &&
    match key.tenant, key.actsAsUser with
    | some tenant, some user => (accounts.personPermissions tenant user).any fun held => (unbacked held key.scopes).isEmpty
    | _, _ => false

def accessDenied : Refusal := { code := "permission_denied", detail := "You do not have access to this." }

/-- `personal_tokens.mint`, in a full session of the bank. -/
def mint (session : Id) (scopes : List String) (keyPrefix secret : String) (expiresAt : Instant) : Except Refusal Accounts := do
  let row ← accounts.sessionOf session
  let tenant ← demand row.tenant accessDenied
  require (row.kind = .full) accessDenied
  require (accounts.clock < expiresAt) { code := "expiry_in_past", detail := "The expiry must be in the future." }
  let held := (accounts.personPermissions tenant row.user).getD []
  require (unbacked held scopes = [])
    { code := "scope_not_held", detail := "You cannot read what " ++ ", ".intercalate (unbacked held scopes) ++
      " reaches yourself, so a token of yours cannot hold it." }
  .ok { accounts with
    keys := accounts.keys.create (fun id => {
      id, tenant := some tenant, kind := .personal, actsAsUser := some row.user, scopes, keyPrefix
      keyHash := digests.hashToken secret, expiresAt := some expiresAt }) fun _ => rfl }

/-- `revoke_credential`. -/
def revokeKey (id : Id) : Accounts :=
  { accounts with
    keys := accounts.keys.update (·.id == id) (fun row => { row with revokedAt := some accounts.clock }) fun _ => rfl }

/-- `refresh`, of one session, with nothing else under way. -/
def refreshSession (id : Id) (reads : RefreshReads) (presentedHash newHash : String) : Except Refusal Accounts := do
  let decision := refresh settings.toSessionSettings reads (accounts.sessions.rows.find? (·.id == id)) presentedHash accounts.clock
  match decision with
  | .refused | .replayed _ => .ok accounts
  | .ended session reason => .ok (accounts.endSession session.id reason)
  | .rotated session deadline => .ok { accounts with
      sessions := accounts.sessions.update (·.id == session.id) (·.rotate session deadline accounts.clock newHash) fun _ => rfl }

/-- `deactivate_member`, of what it ends. -/
def deactivateMember (tenant user : Id) : Accounts :=
  { accounts with
    memberships := accounts.memberships.update (fun row => row.tenant == tenant && row.user == user && row.deactivatedAt.isNone)
      (fun row => { row with deactivatedAt := some accounts.clock }) fun _ => rfl
    sessions := accounts.sessions.update (fun row => row.user == user && row.revokedAt.isNone && row.tenant == some tenant)
      (·.revoke accounts.clock "member_deactivated") fun _ => rfl
    keys := accounts.keys.update
      (fun row => row.tenant == some tenant && row.kind == .personal && row.actsAsUser == some user && row.revokedAt.isNone)
      (fun row => { row with revokedAt := some accounts.clock }) fun _ => rfl
    invitations := accounts.invitations.update
      (fun row => row.tenant == some tenant && row.acceptedAt.isNone && row.revokedAt.isNone &&
        accounts.users.rows.any fun person => person.id == user && person.email == row.email)
      (fun row => { row with revokedAt := some accounts.clock }) fun _ => rfl }

end Accounts

/-- What may happen next to people's accounts. -/
inductive AccountStep where
  | tick (elapsed : Nat)
  | createInvitation (tenant : Option Id) (email : String) (granted : List String) (token : String)
  | resendInvitation (id : Id) (token : String)
  | revokeInvitation (id : Id)
  | requestCode (email code salt : String)
  | openInvitation (token code salt : String)
  | beginVerify (ceremony : Id) (email : String)
  | beginVerifyByToken (ceremony : Id) (token : String)
  | checkCode (ceremony : Id) (given : String)
  | finishVerify (ceremony : Id) (policy : Option SecurityPolicy) (refreshHash : String)
  | registrationOptions (session : Id)
  | beginRegistration (ceremony session challenge : Id) (credentialId : String)
  | failRegistration (session challenge : Id)
  | finishRegistration (ceremony : Id) (policy : Option SecurityPolicy) (refreshHash : String)
  | signIn (passkey : Id) (policy : Option SecurityPolicy) (refreshHash : String)
  | refreshSession (id : Id) (reads : RefreshReads) (presentedHash newHash : String)
  | revokeSession (id : Id) (reason : String)
  | removePasskey (session passkey : Id)
  | reissueEnrolment (tenant user : Id) (token : String)
  | mint (session : Id) (scopes : List String) (keyPrefix secret : String) (expiresAt : Instant)
  | revokeKey (id : Id)
  | deactivateMember (tenant user : Id)
  /-- The roles of a membership change, or what they grant. -/
  | regrant (membership : Id) (granted : List String)
  /-- A person is given a platform role. -/
  | staff (user : Id)
  /-- A ceremony fails and is rolled back. -/
  | abort (ceremony : Id)

def Accounts.step (settings : IdentitySettings) (digests : Digests) (accounts : Accounts) : AccountStep → Except Refusal Accounts
  | .tick elapsed => .ok { accounts with clock := accounts.clock + elapsed }
  | .createInvitation tenant email granted token => accounts.createInvitation settings digests tenant email granted token
  | .resendInvitation id token => accounts.resendInvitation settings digests id token
  | .revokeInvitation id => .ok (accounts.revokeInvitation id)
  | .requestCode email code salt => accounts.requestCode settings digests email code salt
  | .openInvitation token code salt => accounts.openInvitation settings digests token code salt
  | .beginVerify ceremony email => accounts.beginVerify ceremony email
  | .beginVerifyByToken ceremony token => accounts.beginVerifyByToken digests ceremony token
  | .checkCode ceremony given => accounts.checkCode digests ceremony given
  | .finishVerify ceremony policy refreshHash => accounts.finishVerify settings ceremony policy refreshHash
  | .registrationOptions session => accounts.registrationOptions settings session
  | .beginRegistration ceremony session challenge credentialId => accounts.beginRegistration ceremony session challenge credentialId
  | .failRegistration session challenge => accounts.failRegistration session challenge
  | .finishRegistration ceremony policy refreshHash => accounts.finishRegistration settings ceremony policy refreshHash
  | .signIn passkey policy refreshHash => accounts.signIn settings passkey policy refreshHash
  | .refreshSession id reads presentedHash newHash => accounts.refreshSession settings id reads presentedHash newHash
  | .revokeSession id reason => .ok (accounts.endSession id reason)
  | .removePasskey session passkey => accounts.removePasskey session passkey
  | .reissueEnrolment tenant user token => accounts.reissueEnrolment settings digests tenant user token
  | .mint session scopes keyPrefix secret expiresAt => accounts.mint digests session scopes keyPrefix secret expiresAt
  | .revokeKey id => .ok (accounts.revokeKey id)
  | .deactivateMember tenant user => .ok (accounts.deactivateMember tenant user)
  | .regrant membership granted => .ok { accounts with
      memberships := accounts.memberships.update (·.id == membership) (fun row => { row with granted }) fun _ => rfl }
  | .staff user => .ok { accounts with platformStaff := accounts.platformStaff ++ [user] }
  | .abort ceremony => .ok (accounts.turn ceremony none)

end Grc.Identity
