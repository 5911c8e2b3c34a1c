import Grc.Lib.Locks
import Grc.Lib.Request
import Grc.Lib.Runs
import Grc.Shared.Audit

/-! The passkey ceremonies. A ceremony reads its passkey without a lock, and some time later claims its challenge, verifies, and writes back: what is
between the claim and the commit is under row locks, so it is one instant here. -/
namespace Grc.Identity.Ceremonies

open Grc.Shared Grc.Lib

inductive ChallengeKind where
  | registration
  | authentication
  | stepUp
  deriving DecidableEq

/-- `auth_challenge`, under its unique challenge. -/
structure AuthChallenge where
  challenge : String
  kind : ChallengeKind
  user : Option Id := none
  session : Option Id := none
  expiresAt : Instant
  consumedAt : Option Instant := none

structure WebAuthnCredential where
  id : Id
  user : Id
  credentialId : String
  publicKey : String := ""
  signCount : Nat := 0
  backupEligible : Bool := false
  backedUp : Bool := false
  lastUsedAt : Option Instant := none
  retiredAt : Option Instant := none

/-- The `userHandle` of an assertion. -/
inductive UserHandle where
  /-- Missing, or blank. -/
  | absent
  | names (user : Id)
  /-- No text, or no user's id. -/
  | other

/-- An assertion as the browser sends it: its `id` where that is a text, the challenge in its client data where that parses, and what its
authenticator data says. -/
structure AssertionResponse where
  credentialId : Option String
  challenge : Option String
  userHandle : UserHandle := .absent
  signCount : Nat
  multiDevice : Bool := false
  backedUp : Bool := false
  signature : String := ""

structure RegistrationResponse where
  challenge : Option String
  credentialId : String
  publicKey : String := ""
  signCount : Nat := 0
  multiDevice : Bool := false
  backedUp : Bool := false
  attestation : String := ""

/-- How a call of the library ends: it verifies, raises what the ceremony catches, or raises anything else. -/
inductive Verification where
  | verified
  | refused
  | raised

/-- The library: outside all zeros, it verifies an assertion only with a count above the one it is given. -/
structure WebAuthn where
  authentication : AssertionResponse → (expectedChallenge publicKey : String) → (currentSignCount : Nat) → Verification
  registration : RegistrationResponse → (expectedChallenge : String) → Verification
  counts : ∀ {response challenge publicKey current}, authentication response challenge publicKey current = .verified →
    current < response.signCount ∨ current = 0 ∧ response.signCount = 0

structure PasskeySettings where
  challengeTtlSeconds : Nat := 120
  e2eMode : Bool := false

/-- Whose ceremony an assertion is for. -/
inductive Door where
  | signIn
  | stepUp (user session : Id)
  deriving DecidableEq

def Door.kind : Door → ChallengeKind
  | .signIn => .authentication
  | .stepUp _ _ => .stepUp

def Door.user : Door → Option Id
  | .signIn => none
  | .stepUp user _ => some user

def Door.session : Door → Option Id
  | .signIn => none
  | .stepUp _ session => some session

/-- A ceremony under way, with the passkey as it read it. -/
structure Ceremony where
  door : Door
  response : AssertionResponse
  row : WebAuthnCredential

/-- A ceremony that was accepted, with the sign count it was accepted with and the one it stored. -/
structure Use where
  passkey : Id
  kind : ChallengeKind
  challenge : String
  at_ : Instant
  user : Id
  session : Option Id
  signCount : Nat
  stored : Nat

inductive Entry where
  | use (use : Use)
  | retired (passkey : Id)

def usesOf (journal : List Entry) : List Use :=
  journal.filterMap fun
    | .use accepted => some accepted
    | .retired _ => none

structure PasskeyDesk where
  challenges : List AuthChallenge := []
  passkeys : Keyed WebAuthnCredential.id := {}
  inactive : List Id := []
  ceremonies : List (Id × Ceremony) := []
  /-- What has been accepted and retired, in the order of the commits. -/
  journal : List Entry := []

inductive PasskeyStep where
  /-- `registration_options`, `authentication_options` and `step_up_options`. -/
  | issue (kind : ChallengeKind) (challenge : String) (user session : Option Id) (now : Instant)
  | verifyRegistration (user session : Id) (response : RegistrationResponse) (now : Instant)
  /-- `verify_authentication` and `verify_step_up`, up to the read of the passkey. -/
  | begins (ceremony : Id) (door : Door) (response : AssertionResponse)
  | finishes (ceremony : Id) (now : Instant)
  /-- Its transaction is rolled back. -/
  | fails (ceremony : Id)
  | removePasskey (user passkey : Id) (now : Instant)
  | reissueEnrolment (user : Id) (now : Instant)
  /-- Whatever changes whose account is active. -/
  | elsewhere (inactive : List Id)

def userHandleMatches (handle : UserHandle) (user : Id) (required : Bool) : Bool :=
  match handle with
  | .absent => !required
  | .names named => named == user
  | .other => false

/-- How a ceremony ends once it has read its passkey. -/
inductive Verdict where
  /-- No challenge is claimed. -/
  | unclaimed
  | refused (challenge : AuthChallenge)
  | raised
  | accepted (challenge : AuthChallenge)

namespace PasskeyDesk

variable (settings : PasskeySettings) (library : WebAuthn) (desk : PasskeyDesk)

def openChallenge (kind : ChallengeKind) (challenge : String) (user session : Option Id) (now : Instant) : Option AuthChallenge :=
  desk.challenges.find? fun row =>
    row.kind == kind && row.challenge == challenge && row.consumedAt.isNone && now < row.expiresAt &&
      user.all (fun user => row.user == some user) && session.all fun session => row.session == some session

/-- The conditional update of `_consume_challenge`. -/
def consume (challenge : String) (now : Instant) : PasskeyDesk :=
  { desk with challenges := desk.challenges.map fun row => if row.challenge = challenge then { row with consumedAt := some now } else row }

def findCredential (credentialId : Option String) : Option WebAuthnCredential :=
  desk.passkeys.rows.find? fun row => some row.credentialId == credentialId && row.retiredAt.isNone

/-- The stored count the library is given: `_e2e_sign_count_leniency`. -/
def currentSignCount (row : WebAuthnCredential) : Nat := if settings.e2eMode = true then 0 else row.signCount

def claimed (ceremony : Ceremony) (now : Instant) : Option AuthChallenge :=
  ceremony.response.challenge.bind fun challenge =>
    desk.openChallenge ceremony.door.kind challenge ceremony.door.user ceremony.door.session now

/-- What the checks come to that follow the claim, `_verify_assertion` last. -/
def judge (ceremony : Ceremony) (challenge : AuthChallenge) : Verdict :=
  if userHandleMatches ceremony.response.userHandle ceremony.row.user (ceremony.door = .signIn) = true then
    match library.authentication ceremony.response challenge.challenge ceremony.row.publicKey (currentSignCount settings ceremony.row) with
    | .raised => .raised
    | .refused => .refused challenge
    | .verified => if ceremony.response.multiDevice = ceremony.row.backupEligible then .accepted challenge else .refused challenge
  else .refused challenge

/-- What a ceremony comes to: its challenge is claimed before anything is checked, so that a failed attempt spends it too. -/
def verdict (ceremony : Ceremony) (now : Instant) : Verdict :=
  match desk.claimed ceremony now with
  | none => .unclaimed
  | some challenge => judge settings library ceremony challenge

def ended (ceremony : Id) : PasskeyDesk := { desk with ceremonies := withoutBy desk.ceremonies ceremony }

/-- `_store_use`, from the row as the ceremony read it. -/
def storeUse (ceremony : Ceremony) (challenge : AuthChallenge) (now : Instant) : PasskeyDesk :=
  let stored := max ceremony.row.signCount ceremony.response.signCount
  { desk with
    passkeys := desk.passkeys.update (·.id == ceremony.row.id)
      (fun row => { row with signCount := stored, backedUp := ceremony.response.backedUp, lastUsedAt := some now }) fun _ => rfl
    journal := desk.journal ++ [.use {
      passkey := ceremony.row.id, kind := ceremony.door.kind, challenge := challenge.challenge, at_ := now, user := ceremony.row.user
      session := ceremony.door.session, signCount := ceremony.response.signCount, stored }] }

/-- A passkey is stored: `WebAuthnCredential.objects.create`. -/
def storePasskey (user session : Id) (response : RegistrationResponse) (challenge : AuthChallenge) (now : Instant) : PasskeyDesk :=
  { desk with
    passkeys := desk.passkeys.create (fun id => {
      id, user, credentialId := response.credentialId, publicKey := response.publicKey, signCount := response.signCount
      backupEligible := response.multiDevice, backedUp := response.backedUp, lastUsedAt := some now }) fun _ => rfl
    journal := desk.journal ++ [.use {
      passkey := desk.passkeys.fresh, kind := .registration, challenge := challenge.challenge, at_ := now, user, session := some session
      signCount := response.signCount, stored := response.signCount }] }

def retire (picked : WebAuthnCredential → Bool) (now : Instant) : PasskeyDesk :=
  { desk with
    passkeys := desk.passkeys.update (fun row => picked row && row.retiredAt.isNone) (fun row => { row with retiredAt := some now }) fun _ => rfl
    journal := desk.journal ++ (desk.passkeys.rows.filter fun row => picked row && row.retiredAt.isNone).map fun row => .retired row.id }

def verifyRegistration (user session : Id) (response : RegistrationResponse) (now : Instant) : Except Refusal PasskeyDesk :=
  match response.challenge.bind fun challenge => desk.openChallenge .registration challenge (some user) (some session) now with
  | none => .error { code := "challenge_expired", detail := "The challenge has expired. Start again." }
  | some row =>
    match library.registration response row.challenge with
    | .raised => .error internalError
    | .refused => .ok (desk.consume row.challenge now)
    | .verified =>
      -- the credential id is unique across every account
      if (desk.passkeys.rows.any (·.credentialId == response.credentialId)) = true then .ok (desk.consume row.challenge now)
      else .ok ((desk.consume row.challenge now).storePasskey user session response row now)

/-- The passkey a ceremony begins with: of an active account at sign-in, the person's own at step-up. -/
def begins (door : Door) (response : AssertionResponse) : Except Refusal WebAuthnCredential := do
  let row ← demand (desk.findCredential response.credentialId) { code := "signin_failed", detail := "Sign-in failed." }
  match door with
  | .signIn => do
    require (row.user ∉ desk.inactive) { code := "signin_failed", detail := "Sign-in failed." }
    .ok row
  | .stepUp user _ => do
    require (row.user = user) { code := "step_up_failed", detail := "The passkey could not be verified." }
    .ok row

/-- The rest of a ceremony. -/
def finish (id : Id) (ceremony : Ceremony) (now : Instant) : PasskeyDesk :=
  let desk := desk.ended id
  match desk.verdict settings library ceremony now with
  | .unclaimed | .raised => desk
  | .refused challenge => desk.consume challenge.challenge now
  | .accepted challenge => (desk.consume challenge.challenge now).storeUse ceremony challenge now

/-- `remove_passkey`, under the lock of the person's live passkeys. -/
def removePasskey (user passkey : Id) (now : Instant) : Except Refusal PasskeyDesk := do
  let live := desk.passkeys.rows.filter fun row => row.user == user && row.retiredAt.isNone
  require ((live.any (·.id == passkey)) = true) notFound
  require ((live.any (·.id != passkey)) = true) { code := "last_passkey", detail := "You cannot remove your last passkey." }
  .ok (desk.retire (·.id == passkey) now)

def step : PasskeyStep → Except Refusal PasskeyDesk
  | .issue kind challenge user session now => do
    require (challenge ∉ desk.challenges.map (·.challenge)) internalError
    let expiresAt := now + settings.challengeTtlSeconds
    .ok { desk with challenges := desk.challenges ++ [{ challenge, kind, user, session, expiresAt }] }
  | .verifyRegistration user session response now => desk.verifyRegistration library user session response now
  | .begins ceremony door response => do
    require (heldBy desk.ceremonies ceremony = none) internalError
    let row ← desk.begins door response
    .ok { desk with ceremonies := desk.ceremonies ++ [(ceremony, { door, response, row })] }
  | .finishes ceremony now => do
    let held ← demand (heldBy desk.ceremonies ceremony) internalError
    .ok (desk.finish settings library ceremony held now)
  | .fails ceremony => .ok (desk.ended ceremony)
  | .removePasskey user passkey now => desk.removePasskey user passkey now
  | .reissueEnrolment user now => .ok { desk.retire (·.user == user) now with inactive := user :: desk.inactive }
  | .elsewhere inactive => .ok { desk with inactive }

def uses : List Use := usesOf desk.journal

end PasskeyDesk

def Use.Rises (first second : Use) : Prop := first.signCount < second.signCount ∨ first.signCount = 0 ∧ second.signCount = 0

def Entry.Live : Entry → Entry → Prop
  | .retired passkey, .use later => later.passkey ≠ passkey
  | _, _ => True

/-- What the ceremonies keep: one ceremony a challenge, of its own kind, before its expiry, and for a step-up in its own session and for its own user;
rising sign counts outside E2E mode, a stored count that never falls, and none after the passkey's retirement. -/
structure Kept (settings : PasskeySettings) (desk : PasskeyDesk) : Prop where
  single : (desk.uses.map (·.challenge)).Nodup
  own : ∀ use ∈ desk.uses, ∃ row ∈ desk.challenges, row.challenge = use.challenge ∧ row.kind = use.kind ∧ use.at_ < row.expiresAt ∧
    (use.kind = .stepUp → row.user = some use.user ∧ row.session = use.session ∧ use.session ≠ none)
  rising : settings.e2eMode = false → desk.uses.Pairwise fun first second =>
    first.passkey = second.passkey → first.kind ≠ .registration → second.kind ≠ .registration → first.Rises second
  stored : desk.uses.Pairwise fun first second => first.passkey = second.passkey → first.stored ≤ second.stored
  live : desk.journal.Pairwise Entry.Live

/-- The passkey's row still stands as the ceremony takes it to: not retired, and under the count it read, or else below the one presented. -/
def Ceremony.Stands (settings : PasskeySettings) (ceremony : Ceremony) (row : WebAuthnCredential) : Prop :=
  row.retiredAt = none ∧ (row.signCount = ceremony.row.signCount ∨ row.signCount < ceremony.response.signCount ∨
    settings.e2eMode = true ∧ row.signCount ≤ ceremony.response.signCount)

/-- A ceremony about to be accepted finds its passkey standing. -/
def Timely (settings : PasskeySettings) (library : WebAuthn) (desk : PasskeyDesk) : PasskeyStep → Prop
  | .finishes id now => ∀ ceremony challenge, heldBy desk.ceremonies id = some ceremony →
    desk.verdict settings library ceremony now = .accepted challenge →
      ∀ row ∈ desk.passkeys.rows, row.id = ceremony.row.id → ceremony.Stands settings row
  | _ => True

end Grc.Identity.Ceremonies
