import Grc.Lib.Checks
import Grc.Lib.Runs
import Grc.Shared.Audit
import Mathlib.Logic.Function.Basic

/-! Sessions: the row behind every refresh, its limits, and what one refresh decides from the row it loaded. -/
namespace Grc.Identity

open Grc.Shared Grc.Lib

inductive SessionKind where
  | enrolment
  | full
  | support
  deriving DecidableEq

structure UserSession where
  id : Id
  user : Id
  tenant : Option Id
  kind : SessionKind
  refreshTokenHash : String
  previousRefreshHash : Option String := none
  rotatedAt : Option Instant := none
  createdAt : Instant
  lastSeenAt : Instant
  expiresAt : Instant
  revokedAt : Option Instant := none
  revokedReason : String := ""
  supportAccess : Option Id := none
  deriving DecidableEq

/-- The session settings, an instant being a microsecond of the clock. -/
structure SessionSettings where
  idleMinutesDefault : Nat := 30
  absoluteHoursDefault : Nat := 12
  idleMinutesMax : Nat := 480
  absoluteHoursMax : Nat := 24
  idleMinutesMin : Nat := 15
  refreshReplayGraceSeconds : Nat := 30

def seconds (count : Nat) : Nat := count * 1000000

def SessionSettings.grace (settings : SessionSettings) : Nat := seconds settings.refreshReplayGraceSeconds

/-- A bank's own limits, where it sets any. -/
structure SecurityPolicy where
  sessionIdleMinutes : Option Nat := none
  sessionAbsoluteHours : Option Nat := none

/-- `value or fallback`: nothing and zero both fall back. -/
def orElse (value : Option Nat) (fallback : Nat) : Nat := (value.filter (· ≠ 0)).getD fallback

/-- `limits`: the idle and the absolute limit. -/
def limits (settings : SessionSettings) (policy : Option SecurityPolicy) : Nat × Nat :=
  let idle := orElse (policy.bind (·.sessionIdleMinutes)) settings.idleMinutesDefault
  let absolute := orElse (policy.bind (·.sessionAbsoluteHours)) settings.absoluteHoursDefault
  (seconds (60 * max (min idle settings.idleMinutesMax) settings.idleMinutesMin),
    seconds (3600 * min absolute settings.absoluteHoursMax))

/-- SHA-256, and the text a UUID has in a refresh value and is read back from. -/
structure Tokens where
  hashToken : String → String
  hex : Id → String
  uuid : String → Option Id
  uuid_hex : ∀ id, uuid (hex id) = some id
  hex_plain : ∀ id, '.' ∉ (hex id).toList

/-- The value `new_refresh_token` answers, of a secret it drew. -/
def Tokens.refreshValue (tokens : Tokens) (id : Id) (secret : String) : String := tokens.hex id ++ "." ++ secret

def Tokens.parseRefreshToken (tokens : Tokens) (value : String) : Option (Id × String) :=
  let letters := value.toList
  let secret := (letters.dropWhile (· != '.')).drop 1
  if secret = [] then none
  else (tokens.uuid (String.ofList (letters.takeWhile (· != '.')))).map fun id => (id, tokens.hashToken (String.ofList secret))

theorem Tokens.parse_refreshValue (tokens : Tokens) (id : Id) {secret : String} (some_ : secret ≠ "") :
    tokens.parseRefreshToken (tokens.refreshValue id secret) = some (id, tokens.hashToken secret) := by
  have plain : ∀ letter ∈ (tokens.hex id).toList, (letter != '.') = true := by
    intro letter member
    rw [bne_iff_ne]
    rintro rfl
    exact tokens.hex_plain id member
  have letters : (tokens.refreshValue id secret).toList = (tokens.hex id).toList ++ '.' :: secret.toList := by
    simp [refreshValue]
  have taken : (tokens.refreshValue id secret).toList.takeWhile (· != '.') = (tokens.hex id).toList := by
    rw [letters, List.takeWhile_append_of_pos plain]
    simp
  have dropped : ((tokens.refreshValue id secret).toList.dropWhile (· != '.')).drop 1 = secret.toList := by
    rw [letters, List.dropWhile_append_of_pos plain]
    simp
  have drawn : secret.toList ≠ [] := by
    rw [ne_eq, String.toList_eq_nil_iff]
    exact some_
  simp only [parseRefreshToken, dropped, taken, drawn, if_false, String.ofList_toList, tokens.uuid_hex, Option.map_some]

/-- `revoke_session`'s `save(update_fields=["revoked_at", "revoked_reason"])`. -/
def UserSession.revoke (session : UserSession) (now : Instant) (reason : String) : UserSession :=
  { session with revokedAt := some now, revokedReason := reason }

/-- The columns a rotation saves over the row, from the row it had loaded. -/
def UserSession.rotate (session loaded : UserSession) (deadline now : Instant) (newHash : String) : UserSession :=
  { session with
    previousRefreshHash := some loaded.refreshTokenHash
    refreshTokenHash := newHash
    rotatedAt := some now
    lastSeenAt := now
    expiresAt := deadline }

def UserSession.live (session : UserSession) (now : Instant) : Prop := session.revokedAt = none ∧ now < session.expiresAt

instance (session : UserSession) (now : Instant) : Decidable (session.live now) :=
  inferInstanceAs (Decidable (_ ∧ _))

/-- What a refresh reads beside the session's row. -/
structure RefreshReads where
  policy : Option SecurityPolicy := none
  grantLive : Bool := true

def UserSession.deadline (settings : SessionSettings) (reads : RefreshReads) (session : UserSession) : Instant :=
  min session.expiresAt (session.createdAt + (limits settings reads.policy).2)

/-- What a refresh makes of the row it loaded. -/
inductive Decision where
  | refused
  | replayed (session : UserSession)
  | ended (session : UserSession) (reason : String)
  | rotated (session : UserSession) (deadline : Instant)
  deriving DecidableEq

def Decision.writes : Decision → Option UserSession
  | refused | replayed _ => none
  | ended session _ | rotated session _ => some session

def UserSession.replays (session : UserSession) (presentedHash : String) : Option Instant :=
  if session.previousRefreshHash = some presentedHash then session.rotatedAt else none

/-- `refresh`, of the row it loaded, up to what it writes. -/
def refresh (settings : SessionSettings) (reads : RefreshReads) (loaded : Option UserSession) (presentedHash : String) (now : Instant) :
    Decision :=
  match loaded with
  | none => .refused
  | some session =>
    if ¬session.live now then .refused
    else match session.replays presentedHash with
      | some rotatedAt => if now ≤ rotatedAt + settings.grace then .replayed session else .ended session "refresh_replay"
      | none =>
        if presentedHash ≠ session.refreshTokenHash then .refused
        else if session.deadline settings reads ≤ now then .ended session "absolute"
        else if session.lastSeenAt + (limits settings reads.policy).1 < now then .ended session "idle"
        else if session.kind = .support ∧ reads.grantLive = false then .ended session "support_access_ended"
        else .rotated session (session.deadline settings reads)

def UserSession.Inside (settings : SessionSettings) (reads : RefreshReads) (now : Instant) (session : UserSession) : Prop :=
  now < session.deadline settings reads ∧ now ≤ session.lastSeenAt + (limits settings reads.policy).1 ∧
    (session.kind = .support → reads.grantLive = true)

section Refresh
variable {settings : SessionSettings} {reads : RefreshReads} {session : UserSession} {presented : String} {now : Instant}

theorem refresh_current (live : session.live now) (other : session.previousRefreshHash ≠ some presented)
    (current : presented = session.refreshTokenHash) (inside : session.Inside settings reads now) :
    refresh settings reads (some session) presented now = .rotated session (session.deadline settings reads) := by
  obtain ⟨before, seen, granted⟩ := inside
  subst current
  have standing : ¬(session.kind = .support ∧ reads.grantLive = false) := by
    rintro ⟨support, ended⟩
    rw [granted support] at ended
    cases ended
  simp only [refresh, UserSession.replays, live, other, not_true_eq_false, if_false, ne_eq, Nat.not_le.mpr before,
    Nat.not_lt.mpr seen, standing]

theorem refresh_replayed (live : session.live now) (previous : session.previousRefreshHash = some presented) {rotatedAt : Instant}
    (rotated : session.rotatedAt = some rotatedAt) (late : rotatedAt + settings.grace < now) :
    refresh settings reads (some session) presented now = .ended session "refresh_replay" := by
  simp only [refresh, UserSession.replays, live, previous, rotated, not_true_eq_false, if_false, if_true, Nat.not_le.mpr late]

theorem refresh_unknown (other : session.previousRefreshHash ≠ some presented) (stale : presented ≠ session.refreshTokenHash) :
    refresh settings reads (some session) presented now = .refused := by
  by_cases live : session.live now
  · simp only [refresh, UserSession.replays, live, other, stale, not_true_eq_false, if_false, ne_eq, not_false_eq_true, if_true]
  · simp only [refresh, live, not_false_eq_true, if_true]

theorem refresh_writes {loaded : Option UserSession} (writes : (refresh settings reads loaded presented now).writes = some session) :
    loaded = some session := by
  cases loaded with
  | none => cases writes
  | some row =>
    simp only [refresh] at writes
    split at writes
    · cases writes
    split at writes
    · split at writes
      · cases writes
      · exact writes
    split at writes
    · cases writes
    repeat' split at writes
    all_goals exact writes

theorem refresh_deadline {loaded : Option UserSession} {deadline : Instant}
    (decided : refresh settings reads loaded presented now = .rotated session deadline) : deadline ≤ session.expiresAt := by
  have least : ∀ row : UserSession, row.deadline settings reads ≤ row.expiresAt := fun row => Nat.min_le_left _ _
  cases loaded with
  | none => cases decided
  | some row =>
    simp only [refresh] at decided
    split at decided
    · cases decided
    split at decided
    · split at decided <;> cases decided
    repeat' split at decided
    all_goals cases decided
    exact least session

end Refresh
/-! Refreshing under way: each call takes the time, reads its session's row, and saves what it made of it in turns of its
own, while other calls do the same to the same row. -/

inductive Answer where
  | signedIn (refreshValue : Option String)
  | unauthenticated
  | supportAccessEnded
  deriving DecidableEq

/-- How far a refresh has come. -/
inductive Stage where
  | arrived
  | decided (decision : Decision)
  | answered (answer : Answer)
  deriving DecidableEq

structure RefreshCall where
  value : Option String
  now : Instant
  stage : Stage := .arrived
  deriving DecidableEq

/-- A refresh secret handed out, and when. -/
structure Handed where
  secret : String
  at_ : Instant

/-- The sessions as committed, the refreshes under way, and an account of what each session handed out, latest first. -/
structure Desk where
  clock : Instant := 0
  sessions : Id → Option UserSession := fun _ => none
  calls : Id → Option RefreshCall := fun _ => none
  handed : Id → List Handed := fun _ => []

/-- What `create_session` and `create_support_session` are given. -/
structure NewSession where
  user : Id
  tenant : Option Id
  kind : SessionKind
  /-- The grant of a support session, and the end of its window. -/
  support : Option (Id × Instant) := none

/-- What may happen next to the sessions. -/
inductive SessionStep where
  | tick (elapsed : Nat)
  | create (id : Id) (opened : NewSession) (policy : Option SecurityPolicy) (secret : String)
  | arrive (call : Id) (value : Option String)
  | read (call : Id) (reads : RefreshReads)
  | finish (call : Id) (secret : String)
  /-- A refresh fails and is rolled back. -/
  | abort (call : Id)
  /-- `revoke_session`, of a sign-out, of the person themself or of an administrator. -/
  | revoke (id : Id) (reason : String)

def refused : Refusal := internalError

section Steps
variable (settings : SessionSettings) (tokens : Tokens)

section
variable (desk : Desk)

def createSession (id : Id) (opened : NewSession) (policy : Option SecurityPolicy) (secret : String) : Except Refusal Desk := do
  require (desk.sessions id = none) refused
  let session : UserSession := {
    id
    user := opened.user
    tenant := opened.tenant
    kind := opened.kind
    refreshTokenHash := tokens.hashToken secret
    createdAt := desk.clock
    lastSeenAt := desk.clock
    expiresAt := (opened.support.map Prod.snd).getD (desk.clock + (limits settings policy).2)
    supportAccess := opened.support.map Prod.fst }
  .ok { desk with
    sessions := Function.update desk.sessions id (some session)
    handed := Function.update desk.handed id [{ secret, at_ := desk.clock }] }

def arrive (call : Id) (value : Option String) : Except Refusal Desk := do
  require (desk.calls call = none) refused
  .ok { desk with calls := Function.update desk.calls call (some { value, now := desk.clock }) }

/-- `_load_by_refresh`, and what `refresh` makes of its answer. -/
def Desk.decide (reads : RefreshReads) (value : Option String) (now : Instant) : Decision :=
  match value.bind tokens.parseRefreshToken with
  | none => .refused
  | some (id, presentedHash) => refresh settings reads (desk.sessions id) presentedHash now

def readRow (call : Id) (reads : RefreshReads) : Except Refusal Desk := do
  let asked ← demand (desk.calls call) refused
  require (asked.stage = .arrived) refused
  let decision := desk.decide settings tokens reads asked.value asked.now
  .ok { desk with calls := Function.update desk.calls call (some { asked with stage := .decided decision }) }

def Desk.answer (call : Id) (asked : RefreshCall) (answer : Answer) : Desk :=
  { desk with calls := Function.update desk.calls call (some { asked with stage := .answered answer }) }

/-- What a refresh writes and answers once it has decided, and its commit. -/
def finish (call : Id) (secret : String) : Except Refusal Desk := do
  let asked ← demand (desk.calls call) refused
  match asked.stage with
  | .decided .refused => .ok (desk.answer call asked .unauthenticated)
  | .decided (.replayed _) => .ok (desk.answer call asked (.signedIn none))
  | .decided (.ended loaded reason) =>
    let session ← demand (desk.sessions loaded.id) refused
    let ended := if reason = "support_access_ended" then Answer.supportAccessEnded else .unauthenticated
    .ok ({ desk with sessions := Function.update desk.sessions loaded.id (some (session.revoke desk.clock reason)) }.answer call asked
      ended)
  | .decided (.rotated loaded deadline) =>
    let session ← demand (desk.sessions loaded.id) refused
    let rotated := session.rotate loaded deadline asked.now (tokens.hashToken secret)
    .ok ({ desk with
      sessions := Function.update desk.sessions loaded.id (some rotated)
      handed := Function.update desk.handed loaded.id ({ secret, at_ := desk.clock } :: desk.handed loaded.id) }.answer call asked
        (.signedIn (some (tokens.refreshValue loaded.id secret))))
  | _ => .error refused

def abort (call : Id) : Except Refusal Desk :=
  .ok { desk with calls := Function.update desk.calls call none }

def revokeSession (id : Id) (reason : String) : Except Refusal Desk := do
  let session ← demand (desk.sessions id) refused
  .ok { desk with sessions := Function.update desk.sessions id (some (session.revoke desk.clock reason)) }

def Desk.step : SessionStep → Except Refusal Desk
  | .tick elapsed => .ok { desk with clock := desk.clock + elapsed }
  | .create id opened policy secret => createSession settings tokens desk id opened policy secret
  | .arrive call value => arrive desk call value
  | .read call reads => readRow settings tokens desk call reads
  | .finish call secret => finish tokens desk call secret
  | .abort call => abort desk call
  | .revoke id reason => revokeSession desk id reason

end

end Steps

def latest (handed : List Handed) : Option String := handed.head?.map (·.secret)

/-- The values rotated away from, each with the moment another one took its place. -/
def rotatedAway : List Handed → List (String × Instant)
  | newer :: older :: rest => (older.secret, newer.at_) :: rotatedAway (older :: rest)
  | _ => []

def SessionStep.call : SessionStep → Option Id
  | arrive call _ | read call _ | finish call _ | abort call => some call
  | _ => none

/-- A refresh has arrived at `now` with a value handed out by a session that is live. -/
structure Desk.Presents (desk : Desk) (tokens : Tokens) (call id : Id) (secret : String) (now : Instant) (session : UserSession) : Prop where
  asked : desk.calls call = some { value := some (tokens.refreshValue id secret), now }
  stored : desk.sessions id = some session
  live : session.live now

def Desk.answerTo (desk : Desk) (call : Id) : Option Stage := (desk.calls call).map (·.stage)

def Desk.Revoked (desk : Desk) (id : Id) : Prop := ∃ session, desk.sessions id = some session ∧ session.revokedAt ≠ none

/-- What the refresh that has arrived comes to once it reads its row, whatever happens between that and its end: the value
handed out last is accepted inside the limits, and one rotated away longer ago than the grace window is refused and ends the
session. -/
def Desk.Lawful (settings : SessionSettings) (tokens : Tokens) (desk : Desk) (call : Id) (reads : RefreshReads) : Prop :=
  ∀ id secret now session, desk.Presents tokens call id secret now session →
    ∀ between, (∀ step ∈ between, SessionStep.call step ≠ some call) → ∀ drawn,
      let after := run (Desk.step settings tokens) desk (.read call reads :: (between ++ [.finish call drawn]))
      (latest (desk.handed id) = some secret → session.Inside settings reads now →
        after.answerTo call = some (.answered (.signedIn (some (tokens.refreshValue id drawn))))) ∧
      ∀ left, (secret, left) ∈ rotatedAway (desk.handed id) → left + settings.grace < now →
        after.answerTo call = some (.answered .unauthenticated) ∧ after.Revoked id

/-- A value rotated away longer ago than the grace window is presented only while the row still keeps it as its previous one. -/
def Desk.Recalls (settings : SessionSettings) (tokens : Tokens) (desk : Desk) (call : Id) : Prop :=
  ∀ id secret now session, desk.Presents tokens call id secret now session →
    ∀ left, (secret, left) ∈ rotatedAway (desk.handed id) → left + settings.grace < now →
      session.previousRefreshHash = some (tokens.hashToken secret)

/-- The session a step hands out a secret of, and the secret. -/
def Desk.draws (desk : Desk) : SessionStep → Option (Id × String)
  | .create id _ _ secret => some (id, secret)
  | .finish call secret =>
    match desk.answerTo call with
    | some (.decided (.rotated loaded _)) => some (loaded.id, secret)
    | _ => none
  | _ => none

/-- `secrets.token_urlsafe` draws a secret that hashes to nothing any secret of its session did before. -/
def DrawsAnew (tokens : Tokens) (desk : Desk) (step : SessionStep) : Prop :=
  ∀ drawn ∈ desk.draws step, drawn.2 ≠ "" ∧ ∀ handed ∈ desk.handed drawn.1, tokens.hashToken handed.secret ≠ tokens.hashToken drawn.2

instance (tokens : Tokens) (desk : Desk) (step : SessionStep) : Decidable (DrawsAnew tokens desk step) :=
  inferInstanceAs (Decidable (∀ drawn ∈ desk.draws step, drawn.2 ≠ "" ∧
    ∀ handed ∈ desk.handed drawn.1, tokens.hashToken handed.secret ≠ tokens.hashToken drawn.2))

end Grc.Identity
