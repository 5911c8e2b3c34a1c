import Grc.Identity.Sessions
import Grc.Lib.Locks
import Grc.Proposals.Kinds

/-! Support access: the platform asks, the bank decides, and a support session reads under the grant. A decision holds its row's lock from its read to
its commit, a request has a transaction of its own, and the clock moves between any two steps. -/
namespace Grc.Tenants.Support

open Grc.Shared Grc.Lib Grc.Identity
open Grc.Proposals (strip)

inductive SupportAccessLevel where
  | read
  | write
  deriving DecidableEq

inductive SupportAccessStatus where
  | requested
  | approved
  | declined
  | revoked
  /-- What a row born with no decision is. -/
  | expired
  deriving DecidableEq

structure SupportAccess where
  id : Id
  tenant : Id
  platformUser : Id
  reason : String := ""
  ticketRef : String := ""
  accessLevel : SupportAccessLevel := .read
  status : SupportAccessStatus := .expired
  hours : Nat := 0
  requestedAt : Instant
  requestExpiresAt : Option Instant := none
  approvedBy : Option Id := none
  startedAt : Option Instant := none
  expiresAt : Option Instant := none
  endedAt : Option Instant := none
  endedBy : Option Id := none

inductive SupportAccessState where
  | recovery
  | lapsed
  | pending
  | ended
  | active
  | declined
  | revoked
  deriving DecidableEq

def isPast (moment : Option Instant) (now : Instant) : Bool := moment.all (· ≤ now)

def stateOf (grant : SupportAccess) (now : Instant) : SupportAccessState :=
  if grant.accessLevel = .write then .recovery
  else match grant.status with
    | .requested => if isPast grant.requestExpiresAt now = true then .lapsed else .pending
    | .approved => if isPast grant.expiresAt now = true then .ended else .active
    | .expired => if grant.startedAt.isSome = true then .ended else .lapsed
    | .declined => .declined
    | .revoked => .revoked

structure SupportSettings where
  maxHours : Nat := 4
  requestTtlHours : Nat := 24

def hours (count : Nat) : Nat := seconds (3600 * count)

/-- What the platform asks with. -/
structure SupportAccessBody where
  purpose : String
  ticketRef : String := ""
  hours : Nat

/-- `approve`, of the row under its lock. -/
def approve (grant : SupportAccess) (actor : Id) (now : Instant) : Except Refusal SupportAccess := do
  require (stateOf grant now = .pending) { code := "invalid_transition", detail := "Only a pending request can be approved." }
  require (actor ≠ grant.platformUser) { code := "four_eyes_violation", detail := "The person who asked cannot approve their own access." }
  .ok { grant with status := .approved, approvedBy := some actor, startedAt := some now, expiresAt := some (now + hours grant.hours) }

def end_ (grant : SupportAccess) (status : SupportAccessStatus) (actor : Id) (now : Instant) : SupportAccess :=
  { grant with status, endedAt := some now, endedBy := some actor }

def decline (grant : SupportAccess) (actor : Id) (now : Instant) : Except Refusal SupportAccess := do
  require (stateOf grant now = .pending) { code := "invalid_transition", detail := "Only a pending request can be declined." }
  .ok (end_ grant .declined actor now)

def revoke (grant : SupportAccess) (actor : Id) (now : Instant) : Except Refusal SupportAccess := do
  require (stateOf grant now = .active) { code := "invalid_transition", detail := "Only an open grant can be revoked." }
  .ok (end_ grant .revoked actor now)

inductive Decision where
  | approve
  | decline
  | revoke

def decided (decision : Decision) (grant : SupportAccess) (actor : Id) (now : Instant) : Except Refusal SupportAccess :=
  match decision with
  | .approve => approve grant actor now
  | .decline => decline grant actor now
  | .revoke => revoke grant actor now

/-- A decision under way: the row it locked, and what it makes of it. -/
structure Deciding where
  was : SupportAccess
  becomes : SupportAccess
  now : Instant

/-- What a signed access token says; it expires at a second. -/
structure AccessClaims where
  session : Id
  kind : SessionKind
  tenant : Option Id
  expiresAt : Nat

/-- `parse_access_token`, of a token whose signature holds. -/
def AccessClaims.parse (claims : AccessClaims) (now : Instant) : Option AccessClaims :=
  if claims.expiresAt ≤ now / 1000000 then none else some claims

/-- What the auth classes of a route take: a person's session, nothing at all, or other credentials alone. -/
inductive RouteAuth where
  | session
  | open_
  | otherwise

structure RegisteredOperation where
  method : String
  path : String
  auth : RouteAuth

def supportReadRoutes : List (String × String) := [
  ("GET", "/authorities"), ("GET", "/instruments"), ("GET", "/instruments/{instrument_id}"), ("GET", "/instruments/{instrument_id}/provisions"),
  ("GET", "/obligations"), ("GET", "/obligations/{obligation_id}"), ("GET", "/obligations/{obligation_id}/diff"),
  ("GET", "/obligations/{obligation_id}/sources"), ("GET", "/provisions/{provision_id}/diff"), ("GET", "/library-updates"), ("GET", "/sources"),
  ("GET", "/sources/coverage"), ("GET", "/taxonomy/dimensions"), ("GET", "/taxonomy/terms"),
  ("GET", "/changes"), ("GET", "/changes/{change_id}"), ("GET", "/obligations/{obligation_id}/changes"), ("GET", "/briefings/current"),
  ("GET", "/briefings/{week_start}"),
  ("GET", "/home"), ("GET", "/roadmap"), ("GET", "/upcoming"),
  ("GET", "/changes/{change_id}/actions"), ("GET", "/changes/{change_id}/evidence"), ("GET", "/changes/{change_id}/case-file"),
  ("GET", "/audit-events")]

def supportSessionRoutes : List (String × String) := [("POST", "/auth/refresh"), ("POST", "/auth/sign-out")]

def RegisteredOperation.Listed (operation : RegisteredOperation) : Prop :=
  (operation.method, operation.path) ∈ supportReadRoutes ++ supportSessionRoutes

instance (operation : RegisteredOperation) : Decidable operation.Listed := inferInstanceAs (Decidable (_ ∈ _))

def supportTokenPresented (token : Option AccessClaims) (now : Instant) : Bool :=
  (token.bind (·.parse now)).any (·.kind == .support)

/-- A `support_access.read` row of the bank's audit log, and which request left it. -/
structure ReadRow where
  event : Id
  request : Id
  tenant : Id
  actor : Id
  subject : Id
  method : String
  route : String
  pathIds : List (String × String)
  deriving DecidableEq

/-- How far a request has come. -/
inductive Stage where
  /-- Past the guard. -/
  | routed
  /-- Its session's row is read, and usable. -/
  | loaded (session : UserSession)
  /-- Authenticated: its read row is written and not committed. -/
  | answering (pending : ReadRow)
  /-- Its transaction has ended. -/
  | answered (pending : ReadRow)
  deriving DecidableEq

structure SupportRequest where
  token : Option AccessClaims
  operation : RegisteredOperation
  pathIds : List (String × String) := []
  /-- Whether the guard saw a support session's token. -/
  presented : Bool
  stage : Stage := .routed

/-- A request that was authenticated: with its session and its grant as it read them, and when. -/
structure Authenticated where
  request : Id
  session : UserSession
  grant : SupportAccess
  operation : RegisteredOperation
  pathIds : List (String × String)
  at_ : Instant

/-- A request that reached its view. -/
structure Reached where
  operation : RegisteredOperation
  underSupport : Bool

/-- A console session about to be replaced by a support session. -/
structure Entering where
  grant : SupportAccess
  console : Id

structure SupportDesk where
  clock : Instant := 0
  tenants : List Id := []
  grants : Keyed SupportAccess.id := {}
  sessions : Keyed UserSession.id := {}
  deactivated : List Id := []
  deciding : List (Id × Deciding) := []
  entering : List (Id × Entering) := []
  requests : List (Id × SupportRequest) := []
  arrived : Id := 0
  audit : List ReadRow := []
  events : Id := 0
  /-- What has been authenticated, what reached a view, and which decisions took a request out of `pending`, in their order. -/
  authenticated : List Authenticated := []
  reached : List Reached := []
  left : List (Id × Instant) := []

inductive SupportStep where
  | tick (elapsed : Nat)
  | createTenant (tenant : Id)
  | requestAccess (tenant requester : Id) (body : SupportAccessBody)
  /-- The row `recover_admin` leaves. -/
  | recovers (tenant platformUser : Id) (reason ticketRef : String)
  /-- `approve`, `decline` and `revoke`, up to the commit. -/
  | decides (id : Id) (decision : Decision) (tenant grant actor : Id)
  | commits (id : Id)
  | abandons (id : Id)
  /-- `create_session`, of any kind but a support session's. -/
  | signsIn (user : Id) (tenant : Option Id) (enrolment : Bool) (refreshTokenHash : String) (expiresAt : Instant)
  /-- `enter`, up to its read of the grant. -/
  | enters (id : Id) (user console grant : Id)
  | opens (id : Id) (refreshTokenHash : String)
  | turnsBack (id : Id)
  /-- What a refresh saves isPast a session's row, whatever row it had loaded. -/
  | rotates (session : Id) (loaded : UserSession) (deadline : Instant) (newHash : String)
  | revokesSession (session : Id) (reason : String)
  | elsewhere (deactivated : List Id)
  /-- A request reaches the guard, with the operation its path resolved to. -/
  | arrives (token : Option AccessClaims) (operation : Option RegisteredOperation) (pathIds : List (String × String))
  /-- `resolve_access_token`, up to its read of the grant. -/
  | resolves (request : Id)
  /-- `live_grant`, and what follows where the grant is open. -/
  | authenticates (request : Id)
  /-- The request's transaction ends: its answer is committed, or it is rolled back. -/
  | ends (request : Id) (committed : Bool)
  /-- `keep_read`. -/
  | keeps (request : Id)

namespace SupportDesk

variable (settings : SupportSettings) (desk : SupportDesk)

def requestAccess (tenant requester : Id) (body : SupportAccessBody) : Except Refusal SupportDesk := do
  require (tenant ∈ desk.tenants) notFound
  require (strip body.purpose ≠ "") { code := "validation_error", detail := "Say why support needs to look." }
  require (body.hours ≤ settings.maxHours) { code := "validation_error", detail := s!"Ask for at most {settings.maxHours} hours." }
  .ok { desk with
    grants := desk.grants.create (fun id => {
      id, tenant, platformUser := requester, reason := strip body.purpose, ticketRef := body.ticketRef, status := .requested, hours := body.hours
      requestedAt := desk.clock, requestExpiresAt := some (desk.clock + hours settings.requestTtlHours) }) fun _ => rfl }

/-- The row of a recovery, which opens no window. -/
def recovers (tenant platformUser : Id) (reason ticketRef : String) : SupportDesk :=
  { desk with
    grants := desk.grants.create (fun id => {
      id, tenant, platformUser, reason, ticketRef, accessLevel := .write, requestedAt := desk.clock, startedAt := some desk.clock
      endedAt := some desk.clock }) fun _ => rfl }

def grantOf (tenant grant : Id) : Option SupportAccess := desk.grants.rows.find? fun row => row.tenant == tenant && row.id == grant

def locked (grant : Id) : Prop := ∃ each ∈ desk.deciding, each.2.was.id = grant

instance (grant : Id) : Decidable (desk.locked grant) := by
  unfold locked
  infer_instance

/-- A decision's `save`, once committed. -/
def commit (id : Id) (decision : Deciding) : SupportDesk :=
  { desk with
    grants := desk.grants.update (·.id == decision.was.id) (fun row => { decision.becomes with id := row.id }) fun _ => rfl
    deciding := withoutBy desk.deciding id
    left := if decision.was.status = .requested then desk.left ++ [(decision.was.id, decision.now)] else desk.left }

def liveGrant (tenant grant : Id) : Option SupportAccess :=
  (desk.grantOf tenant grant).filter fun row => stateOf row desk.clock == .active

/-- `enter`'s own grant of the caller. -/
def ownGrant (user grant : Id) : Option SupportAccess :=
  (desk.grants.rows.find? fun row => row.id == grant && row.platformUser == user).filter fun row => stateOf row desk.clock == .active

def console (user session : Id) : Option UserSession :=
  desk.sessions.rows.find? fun row => row.id == session && row.user == user && row.tenant.isNone

def revokeSession (session : Id) (reason : String) : SupportDesk :=
  { desk with
    sessions := desk.sessions.update (fun row => row.id == session && row.revokedAt.isNone) (·.revoke desk.clock reason) fun _ => rfl }

/-- `create_support_session`: the console session is revoked, and the new one ends with the grant's window. -/
def createSupportSession (entering : Entering) (refreshTokenHash : String) (expiresAt : Instant) : SupportDesk :=
  let desk := desk.revokeSession entering.console "support_entered"
  { desk with
    sessions := desk.sessions.create (fun id => {
      id, user := entering.grant.platformUser, tenant := some entering.grant.tenant, kind := .support, refreshTokenHash, createdAt := desk.clock
      lastSeenAt := desk.clock, expiresAt, supportAccess := some entering.grant.id }) fun _ => rfl }

def leaves (request : Id) : SupportDesk := { desk with requests := withoutBy desk.requests request }

def put (id : Id) (request : SupportRequest) : SupportDesk := { desk with requests := putBy desk.requests id request }

/-- `SupportReadOnlyMiddleware.process_view`, and the view where the route asks for no credential. -/
def arrives (token : Option AccessClaims) (operation : Option RegisteredOperation) (pathIds : List (String × String)) : Except Refusal SupportDesk := do
  let presented := supportTokenPresented token desk.clock
  require (presented = true → ∃ resolved ∈ operation, resolved.Listed)
    { code := "support_read_only", detail := "Support access reads the bank and changes nothing." }
  match operation with
  | none => .ok desk
  | some operation =>
    match operation.auth with
    | .session =>
      .ok { desk with requests := desk.requests ++ [(desk.arrived, { token, operation, pathIds, presented })], arrived := desk.arrived + 1 }
    | .open_ => .ok { desk with reached := desk.reached ++ [{ operation, underSupport := presented }] }
    | .otherwise => .ok desk

/-- The session behind a token is usable: `resolve_access_token`. -/
def usable (claims : AccessClaims) (session : UserSession) : Prop :=
  session.kind = claims.kind ∧ session.revokedAt = none ∧ (claims.kind = .support ∨ session.live desk.clock) ∧ session.user ∉ desk.deactivated

instance (claims : AccessClaims) (session : UserSession) : Decidable (desk.usable claims session) := inferInstanceAs (Decidable (_ ∧ _))

/-- A request whose token proves no support session goes on as a person's of the bank, where a full session stands behind it, or as nobody's. -/
def resolves (id : Id) (request : SupportRequest) : SupportDesk :=
  match request.token.bind (·.parse desk.clock) with
  | none => desk.leaves id
  | some claims =>
    match desk.sessions.rows.find? (·.id == claims.session) with
    | none => desk.leaves id
    | some session =>
      if session.tenant ≠ claims.tenant then (desk.revokeSession session.id "tenant_claim_mismatch").leaves id
      else if ¬desk.usable claims session then desk.leaves id
      else match claims.kind with
        | .enrolment => desk.leaves id
        | .full => { desk.leaves id with reached := desk.reached ++ [{ operation := request.operation, underSupport := false }] }
        | .support => if session.expiresAt ≤ desk.clock then desk.leaves id else desk.put id { request with stage := .loaded session }

/-- `record_read`. -/
def readRow (id : Id) (request : SupportRequest) (session : UserSession) (tenant grant : Id) : ReadRow :=
  { event := desk.events, request := id, tenant, actor := session.user, subject := grant, method := request.operation.method
    route := request.operation.path, pathIds := request.pathIds }

def grantOfSession (session : UserSession) : Option SupportAccess :=
  session.tenant.bind fun tenant => session.supportAccess.bind fun grant => desk.liveGrant tenant grant

def authenticates (id : Id) (request : SupportRequest) (session : UserSession) : SupportDesk :=
  match desk.grantOfSession session with
  | none => desk.leaves id
  | some grant =>
    { desk.put id { request with stage := .answering (desk.readRow id request session grant.tenant grant.id) } with
      events := desk.events + 1
      authenticated := desk.authenticated ++ [{
        request := id, session, grant, operation := request.operation, pathIds := request.pathIds, at_ := desk.clock }]
      reached := desk.reached ++ [{ operation := request.operation, underSupport := true }] }

/-- `keep_read`: a committed row is left as it is. -/
def keepRead (pending : ReadRow) : SupportDesk :=
  if ∃ row ∈ desk.audit, row.event = pending.event then desk
  else { desk with audit := desk.audit ++ [{ pending with event := desk.events }], events := desk.events + 1 }

def step : SupportStep → Except Refusal SupportDesk
  | .tick elapsed => .ok { desk with clock := desk.clock + elapsed }
  | .createTenant tenant => .ok { desk with tenants := tenant :: desk.tenants }
  | .requestAccess tenant requester body => desk.requestAccess settings tenant requester body
  | .recovers tenant platformUser reason ticketRef => do
    require (tenant ∈ desk.tenants) notFound
    .ok (desk.recovers tenant platformUser reason ticketRef)
  | .decides id decision tenant grant actor => do
    require (heldBy desk.deciding id = none) internalError
    let row ← demand (desk.grantOf tenant grant) notFound
    -- a decision waits for the one that holds the row
    require (¬desk.locked row.id) internalError
    let becomes ← decided decision row actor desk.clock
    .ok { desk with deciding := desk.deciding ++ [(id, { was := row, becomes, now := desk.clock })] }
  | .commits id => do
    let decision ← demand (heldBy desk.deciding id) internalError
    .ok (desk.commit id decision)
  | .abandons id => .ok { desk with deciding := withoutBy desk.deciding id }
  | .signsIn user tenant enrolment refreshTokenHash expiresAt =>
    .ok { desk with
      sessions := desk.sessions.create (fun id => {
        id, user, tenant, kind := if enrolment = true then .enrolment else .full, refreshTokenHash, createdAt := desk.clock
        lastSeenAt := desk.clock, expiresAt }) fun _ => rfl }
  | .enters id user console grant => do
    require (heldBy desk.entering id = none) internalError
    let grant ← demand (desk.ownGrant user grant) notFound
    .ok { desk with entering := desk.entering ++ [(id, { grant, console })] }
  | .opens id refreshTokenHash => do
    let entering ← demand (heldBy desk.entering id) internalError
    let _ ← demand (desk.console entering.grant.platformUser entering.console) internalError
    let expiresAt ← demand entering.grant.expiresAt internalError
    .ok { desk.createSupportSession entering refreshTokenHash expiresAt with entering := withoutBy desk.entering id }
  | .turnsBack id => .ok { desk with entering := withoutBy desk.entering id }
  | .rotates session loaded deadline newHash =>
    .ok { desk with
      sessions := desk.sessions.update (·.id == session) (·.rotate loaded deadline desk.clock newHash) fun _ => rfl }
  | .revokesSession session reason => .ok (desk.revokeSession session reason)
  | .elsewhere deactivated => .ok { desk with deactivated }
  | .arrives token operation pathIds => desk.arrives token operation pathIds
  | .resolves id => do
    let request ← demand (heldBy desk.requests id) internalError
    require (request.stage = .routed) internalError
    .ok (desk.resolves id request)
  | .authenticates id => do
    let request ← demand (heldBy desk.requests id) internalError
    match request.stage with
    | .loaded session => .ok (desk.authenticates id request session)
    | _ => .error internalError
  | .ends id committed => do
    let request ← demand (heldBy desk.requests id) internalError
    match request.stage with
    | .answering pending =>
      .ok { desk.put id { request with stage := .answered pending } with audit := if committed = true then desk.audit ++ [pending] else desk.audit }
    | _ => .error internalError
  | .keeps id => do
    let request ← demand (heldBy desk.requests id) internalError
    match request.stage with
    | .answered pending => .ok ((desk.keepRead pending).leaves id)
    | _ => .error internalError

end SupportDesk

/-- What an authenticated request found: an open grant of its session's bank, of its session's person, approved by somebody else. -/
structure Authenticated.Open (one : Authenticated) : Prop where
  bank : one.session.tenant = some one.grant.tenant ∧ one.session.supportAccess = some one.grant.id
  person : one.grant.platformUser = one.session.user
  approver : ∃ approver, one.grant.approvedBy = some approver ∧ approver ≠ one.session.user
  standing : one.grant.accessLevel = .read ∧ one.grant.status = .approved
  window : ∃ start end_, one.grant.startedAt = some start ∧ one.grant.expiresAt = some end_ ∧ start ≤ one.at_ ∧ one.at_ < end_

def ReadRow.Of (row : ReadRow) (one : Authenticated) : Prop :=
  row.request = one.request ∧ row.tenant = one.grant.tenant ∧ row.actor = one.session.user ∧ row.subject = one.grant.id ∧
    row.method = one.operation.method ∧ row.route = one.operation.path ∧ row.pathIds = one.pathIds

namespace SupportDesk

def readsOf (desk : SupportDesk) (request : Id) : List ReadRow := desk.audit.filter (·.request == request)

/-- Support access opens only what the bank opened. -/
structure OpensOnly (desk : SupportDesk) : Prop where
  granted : ∀ one ∈ desk.authenticated, one.Open
  listed : ∀ one ∈ desk.reached, one.underSupport = true → one.operation.Listed
  viewed : ∀ one ∈ desk.authenticated, one.operation.Listed
  /-- A request stands as asked until it leaves `pending`, which it does once, and not after it lapsed. -/
  stands : ∀ grant ∈ desk.grants.rows, grant.accessLevel = .read → (grant.status = .requested ↔ grant.id ∉ desk.left.map (·.1))
  once : (desk.left.map (·.1)).Nodup
  timely : ∀ each ∈ desk.left, ∃ grant ∈ desk.grants.rows, grant.id = each.1 ∧ ∃ expires, grant.requestExpiresAt = some expires ∧ each.2 < expires
  single : (desk.authenticated.map (·.request)).Nodup
  logged : ∀ row ∈ desk.audit, ∃ one ∈ desk.authenticated, row.Of one
  atMost : ∀ request, (desk.readsOf request).length ≤ 1
  exactly : ∀ one ∈ desk.authenticated, heldBy desk.requests one.request = none → (desk.readsOf one.request).length = 1

def Closed (grant : SupportAccess) (now : Instant) : Prop :=
  stateOf grant now = .declined ∨ stateOf grant now = .revoked ∨ stateOf grant now = .ended

def Onward (desk later : SupportDesk) : Prop :=
  ∀ grant ∈ desk.grants.rows, ∃ row ∈ later.grants.rows, row.id = grant.id ∧
    (Closed grant desk.clock → Closed row later.clock) ∧ (stateOf grant desk.clock ≠ .pending → stateOf row later.clock ≠ .pending)

end SupportDesk
end Grc.Tenants.Support
