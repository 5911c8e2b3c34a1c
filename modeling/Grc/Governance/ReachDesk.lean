import Grc.Lib.Locks
import Grc.Lib.Runs
import Grc.Proposals.Kinds
import Grc.Taxonomy.EntryScope
import Grc.Taxonomy.Footprint

/-! Tenant reach: the bank's switch under four eyes, its agent access entries with their credentials, and the register as its own agents read it. A
write holds the locks of its rows to its commit; a register read takes one statement after the other, and others commit between them. -/
namespace Grc.Governance

open Grc.Shared Grc.Lib Grc.Taxonomy
open Grc.Proposals (strip)

structure TenantReachRequest where
  id : Id
  status : ApprovalStatus := .pending
  requestedBy : Id
  requestedAt : Instant
  decidedBy : Option Id := none
  decidedAt : Option Instant := none
  version : Nat := 1

structure TenantReach where
  enabled : Bool := false
  request : Option Id := none
  changedBy : Option Id := none
  changedAt : Option Instant := none

/-- `agent_access`, with the departments and products it names. -/
structure AccessEntry where
  id : Id
  name : String
  purpose : String
  ownerTeam : String
  departments : List Id := []
  products : List Id := []
  tenantReach : Bool := false
  active : Bool := true
  revokedBy : Option Id := none
  revokedAt : Option Instant := none
  createdBy : Id
  version : Nat := 1

/-- A credential of the bank: a service key, or the personal token of the person it acts as. -/
structure ApiKey where
  id : Id
  name : String
  keyPrefix : String
  keyHash : String
  actsAsUser : Option Id := none
  agentAccess : Option Id := none
  scopes : List String
  expiresAt : Option Instant
  revokedAt : Option Instant := none

def tenantRead : String := "tenant:read"

def agentAccessScopes : List String := ["library:read", "search:read", "upcoming:read", tenantRead]

def platformOnlyScopes : List String := ["proposals:review", "agent-runs:write", "sources:write", "changes:write"]

def scopeBacking (scope : String) : Option String :=
  [("library:read", "library.read"), ("search:read", "search.use"), ("upcoming:read", "roadmap.read"), (tenantRead, "register.read")].lookup scope

/-- The scopes a credential is resolved with: `tenant:read` is withheld from one that is bound to no entry. -/
def ApiKey.resolvedScopes (key : ApiKey) : List String :=
  key.scopes.filter fun scope => scope ∉ platformOnlyScopes && (key.agentAccess.isSome || scope != tenantRead)

/-- The rows behind the scope rule that are no entry's. -/
structure Scoping where
  table : TermTable
  footprint : List Id
  units : List BankUnit := []
  products : List BankProduct := []
  productTerms : List ProductTerm := []
  known : ∀ id ∈ footprint, ∃ term ∈ table.terms, term.id = id

/-- An obligation as a register read filters it, with its `scope_term_ids`. -/
structure LibraryObligation where
  id : Id
  stableKey : String
  ownerTenant : Option Id := none
  underStandard : Bool := false
  termIds : List Id := []

/-- A register entry, with what the bank decided as one text. -/
structure TenantObligation where
  obligation : Id
  judgement : String

/-- Reach is switched. -/
inductive Switch where
  | approved (request requester decider : Id)
  | off (user : Id)
  deriving DecidableEq

/-- The bank's rows, with the switches of reach and the decisions on its requests so far. -/
structure BankRows where
  clock : Instant := 0
  teams : List String := []
  /-- The active members, with the permissions they hold. -/
  people : List (Id × List String) := []
  scoping : Scoping
  obligations : List LibraryObligation := []
  decisions : List TenantObligation := []
  reach : Option TenantReach := none
  requests : Keyed TenantReachRequest.id := {}
  entries : Keyed AccessEntry.id := {}
  keys : Keyed ApiKey.id := {}
  switches : List Switch := []
  decided : List Id := []

structure ReachSettings where
  agentAccessKeyMaxDays : Nat := 90
  personalTokenMaxDays : Nat := 90

def days (count : Nat) : Nat := count * 86400000000

/-- What a new credential is given. -/
structure NewKey where
  name : String
  keyPrefix : String
  keyHash : String
  scopes : List String
  expiresAt : Option Instant

/-- What an entry is written with. -/
structure EntryBody where
  name : Option String
  purpose : Option String
  ownerTeam : Option String
  departments : Option (List Id)
  products : Option (List Id)

inductive BankWrite where
  | tick (elapsed : Nat)
  | requestReach (requester : Id)
  | approve (request decider : Id) (expectedVersion : Option Nat)
  | reject (request decider : Id) (expectedVersion : Option Nat)
  | switchOff (user : Id)
  | register (user : Id) (name purpose ownerTeam : String) (departments products : List Id)
  | update (entry : Id) (body : EntryBody) (expectedVersion : Option Nat)
  | setTenantReach (entry : Id) (enabled : Bool) (expectedVersion : Option Nat)
  | revoke (entry user : Id) (expectedVersion : Option Nat)
  | createKey (entry : Id) (key : NewKey)
  /-- `create_api_key`: a service key bound to no entry. -/
  | createApiKey (key : NewKey)
  /-- A personal token, of whatever entry it named. -/
  | mint (user : Id) (entry : Option Id) (key : NewKey)
  /-- Any path that revokes a credential. -/
  | revokeKey (key : Id)
  /-- Whatever else changes the people, the library, the scope and the register. -/
  | elsewhere (teams : List String) (people : List (Id × List String)) (scoping : Scoping) (obligations : List LibraryObligation)
      (decisions : List TenantObligation)

namespace BankRows

variable (settings : ReachSettings) (bank : BankRows)

/-- The rows as the scope rule reads them. -/
def asBank : Bank bank.scoping.table where
  footprint := bank.scoping.footprint
  units := bank.scoping.units
  products := bank.scoping.products
  productTerms := bank.scoping.productTerms
  accesses := bank.entries.rows.map fun entry => { id := entry.id, active := entry.active }
  departments := bank.entries.rows.flatMap fun entry => entry.departments.map fun unit => { access := entry.id, names := unit }
  accessProducts := bank.entries.rows.flatMap fun entry => entry.products.map fun product => { access := entry.id, names := product }
  known := bank.scoping.known

def tenantReachOn : Bool := bank.reach.any (·.enabled)

def requestReach (requester : Id) : Except Refusal BankRows := do
  require (bank.tenantReachOn = false) { code := "invalid_transition", detail := "Tenant reach is already on." }
  require ((bank.requests.rows.any (·.status == .pending)) = false)
    { code := "request_pending", detail := "A request for tenant reach is already waiting for a decision." }
  .ok { bank with
    reach := some (bank.reach.getD {})
    requests := bank.requests.create (fun id => { id, requestedBy := requester, requestedAt := bank.clock }) fun _ => rfl }

/-- `_decidable`, of the row under its lock. -/
def decidable (request : Id) (decider : Id) (expectedVersion : Option Nat) : Except Refusal TenantReachRequest := do
  let row ← demand (bank.requests.rows.find? (·.id == request)) notFound
  require (row.status = .pending) { code := "invalid_transition", detail := "This request for tenant reach has already been decided." }
  require (∀ version ∈ expectedVersion, version = row.version) { code := "stale_write", detail := "Someone changed this first. Reload and try again." }
  require (row.requestedBy ≠ decider)
    { code := "four_eyes_violation", detail := "Tenant reach is decided by someone other than the person who asked for it." }
  .ok row

def decide_ (request : Id) (decider : Id) (status : ApprovalStatus) : BankRows :=
  { bank with
    requests := bank.requests.update (·.id == request)
      (fun row => { row with status, decidedBy := some decider, decidedAt := some bank.clock, version := row.version + 1 }) fun _ => rfl
    decided := bank.decided ++ [request] }

def approve (request decider : Id) (expectedVersion : Option Nat) : Except Refusal BankRows := do
  let row ← bank.decidable request decider expectedVersion
  .ok { bank.decide_ request decider .approved with
    reach := some { enabled := true, request := some row.id, changedBy := some decider, changedAt := some bank.clock }
    switches := bank.switches ++ [.approved row.id row.requestedBy decider] }

def reject (request decider : Id) (expectedVersion : Option Nat) : Except Refusal BankRows := do
  let _ ← bank.decidable request decider expectedVersion
  .ok (bank.decide_ request decider .rejected)

def switchOff (user : Id) : Except Refusal BankRows := do
  require (bank.tenantReachOn = true) { code := "invalid_transition", detail := "Tenant reach is already off." }
  .ok { bank with
    reach := bank.reach.map fun row => { row with enabled := false, changedBy := some user, changedAt := some bank.clock }
    switches := bank.switches ++ [.off user] }

/-- `_name` and `_purpose`. -/
def cleaned (text code detail : String) : Except Refusal String := do
  require (strip text ≠ "") { code, detail }
  .ok (strip text)

def entryName (name : String) : Except Refusal String := cleaned name "name_required" "Give the agent a name."

def entryPurpose (purpose : String) : Except Refusal String := cleaned purpose "purpose_required" "Say what the agent does."

def team (key : String) : Except Refusal String := do
  require (key ∈ bank.teams) { code := "unknown_key", detail := "The bank has no team " ++ key ++ "." }
  .ok key

def known (rows ids : List Id) (what : String) : Except Refusal (List Id) := do
  require (∀ id ∈ ids, id ∈ rows) { code := "unknown_key", detail := "Some of those " ++ what ++ " are not the bank's." }
  .ok ids.eraseDups

def knownDepartments (ids : List Id) : Except Refusal (List Id) := known (bank.scoping.units.map (·.id)) ids "departments"

def knownProducts (ids : List Id) : Except Refusal (List Id) := known (bank.scoping.products.map (·.id)) ids "products"

def register (user : Id) (name purpose ownerTeam : String) (departments products : List Id) : Except Refusal BankRows := do
  let departments ← bank.knownDepartments departments
  let products ← bank.knownProducts products
  let name ← entryName name
  let purpose ← entryPurpose purpose
  let ownerTeam ← bank.team ownerTeam
  .ok { bank with
    entries := bank.entries.create (fun id => { id, name, purpose, ownerTeam, departments, products, createdBy := user }) fun _ => rfl }

def locked (entry : Id) (expectedVersion : Option Nat) : Except Refusal AccessEntry := do
  let row ← demand (bank.entries.rows.find? (·.id == entry)) { code := "not_found", detail := "That agent access entry is not here." }
  require (row.active = true) { code := "invalid_transition", detail := "This entry is revoked; register a new one instead." }
  require (∀ version ∈ expectedVersion, version = row.version) { code := "stale_write", detail := "Someone changed this first. Reload and try again." }
  .ok row

def saveEntry (entry : Id) (change : AccessEntry → AccessEntry) (named : ∀ row, (change row).id = row.id) : BankRows :=
  { bank with entries := bank.entries.update (·.id == entry) change named }

def update (entry : Id) (body : EntryBody) (expectedVersion : Option Nat) : Except Refusal BankRows := do
  let row ← bank.locked entry expectedVersion
  let departments ← optionally bank.knownDepartments body.departments
  let products ← optionally bank.knownProducts body.products
  let name ← optionally entryName body.name
  let purpose ← optionally entryPurpose body.purpose
  let ownerTeam ← optionally bank.team body.ownerTeam
  .ok (bank.saveEntry row.id (fun row => { row with
    name := name.getD row.name, purpose := purpose.getD row.purpose, ownerTeam := ownerTeam.getD row.ownerTeam
    departments := departments.getD row.departments, products := products.getD row.products, version := row.version + 1 }) fun _ => rfl)

def setTenantReach (entry : Id) (enabled : Bool) (expectedVersion : Option Nat) : Except Refusal BankRows := do
  let row ← bank.locked entry expectedVersion
  .ok (bank.saveEntry row.id (fun row => { row with tenantReach := enabled, version := row.version + 1 }) fun _ => rfl)

def revokeKeys (picked : ApiKey → Bool) : BankRows :=
  { bank with
    keys := bank.keys.update (fun key => picked key && key.revokedAt.isNone) (fun key => { key with revokedAt := some bank.clock }) fun _ => rfl }

/-- `revoke`: the entry, and every credential bound to it. -/
def revoke (entry user : Id) (expectedVersion : Option Nat) : Except Refusal BankRows := do
  let row ← bank.locked entry expectedVersion
  .ok ((bank.saveEntry row.id (fun row => { row with
    active := false, revokedBy := some user, revokedAt := some bank.clock, version := row.version + 1 }) fun _ => rfl).revokeKeys
      (·.agentAccess == some row.id))

def checkedName (name : String) (expiresAt : Option Instant) : Except Refusal String := do
  let name ← cleaned name "name_required" "Give the key a name."
  require (∀ expiry ∈ expiresAt, bank.clock < expiry) { code := "expiry_in_past", detail := "The expiry must be in the future." }
  .ok name

def validateScopes (values allowed : List String) : Except Refusal (List String) := do
  require (values ≠ []) { code := "scopes_required", detail := "Pick at least one scope." }
  let refused := values.filter (· ∉ allowed)
  require (refused = []) {
    code := "unknown_key", detail := "This key may not hold " ++ ", ".intercalate refused ++ ". Valid scopes: " ++ ", ".intercalate allowed ++ "." }
  .ok values

def storeKey (key : NewKey) (name : String) (scopes : List String) (entry user : Option Id) (expiresAt : Option Instant) : Except Refusal BankRows := do
  require (key.keyPrefix ∉ bank.keys.rows.map (·.keyPrefix)) internalError
  .ok { bank with
    keys := bank.keys.create (fun id => {
      id, name, keyPrefix := key.keyPrefix, keyHash := key.keyHash, actsAsUser := user, agentAccess := entry, scopes, expiresAt }) fun _ => rfl }

/-- `create_entry_key`, for an entry `_locked` answered. -/
def createKey (entry : Id) (key : NewKey) : Except Refusal BankRows := do
  let row ← bank.locked entry none
  let latest := bank.clock + days settings.agentAccessKeyMaxDays
  let expiry := key.expiresAt.getD latest
  let name ← bank.checkedName key.name (some expiry)
  require (expiry ≤ latest) { code := "expiry_too_late", detail := s!"A key of an agent access entry lives at most {settings.agentAccessKeyMaxDays} days." }
  let scopes ← validateScopes key.scopes agentAccessScopes
  bank.storeKey key name scopes (some row.id) none (some expiry)

def createApiKey (key : NewKey) : Except Refusal BankRows := do
  let name ← bank.checkedName key.name key.expiresAt
  require (∀ scope ∈ key.scopes, scope ∉ platformOnlyScopes) internalError
  bank.storeKey key name key.scopes none none key.expiresAt

/-- `mint`, from what it read of its person and its entry. -/
def mint (user : Id) (entry : Option Id) (key : NewKey) : Except Refusal BankRows := do
  let expiry ← demand key.expiresAt internalError
  let name ← bank.checkedName key.name (some expiry)
  let scopes ← validateScopes key.scopes agentAccessScopes
  require (tenantRead ∈ scopes → entry ≠ none)
    { code := "entry_required", detail := "tenant:read reads the bank's register only through an agent access entry; name one." }
  bank.storeKey key name scopes entry (some user) (some expiry)

def write : BankWrite → Except Refusal BankRows
  | .tick elapsed => .ok { bank with clock := bank.clock + elapsed }
  | .requestReach requester => bank.requestReach requester
  | .approve request decider expectedVersion => bank.approve request decider expectedVersion
  | .reject request decider expectedVersion => bank.reject request decider expectedVersion
  | .switchOff user => bank.switchOff user
  | .register user name purpose ownerTeam departments products => bank.register user name purpose ownerTeam departments products
  | .update entry body expectedVersion => bank.update entry body expectedVersion
  | .setTenantReach entry enabled expectedVersion => bank.setTenantReach entry enabled expectedVersion
  | .revoke entry user expectedVersion => bank.revoke entry user expectedVersion
  | .createKey entry key => bank.createKey settings entry key
  | .createApiKey key => bank.createApiKey key
  | .mint user entry key => bank.mint user entry key
  | .revokeKey key => .ok (bank.revokeKeys (·.id == key))
  | .elsewhere teams people scoping obligations decisions => .ok { bank with teams, people, scoping, obligations, decisions }

def live (key : Id) : Bool := bank.keys.rows.any fun row => row.id == key && row.revokedAt.isNone && row.expiresAt.all (bank.clock < ·)

def entryActive (entry : Id) : Bool := bank.entries.rows.any fun row => row.id == entry && row.active

/-- `AgentAccess.objects.filter(pk=entry_id, active=True, tenant_reach=True).exists()`. -/
def entryReaches (entry : Id) : Bool := bank.entries.rows.any fun row => row.id == entry && row.active && row.tenantReach

/-- `_backed`: a token's person holds the permission behind every scope it carries. -/
def backed (key : ApiKey) : Bool :=
  match key.actsAsUser with
  | none => true
  | some user => (bank.people.lookup user).any fun held => key.scopes.all fun scope => (scopeBacking scope).any held.contains

/-- The filters of `_readable`. -/
def readable (entry : Id) (obligation : LibraryObligation) : Bool :=
  obligation.ownerTenant.isNone && !obligation.underStandard && (bank.asBank.inReach (some entry) obligation.termIds).all fun kept => kept

def mayRead (entry obligation : Id) : Bool := bank.obligations.any fun row => row.id == obligation && bank.readable entry row

def LibraryObligation.before (one other : LibraryObligation) : Prop :=
  one.stableKey < other.stableKey ∨ one.stableKey = other.stableKey ∧ one.id ≤ other.id

instance : DecidableRel LibraryObligation.before := fun _ _ => inferInstanceAs (Decidable (_ ∨ _))

def readableIds (entry : Id) : List Id :=
  ((bank.obligations.filter fun row => bank.readable entry row && bank.decisions.any (·.obligation == row.id)).insertionSort
    LibraryObligation.before).map (·.id)

end BankRows

/-- `list_decisions`, which what applies reads through as well, or `read_decision`. -/
inductive RegisterQuery where
  | list (limit offset : Nat)
  | one (obligation : Id)

/-- How far a register read has come, with what it holds. -/
inductive ReadStage where
  | arrived
  /-- Its credential is read, and usable. -/
  | keyed (key : ApiKey)
  /-- The credential's entry is active, where it names one. -/
  | entered (key : ApiKey)
  /-- Resolved, with the scope the route asks for. -/
  | resolved (key : ApiKey) (entry : Id)
  /-- The bank's reach is on. -/
  | reaching (key : ApiKey) (entry : Id)
  /-- So is the entry's. -/
  | allowed (key : ApiKey) (entry : Id)
  /-- The obligations to answer on. -/
  | found (key : ApiKey) (entry : Id) (obligations : List Id)

structure RegisterRead where
  /-- The prefix of the credential presented, and the hash of its secret. -/
  presented : Option (String × String)
  query : RegisterQuery
  stage : ReadStage := .arrived

/-- A decision as it is answered; nobody has decided on one without a judgement. -/
structure RegisterDecision where
  obligation : Id
  judgement : Option String
  deriving DecidableEq

/-- What a register read was answered, and the bank's rows as they then stood. -/
structure ReachAnswer where
  key : ApiKey
  entry : Id
  decisions : List RegisterDecision
  bank : BankRows

def unauthenticated : Refusal := { code := "unauthenticated", detail := "Sign in to continue." }

def reachOff : Refusal :=
  { code := "tenant_reach_off", detail := "Tenant reach is off for this agent, so it reads the library alone." }

namespace BankRows

/-- The obligations a read is to answer on. -/
def finds (bank : BankRows) (entry : Id) : RegisterQuery → Except Refusal (List Id)
  | .list limit offset => .ok (((bank.readableIds entry).drop offset).take limit)
  | .one obligation => do
    require (bank.mayRead entry obligation = true) { code := "not_found", detail := "That obligation is not here." }
    .ok [obligation]

def answers (bank : BankRows) (obligations : List Id) : RegisterQuery → List RegisterDecision
  | .list _ _ => (bank.decisions.filter (obligations.contains ·.obligation)).map fun row => { obligation := row.obligation, judgement := some row.judgement }
  | .one _ => obligations.map fun obligation =>
    { obligation, judgement := (bank.decisions.find? (·.obligation == obligation)).map (·.judgement) }

/-- The next statement of a register read. -/
def advance (bank : BankRows) (read : RegisterRead) : Except Refusal (RegisterRead ⊕ ReachAnswer) :=
  match read.stage with
  | .arrived => do
    let presented ← demand read.presented unauthenticated
    let key ← demand (bank.keys.rows.find? (·.keyPrefix == presented.1)) unauthenticated
    require (presented.2 = key.keyHash ∧ key.revokedAt = none ∧ ∀ expiry ∈ key.expiresAt, bank.clock < expiry) unauthenticated
    .ok (.inl { read with stage := .keyed key })
  | .keyed key => do
    require (∀ entry ∈ key.agentAccess, bank.entryActive entry = true) unauthenticated
    .ok (.inl { read with stage := .entered key })
  | .entered key => do
    require (bank.backed key = true) unauthenticated
    require (tenantRead ∈ key.resolvedScopes)
      { code := "permission_denied", detail := "This key does not have the scope for that.", extra := [("requiredPermission", .text tenantRead)] }
    let entry ← demand key.agentAccess { code := "permission_denied", detail := "Only an agent access entry's key or token reads the register." }
    .ok (.inl { read with stage := .resolved key entry })
  | .resolved key entry => do
    require (bank.tenantReachOn = true) reachOff
    .ok (.inl { read with stage := .reaching key entry })
  | .reaching key entry => do
    require (bank.entryReaches entry = true) reachOff
    .ok (.inl { read with stage := .allowed key entry })
  | .allowed key entry => do
    let obligations ← bank.finds entry read.query
    .ok (.inl { read with stage := .found key entry obligations })
  | .found key entry obligations => .ok (.inr { key, entry, decisions := bank.answers obligations read.query, bank })

end BankRows

structure ReachDesk where
  bank : BankRows
  reads : List (Id × RegisterRead) := []
  /-- What register reads have been answered. -/
  answered : List ReachAnswer := []

inductive ReachStep where
  | writes (write : BankWrite)
  | arrives (read : Id) (presented : Option (String × String)) (query : RegisterQuery)
  | reads (read : Id)

def ReachDesk.step (settings : ReachSettings) (desk : ReachDesk) : ReachStep → Except Refusal ReachDesk
  | .writes write => do
    let bank ← desk.bank.write settings write
    .ok { desk with bank }
  | .arrives read presented query => do
    require (heldBy desk.reads read = none) internalError
    .ok { desk with reads := desk.reads ++ [(read, { presented, query })] }
  | .reads id => do
    let read ← demand (heldBy desk.reads id) internalError
    match desk.bank.advance read with
    | .error _ => .ok { desk with reads := withoutBy desk.reads id }
    | .ok (.inl later) => .ok { desk with reads := putBy desk.reads id later }
    | .ok (.inr answer) => .ok { desk with reads := withoutBy desk.reads id, answered := desk.answered ++ [answer] }

/-- What may be answered to a bank's own agents: to a live credential of an active entry whose toggle is on, while the bank's last switch of reach is
an approval by somebody other than who asked; shared obligations under no standard, inside the footprint and admitted by the entry's scope. -/
structure ReachAnswer.Due (answer : ReachAnswer) : Prop where
  credential : answer.bank.live answer.key.id = true ∧ answer.bank.backed answer.key = true
  bound : answer.key.agentAccess = some answer.entry ∧ tenantRead ∈ answer.key.scopes
  entry : ∃ row ∈ answer.bank.entries.rows, row.id = answer.entry ∧ row.active = true ∧ row.tenantReach = true
  approved : ∃ request requester decider, answer.bank.switches.getLast? = some (.approved request requester decider) ∧ decider ≠ requester
  readable : ∀ decision ∈ answer.decisions, ∃ obligation ∈ answer.bank.obligations, obligation.id = decision.obligation ∧
    obligation.ownerTenant = none ∧ obligation.underStandard = false ∧ answer.bank.asBank.inFootprintSql obligation.termIds = true ∧
    answer.bank.asBank.entryAdmits answer.entry obligation.termIds = true

/-- The requests: at most one is pending, and each has been decided at most once. -/
structure BankRows.FourEyes (bank : BankRows) : Prop where
  onePending : (bank.requests.rows.filter (·.status == .pending)).length ≤ 1
  once : bank.decided.Nodup
  pending : ∀ request ∈ bank.requests.rows, request.status = .pending ↔ request.id ∉ bank.decided

structure ReachDesk.Reaches (desk : ReachDesk) : Prop where
  due : ∀ answer ∈ desk.answered, answer.Due
  fourEyes : desk.bank.FourEyes

/-- What a read under way has found still stands. -/
def BankRows.stands (bank : BankRows) : ReadStage → Bool
  | .arrived => true
  | .keyed key => bank.live key.id
  | .entered key => bank.live key.id && key.agentAccess.all bank.entryActive
  | .resolved key entry => bank.live key.id && bank.entryActive entry && bank.backed key
  | .reaching key entry => bank.live key.id && bank.entryActive entry && bank.backed key && bank.tenantReachOn
  | .allowed key entry => bank.live key.id && bank.entryReaches entry && bank.backed key && bank.tenantReachOn
  | .found key entry obligations =>
    bank.live key.id && bank.entryReaches entry && bank.backed key && bank.tenantReachOn && obligations.all (bank.mayRead entry)

/-- A write takes back nothing that a register read under way has found. -/
def Undisturbed (settings : ReachSettings) (desk : ReachDesk) : ReachStep → Prop
  | .writes write => match desk.bank.write settings write with
    | .ok bank => ∀ each ∈ desk.reads, desk.bank.stands each.2.stage = true → bank.stands each.2.stage = true
    | .error _ => True
  | _ => True

instance (settings : ReachSettings) (desk : ReachDesk) (step : ReachStep) : Decidable (Undisturbed settings desk step) := by
  unfold Undisturbed
  split
  · split <;> infer_instance
  · infer_instance

end Grc.Governance
