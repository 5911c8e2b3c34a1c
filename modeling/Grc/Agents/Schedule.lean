import Grc.Agents.RunnerEvents
import Grc.Lib.Calendar
import Grc.Lib.Locks

/-! When a bank's own agent runs next, and the calls that write its row: some under the row's lock, some from a row they read before. -/
namespace Grc.Agents

open Grc.Shared Grc.Lib

/-- `AGENT_MIN_CADENCE`, `AGENTS_PER_TENANT_MAX` and `AGENT_DEFAULT_RUN_HOUR`. -/
structure AgentPlan where
  minCadence : AgentCadence
  agentsMax : Nat
  defaultRunHour : Nat

/-- Each bank's time zone: the local date of an instant, and the instant of an hour of a local date. -/
structure BankZones where
  today : Id → Instant → Day
  at_ : Id → Day → Nat → Instant

namespace AgentCadence

/-- `_FREQUENCY.index`: most frequent first. -/
def frequency : AgentCadence → Nat
  | daily => 0
  | weekly => 1
  | monthly => 2
  | manual => 3

def value : AgentCadence → String
  | daily => "daily"
  | weekly => "weekly"
  | monthly => "monthly"
  | manual => "manual"

end AgentCadence

def monday : Nat := 1

/-- `weekday or _MONDAY`. -/
def orMonday : Option Nat → Nat
  | none | some 0 => monday
  | some weekday => weekday

def TenantAgent.runs (agent : TenantAgent) : Bool := agent.enabled && agent.pausedAt.isNone && agent.cadence != .manual

section Next
variable (plan : AgentPlan) (zones : BankZones)

/-- `_schedule`. -/
def scheduled (agent : TenantAgent) : TenantAgent :=
  match agent.cadence with
  | .manual => { agent with runWeekday := none, runHour := none }
  | .daily => { agent with runHour := some (agent.runHour.getD plan.defaultRunHour), runWeekday := none }
  | .weekly | .monthly =>
    { agent with runHour := some (agent.runHour.getD plan.defaultRunHour), runWeekday := some (orMonday agent.runWeekday) }

/-- `date + timedelta(days=…)`, which fails past the last day. -/
def daysAhead (days : Nat) (date : Day) : Except Refusal Day := demand (date.addDays days) internalError

def weekdayFrom (weekday : Nat) (date : Day) : Except Refusal Day := daysAhead ((weekday + 7 - date.isoweekday) % 7) date

/-- The first run weekday of a month after `now`, of so many months from one on. -/
def firstInMonths (at_ : Day → Instant) (weekday : Nat) (now : Instant) : Nat → Day → Except Refusal Instant
  | 0, _ => .error internalError
  | months + 1, month => do
    let first ← weekdayFrom weekday month
    if now < at_ first then .ok (at_ first)
    else do
      let next ← daysAhead 32 month
      firstInMonths at_ weekday now months next.firstOfMonth

def nextRunAt (agent : TenantAgent) (now : Instant) : Except Refusal (Option Instant) :=
  let today := zones.today agent.tenant now
  let at_ (day : Day) := zones.at_ agent.tenant day (agent.runHour.getD plan.defaultRunHour)
  let weekday := orMonday agent.runWeekday
  if agent.runs = false then .ok none
  else match agent.cadence with
    | .manual => .ok none
    | .daily => do
      -- Both days are made before either is looked at.
      let tomorrow ← daysAhead 1 today
      if now < at_ today then .ok (some (at_ today))
      else do
        require (now < at_ tomorrow) internalError
        .ok (some (at_ tomorrow))
    | .weekly => do
      let day ← weekdayFrom weekday today
      if now < at_ day then .ok (some (at_ day))
      else do
        let following ← daysAhead 7 day
        .ok (some (at_ following))
    | .monthly => (firstInMonths at_ weekday now 2 today.firstOfMonth).map some

end Next

/-- `TenantAgentInput`, without the scope. -/
structure TenantAgentInput where
  agent : Id
  cadence : AgentCadence := .weekly
  runWeekday : Option Nat := none
  runHour : Option Nat := none

/-- `TenantAgentUpdate`: the run day and hour may be sent as null. -/
structure TenantAgentUpdate where
  enabled : Option Bool := none
  cadence : Option AgentCadence := none
  runWeekday : Option (Option Nat) := none
  runHour : Option (Option Nat) := none

/-- A bank's agent, with the model's own count of the pauses written on its row. -/
structure AgentRow where
  agent : TenantAgent
  pauses : Nat := 0

def AgentRow.id (row : AgentRow) : Id := row.agent.id

/-- What a call does with an agent's row once it has read it. -/
inductive AgentWrite where
  | update (by_ : Id) (body : TenantAgentUpdate)
  | pause (by_ : Id)
  /-- `put_budget`, of an agent it read on and not paused. -/
  | lowered
  /-- A runner's event that takes the month past the cap. -/
  | overrun
  | resume (by_ : Id)
  /-- The bank's beat; `capped` is whether the run it opens does not fit under the cap. -/
  | beat (capped : Bool)

def AgentWrite.locks : AgentWrite → Bool
  | update _ _ | beat _ => true
  | pause _ | lowered | overrun | resume _ => false

def AgentWrite.resumes : AgentWrite → Bool
  | resume _ => true
  | update _ _ | pause _ | lowered | overrun | beat _ => false

/-- A call under way, with the row as it read it. -/
structure AgentRequest where
  read : AgentRow
  write : AgentWrite

def AgentRequest.loaded (request : AgentRequest) : List AgentRow := if request.write.locks then [request.read] else []

/-- Every bank's agents, the banks with a cap, and the calls under way. `undone` is the model's own account of the pauses undone: which pause it
was, and which the resume had read. -/
structure AgentDesk where
  agents : Keyed AgentRow.id := {}
  budgets : List Id := []
  underway : List (Id × AgentRequest) := []
  undone : List (Nat × Option Nat) := []

section Writes
variable (plan : AgentPlan) (zones : BankZones)

def checkCadence (cadence : AgentCadence) : Except Refusal Unit :=
  require (plan.minCadence.frequency ≤ cadence.frequency) {
    code := "above_plan_limit"
    detail := "The plan allows a cadence of " ++ plan.minCadence.value ++ " at most; " ++ cadence.value ++ " runs more often." }

def checkRange (agent : TenantAgent) : Except Refusal Unit :=
  require ((∀ weekday ∈ agent.runWeekday, 1 ≤ weekday ∧ weekday ≤ 7) ∧ ∀ hour ∈ agent.runHour, hour ≤ 23) internalError

/-- The columns `update_tenant_agent` changes. -/
def patched (budgets : List Id) (agent : TenantAgent) (body : TenantAgentUpdate) : Except Refusal TenantAgent := do
  let _ ← optionally (checkCadence plan) body.cadence
  require (body.enabled = some true → agent.enabled = false → agent.tenant ∈ budgets) {
    code := "budget_cap_required", detail := "Set the monthly cap before switching an agent on." }
  .ok (scheduled plan { agent with
    cadence := body.cadence.getD agent.cadence
    runWeekday := body.runWeekday.getD agent.runWeekday
    runHour := body.runHour.getD agent.runHour
    enabled := body.enabled.getD agent.enabled })

/-- `update_tenant_agent`, which saves the whole row. -/
def updated (budgets : List Id) (read : TenantAgent) (by_ : Id) (body : TenantAgentUpdate) (now : Instant) : Except Refusal TenantAgent := do
  let changed ← patched plan budgets read body
  checkRange changed
  let next ← nextRunAt plan zones changed now
  .ok { changed with nextRunAt := next, updatedBy := some by_ }

/-- `pause`, of a row as it was read, on the row as it stands. -/
def pausedRow (read current : AgentRow) (reason : String) (by_ : Option Id) (now : Instant) : AgentRow :=
  if read.agent.pausedAt.isSome then current
  else { agent := current.agent.paused reason by_ now, pauses := current.pauses + 1 }

/-- `resume`, of a row as it was read, on the row as it stands. -/
def resumedRow (read current : AgentRow) (by_ : Id) (now : Instant) : Except Refusal AgentRow :=
  if read.agent.pausedAt.isNone then .ok current
  else do
    let next ← nextRunAt plan zones { read.agent with pausedAt := none, pausedBy := none, pauseReason := "" } now
    .ok { current with agent := { current.agent with
      pausedAt := none, pausedBy := none, pauseReason := "", nextRunAt := next, updatedBy := some by_ } }

/-- `run_due_tenant_agents`, of one agent: its slot is taken, and a run that does not fit under the cap pauses it. -/
def beaten (read current : AgentRow) (capped : Bool) (now : Instant) : Except Refusal AgentRow := do
  let next ← nextRunAt plan zones read.agent now
  let taken : AgentRow := { current with agent := { current.agent with nextRunAt := next } }
  .ok (if capped = true then pausedRow read taken capReason none now else taken)

/-- What a call makes of the row as it stands. -/
def AgentRequest.result (budgets : List Id) (request : AgentRequest) (current : AgentRow) (now : Instant) : Except Refusal AgentRow :=
  match request.write with
  | .update by_ body => (updated plan zones budgets request.read.agent by_ body now).map fun agent => { current with agent }
  | .pause by_ => .ok (pausedRow request.read current "person" (some by_) now)
  | .lowered | .overrun => .ok (pausedRow request.read current capReason none now)
  | .resume by_ => resumedRow plan zones request.read current by_ now
  | .beat capped => beaten plan zones request.read current capped now

def AgentWrite.picks (agent : TenantAgent) (now : Instant) : AgentWrite → Bool
  | .beat _ => agent.enabled && agent.pausedAt.isNone && agent.nextRunAt.any (· ≤ now)
  | .lowered => agent.enabled && agent.pausedAt.isNone
  | .update _ _ | .pause _ | .overrun | .resume _ => true

end Writes

inductive ScheduleStep where
  | create (tenant by_ : Id) (body : TenantAgentInput)
  /-- `put_budget` writes the cap. -/
  | setCap (tenant : Id)
  /-- A call reads an agent, under its lock if it asks for it. -/
  | read_ (request agent : Id) (write : AgentWrite) (now : Instant)
  /-- It writes the agent and commits. -/
  | write (request : Id) (now : Instant)
  | abort (request : Id)

namespace AgentDesk
variable (plan : AgentPlan) (zones : BankZones) (desk : AgentDesk)

/-- `create_tenant_agent`. -/
def create (tenant by_ : Id) (body : TenantAgentInput) : Except Refusal AgentDesk := do
  checkCadence plan body.cadence
  require ((desk.agents.rows.filter (·.agent.tenant == tenant)).length < plan.agentsMax) {
    code := "above_plan_limit", detail := "The plan allows " ++ toString plan.agentsMax ++ " agents of the bank's own." }
  require (∀ row ∈ desk.agents.rows, ¬(row.agent.tenant = tenant ∧ row.agent.agent = body.agent)) {
    code := "duplicate_key", detail := "The bank has already added this agent." }
  let make (id : Id) : TenantAgent := scheduled plan {
    id, tenant, agent := body.agent, cadence := body.cadence, runWeekday := body.runWeekday, runHour := body.runHour, updatedBy := some by_ }
  checkRange (make desk.agents.fresh)
  .ok { desk with agents := desk.agents.create (fun id => { agent := { make id with id } }) fun _ => rfl }

def undoes (request : AgentRequest) (current after : AgentRow) : List (Nat × Option Nat) :=
  if current.agent.pausedAt.isSome && after.agent.pausedAt.isNone then
    [(current.pauses, if request.read.agent.pausedAt.isSome then some request.read.pauses else none)]
  else []

def step : ScheduleStep → Except Refusal AgentDesk
  | .create tenant by_ body => desk.create plan tenant by_ body
  | .setCap tenant => .ok { desk with budgets := desk.budgets ++ [tenant] }
  | .read_ request agent write now => do
    require (∀ each ∈ desk.underway, each.1 ≠ request) internalError
    let read ← demand (desk.agents.rows.find? (·.id == agent)) notFound
    require (write.picks read.agent now = true) internalError
    require (write.locks = true → lockedRow AgentRow.id AgentRequest.loaded desk.underway read = false) internalError
    .ok { desk with underway := desk.underway ++ [(request, { read, write })] }
  | .write request now => do
    let each ← demand (desk.underway.find? (·.1 == request)) internalError
    let current ← demand (desk.agents.rows.find? (·.id == each.2.read.id)) internalError
    require (each.2.write.locks = false → lockedRow AgentRow.id AgentRequest.loaded desk.underway current = false) internalError
    let after ← each.2.result plan zones desk.budgets current now
    .ok { desk with
      agents := desk.agents.update (·.id == current.id) (fun row => { after with agent := { after.agent with id := row.id } }) fun _ => rfl
      underway := desk.underway.filter (·.1 ≠ request)
      undone := desk.undone ++ undoes each.2 current after }
  | .abort request => .ok { desk with underway := desk.underway.filter (·.1 ≠ request) }

end AgentDesk
end Grc.Agents
