import Grc.Lib.Checks
import Grc.Lib.Runs
import Grc.Shared.Audit
import Mathlib.Algebra.BigOperators.Group.List.Basic
import Mathlib.Algebra.Ring.Nat

/-! A bank's own agents, their runs, and what they cost it in a month: what is spent, what is held for the runs still open, and the cap. -/
namespace Grc.Agents

open Grc.Shared Grc.Lib

inductive RunStatus where
  | running
  | succeeded
  | failed
  | interrupted
  deriving DecidableEq

namespace RunStatus

def value : RunStatus → String
  | running => "running"
  | succeeded => "succeeded"
  | failed => "failed"
  | interrupted => "interrupted"

/-- `RunStatus(text)`. -/
def ofText (text : String) : Option RunStatus := [running, succeeded, failed, interrupted].find? (·.value == text)

end RunStatus

inductive AgentCadence where
  | daily
  | weekly
  | monthly
  | manual
  deriving DecidableEq

/-- A definition, as far as it says who steers its agents. -/
structure AgentDefinition where
  id : Id
  key : String
  tenantScoped : Bool
  tenantConfigurable : Bool

/-- A bank's own agent. -/
structure TenantAgent where
  id : Id
  tenant : Id
  agent : Id
  enabled : Bool := false
  cadence : AgentCadence := .weekly
  runWeekday : Option Nat := none
  runHour : Option Nat := none
  nextRunAt : Option Instant := none
  pausedAt : Option Instant := none
  pausedBy : Option Id := none
  pauseReason : String := ""
  updatedBy : Option Id := none
  deriving DecidableEq

/-- One run. Its limit is in cents and its cost in hundredths of a cent, as the columns keep them. -/
structure AgentRun where
  id : Id
  agent : Id
  tenant : Option Id
  tenantAgent : Option Id
  startedAt : Instant
  finishedAt : Option Instant := none
  status : RunStatus := .running
  stats : Dict Int := []
  error : String := ""
  externalSessionId : String := ""
  budgetLimit : Option Nat := none
  interruptedAt : Option Instant := none
  interruptedBy : Option Id := none
  cost : Option Nat := none
  tokensIn : Option Nat := none
  tokensOut : Option Nat := none

/-- A logged call of a model, by its purpose and what it cost in cents. -/
structure AiGeneration where
  tenant : Option Id
  purpose : String
  createdAt : Instant
  costMinor : Nat

structure TenantAgentBudget where
  tenant : Id
  monthlyCap : Nat
  updatedBy : Option Id := none

structure Tenant where
  id : Id
  name : String
  aiEnabled : Bool := true

/-- `quantize(Decimal("0.00"))` of hundredths of a cent: half a cent goes to the even one. -/
def toCents (amount : Nat) : Nat :=
  if amount % 100 < 50 then amount / 100
  else if amount % 100 = 50 ∧ amount / 100 % 2 = 0 then amount / 100
  else amount / 100 + 1

/-- The calendar month of a bank's own time zone that an instant lies in, as a half-open range. -/
abbrev Months := Id → Instant → Instant × Instant

section Spend
variable (month : Months) (runs : List AgentRun) (generations : List AiGeneration) (tenant : Id) (now : Instant)

def inMonth (instant : Instant) : Bool := decide ((month tenant now).1 ≤ instant ∧ instant < (month tenant now).2)

def monthRuns : List AgentRun :=
  runs.filter fun run => run.tenant == some tenant && run.tenantAgent.isSome && inMonth month tenant now run.startedAt

/-- `cost_minor_between`, of the summaries drafted for the agents the bank runs itself. -/
def summariesMinor : Nat :=
  ((generations.filter fun row => row.tenant == some tenant && row.purpose == "what_applies" &&
    inMonth month tenant now row.createdAt).map (·.costMinor)).sum

def AgentRun.promised (run : AgentRun) : Nat :=
  if run.status = .running then max (run.cost.getD 0) (100 * run.budgetLimit.getD 0) else run.cost.getD 0

/-- `spend`, in cents. -/
def spend : Nat :=
  toCents (((monthRuns month runs tenant now).map fun run => run.cost.getD 0).sum + 100 * summariesMinor month generations tenant now)

/-- `held`, in cents. -/
def held : Nat := toCents ((monthRuns month runs tenant now).map AgentRun.promised).sum

end Spend

/-- Every bank's agents and runs, bleqq's own among them. A run of a bank's own agent is in that bank's zone. -/
structure Ledger where
  definitions : List AgentDefinition := []
  tenants : Keyed Tenant.id := {}
  agents : Keyed TenantAgent.id := {}
  runs : Keyed AgentRun.id := {}
  budgets : List TenantAgentBudget := []
  generations : List AiGeneration := []
  audit : List AuditEvent := []
  notices : List Id := []
  zoned : ∀ run ∈ runs.rows, ∀ own ∈ run.tenantAgent, ∃ agent ∈ agents.rows, agent.id = own ∧ run.tenant = some agent.tenant

namespace Ledger

variable (ledger : Ledger)

def capOf (tenant : Id) : Option Nat := (ledger.budgets.find? (·.tenant == tenant)).map (·.monthlyCap)

/-- `spend`, of the bank's rows as they stand. -/
def spent (month : Months) (tenant : Id) (now : Instant) : Nat := spend month ledger.runs.rows ledger.generations tenant now

def atCap (month : Months) (tenant : Id) (now : Instant) : Bool :=
  match ledger.capOf tenant with
  | none => true
  | some cap => decide (cap ≤ ledger.spent month tenant now)

/-- Whether `ensure_enabled` passes in a zone: no bank's switch reaches the platform's own. -/
def enabledIn : Option Id → Bool
  | none => true
  | some zone => ((ledger.tenants.rows.find? (·.id == zone)).map (·.aiEnabled)) == some true

def keyOf (definition : Id) : String := ((ledger.definitions.find? (·.id == definition)).map (·.key)).getD ""

/-- Whether `refuse_platform_agent` lets a bank steer a definition. -/
def steerable (definition : Id) : Bool :=
  ((ledger.definitions.find? (·.id == definition)).map fun row => row.tenantScoped && row.tenantConfigurable) == some true

/-- `run.save(update_fields=...)`, which moves no run to another agent or zone. -/
def saveRun (id : Id) (change : AgentRun → AgentRun)
    (kept : ∀ run, (change run).id = run.id ∧ (change run).tenant = run.tenant ∧ (change run).tenantAgent = run.tenantAgent) : Ledger where
  definitions := ledger.definitions
  tenants := ledger.tenants
  agents := ledger.agents
  runs := ledger.runs.update (·.id == id) change fun run => (kept run).1
  budgets := ledger.budgets
  generations := ledger.generations
  audit := ledger.audit
  notices := ledger.notices
  zoned := by
    intro run there own names
    obtain ⟨old, before, rfl⟩ := Keyed.mem_update.mp there
    split at names
    · rw [if_pos ‹_›, (kept old).2.1]
      exact ledger.zoned old before own ((kept old).2.2 ▸ names)
    · rw [if_neg ‹_›]
      exact ledger.zoned old before own names

/-- `tenant_agent.save(update_fields=...)`, which moves no agent to another bank. -/
def saveAgent (id : Id) (change : TenantAgent → TenantAgent)
    (kept : ∀ agent, (change agent).id = agent.id ∧ (change agent).tenant = agent.tenant) : Ledger where
  definitions := ledger.definitions
  tenants := ledger.tenants
  agents := ledger.agents.update (·.id == id) change fun agent => (kept agent).1
  runs := ledger.runs
  budgets := ledger.budgets
  generations := ledger.generations
  audit := ledger.audit
  notices := ledger.notices
  zoned := by
    intro run there own names
    obtain ⟨agent, before, its, zone⟩ := ledger.zoned run there own names
    refine ⟨_, Keyed.mem_update.mpr ⟨agent, before, rfl⟩, ?_⟩
    split
    · exact ⟨(kept agent).1.trans its, zone.trans (congrArg some (kept agent).2.symm)⟩
    · exact ⟨its, zone⟩

def recordEvent (event : AuditEvent) : Ledger := { ledger with audit := record ledger.audit event }

end Ledger
end Grc.Agents
