import Grc.Agents.RunnerEvents

/-! The openings of the runs of a bank's own agents: each checks the monthly cap and opens its run in one transaction, and only some of them hold
the bank's spend meanwhile. -/
namespace Grc.Agents

open Grc.Shared Grc.Lib

/-- What opens a run: the schedule, a person's run now, a research request, or a scope item that was added. -/
inductive OpeningDoor where
  | schedule
  | manual
  | request
  | research
  deriving DecidableEq

/-- The doors that go through `fits_the_cap`, which takes the bank's spend lock. -/
def OpeningDoor.locks : OpeningDoor → Bool
  | schedule | manual | request => true
  | research => false

/-- An opening under way: what it read in its transaction. -/
structure Opening where
  tenant : Id
  agent : Id
  door : OpeningDoor
  now : Instant
  cap : Nat

/-- A run as it was opened: the cap its transaction had read, its limit and the month's spend, in cents, and what every open run may still spend, in
hundredths of a cent. -/
structure Opened where
  cap : Nat
  limit : Nat
  spent : Nat
  left : Nat
  deriving DecidableEq

/-- The month's spend, what open runs may still spend and the new run's limit do not exceed the cap. -/
def Opened.WithinCap (opened : Opened) : Prop := 100 * opened.spent + opened.left + 100 * opened.limit ≤ 100 * opened.cap

instance (opened : Opened) : Decidable opened.WithinCap := by
  unfold Opened.WithinCap
  infer_instance

def AgentRun.ownOf (tenant : Id) (run : AgentRun) : Bool := run.tenant == some tenant && run.tenantAgent.isSome

def AgentRun.left (run : AgentRun) : Nat := if run.status = .running then 100 * run.budgetLimit.getD 0 - run.cost.getD 0 else 0

/-- The ledger, the openings under way, and the model's own account of the runs opened. -/
structure CapDesk where
  ledger : Ledger
  underway : List (Id × Opening) := []
  opened : List Opened := []

namespace Ledger
variable (ledger : Ledger) (month : Months)

def leftOf (tenant : Id) : Nat := ((ledger.runs.rows.filter (·.ownOf tenant)).map AgentRun.left).sum

/-- `held`, of the bank's rows as they stand. -/
def heldOf (tenant : Id) (now : Instant) : Nat := held month ledger.runs.rows tenant now

/-- `fits_the_cap`, with the cap it reads. -/
def fitsTheCap (tenant : Id) (now : Instant) (limit : Nat) : Option Nat :=
  (ledger.capOf tenant).filter fun cap => decide (ledger.heldOf month tenant now + limit ≤ cap)

/-- `open_run`, of a bank's own agent in its zone; the runner may not start it. -/
def openRun (own : TenantAgent) (there : own ∈ ledger.agents.rows) (limit : Nat) (startedAt : Instant) (starts : Bool) : Ledger where
  definitions := ledger.definitions
  tenants := ledger.tenants
  agents := ledger.agents
  runs := ledger.runs.create (fun id => {
    id, agent := own.agent, tenant := some own.tenant, tenantAgent := some own.id, startedAt, budgetLimit := some limit
    status := if starts then .running else .failed
    error := if starts then "" else "The runner could not start this run."
    finishedAt := if starts then none else some startedAt }) fun _ => rfl
  budgets := ledger.budgets
  generations := ledger.generations
  audit := ledger.audit
  notices := ledger.notices
  zoned := by
    intro run member own_ names
    rcases (Keyed.mem_create _).mp member with old | rfl
    · exact ledger.zoned run old own_ names
    · obtain rfl := Option.some.inj names
      exact ⟨own, there, rfl, rfl⟩

end Ledger

/-- What may come to the desk. -/
inductive CapStep where
  /-- An opening reads and checks; through `fits_the_cap` it holds the bank's spend from here on. -/
  | check (opening agent : Id) (door : OpeningDoor) (now : Instant)
  /-- It writes the run and commits. -/
  | open_ (opening : Id) (startedAt : Instant) (starts : Bool)
  | abort (opening : Id)
  /-- The runner's events, stops, caps and switches, and the summaries drafted meanwhile. -/
  | other (now : Instant) (call : RunCall)

namespace CapDesk
variable (month : Months) (limit : Nat) (desk : CapDesk)

section
variable (own : TenantAgent) (door : OpeningDoor) (now : Instant)

/-- What every door asks of the agent before the cap. -/
def mayOpen : Except Refusal Unit := do
  require (own.enabled = true) { code := "agent_disabled", detail := "The agent is switched off. Switch it on first." }
  require (own.pausedAt = none) { code := "agent_paused", detail := "The agent is paused. Resume it first." }
  require (door = .schedule → own.nextRunAt.any (· ≤ now) = true) internalError
  require (desk.ledger.enabledIn (some own.tenant) = true) { code := "feature_off", detail := "Your organisation has switched its AI features off." }

/-- The cap, where it lets the opening through: what is held and the limit fit under it, or for research the spend has not reached it. -/
def capRead : Option Nat :=
  if door.locks then desk.ledger.fitsTheCap month own.tenant now limit
  else (desk.ledger.capOf own.tenant).filter fun _ => desk.ledger.atCap month own.tenant now = false

/-- What follows where the cap stops an opening: a scheduled run pauses its agent, research waits, and a person is refused. -/
def capped : Except Refusal CapDesk :=
  match door with
  | .schedule => (pause desk.ledger now own capReason none).map fun paused => { desk with ledger := notifyCap paused own }
  | .research => .ok desk
  | .manual => .error {
    code := "budget_cap_reached", detail := "This run could cost more than is left of the bank's monthly cap on its own agents." }
  | .request => .error {
    code := "budget_cap_reached", detail := "This run could cost more than is left of this month's cap, or no cap is set." }

end

def step : CapStep → Except Refusal CapDesk
  | .check opening agent door now => do
    require (∀ each ∈ desk.underway, each.1 ≠ opening) internalError
    let own ← demand (desk.ledger.agents.rows.find? (·.id == agent)) notFound
    desk.mayOpen own door now
    require (door.locks = true → ∀ each ∈ desk.underway, each.2.door.locks = true → each.2.tenant ≠ own.tenant) internalError
    match desk.capRead month limit own door now with
    | some cap => .ok { desk with underway := desk.underway ++ [(opening, { tenant := own.tenant, agent := own.id, door, now, cap })] }
    | none => desk.capped own door now
  | .open_ opening startedAt starts => do
    let each ← demand (desk.underway.find? (·.1 == opening)) internalError
    let own ← demand (desk.ledger.agents.rows.find? fun row => row.id == each.2.agent && row.tenant == each.2.tenant) internalError
    if there : own ∈ desk.ledger.agents.rows then
      .ok {
        ledger := desk.ledger.openRun own there limit startedAt starts
        underway := desk.underway.filter (·.1 ≠ opening)
        opened := desk.opened ++ [{
          cap := each.2.cap, limit, spent := desk.ledger.spent month each.2.tenant each.2.now, left := desk.ledger.leftOf each.2.tenant }] }
    else .error internalError
  | .abort opening => .ok { desk with underway := desk.underway.filter (·.1 ≠ opening) }
  | .other now call => (handle month desk.ledger (now, call)).map fun ledger => { desk with ledger }

end CapDesk
end Grc.Agents
