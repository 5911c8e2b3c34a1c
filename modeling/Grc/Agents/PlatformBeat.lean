import Grc.Agents.Schedule

/-! The beat that starts bleqq's own agents: it reads which are due, takes the first of them, and for each in a transaction of its own
takes the agent's lock, asks whether it is still due and opens its run. Beats may overlap. -/
namespace Grc.Agents.Platform

open Grc.Shared Grc.Lib

/-- `AgentVersion`, as far as a run asks whether it is still published. -/
structure AgentVersion where
  number : Nat
  retired : Bool := false

/-- One of bleqq's agents. -/
structure Agent where
  id : Id
  key : String
  active : Bool := true
  cadence : AgentCadence := .weekly
  versions : List AgentVersion := []

/-- A recorded run. -/
structure AgentRun where
  agent : Id
  scheduled : Bool
  /-- It is a bank's, not in no tenant's zone. -/
  ofBank : Bool := false
  startedAt : UtcTime
  version : Option Nat := none
  /-- Of a run a beat opened, the period it is the one run of: the desk's own account. -/
  period : Option Period := none

def AgentRun.counts (run : AgentRun) : Bool := run.scheduled && !run.ofBank

/-- The calendar period a cadence runs once in. -/
def period : AgentCadence → Option Period
  | .daily => some .day
  | .weekly => some .week
  | .monthly => some .month
  | .manual => none

/-- An agent a beat found due, with the period of the cadence it had then. -/
structure DueAgent where
  id : Id
  period : Period

section Due
variable (runs : List AgentRun)

/-- `Max("runs__started_at")`, of the scheduled runs in no tenant's zone. -/
def lastRun (agent : Id) : Option UtcTime := ((runs.filter fun run => run.counts && run.agent == agent).map (·.startedAt)).max?

/-- `order_by("last_run", "key")`: the database puts an agent that never ran last. -/
def waitsLonger (one other : Agent) : Bool :=
  match lastRun runs one.id, lastRun runs other.id with
  | some first, some second => first < second || first == second && one.key ≤ other.key
  | some _, none => true
  | none, some _ => false
  | none, none => one.key ≤ other.key

def isDue (period : Period) (now : UtcTime) (agent : Id) : Bool :=
  match lastRun runs agent with
  | none => true
  | some last => last < period.start now

def duePlatformAgents (agents : List Agent) (now : UtcTime) : List DueAgent :=
  ((agents.filter (·.active)).insertionSort fun one other => waitsLonger runs one other = true).filterMap fun agent =>
    (period agent.cadence).bind fun period => if isDue runs period now agent.id = true then some { id := agent.id, period } else none

end Due

/-- `version_to_run`: the newest version still published, or the refusal where every version is retired. -/
def versionToRun (versions : List AgentVersion) : Except Refusal (Option Nat) :=
  match ((versions.filter fun version => !version.retired).map (·.number)).max? with
  | some newest => .ok (some newest)
  | none =>
    if versions = [] then .ok none
    else .error {
      code := "no_published_version"
      detail := "Every version of this agent is retired, so no run can start. A platform administrator publishes one." }

def versionsOf (agents : List Agent) (id : Id) : List AgentVersion := (agents.find? (·.id == id)).elim [] (·.versions)

def canRun (agents : List Agent) (agent : DueAgent) : Bool := (versionToRun (versionsOf agents agent.id)).isOk

/-- Where a beat stands. -/
inductive Stage where
  /-- It has read the clock. -/
  | woken
  /-- Between two agents. -/
  | going (rest : List DueAgent)
  /-- The agent's lock is its own, and the agent is still due. -/
  | holding (agent : DueAgent) (rest : List DueAgent)
  /-- The run is written and not committed. -/
  | inserted (run : AgentRun) (rest : List DueAgent)

def Stage.held : Stage → Option Id
  | woken | going _ => none
  | holding agent _ => some agent.id
  | inserted run _ => some run.agent

/-- What a beat found and did, the desk's own account: how many of the agents due could open a run, how many of those it took on could,
and how many runs it opened. -/
structure Account where
  able : Nat := 0
  slots : Nat := 0
  opened : Nat := 0
  deriving DecidableEq

/-- A beat under way. -/
structure Beat where
  now : UtcTime
  stage : Stage := .woken
  account : Account := {}

/-- The agents and runs as committed, and the beats under way. -/
structure BeatDesk where
  now : UtcTime
  agents : Keyed Agent.id := {}
  runs : List AgentRun := []
  /-- `agent_run.skipped`. -/
  skipped : List Id := []
  underway : List (Nat × Beat) := []
  finished : List Account := []

inductive BeatStep where
  | tick (now : UtcTime)
  | start (id : Nat)
  | look (id : Nat)
  | claim (id : Nat)
  | open_ (id : Nat)
  | commit (id : Nat)
  | finish (id : Nat)
  /-- The worker dies: what was not committed is gone. -/
  | abort (id : Nat)
  /-- The console writes the definitions and their versions. -/
  | library (agents : Keyed Agent.id)
  /-- A run of another kind is recorded. -/
  | otherRun (run : AgentRun)

def notNow : Refusal := { code := "not_now", detail := "" }

namespace BeatDesk
variable (lockKey : Id → Nat) (perBeat : Nat) (desk : BeatDesk)

def beatOf (id : Nat) : Except Refusal Beat := demand (heldBy desk.underway id) notNow

def put (id : Nat) (beat : Beat) : BeatDesk := { desk with underway := putBy desk.underway id beat }

/-- `pg_try_advisory_xact_lock`: another beat holds the lock. -/
def locked (id : Nat) (agent : Id) : Prop :=
  ∃ each ∈ desk.underway, each.1 ≠ id ∧ ∃ held ∈ each.2.stage.held, lockKey held = lockKey agent

instance (id : Nat) (agent : Id) : Decidable (desk.locked lockKey id agent) := by
  unfold locked
  infer_instance

def hasRun (agent : Id) (since : UtcTime) : Bool := desk.runs.any fun run => run.counts && run.agent == agent && decide (since ≤ run.startedAt)

/-- `_claim`. -/
def claimed (id : Nat) (beat : Beat) (agent : DueAgent) : Bool :=
  !decide (desk.locked lockKey id agent.id) && !desk.hasRun agent.id (agent.period.start beat.now)

/-- `open_platform_run`, as it writes the run. -/
def openedRun (agent : DueAgent) (version : Option Nat) : AgentRun where
  agent := agent.id
  scheduled := true
  startedAt := desk.now
  version
  period := some agent.period

/-- `run_platform_agents`, one database call at a time. -/
def step : BeatStep → Except Refusal BeatDesk
  | .tick now => do
    require (desk.now ≤ now) notNow
    .ok { desk with now }
  | .start id => do
    require (heldBy desk.underway id = none) notNow
    .ok { desk with underway := desk.underway ++ [(id, { now := desk.now })] }
  | .look id => do
    let beat ← desk.beatOf id
    match beat.stage with
    | .woken =>
      let due := duePlatformAgents desk.runs desk.agents.rows beat.now
      let slice := due.take perBeat
      .ok (desk.put id { beat with
        stage := .going slice
        account := {
          able := (due.filter (canRun desk.agents.rows)).length
          slots := (slice.filter (canRun desk.agents.rows)).length } })
    | _ => .error notNow
  | .claim id => do
    let beat ← desk.beatOf id
    match beat.stage with
    | .going (agent :: rest) =>
      .ok (desk.put id { beat with stage := if desk.claimed lockKey id beat agent = true then .holding agent rest else .going rest })
    | _ => .error notNow
  | .open_ id => do
    let beat ← desk.beatOf id
    match beat.stage with
    | .holding agent rest =>
      match versionToRun (versionsOf desk.agents.rows agent.id) with
      | .ok version => .ok (desk.put id { beat with stage := .inserted (desk.openedRun agent version) rest })
      | .error _ => .ok { desk.put id { beat with stage := .going rest } with skipped := desk.skipped ++ [agent.id] }
    | _ => .error notNow
  | .commit id => do
    let beat ← desk.beatOf id
    match beat.stage with
    | .inserted run rest =>
      .ok { desk.put id { beat with stage := .going rest, account := { beat.account with opened := beat.account.opened + 1 } } with
        runs := desk.runs ++ [run] }
    | _ => .error notNow
  | .finish id => do
    let beat ← desk.beatOf id
    match beat.stage with
    | .going [] => .ok { desk with underway := withoutBy desk.underway id, finished := desk.finished ++ [beat.account] }
    | _ => .error notNow
  | .abort id => .ok { desk with underway := withoutBy desk.underway id }
  | .library agents => .ok { desk with agents }
  | .otherRun run => do
    require (run.counts = false) notNow
    .ok { desk with runs := desk.runs ++ [{ run with period := none }] }

def opened (agents : Keyed Agent.id) (past : List AgentRun) (now : UtcTime) : BeatDesk where
  now
  agents
  runs := past.map fun run => { run with period := none }

end BeatDesk
end Grc.Agents.Platform
