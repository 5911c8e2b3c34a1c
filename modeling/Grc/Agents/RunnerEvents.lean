import Grc.Agents.Ledger
import Mathlib.Algebra.Order.Ring.Rat
import Mathlib.Data.Rat.Floor

/-! What a runner reports reaches a run through one door, which holds an open run of a bank's own agent to the bank's cap and its AI switch; and
what else moves them: a person's stop, a cap set and the switch. -/
namespace Grc.Agents

open Grc.Shared Grc.Lib

/-- A decimal number as a runner may report it. -/
inductive Decimal where
  | finite (value : Rat)
  | infinite
  | nan

/-- A counter of a run: its name in the code and in the column, and whether it may be negative. -/
structure Counter where
  name : String
  spelled : String
  signed : Bool := true

/-- `AgentRunStats`. -/
def counters : List Counter := [
  { name := "model_calls", spelled := "modelCalls" },
  { name := "fetches", spelled := "fetches" },
  { name := "sources_checked", spelled := "sourcesChecked" },
  { name := "changes_registered", spelled := "changesRegistered" },
  { name := "proposals_submitted", spelled := "proposalsSubmitted" },
  { name := "out_of_scope", spelled := "outOfScope", signed := false },
  { name := "records_rechecked", spelled := "recordsRechecked", signed := false },
  { name := "corrections_proposed", spelled := "correctionsProposed", signed := false }]

/-- `RunnerEvent`; a counter is none where what was sent is no whole number. -/
structure RunnerEvent where
  runId : Id
  status : String
  stats : Dict (Option Int) := []
  cost : Option Decimal := none
  tokensIn : Option Int := none
  tokensOut : Option Int := none
  error : String := ""

def tokensCeiling : Int := 2 ^ 63 - 1

def costCeiling : Rat := 1000000

def errorMax : Nat := 2000

def capReason : String := "budget_cap"

def runnerActor : Actor := .ofSystem "agent_runner"

/-- `AgentRunStats.model_validate(…).model_dump(by_alias=True)`. -/
def readStats (sent : Dict (Option Int)) : Option (Dict Int) :=
  counters.mapM fun counter =>
    match (sent.get counter.spelled).or (sent.get counter.name) with
    | none => some (counter.spelled, 0)
    | some none => none
    | some (some value) => if counter.signed = true ∨ 0 ≤ value then some (counter.spelled, value) else none

def costOf : Decimal → Option Nat
  | .finite value => if 0 ≤ value ∧ value < costCeiling ∧ (value * 10000).den = 1 then some (value * 10000).num.toNat else none
  | _ => none

def tokensOf (tokens : Int) : Option Nat := if 0 ≤ tokens ∧ tokens ≤ tokensCeiling then some tokens.toNat else none

def invalidEvent (detail : String) : Refusal := { code := "invalid_runner_event", detail }

/-- Whether a total goes on from what was stored: never down, and never back to none. -/
def goesOn (stored reported : Option Nat) : Bool :=
  match stored, reported with
  | none, _ => true
  | some _, none => false
  | some stored, some reported => decide (stored ≤ reported)

/-- What an event that passed says. -/
structure Reported where
  status : RunStatus
  stats : Dict Int
  cost : Option Nat
  tokensIn : Option Nat
  tokensOut : Option Nat
  error : String

def validated (run : AgentRun) (event : RunnerEvent) : Except Refusal Reported := do
  let unknown := invalidEvent "The runner reported a status or counters a run does not have."
  let status ← demand (RunStatus.ofText event.status) unknown
  let stats ← demand (readStats event.stats) unknown
  require (∀ counter ∈ event.stats.keys, counter ∈ stats.keys) (invalidEvent "The runner reported a counter a run does not keep.")
  let cost ← optionally (fun cost => demand (costOf cost) (invalidEvent "The runner reported a cost a run cannot have.")) event.cost
  let tokens (count : Int) := demand (tokensOf count) (invalidEvent "The runner reported a token count a run cannot have.")
  let tokensIn ← optionally tokens event.tokensIn
  let tokensOut ← optionally tokens event.tokensOut
  require ((goesOn run.cost cost && goesOn run.tokensIn tokensIn && goesOn run.tokensOut tokensOut) = true)
    (invalidEvent "The runner reported less spent than it already had.")
  require (event.error.length ≤ errorMax) (invalidEvent "The runner reported an error longer than 2000 characters.")
  .ok { status, stats, cost, tokensIn, tokensOut, error := event.error }

/-- The columns an event writes. -/
def AgentRun.report (said : Reported) (now : Instant) (run : AgentRun) : AgentRun :=
  { run with
    status := said.status, stats := said.stats, cost := said.cost, tokensIn := said.tokensIn, tokensOut := said.tokensOut
    error := said.error
    finishedAt := if said.status = .running then run.finishedAt else some now
    interruptedAt := if said.status = .interrupted then some now else run.interruptedAt }

def AgentRun.stopped (by_ : Option Id) (now : Instant) (run : AgentRun) : AgentRun :=
  { run with status := .interrupted, finishedAt := some now, interruptedAt := some now, interruptedBy := by_ }

def TenantAgent.paused (reason : String) (by_ : Option Id) (now : Instant) (agent : TenantAgent) : TenantAgent :=
  { agent with pausedAt := some now, pausedBy := by_, pauseReason := reason, nextRunAt := none }

/-- `_state`, of a run. -/
def runState (run : AgentRun) : List (String × AuditValue) :=
  let number (value : Option Nat) : AuditValue := value.elim .absent .number
  [("status", .text run.status.value), ("cost", number run.cost), ("tokensIn", number run.tokensIn), ("tokensOut", number run.tokensOut)]

/-- `_open_run`: the running run of the caller's zone. A run of no bank is read in every zone. -/
def openRun (ledger : Ledger) (zone : Option Id) (runId : Id) : Except Refusal AgentRun := do
  let run ← demand (ledger.runs.rows.find? fun run => run.id == runId && (run.tenant == none || run.tenant == zone))
    { code := "not_found", detail := "No run has that id." }
  require (run.tenant = zone) { code := "wrong_zone", detail := "That run belongs to another zone than the one applying its event." }
  require (run.status = .running) { code := "run_finished", detail := "That run has finished, so it takes no more events." }
  .ok run

/-- A person acting, by id and name. -/
structure Person where
  id : Id
  name : String

def Person.actor (person : Person) : Actor := { kind := .user, id := some person.id, label := person.name }

section Calls
variable (ledger : Ledger) (month : Months) (now : Instant)

/-- `stop`, where the runner answers. -/
def stop (run : AgentRun) (by_ : Option Person) (reason : String) (answers : Bool) : Except Refusal Ledger := do
  require (answers = true) internalError
  let saved := ledger.saveRun run.id (AgentRun.stopped (by_.map (·.id)) now) fun _ => ⟨rfl, rfl, rfl⟩
  .ok (saved.recordEvent {
    action := "agent_run.interrupted", actor := (by_.map Person.actor).getD runnerActor
    subjectType := "agent_run", subjectId := some run.id, subjectTitle := ledger.keyOf run.agent
    summary := "Stopped a run of " ++ ledger.keyOf run.agent ++ ".", tenantId := run.tenant
    before := [("status", .text RunStatus.running.value)]
    after := [("status", .text RunStatus.interrupted.value), ("reason", .text reason)] })

def notSteered : Refusal := { code := "permission_denied", detail := "Only bleqq changes its own agents." }

/-- `pause`, of an agent as it was read. -/
def pause (agent : TenantAgent) (reason : String) (by_ : Option Person) : Except Refusal Ledger := do
  require (ledger.steerable agent.agent = true) notSteered
  if agent.pausedAt.isSome then .ok ledger
  else
    let saved := ledger.saveAgent agent.id (TenantAgent.paused reason (by_.map (·.id)) now) fun _ => ⟨rfl, rfl⟩
    .ok (saved.recordEvent {
      action := "agents.tenant_agent_paused", actor := (by_.map Person.actor).getD (.ofSystem "system")
      subjectType := "tenant_agent", subjectId := some agent.id, subjectTitle := ledger.keyOf agent.agent
      summary := "Paused the agent " ++ ledger.keyOf agent.agent ++ ".", tenantId := some agent.tenant
      after := [("enabled", .flag agent.enabled), ("pauseReason", .text reason)] })

def notifyCap (agent : TenantAgent) : Ledger := { ledger with notices := ledger.notices ++ [agent.id] }

def holdToTheCap (run : AgentRun) (answers : Bool) : Except Refusal Ledger :=
  match run.tenantAgent with
  | none => .ok ledger
  | some own => do
    let agent ← demand (ledger.agents.rows.find? (·.id == own)) internalError
    if ledger.enabledIn run.tenant = false then stop ledger now run none "feature_off" answers
    else do
      require (∃ tenant ∈ ledger.tenants.rows, tenant.id = agent.tenant) internalError
      if ∃ cap ∈ ledger.capOf agent.tenant, ledger.spent month agent.tenant now ≤ cap then .ok ledger
      else do
        let stopped ← stop ledger now run none capReason answers
        let paused ← pause stopped now agent capReason none
        .ok (notifyCap paused agent)

/-- What an event says of a run, written and recorded. -/
def saveReported (run : AgentRun) (said : Reported) : Ledger :=
  (ledger.saveRun run.id (AgentRun.report said now) fun _ => ⟨rfl, rfl, rfl⟩).recordEvent {
    action := "agent_run.runner_event", actor := runnerActor, subjectType := "agent_run", subjectId := some run.id
    subjectTitle := ledger.keyOf run.agent
    summary := "The runner reported " ++ ledger.keyOf run.agent ++ "'s run as " ++ said.status.value ++ ".", tenantId := run.tenant
    before := runState run, after := runState (run.report said now) }

/-- `apply_event`, in a zone; `answers` is whether the runner can be asked to stop. -/
def applyEvent (zone : Option Id) (event : RunnerEvent) (answers : Bool) : Except Refusal Ledger := do
  let run ← openRun ledger zone event.runId
  let said ← validated run event
  let saved := saveReported ledger now run said
  if said.status = .running then holdToTheCap saved month now (run.report said now) answers else .ok saved

/-- `interrupt`: a person of a bank stops a run. -/
def interrupt (tenant : Id) (by_ : Person) (runId : Id) (answers : Bool) : Except Refusal Ledger := do
  let run ← demand (ledger.runs.rows.find? fun run => run.id == runId && (run.tenant == none || run.tenant == some tenant)) notFound
  require (run.tenant ≠ none) notSteered
  require (ledger.steerable run.agent = true) notSteered
  require (run.status = .running) { code := "run_finished", detail := "The run had already finished, so nothing was stopped." }
  stop ledger now run (some by_) "person" answers

def setCap (budgets : List TenantAgentBudget) (tenant cap : Nat) (by_ : Id) : List TenantAgentBudget :=
  if budgets.any (·.tenant == tenant) = true then
    budgets.map fun row => if row.tenant = tenant then { row with monthlyCap := cap, updatedBy := some by_ } else row
  else budgets ++ [{ tenant, monthlyCap := cap, updatedBy := some by_ }]

/-- `put_budget`: at or below the month's spend, every running agent of the bank's own is paused at once. -/
def putBudget (tenant : Id) (by_ : Person) (cap : Nat) : Except Refusal Ledger :=
  let number (cap : Option Nat) : List (String × AuditValue) := cap.elim [] fun cap => [("monthlyCap", .number cap)]
  let saved := ({ ledger with budgets := setCap ledger.budgets tenant cap by_.id } : Ledger).recordEvent {
    action := "agents.budget_set", actor := by_.actor, subjectType := "tenant_agent_budget", subjectId := some tenant
    subjectTitle := "monthly cap", summary := "Set the monthly cap on the bank's own agents.", tenantId := some tenant
    before := number (ledger.capOf tenant), after := number (some cap) }
  if saved.atCap month tenant now = true then
    (saved.agents.rows.filter fun agent => agent.tenant == tenant && agent.enabled && agent.pausedAt.isNone).foldlM
      (fun ledger agent => pause ledger now agent capReason none) saved
  else .ok saved

def setAiEnabled (tenant : Id) (by_ : Person) (enabled : Bool) (stepUp : Option Id) : Except Refusal Ledger := do
  let row ← demand (ledger.tenants.rows.find? (·.id == tenant)) internalError
  let saved : Ledger := { ledger with
    tenants := ledger.tenants.update (·.id == tenant) (fun row => { row with aiEnabled := enabled }) fun _ => rfl }
  .ok (saved.recordEvent {
    action := "tenant.ai_switched", actor := by_.actor, subjectType := "tenant", subjectId := some tenant, subjectTitle := row.name
    summary := if enabled then "AI features switched on." else "AI features switched off.", tenantId := some tenant
    before := [("aiEnabled", .flag row.aiEnabled)], after := [("aiEnabled", .flag enabled)], stepUpAssertionId := stepUp })

end Calls

/-- What moves a run's account: the runner's events, stops, caps and switches, and the summaries drafted meanwhile. -/
inductive RunCall where
  | event (zone : Option Id) (event : RunnerEvent) (answers : Bool)
  | interrupt (tenant : Id) (by_ : Person) (runId : Id) (answers : Bool)
  | putBudget (tenant : Id) (by_ : Person) (cap : Nat)
  | setAiEnabled (tenant : Id) (by_ : Person) (enabled : Bool) (stepUp : Option Id)
  | drafted (generation : AiGeneration)

/-- One call, at its moment. -/
def handle (month : Months) (ledger : Ledger) (call : Instant × RunCall) : Except Refusal Ledger :=
  match call.2 with
  | .event zone event answers => applyEvent ledger month call.1 zone event answers
  | .interrupt tenant by_ runId answers => interrupt ledger call.1 tenant by_ runId answers
  | .putBudget tenant by_ cap => putBudget ledger month call.1 tenant by_ cap
  | .setAiEnabled tenant by_ enabled stepUp => setAiEnabled ledger tenant by_ enabled stepUp
  | .drafted generation => .ok { ledger with generations := ledger.generations ++ [generation] }

/-! A run's account under its runner's events: totals only grow, a finished run stays as it is, and a run an event leaves open is within the
bank's cap with its AI on. -/

variable {ledger after : Ledger} {month : Months} {now : Instant} {zone : Option Id} {run : AgentRun} {event : RunnerEvent} {said : Reported}
  {answers : Bool}

theorem goesOn_refl (total : Option Nat) : goesOn total total = true := by
  cases total with
  | none => rfl
  | some total => exact decide_eq_true (le_refl total)

theorem goesOn_trans {first second third : Option Nat} (start : goesOn first second = true) (later : goesOn second third = true) :
    goesOn first third = true := by
  cases first with
  | none => rfl
  | some first =>
    cases second with
    | none => cases start
    | some second =>
      cases third with
      | none => cases later
      | some third => exact decide_eq_true ((of_decide_eq_true start).trans (of_decide_eq_true later))

/-- What became of a run: its totals went on from where they were, and once finished nothing about it changed. -/
structure AgentRun.GoesOn (run later : AgentRun) : Prop where
  cost : goesOn run.cost later.cost = true
  tokensIn : goesOn run.tokensIn later.tokensIn = true
  tokensOut : goesOn run.tokensOut later.tokensOut = true
  finished : run.status ≠ .running → later = run

namespace AgentRun.GoesOn

theorem refl (run : AgentRun) : run.GoesOn run :=
  ⟨goesOn_refl _, goesOn_refl _, goesOn_refl _, fun _ => rfl⟩

theorem trans {run later last : AgentRun} (first : run.GoesOn later) (second : later.GoesOn last) : run.GoesOn last where
  cost := goesOn_trans first.cost second.cost
  tokensIn := goesOn_trans first.tokensIn second.tokensIn
  tokensOut := goesOn_trans first.tokensOut second.tokensOut
  finished := by
    intro done
    obtain rfl := first.finished done
    exact second.finished done

theorem stopped (open_ : run.status = .running) (by_ : Option Id) (now : Instant) : run.GoesOn (run.stopped by_ now) :=
  ⟨goesOn_refl _, goesOn_refl _, goesOn_refl _, fun done => absurd open_ done⟩

end AgentRun.GoesOn

/-- What became of the runs: each goes on, and none appears. -/
abbrev Ledger.GoesOn (ledger after : Ledger) : Prop := Keyed.Evolves AgentRun.GoesOn (fun _ => False) ledger.runs after.runs

theorem Ledger.GoesOn.of_runs (same : after.runs = ledger.runs) : ledger.GoesOn after := by
  rw [Ledger.GoesOn, same]
  exact .refl AgentRun.GoesOn.refl

theorem Ledger.GoesOn.then {last : Ledger} (first : ledger.GoesOn after) (second : after.GoesOn last) : ledger.GoesOn last :=
  first.trans second AgentRun.GoesOn.trans fun impossible _ _ => impossible

theorem saveRun_goesOn (id : Id) (change : AgentRun → AgentRun)
    (kept : ∀ run, (change run).id = run.id ∧ (change run).tenant = run.tenant ∧ (change run).tenantAgent = run.tenantAgent)
    (goes : ∀ row ∈ ledger.runs.rows, row.id = id → row.GoesOn (change row)) : ledger.GoesOn (ledger.saveRun id change kept) :=
  .update AgentRun.GoesOn.refl (fun row => (kept row).1) fun row there named => goes row there (beq_iff_eq.mp named)

theorem openRun_ok {runId : Id} (found : openRun ledger zone runId = .ok run) :
    run ∈ ledger.runs.rows ∧ run.id = runId ∧ run.tenant = zone ∧ run.status = .running := by
  obtain ⟨_, there, found⟩ := bind_ok.mp found
  obtain ⟨_, inZone, found⟩ := bind_ok.mp found
  obtain ⟨_, running, found⟩ := bind_ok.mp found
  obtain rfl := Except.ok.inj found
  have seen := demand_ok.mp there
  have its := List.find?_some seen
  rw [Bool.and_eq_true, beq_iff_eq] at its
  exact ⟨List.mem_of_find?_eq_some seen, its.1, require_ok.mp inZone, require_ok.mp running⟩

theorem validated_goesOn (passed : validated run event = .ok said) :
    goesOn run.cost said.cost = true ∧ goesOn run.tokensIn said.tokensIn = true ∧ goesOn run.tokensOut said.tokensOut = true := by
  obtain ⟨_, -, passed⟩ := bind_ok.mp passed
  obtain ⟨_, _, passed⟩ := bind_ok.mp passed
  obtain ⟨_, _, passed⟩ := bind_ok.mp passed
  obtain ⟨_, _, passed⟩ := bind_ok.mp passed
  obtain ⟨_, _, passed⟩ := bind_ok.mp passed
  obtain ⟨_, _, passed⟩ := bind_ok.mp passed
  obtain ⟨_, totals, passed⟩ := bind_ok.mp passed
  obtain ⟨_, _, passed⟩ := bind_ok.mp passed
  obtain rfl := Except.ok.inj passed
  have kept := require_ok.mp totals
  rw [Bool.and_eq_true, Bool.and_eq_true] at kept
  exact ⟨kept.1.1, kept.1.2, kept.2⟩

theorem stop_ok {by_ : Option Person} {reason : String} (done : stop ledger now run by_ reason answers = .ok after) :
    (∀ row, row ∈ after.runs.rows ↔ ∃ old ∈ ledger.runs.rows, row = if old.id = run.id then old.stopped (by_.map (·.id)) now else old) ∧
      ((∀ row ∈ ledger.runs.rows, row.id = run.id → row.status = .running) → ledger.GoesOn after) := by
  obtain ⟨_, -, done⟩ := bind_ok.mp done
  obtain rfl := Except.ok.inj done
  constructor
  · intro row
    simp only [Ledger.recordEvent, Ledger.saveRun, Keyed.mem_update, beq_iff_eq]
  · intro running
    exact saveRun_goesOn run.id (AgentRun.stopped (by_.map (·.id)) now) (fun _ => ⟨rfl, rfl, rfl⟩) fun row there named =>
      .stopped (running row there named) _ _

theorem pause_runs {agent : TenantAgent} {reason : String} {by_ : Option Person}
    (done : pause ledger now agent reason by_ = .ok after) : after.runs = ledger.runs := by
  obtain ⟨_, -, done⟩ := bind_ok.mp done
  split at done
  · exact Except.ok.inj done ▸ rfl
  · exact Except.ok.inj done ▸ rfl

theorem holdToTheCap_ok (done : holdToTheCap ledger month now run answers = .ok after) :
    (after = ledger ∧ (run.tenantAgent = none ∨ ∃ agent ∈ ledger.agents.rows, run.tenantAgent = some agent.id ∧
        ledger.enabledIn run.tenant = true ∧ ∃ cap ∈ ledger.capOf agent.tenant, ledger.spent month agent.tenant now ≤ cap)) ∨
      ∃ stopped reason, stop ledger now run none reason answers = .ok stopped ∧ after.runs = stopped.runs := by
  unfold holdToTheCap at done
  split at done
  · exact .inl ⟨(Except.ok.inj done).symm, .inl ‹_›⟩
  · rename_i own names
    obtain ⟨agent, found, done⟩ := bind_ok.mp done
    have seen := demand_ok.mp found
    have its := List.find?_some seen
    rw [beq_iff_eq] at its
    split at done
    · exact .inr ⟨after, _, done, rfl⟩
    · rename_i enabled
      obtain ⟨_, -, done⟩ := bind_ok.mp done
      split at done
      · rename_i within
        obtain rfl := Except.ok.inj done
        refine .inl ⟨rfl, .inr ⟨agent, List.mem_of_find?_eq_some seen, names.trans (congrArg some its.symm), ?_, within⟩⟩
        exact Bool.eq_true_of_not_eq_false enabled
      · obtain ⟨stopped, ended, done⟩ := bind_ok.mp done
        obtain ⟨paused, pausing, done⟩ := bind_ok.mp done
        obtain rfl := Except.ok.inj done
        have runs : paused.runs = stopped.runs := pause_runs pausing
        exact .inr ⟨stopped, capReason, ended, runs⟩

theorem mem_saveReported {row : AgentRun} : row ∈ (saveReported ledger now run said).runs.rows ↔
    ∃ old ∈ ledger.runs.rows, row = if old.id = run.id then old.report said now else old := by
  simp only [saveReported, Ledger.recordEvent, Ledger.saveRun, Keyed.mem_update, beq_iff_eq]

theorem applyEvent_ok (done : applyEvent ledger month now zone event answers = .ok after) :
    ∃ run said, run ∈ ledger.runs.rows ∧ run.id = event.runId ∧ run.tenant = zone ∧ ledger.GoesOn (saveReported ledger now run said) ∧
      if said.status = .running then holdToTheCap (saveReported ledger now run said) month now (run.report said now) answers = .ok after
      else after = saveReported ledger now run said := by
  obtain ⟨run, opened, done⟩ := bind_ok.mp done
  obtain ⟨said, passed, done⟩ := bind_ok.mp done
  obtain ⟨there, its, inZone, running⟩ := openRun_ok opened
  obtain ⟨cost, tokensIn, tokensOut⟩ := validated_goesOn passed
  refine ⟨run, said, there, its, inZone, ?_, ?_⟩
  · refine saveRun_goesOn run.id (AgentRun.report said now) (fun _ => ⟨rfl, rfl, rfl⟩) fun row listed named => ?_
    obtain rfl := ledger.runs.eq_of_key listed there named
    exact ⟨cost, tokensIn, tokensOut, fun done => absurd running done⟩
  · dsimp only at done
    split at done
    · rename_i open_
      rwa [if_pos open_]
    · rename_i closed
      rw [if_neg closed]
      exact (Except.ok.inj done).symm

theorem reported_of_id {row : AgentRun} (there : run ∈ ledger.runs.rows) (listed : row ∈ (saveReported ledger now run said).runs.rows)
    (named : row.id = run.id) : row = run.report said now := by
  obtain ⟨old, before, same⟩ := mem_saveReported.mp listed
  split at same
  · rename_i its
    obtain rfl := ledger.runs.eq_of_key before there its
    exact same
  · rename_i other
    exact absurd (same ▸ named) other

theorem applyEvent_goesOn (done : applyEvent ledger month now zone event answers = .ok after) : ledger.GoesOn after := by
  obtain ⟨run, said, there, -, -, goes, held⟩ := applyEvent_ok done
  split at held
  · rename_i open_
    rcases holdToTheCap_ok held with ⟨rfl, -⟩ | ⟨stopped, reason, ended, same⟩
    · exact goes
    · have stops := (stop_ok ended).2 fun row listed named => by
        rw [reported_of_id there listed named]
        exact open_
      exact goes.then (stops.then (.of_runs same))
  · exact held ▸ goes

theorem applyEvent_capped (done : applyEvent ledger month now zone event answers = .ok after) {row : AgentRun} (there : row ∈ after.runs.rows)
    (named : row.id = event.runId) (open_ : row.status = .running) (own : row.tenantAgent ≠ none) :
    ∃ bank, row.tenant = some bank ∧ after.enabledIn (some bank) = true ∧ ∃ cap ∈ after.capOf bank, after.spent month bank now ≤ cap := by
  obtain ⟨run, said, before, its, -, -, held⟩ := applyEvent_ok done
  rw [← its] at named
  split at held
  · rcases holdToTheCap_ok held with ⟨rfl, none | ⟨agent, listed, names, enabled, within⟩⟩ | ⟨stopped, reason, ended, same⟩
    · exact absurd (reported_of_id before there named ▸ none) own
    · obtain rfl := reported_of_id before there named
      obtain ⟨kept, agents, same, zone⟩ := Ledger.zoned _ _ there agent.id names
      obtain rfl := Keyed.eq_of_key _ agents listed same
      exact ⟨kept.tenant, zone, zone ▸ enabled, within⟩
    · rw [same] at there
      obtain ⟨old, listed, rfl⟩ := ((stop_ok ended).1 row).mp there
      split at open_
      · cases open_
      · rename_i other
        rw [if_neg other] at named
        exact absurd named other
  · rename_i closed
    subst held
    rw [reported_of_id before there named] at open_
    exact absurd open_ closed

section Others
variable {tenant : Id} {by_ : Person}

theorem interrupt_goesOn {runId : Id} (done : interrupt ledger now tenant by_ runId answers = .ok after) : ledger.GoesOn after := by
  obtain ⟨run, found, done⟩ := bind_ok.mp done
  obtain ⟨_, -, done⟩ := bind_ok.mp done
  obtain ⟨_, -, done⟩ := bind_ok.mp done
  obtain ⟨_, running, done⟩ := bind_ok.mp done
  have there := List.mem_of_find?_eq_some (demand_ok.mp found)
  refine (stop_ok done).2 fun row listed named => ?_
  rw [ledger.runs.eq_of_key listed there named]
  exact require_ok.mp running

theorem pauses_runs {agents : List TenantAgent} {reason : String} {by_ : Option Person}
    (done : agents.foldlM (fun ledger agent => pause ledger now agent reason by_) ledger = .ok after) : after.runs = ledger.runs := by
  induction agents generalizing ledger with
  | nil => exact congrArg Ledger.runs (Except.ok.inj done).symm
  | cons agent rest ih =>
    rw [List.foldlM_cons] at done
    obtain ⟨paused, first, later⟩ := bind_ok.mp done
    exact (ih later).trans (pause_runs first)

theorem putBudget_goesOn {cap : Nat} (done : putBudget ledger month now tenant by_ cap = .ok after) : ledger.GoesOn after := by
  unfold putBudget at done
  dsimp only at done
  split at done
  · exact .of_runs ((pauses_runs done).trans rfl)
  · exact .of_runs (Except.ok.inj done ▸ rfl)

theorem setAiEnabled_goesOn {enabled : Bool} {stepUp : Option Id} (done : setAiEnabled ledger tenant by_ enabled stepUp = .ok after) :
    ledger.GoesOn after := by
  obtain ⟨_, -, done⟩ := bind_ok.mp done
  exact .of_runs (Except.ok.inj done ▸ rfl)

end Others

theorem handle_goesOn {call : Instant × RunCall} (done : handle month ledger call = .ok after) : ledger.GoesOn after := by
  obtain ⟨now, call⟩ := call
  cases call with
  | event zone event answers => exact applyEvent_goesOn done
  | interrupt tenant by_ runId answers => exact interrupt_goesOn done
  | putBudget tenant by_ cap => exact putBudget_goesOn done
  | setAiEnabled tenant by_ enabled stepUp => exact setAiEnabled_goesOn done
  | drafted generation => exact .of_runs (Except.ok.inj done ▸ rfl)

/-- What an event keeps, in a ledger it comes to. -/
structure EventKept (month : Months) (ledger : Ledger) (now : Instant) (zone : Option Id) (event : RunnerEvent) (answers : Bool) : Prop where
  finished : ∀ run ∈ ledger.runs.rows, run.status ≠ .running →
    run ∈ (settle (handle month) ledger (now, .event zone event answers)).runs.rows
  foreign : (∀ run ∈ ledger.runs.rows, run.id = event.runId → run.tenant ≠ zone) →
    settle (handle month) ledger (now, .event zone event answers) = ledger
  refused : ∀ refused, handle month ledger (now, .event zone event answers) = .error refused →
    settle (handle month) ledger (now, .event zone event answers) = ledger
  capped : ∀ after, handle month ledger (now, .event zone event answers) = .ok after → ∀ run ∈ after.runs.rows, run.id = event.runId →
    run.status = .running → run.tenantAgent ≠ none →
    ∃ bank, run.tenant = some bank ∧ after.enabledIn (some bank) = true ∧ ∃ cap ∈ after.capOf bank, after.spent month bank now ≤ cap

theorem event_kept (month : Months) (ledger : Ledger) (now : Instant) (zone : Option Id) (event : RunnerEvent) (answers : Bool) :
    EventKept month ledger now zone event answers where
  finished := by
    intro run there done
    refine @settle_invariant _ _ _ (handle month) ledger (fun after => run ∈ after.runs.rows) _ there fun after accepted => ?_
    obtain ⟨later, listed, same, goes⟩ := (applyEvent_goesOn accepted).kept run there
    exact goes.finished done ▸ listed
  foreign := by
    intro foreign
    cases done : handle month ledger (now, .event zone event answers) with
    | error refused => exact settle_error done
    | ok after =>
      obtain ⟨run, said, there, its, inZone, -, -⟩ := applyEvent_ok done
      exact absurd inZone (foreign run there its)
  refused := fun refused refusal => settle_error refusal
  capped := fun after done run there named open_ own => applyEvent_capped done there named open_ own

/-- Whatever comes to a ledger, each of its runs goes on, and every event then keeps what an event keeps. -/
theorem run_account (month : Months) (ledger : Ledger) (calls : List (Instant × RunCall)) :
    ledger.GoesOn (Lib.run (handle month) ledger calls) ∧
      ∀ now zone event answers, EventKept month (Lib.run (handle month) ledger calls) now zone event answers := by
  constructor
  · refine run_invariant (.of_runs rfl) (fun state call next goes done => ?_) calls
    exact goes.then (handle_goesOn done)
  · exact fun now zone event answers => event_kept month _ now zone event answers

def oneBank : Keyed Tenant.id where
  rows := [{ id := 5, name := "Bank" }]
  keyed := by decide

end Grc.Agents
