import Grc.Agents.Ledger
import Grc.Lib.Locks
import Grc.Watch.Models

/-! The runs that platform keys open: what is filed under a run, its close, and the requests under way, each of which holds its run's row. -/
namespace Grc.Agents

open Grc.Shared Grc.Lib
open Grc.Watch (Principal refuseTenantKey)

/-- `AgentRunStats`. -/
structure AgentRunStats where
  modelCalls : Int := 0
  fetches : Int := 0
  sourcesChecked : Int := 0
  changesRegistered : Int := 0
  proposalsSubmitted : Int := 0
  outOfScope : Int := 0
  recordsRechecked : Int := 0
  correctionsProposed : Int := 0

/-- The `stats` column: a counter never stored is not there. -/
structure StoredStats where
  modelCalls : Option Int := none
  fetches : Option Int := none
  sourcesChecked : Option Int := none
  changesRegistered : Option Int := none
  proposalsSubmitted : Option Int := none
  outOfScope : Option Int := none
  recordsRechecked : Option Int := none
  correctionsProposed : Option Int := none
  deriving DecidableEq

/-- `AgentRunStats.model_validate`. -/
def StoredStats.validate (stored : StoredStats) : AgentRunStats where
  modelCalls := stored.modelCalls.getD 0
  fetches := stored.fetches.getD 0
  sourcesChecked := stored.sourcesChecked.getD 0
  changesRegistered := stored.changesRegistered.getD 0
  proposalsSubmitted := stored.proposalsSubmitted.getD 0
  outOfScope := stored.outOfScope.getD 0
  recordsRechecked := stored.recordsRechecked.getD 0
  correctionsProposed := stored.correctionsProposed.getD 0

/-- `model_dump(by_alias=True)`. -/
def AgentRunStats.dump (stats : AgentRunStats) : StoredStats where
  modelCalls := some stats.modelCalls
  fetches := some stats.fetches
  sourcesChecked := some stats.sourcesChecked
  changesRegistered := some stats.changesRegistered
  proposalsSubmitted := some stats.proposalsSubmitted
  outOfScope := some stats.outOfScope
  recordsRechecked := some stats.recordsRechecked
  correctionsProposed := some stats.correctionsProposed

/-- `_stats`. -/
def statsOf (values : Option AgentRunStats) (fallback : StoredStats) : StoredStats :=
  match values with
  | none => fallback
  | some values => values.dump

/-- A run in its key's zone, as its row stands. -/
structure KeyRun where
  id : Id
  agent : Id
  apiKey : Id
  startedAt : Instant
  finishedAt : Option Instant := none
  status : RunStatus := .running
  model : String
  pipelineVersion : String
  stats : StoredStats := {}
  outputRef : String := ""
  error : String := ""
  idempotencyKey : String := ""

/-- `AgentRunInput`. -/
structure AgentRunInput where
  agent : String
  model : String
  pipelineVersion : String

/-- The two states a run closes into. -/
inductive ClosedState where
  | succeeded
  | failed
  deriving DecidableEq

def ClosedState.status : ClosedState → RunStatus
  | succeeded => .succeeded
  | failed => .failed

/-- `AgentRunFinish`. -/
structure AgentRunFinish where
  status : ClosedState
  stats : Option AgentRunStats := none
  outputRef : Option String := none
  error : Option String := none

/-- What a source check was for: a sweep for new documents, or the re-check of one record. -/
inductive SourceCheckKind where
  | sweep
  | recheck (subjectType : String) (subjectId : Id)
  deriving DecidableEq

/-- What a call files under a run. A proposal's content is what its retry is compared by, and it may be a batch. -/
inductive Filing where
  | change (stableKey : String)
  | check (source : Id) (kind : SourceCheckKind)
  | proposal (idempotencyKey : String) (content : String)
  deriving DecidableEq

/-- The kinds of filing a run has a budget for. -/
inductive Budgeted where
  | changes
  | rechecks
  | proposals
  deriving DecidableEq

namespace Filing

def budget : Filing → Option Budgeted
  | change _ => some .changes
  | check _ .sweep => none
  | check _ (.recheck _ _) => some .rechecks
  | proposal _ _ => some .proposals

def swept : Filing → Option Id
  | check source .sweep => some source
  | _ => none

def rechecked : Filing → Option (String × Id)
  | check _ (.recheck subjectType subjectId) => some (subjectType, subjectId)
  | _ => none

end Filing

/-- Who filed: a key, or a person. -/
inductive Filer where
  | key (id : Id)
  | person (id : Id)
  deriving DecidableEq

/-- A change, a source check or a proposal as filed, with the run it names. -/
structure FiledRow where
  what : Filing
  agentRun : Option Id
  filer : Filer

/-- Whether a filing says what the one filed under its key said; a second sighting may say anything. -/
def Filing.replays : Filing → Filing → Bool
  | .proposal _ content, .proposal _ stored => stored == content
  | _, _ => true

/-- The unique indexes: of a change's stable key, and of a retry key of who files. -/
def FiledRow.sameKey (row held : FiledRow) : Bool :=
  match row.what, held.what with
  | .change stableKey, .change other => stableKey == other
  | .proposal key _, .proposal other _ => key != "" && key == other && row.filer == held.filer
  | _, _ => false

/-- `WATCH_RUN_MAX_CHANGES`, `WATCH_RUN_MAX_RECHECKS` and `WATCH_RUN_MAX_PROPOSALS`. -/
abbrev RunLimits := Budgeted → Nat

inductive RunCallBody where
  | file (what : Filing)
  | close (body : AgentRunFinish)

/-- What a request has written, and not yet committed. -/
inductive Wrote where
  | filed (row : FiledRow)
  | closed (run : KeyRun)
  /-- A second sighting, or a retry: it adds no row that is counted, and changes no run. -/
  | again

/-- A request under way: the run it holds locked, as it read it. -/
structure RunRequest where
  run : KeyRun
  body : RunCallBody
  wrote : Option Wrote := none

def written (id : Id) (wrote : Wrote) (other : Id × RunRequest) : Id × RunRequest :=
  if other.1 = id then (other.1, { other.2 with wrote := some wrote }) else other

def RunRequest.loaded (request : RunRequest) : List KeyRun := [request.run]

/-- The runs, what is filed, and the requests under way. `closings` is the model's own account of the closes that committed. -/
structure RunDesk where
  runs : Keyed KeyRun.id := {}
  filed : List FiledRow := []
  underway : List (Id × RunRequest) := []
  closings : List (Id × AgentRunFinish) := []

def runNotOpen : Refusal where
  code := "run_not_open"
  detail := "That run is closed. Open a run before filing anything against it."

def closedAlready : Refusal where
  code := "invalid_transition"
  detail := "This run is already closed, so it cannot be closed again with different values."

def idempotencyConflict : Refusal where
  code := "idempotency_conflict"
  detail := "This Idempotency-Key was already used for a different proposal."

def Budgeted.what (limit : Nat) : Budgeted → String
  | changes => if limit = 1 then "change" else "changes"
  | rechecks => if limit = 1 then "re-check" else "re-checks"
  | proposals => if limit = 1 then "proposal" else "proposals"

def budgetExhausted (limit : Nat) (kind : Budgeted) : Refusal where
  code := "run_budget_exhausted"
  detail := "This run has filed its " ++ toString limit ++ " " ++ kind.what limit ++
    ", the most one run may file. Close it, and a new run files the rest."

namespace RunDesk
variable (desk : RunDesk)

def filedUnder (run : Id) : List Filing := (desk.filed.filter (·.agentRun == some run)).map (·.what)

def filedOf (run : Id) (kind : Budgeted) : Nat := ((desk.filedUnder run).filter (·.budget == some kind)).length

def counted (run : Id) (stats : StoredStats) : StoredStats :=
  { stats with
    sourcesChecked := some ((desk.filedUnder run).filterMap Filing.swept).dedup.length
    recordsRechecked := some ((desk.filedUnder run).filterMap Filing.rechecked).dedup.length
    changesRegistered := some (desk.filedOf run .changes)
    proposalsSubmitted := some (desk.filedOf run .proposals) }

/-- `_own_run`: another key's run is not found. -/
def ownRun (apiKey run : Id) : Except Refusal KeyRun :=
  demand (desk.runs.rows.find? fun row => row.id == run && row.apiKey == apiKey) notFound

def requireOpenRunOfKey (apiKey : Id) (named : Option Id) : Except Refusal KeyRun := do
  let id ← demand named {
    code := "run_not_open"
    detail := "Name the open run this is filed under in agentRunId. Open one with POST /agent-runs first." }
  let run ← desk.ownRun apiKey id
  require (run.status = .running) runNotOpen
  .ok run

/-- `require_open_run`, which a change and a source check ask; a proposal asks `require_open_run_of_key`. -/
def openRunFor (who : Principal) (named : Option Id) : Filing → Except Refusal KeyRun
  | .proposal _ _ => desk.requireOpenRunOfKey who.subjectId named
  | .change _ | .check _ _ => do
    refuseTenantKey who
    desk.requireOpenRunOfKey who.subjectId named

def spend (limits : RunLimits) (run : Id) (kind : Budgeted) : Except Refusal Unit := do
  require (∃ held ∈ desk.runs.rows, held.id = run ∧ held.status = .running) runNotOpen
  require (desk.filedOf run kind < limits kind) (budgetExhausted (limits kind) kind)

/-- Whether a filing is answered by what is filed already: a change under its stable key, a proposal under its retry key. -/
def answered (row : FiledRow) : Except Refusal Bool :=
  match desk.filed.find? row.sameKey with
  | none => .ok false
  | some held => do
    require (row.what.replays held.what = true) idempotencyConflict
    .ok true

/-- What `register_change`, `record_check`, `create` and `create_batch` write under the run they hold. -/
def file (limits : RunLimits) (run : KeyRun) (what : Filing) : Except Refusal Wrote := do
  let row : FiledRow := { what, agentRun := some run.id, filer := .key run.apiKey }
  let again ← desk.answered row
  if again = true then .ok .again
  else do
    what.budget.elim (.ok ()) (desk.spend limits run.id)
    .ok (.filed row)

/-- `_close`: a run that is closed answers the same close again, and refuses another. -/
def close (run : KeyRun) (body : AgentRunFinish) (now : Instant) : Except Refusal Wrote :=
  let stats := desk.counted run.id (statsOf body.stats run.stats)
  let outputRef := body.outputRef.getD ""
  let error := body.error.getD ""
  if run.status ≠ .running then do
    let stored := desk.counted run.id (statsOf (some run.stats.validate) run.stats)
    let sent := desk.counted run.id (statsOf body.stats stored)
    require ((run.status, stored, run.outputRef, run.error) = (body.status.status, sent, outputRef, error)) closedAlready
    .ok .again
  else .ok (.closed { run with status := body.status.status, stats, outputRef, error, finishedAt := some now })

/-- `finish_run`, once nothing holds the run. -/
def finishRun (who : Principal) (run : Id) (body : AgentRunFinish) (now : Instant) : Except Refusal Wrote := do
  refuseTenantKey who
  let own ← desk.ownRun who.subjectId run
  desk.close own body now

/-- `_replayed_open`, of a call that carries a retry key. -/
def replayedOpen (apiKey : Id) (body : AgentRunInput) (idempotencyKey : String) : Except Refusal Bool :=
  if idempotencyKey = "" then .ok false
  else match desk.runs.rows.find? fun row => row.apiKey == apiKey && row.idempotencyKey == idempotencyKey with
  | none => .ok false
  | some existing => do
    require ((existing.model, existing.pipelineVersion) = (body.model, body.pipelineVersion)) {
      code := "idempotency_conflict"
      detail := "This Idempotency-Key was already used to open a different run." }
    .ok true

/-- `open_run`, of a key bound to the agent `label`. -/
def openRun (who : Principal) (label : String) (body : AgentRunInput) (idempotencyKey : String) (now : Instant) : Except Refusal RunDesk := do
  refuseTenantKey who
  require (label = body.agent) { code := "permission_denied", detail := "This key is not entitled to run that agent." }
  let agent ← demand who.agentId { code := "permission_denied", detail := "This key is not entitled to run that agent." }
  let replayed ← desk.replayedOpen who.subjectId body idempotencyKey
  if replayed = true then .ok desk
  else
    let make (id : Id) : KeyRun := {
      id, agent, apiKey := who.subjectId, startedAt := now, model := body.model, pipelineVersion := body.pipelineVersion, idempotencyKey }
    .ok { desk with runs := desk.runs.create make fun _ => rfl }

end RunDesk

inductive RunStep where
  | open_ (who : Principal) (label : String) (body : AgentRunInput) (idempotencyKey : String) (now : Instant)
  /-- A request locks the run it names, and checks it. -/
  | begin_ (request : Id) (who : Principal) (named : Option Id) (body : RunCallBody)
  /-- It counts, checks and writes. -/
  | write (request : Id) (now : Instant)
  | commit (request : Id)
  /-- It is refused, or fails: what it wrote is gone, and its lock. -/
  | abort (request : Id)
  /-- A person files, who names no run. -/
  | byHand (person : Id) (what : Filing)

def blocked : Refusal := internalError

namespace RunDesk
variable (limits : RunLimits) (desk : RunDesk)

/-- The run a request works on. -/
def runFor (who : Principal) (named : Option Id) : RunCallBody → Except Refusal KeyRun
  | .file what => desk.openRunFor who named what
  | .close _ => do
    refuseTenantKey who
    let run ← demand named notFound
    desk.ownRun who.subjectId run

def handle (request : RunRequest) (now : Instant) : Except Refusal Wrote :=
  match request.body with
  | .file what => desk.file limits request.run what
  | .close body => desk.close request.run body now

/-- What a commit leaves. The unique indexes are held as it commits. -/
def committed (body : RunCallBody) : Wrote → Except Refusal RunDesk
  | .filed row => do
    require (desk.filed.any row.sameKey = false) internalError
    .ok { desk with filed := desk.filed ++ [row] }
  | .closed run =>
    .ok { desk with
      runs := desk.runs.update (·.id == run.id) (fun row => { run with id := row.id }) fun _ => rfl
      closings := desk.closings ++ (match body with
        | .close finish => [(run.id, finish)]
        | .file _ => []) }
  | .again => .ok desk

def step : RunStep → Except Refusal RunDesk
  | .open_ who label body idempotencyKey now => desk.openRun who label body idempotencyKey now
  | .begin_ request who named body => do
    require (∀ each ∈ desk.underway, each.1 ≠ request) blocked
    let run ← desk.runFor who named body
    require (lockedRow KeyRun.id RunRequest.loaded desk.underway run = false) blocked
    .ok { desk with underway := desk.underway ++ [(request, { run, body })] }
  | .write request now => do
    let each ← demand (desk.underway.find? (·.1 == request)) blocked
    require (each.2.wrote = none) blocked
    let wrote ← desk.handle limits each.2 now
    .ok { desk with underway := desk.underway.map (written request wrote) }
  | .commit request => do
    let each ← demand (desk.underway.find? (·.1 == request)) blocked
    let wrote ← demand each.2.wrote blocked
    let after ← desk.committed each.2.body wrote
    .ok { after with underway := desk.underway.filter (·.1 ≠ request) }
  | .abort request => .ok { desk with underway := desk.underway.filter (·.1 ≠ request) }
  | .byHand person what => do
    let row : FiledRow := { what, agentRun := none, filer := .person person }
    require (desk.filed.any row.sameKey = false) internalError
    .ok { desk with filed := desk.filed ++ [row] }

end RunDesk
end Grc.Agents
