import Grc.Register.Duties
import Grc.Lib.Runs

/-! One bank's recurring duties while several requests work on them: answers "applies", which schedule
first occurrences under the lock of the row they answer for, and completions, each under its
occurrence's lock. -/
namespace Grc.Register

open Grc.Shared Grc.Lib Grc.Library

variable {Rule : Type}

/-- What one chain of occurrences is for: the duty, the register entry and the entity. -/
structure ChainKey where
  duty : Id
  entry : Id
  orgUnit : Option Id
  deriving DecidableEq

def DutyOccurrence.chain (row : DutyOccurrence) : ChainKey := ⟨row.recurringDuty, row.tenantObligation, row.orgUnit⟩

def DutyTarget.chain (target : DutyTarget) (duty : DutyRule) : ChainKey := ⟨duty.id, target.tenantObligation, target.orgUnit⟩

def DutyTable.chain (table : DutyTable) (key : ChainKey) : List DutyOccurrence :=
  table.occurrences.filter fun row => row.chain = key

/-- `RegisterDutyOccurrence`. -/
structure DutyOut where
  id : Id
  dueDate : Day
  status : DutyStatus
  orgUnit : Option Id
  owner : Option Id
  completedAt : Option Instant
  completedBy : Option Id
  note : String
  deriving DecidableEq

def DutyOccurrence.out (row : DutyOccurrence) : DutyOut where
  id := row.id
  dueDate := row.dueDate
  status := row.status
  orgUnit := row.orgUnit
  owner := row.owner
  completedAt := row.completedAt
  completedBy := row.completedBy
  note := row.note

/-- `RegisterDutyCompletion`, as it is shown. -/
structure DutyAnswer where
  completed : DutyOut
  next : Option DutyOut
  deriving DecidableEq

def DutyCompletion.out (completion : DutyCompletion) : DutyAnswer where
  completed := completion.completed.out
  next := completion.next.map (·.out)

/-- A request under way, with what it has read. -/
inductive DutyWork where
  /-- An answer "applies" has written its targets' rows, which stay locked, and reads the duties and the chains there are. -/
  | scheduling (actor : Actor) (today : Day) (targets : List DutyTarget) (duties : List DutyRule) (had : List ChainKey)
  /-- A completion has locked its occurrence and read it with its duty. -/
  | completing (row : DutyOccurrence) (duty : DutyRule)

def DutyWork.answered : DutyWork → List (Id × Option Id)
  | scheduling _ _ targets _ _ => targets.map fun target => (target.tenantObligation, target.orgUnit)
  | completing _ _ => []

def DutyWork.held : DutyWork → Option Id
  | scheduling _ _ _ _ _ => none
  | completing row _ => some row.id

structure DutyDesk where
  table : DutyTable
  /-- The library's duties, and the bank's register entries, each with its obligation. -/
  duties : List DutyRule := []
  entries : List (Id × Id) := []
  underway : List (Id × DutyWork) := []
  /-- The model's own account: the answers to completions, oldest first, and the day each chain was first scheduled from. -/
  answers : List (Id × DutyAnswer) := []
  firstDays : List (ChainKey × Day) := []

inductive DutyStep where
  | beginSchedule (request : Id) (actor : Actor) (today : Day) (targets : List DutyTarget)
  | commitSchedule (request : Id)
  | beginComplete (request occurrence : Id)
  | commitComplete (request : Id) (actor : Actor) (note : String) (now : Instant)
  | abort (request : Id)
  /-- A register entry is created, one for an obligation. -/
  | enter (entry obligation : Id)
  /-- The library publishes a duty, or retires one. -/
  | publish (duty : DutyRule)
  | retire (duty : Id)
  /-- A member's removal hands an occurrence to someone else. -/
  | reassign (occurrence : Id) (owner ownerTeam : Option Id) (version : Nat)

def firstsDue (targets : List DutyTarget) (duties : List DutyRule) (had : List ChainKey) : List (DutyTarget × DutyRule) :=
  targets.flatMap fun target =>
    (duties.filter fun duty => duty.active && duty.obligationId == target.obligationId && !had.contains (target.chain duty)).map
      (target, ·)

/-- The loop of `schedule_first` over them. -/
def writeFirsts (dateutil : Dateutil Rule) (cap : Nat) (actor : Actor) (today : Day) (pairs : List (DutyTarget × DutyRule))
    (table : DutyTable) : Except Refusal DutyTable :=
  pairs.foldlM (fun table pair => scheduleOne dateutil cap actor today pair.1 table pair.2) table

/-- `complete_occurrence`, from the occurrence and the duty it has read. -/
def completeLoaded (dateutil : Dateutil Rule) (cap : Nat) (actor : Actor) (note : String) (now : Instant) (row : DutyOccurrence)
    (duty : DutyRule) (table : DutyTable) : Except Refusal (DutyTable × DutyCompletion) := do
  let person ← demand actor.id { code := "permission_denied", detail := "A person must do this." }
  let due ← followingDate dateutil cap duty row
  if row.status = .done then
    .ok (table, { completed := row, next := due.bind fun due =>
      table.occurrences.find? (·.onKey duty.id row.orgUnit due) })
  else .ok (finishOccurrence actor person note now duty row due table)

def DutyOccurrence.reassigned (owner ownerTeam : Option Id) (version : Nat) (row : DutyOccurrence) : DutyOccurrence :=
  { row with owner, ownerTeam, version }

namespace DutyDesk
variable (desk : DutyDesk)

def without (request : Id) : List (Id × DutyWork) := desk.underway.filter (·.1 ≠ request)

def occurrenceFree (occurrence : Id) : Prop := ∀ each ∈ desk.underway, each.2.held ≠ some occurrence

instance (occurrence : Id) : Decidable (desk.occurrenceFree occurrence) := by
  unfold occurrenceFree
  infer_instance

def begun (pairs : List (DutyTarget × DutyRule)) (after : DutyTable) : List ChainKey :=
  (pairs.map fun pair => pair.1.chain pair.2).filter fun key => desk.table.chain key = [] ∧ after.chain key ≠ []

/-- What a step does; a step that would wait for a lock, or cannot come now, is refused. -/
def step (dateutil : Dateutil Rule) (cap : Nat) (desk : DutyDesk) : DutyStep → Except Refusal DutyDesk
  | .beginSchedule request actor today targets => do
    require (∀ each ∈ desk.underway, each.1 ≠ request) internalError
    require (∀ target ∈ targets, (target.tenantObligation, target.obligationId) ∈ desk.entries) internalError
    require (∀ target ∈ targets, ∀ each ∈ desk.underway, (target.tenantObligation, target.orgUnit) ∉ each.2.answered) internalError
    .ok { desk with
      underway := desk.underway ++
        [(request, .scheduling actor today targets desk.duties (desk.table.occurrences.map (·.chain)))] }
  | .commitSchedule request =>
    match desk.underway.find? (·.1 == request) with
    | some (_, .scheduling actor today targets duties had) => do
      let pairs := firstsDue targets duties had
      let table ← writeFirsts dateutil cap actor today pairs desk.table
      .ok { desk with
        table, underway := desk.without request
        firstDays := desk.firstDays ++ (desk.begun pairs table).map (·, today) }
    | _ => .error internalError
  | .beginComplete request occurrence => do
    require (∀ each ∈ desk.underway, each.1 ≠ request) internalError
    require (desk.occurrenceFree occurrence) internalError
    let row ← demand (desk.table.occurrences.find? (·.id == occurrence))
      { code := "not_found", detail := "That duty occurrence is not here." }
    let duty ← demand (desk.duties.find? (·.id == row.recurringDuty)) internalError
    .ok { desk with underway := desk.underway ++ [(request, .completing row duty)] }
  | .commitComplete request actor note now =>
    match desk.underway.find? (·.1 == request) with
    | some (_, .completing row duty) => do
      let done ← completeLoaded dateutil cap actor note now row duty desk.table
      .ok { desk with
        table := done.1, underway := desk.without request
        answers := desk.answers ++ [(row.id, done.2.out)] }
    | _ => .error internalError
  | .abort request => .ok { desk with underway := desk.without request }
  | .enter entry obligation => do
    require (∀ each ∈ desk.entries, each.1 ≠ entry ∧ each.2 ≠ obligation) internalError
    .ok { desk with entries := desk.entries ++ [(entry, obligation)] }
  | .publish duty => do
    require (∀ other ∈ desk.duties, other.id ≠ duty.id) internalError
    .ok { desk with duties := desk.duties ++ [duty] }
  | .retire id => .ok { desk with
      duties := desk.duties.map fun duty => if duty.id = id then { duty with active := false } else duty }
  | .reassign occurrence owner ownerTeam version => do
    require (desk.occurrenceFree occurrence) internalError
    .ok { desk with table := { desk.table with
      occurrences := desk.table.occurrences.map fun row =>
        if row.id = occurrence then row.reassigned owner ownerTeam version else row } }

end DutyDesk

end Grc.Register
