import Grc.Lib.Locks
import Grc.Shared.Outbox
import Mathlib.Data.List.SplitBy

/-! The zone the database is in as the rows of a batch are delivered: one setting of the transaction, which the savepoints of the handlers keep
when they are released and undo when they are rolled back. -/
namespace Grc.Shared

open Grc.Lib

/-- The tenant setting: a bank's, or no tenant's. -/
abbrev Zone := Option Id

/-- What may change the zone: a call of a `@tenant_task`, in a savepoint of its own, and a `platform_zone()` block. -/
inductive ZoneFrame where
  | tenantTask (tenant : Id)
  | platformZone

/-- A handler's code, as far as the zone goes. What it raises is an exception. -/
abbrev ZoneHandler := Block Empty ZoneFrame Unit

/-- A savepoint's end: the setting stays where it is released, and is what it was where it is rolled back. -/
def savepoint (outer : Zone) (ended : Ended Zone Unit) : Ended Zone Unit :=
  match ended.raised with
  | none => ended
  | some error => { raised := some error, state := outer }

/-- `tenant_task` activates its tenant and puts the setting back nowhere; `platform_zone` puts back what it found. -/
def zoneMeaning : Meaning Empty ZoneFrame Unit Zone where
  act := nofun
  enter
    | .tenantTask tenant, _ => { state := some tenant }
    | .platformZone, _ => { state := none }
  leave
    | .tenantTask _, outer, ended => savepoint outer ended
    | .platformZone, outer, ended => { ended with state := outer }

def ZoneHandler.run (handler : ZoneHandler) (zone : Zone) : Ended Zone Unit := Block.exec zoneMeaning handler zone

/-- The handlers of one row: the zones they start in, and how the last one ends. -/
structure Delivery where
  starts : List Zone := []
  ended : Ended Zone Unit

/-- `_run_handlers`. -/
def runInZone : List ZoneHandler → Zone → Delivery
  | [], zone => { ended := { state := zone } }
  | handler :: rest, zone =>
    match (handler.run zone).raised with
    | some error => { starts := [zone], ended := { raised := some error, state := (handler.run zone).state } }
    | none =>
      let later := runInZone rest (handler.run zone).state
      { later with starts := zone :: later.starts }

variable {Payload : Type}

/-- `_deliver`: the row's zone is entered inside a savepoint, for a bank's row and for a library row alike. -/
def deliver (handlers : String → List ZoneHandler) (event : OutboxEvent Payload) (zone : Zone) : Delivery :=
  let delivery := runInZone (handlers event.topic) event.tenant
  { delivery with ended := savepoint zone delivery.ended }

def Passes (settings : OutboxSettings) (handlers : String → List ZoneHandler) (event : OutboxEvent Payload) : Prop :=
  (runInZone (handlers event.topic) event.tenant).ended.raised = none ∨ Spends settings event

variable {settings : OutboxSettings} {handlers : String → List ZoneHandler} {event : OutboxEvent Payload} {zone : Zone}

end Grc.Shared

/-! The audit door inside one transaction: `record()` writes at once or into the list of an open `batched()` block, which lives in Python, where no
savepoint undoes it. -/
namespace Grc.Shared

open Grc.Lib

/-- One `record()` call, with the change it stands beside: its number in the transaction, and the zone it names. -/
structure RecordCall where
  number : Nat
  tenant : Option Id
  deriving DecidableEq

/-- `_Pending`, and whether the database takes its values. -/
structure PendingRecord where
  call : RecordCall
  storable : Bool := true

/-- An audit row with its outbox row, and the zone the session was in as they went in. -/
structure AuditPair where
  call : RecordCall
  zone : Zone
  deriving DecidableEq

/-- An open transaction: what the database would commit, whether a failed statement has aborted it, and what Python holds. -/
structure OpenTransaction where
  zone : Zone := none
  changes : List RecordCall := []
  pairs : List AuditPair := []
  aborted : Bool := false
  batch : Option (List PendingRecord) := none
  next : Nat := 0

inductive AuditAct where
  /-- A change, and the `record()` call beside it. -/
  | record (tenant : Option Id) (storable : Bool)
  /-- A statement the database refuses. -/
  | refused

inductive AuditFrame where
  | batched
  | savepoint
  | platformZone
  deriving DecidableEq

inductive AuditRaised where
  /-- A `ValidationError`, which the request answers inside its transaction. -/
  | validation
  | fault
  deriving DecidableEq

abbrev AuditEnded := Ended OpenTransaction AuditRaised

namespace OpenTransaction

def crosses (zone : Zone) (pending : PendingRecord) : Bool := pending.call.tenant.isNone && zone.isSome

/-- `_insert_both`: one statement, which the row-level security refuses for a row of another zone. -/
def insertBoth (rows : List PendingRecord) (held : OpenTransaction) : AuditEnded :=
  if held.aborted = true then { raised := some .fault, state := held }
  else if rows.all (fun row => row.storable && row.call.tenant == held.zone) = true then
    { state := { held with pairs := held.pairs ++ rows.map fun row => { call := row.call, zone := held.zone } } }
  else { raised := some .fault, state := { held with aborted := true } }

/-- One run of rows: those that cross the zones go in without a tenant, inside a savepoint. -/
def writeRun (rows : List PendingRecord) (held : OpenTransaction) : AuditEnded :=
  if rows.any (crosses held.zone) = true then
    let inserted := insertBoth rows { held with zone := none }
    match inserted.raised with
    | none => { state := { inserted.state with zone := held.zone } }
    | some error => { raised := some error, state := held }
  else insertBoth rows held

def writeRuns : List (List PendingRecord) → OpenTransaction → AuditEnded
  | [], held => { state := held }
  | rows :: rest, held => (writeRun rows held).next (writeRuns rest)

/-- The rows in runs that cross the zones and runs that do not, as `groupby` has them. -/
def inRuns (zone : Zone) (pending : List PendingRecord) : List (List PendingRecord) :=
  pending.splitBy fun one other => crosses zone one == crosses zone other

def write (pending : List PendingRecord) (held : OpenTransaction) : AuditEnded := writeRuns (inRuns held.zone pending) held

/-- A change, and `record()`. -/
def recordBeside (tenant : Option Id) (storable : Bool) (held : OpenTransaction) : AuditEnded :=
  if held.aborted = true then { raised := some .fault, state := held }
  else
    let call : RecordCall := { number := held.next, tenant }
    let changed := { held with changes := held.changes ++ [call], next := held.next + 1 }
    match held.batch with
    | some pending => { state := { changed with batch := some (pending ++ [{ call, storable }]) } }
    | none => write [{ call, storable }] changed

/-- `ROLLBACK TO SAVEPOINT`: what the database holds is what it was; what Python holds is not. -/
def rollBack (outer held : OpenTransaction) : OpenTransaction := { outer with batch := held.batch, next := held.next }

/-- The end of a `batched()` block that opened the list. -/
def endBatch (ended : AuditEnded) : AuditEnded :=
  let closed := { ended.state with batch := none }
  match ended.raised with
  | some error => { raised := some error, state := closed }
  | none => write (ended.state.batch.getD []) closed

end OpenTransaction

open OpenTransaction

/-- `record()` in its blocks: `batched()` inside another joins it; a savepoint is rolled back where an exception leaves it, or where a failed statement
keeps it from being released; a statement in an aborted transaction raises. -/
def auditMeaning : Meaning AuditAct AuditFrame AuditRaised OpenTransaction where
  act
    | .record tenant storable, held => recordBeside tenant storable held
    | .refused, held => { raised := some .fault, state := { held with aborted := true } }
  enter
    | .batched, held => { state := if held.batch.isSome = true then held else { held with batch := some [] } }
    | .savepoint, held => if held.aborted = true then { raised := some .fault, state := held } else { state := held }
    | .platformZone, held => if held.aborted = true then { raised := some .fault, state := held } else { state := { held with zone := none } }
  leave
    | .batched, outer, ended => if outer.batch.isSome = true then ended else endBatch ended
    | .savepoint, outer, ended =>
      if ended.raised.isSome = true ∨ ended.state.aborted = true then
        { raised := some (ended.raised.getD .fault), state := rollBack outer ended.state }
      else ended
    | .platformZone, outer, ended =>
      if ended.state.aborted = true then { raised := some .fault, state := ended.state }
      else { ended with state := { ended.state with zone := outer.zone } }

abbrev AuditBlock := Block AuditAct AuditFrame AuditRaised

def auditRun (block : AuditBlock) (held : OpenTransaction) : AuditEnded := Block.exec auditMeaning block held

/-- What a transaction has committed. -/
structure CommittedAudit where
  changes : List RecordCall := []
  pairs : List AuditPair := []
  deriving DecidableEq

/-- A transaction that ends well, or whose request answers a `ValidationError`, commits, unless a failed statement has aborted it. -/
def Commits (ended : AuditEnded) : Prop := ended.raised ≠ some .fault ∧ ended.state.aborted = false

instance (ended : AuditEnded) : Decidable (Commits ended) := inferInstanceAs (Decidable (_ ∧ _))

def transact (zone : Zone) (block : AuditBlock) : CommittedAudit :=
  let ended := auditRun block { zone }
  if Commits ended then { changes := ended.state.changes, pairs := ended.state.pairs } else {}

/-- The changes committed have their pairs, one each and in their order, and nothing else has; each went in in the zone its call names. -/
structure CommittedAudit.Whole (committed : CommittedAudit) : Prop where
  pairs : committed.pairs.map (·.call) = committed.changes
  zones : ∀ pair ∈ committed.pairs, pair.zone = pair.call.tenant

def accepts (zone : Zone) (rows : List PendingRecord) : Bool :=
  rows.all fun row => row.storable && row.call.tenant == if rows.any (crosses zone) = true then none else zone

/-- The calls whose rows go in: those before the first run the database refuses. -/
def accepted (zone : Zone) : List (List PendingRecord) → List RecordCall
  | [] => []
  | rows :: rest => if accepts zone rows = true then rows.map (·.call) ++ accepted zone rest else []

/-- What a program keeps apart, outside any batch: a block of held records that is left by an exception has kept none of its changes; one that ends
well has kept the changes of all its calls, whose rows the database takes; and the row of a library change made from a bank's session goes in. What a
savepoint rolls back does not matter. -/
def Fits : AuditBlock → OpenTransaction → Prop
  | .act (.record tenant storable), held => tenant = none → held.zone ≠ none → storable = true
  | .act .refused, _ | .raises _, _ | .done, _ => True
  | .andThen first second, held =>
    Fits first held ∧ ((auditRun first held).raised = none → Fits second (auditRun first held).state)
  | .within .savepoint body, held => (auditRun body held).raised = none → (auditRun body held).state.aborted = false → Fits body held
  | .within .platformZone body, held => Fits body { held with zone := none }
  | .within .batched body, held =>
    let ended := auditRun body { held with batch := some [] }
    match ended.raised with
    | some _ => ended.state.changes = held.changes
    | none => ended.state.changes = held.changes ++ accepted ended.state.zone (inRuns ended.state.zone (ended.state.batch.getD []))
  | .caught _ body, held => Fits body held

end Grc.Shared
