import Grc.Lib.Relay
import Grc.Shared.Audit
import Mathlib.Algebra.Ring.Nat

/-! The outbox: rows written beside the writes they record, delivered in one order by batches that
each run in one transaction. -/
namespace Grc.Shared

open Grc.Lib

structure OutboxEvent (Payload : Type) where
  id : Id
  tenant : Option Id := none
  topic : String
  payload : Payload
  created : Instant
  publishedAt : Option Instant := none
  attempts : Nat := 0
  lastError : String := ""
  deriving DecidableEq

structure OutboxCursor where
  lastCreated : Option Instant := none
  lastId : Option Id := none
  retryNotBefore : Option Instant := none

structure OutboxSettings where
  batchSize : Nat := 100
  maxAttempts : Nat := 5
  retryBackoffS : Nat := 60

/-- A consumer's code, for a row of a zone: what it leaves of the database, the session's own setting included, or the type of what it
raised. -/
abbrev Handler (World Payload : Type) := Option Id → OutboxEvent Payload → World → Except String World

/-- `outbox_event`, the cursor, and the rest of the database; the tenants are in the order of their
slugs. -/
structure Outbox (World Payload : Type) where
  tenants : List Id := []
  rows : List (OutboxEvent Payload) := []
  cursor : OutboxCursor := {}
  world : World

structure BatchResult where
  delivered : Nat := 0
  failed : Nat := 0

variable {World Payload : Type}

namespace OutboxEvent

/-- A row's place in the one order: `(created, id)`. -/
def place (event : OutboxEvent Payload) : Instant ×ₗ Id := toLex (event.created, event.id)

/-- `published_at IS NULL` with attempts left. -/
def isPending (settings : OutboxSettings) (event : OutboxEvent Payload) : Bool :=
  event.publishedAt.isNone && event.attempts < settings.maxAttempts

end OutboxEvent

/-- `_pending`: the next rows to deliver, one read per zone, merged. -/
def Outbox.pending (settings : OutboxSettings) (outbox : Outbox World Payload) (limit : Nat) :
    List (OutboxEvent Payload) :=
  merged OutboxEvent.place OutboxEvent.tenant (none :: outbox.tenants.map some) limit
    (outbox.rows.filter (·.isPending settings))

/-- `_run_handlers`, for the row's zone: the first starts in it, and each later one where the one before left the session. -/
def runHandlers (handlers : String → List (Handler World Payload)) (event : OutboxEvent Payload) (world : World) :
    Except String World :=
  (handlers event.topic).foldlM (fun world handler => handler event.tenant event world) world

/-- `_record_failure`, on the row itself. -/
def countFailure (event : OutboxEvent Payload) (error : String) (row : OutboxEvent Payload) : OutboxEvent Payload :=
  if row.id = event.id then
    { row with attempts := event.attempts + 1, lastError := String.ofList (error.toList.take 500) }
  else row

def backoff (settings : OutboxSettings) (attempts : Nat) : Nat := settings.retryBackoffS * 2 ^ (attempts - 1)

/-- What the loop over a batch has gathered so far. -/
structure Batch (World Payload : Type) where
  rows : List (OutboxEvent Payload)
  cursor : OutboxCursor
  world : World
  delivered : List (OutboxEvent Payload) := []
  failed : Nat := 0

/-- One drain of the outbox: the handlers registered, its moment, and whether another worker holds the
cursor. -/
structure Drain (World Payload : Type) where
  handlers : String → List (Handler World Payload)
  moment : Instant
  locked : Bool := false

def Spends (settings : OutboxSettings) (event : OutboxEvent Payload) : Prop :=
  settings.maxAttempts ≤ event.attempts + 1

instance (settings : OutboxSettings) (event : OutboxEvent Payload) : Decidable (Spends settings event) := by
  unfold Spends
  infer_instance

/-- The loop of `deliver_batch`: each row's handlers in a savepoint of their own. -/
def deliverRows (settings : OutboxSettings) (drain : Drain World Payload) :
    List (OutboxEvent Payload) → Batch World Payload → Batch World Payload
  | [], batch => batch
  | event :: rest, batch =>
    match runHandlers drain.handlers event batch.world with
    | .ok world =>
      deliverRows settings drain rest { batch with
        world, delivered := batch.delivered ++ [event]
        cursor := { lastCreated := some event.created, lastId := some event.id, retryNotBefore := none } }
    | .error error =>
      let rows := batch.rows.map (countFailure event error)
      if Spends settings event then
        -- attempts spent: left failed, the cursor moves on
        deliverRows settings drain rest { batch with
          rows, failed := batch.failed + 1, cursor := { batch.cursor with retryNotBefore := none } }
      else
        -- the cursor does not advance past it, so order holds
        { batch with
          rows, failed := batch.failed + 1
          cursor := { batch.cursor with
            retryNotBefore := some (drain.moment + backoff settings (event.attempts + 1)) } }

/-- `_mark_published`, on a row: its zone and its id are among the delivered. -/
def markPublished (delivered : List (OutboxEvent Payload)) (moment : Instant) (row : OutboxEvent Payload) :
    OutboxEvent Payload :=
  if delivered.any (fun event => event.tenant == row.tenant && event.id == row.id) = true then
    { row with publishedAt := some moment }
  else row

namespace Outbox

variable (settings : OutboxSettings) (drain : Drain World Payload) (outbox : Outbox World Payload)

def runs : Prop := drain.locked = false ∧ ∀ retry ∈ outbox.cursor.retryNotBefore, retry ≤ drain.moment

instance : Decidable (outbox.runs drain) := by
  unfold runs
  infer_instance

def batch : Batch World Payload :=
  deliverRows settings drain (outbox.pending settings settings.batchSize)
    { rows := outbox.rows, cursor := outbox.cursor, world := outbox.world }

def deliverBatch : Outbox World Payload × BatchResult :=
  if outbox.runs drain then
    let batch := outbox.batch settings drain
    ({ outbox with
        rows := batch.rows.map (markPublished batch.delivered drain.moment)
        cursor := batch.cursor, world := batch.world },
      { delivered := batch.delivered.length, failed := batch.failed })
  else (outbox, {})

def delivers : List (OutboxEvent Payload) :=
  if outbox.runs drain then (outbox.batch settings drain).delivered else []

end Outbox

/-- A row as `record()` writes it. -/
structure NewEvent (Payload : Type) where
  id : Id
  tenant : Option Id := none
  topic : String
  payload : Payload
  created : Instant

def NewEvent.event (new : NewEvent Payload) : OutboxEvent Payload where
  id := new.id
  tenant := new.tenant
  topic := new.topic
  payload := new.payload
  created := new.created

/-- What happens to the outbox: any other transaction, with the rows it records, or a drain. What a
handler records is read by the next drain, so it comes as the write after its own. -/
inductive OutboxStep (World Payload : Type) where
  | write (world : World) (tenants : List Id) (rows : List (NewEvent Payload))
  | drain (drain : Drain World Payload)

namespace Outbox

/-- What the database keeps of the table: primary keys are unique, tenants are never dropped, and a row
is of the library or of a tenant there is. -/
structure Admits (outbox : Outbox World Payload) (tenants : List Id) (rows : List (NewEvent Payload)) : Prop where
  distinct : tenants.Nodup
  keeps : ∀ tenant ∈ outbox.tenants, tenant ∈ tenants
  ids : (outbox.rows.map (·.id) ++ rows.map (·.id)).Nodup
  known : ∀ row ∈ rows, ∀ tenant ∈ row.tenant, tenant ∈ tenants

instance (outbox : Outbox World Payload) (tenants : List Id) (rows : List (NewEvent Payload)) :
    Decidable (outbox.Admits tenants rows) :=
  decidable_of_iff (tenants.Nodup ∧ (∀ tenant ∈ outbox.tenants, tenant ∈ tenants) ∧
      (outbox.rows.map (·.id) ++ rows.map (·.id)).Nodup ∧ ∀ row ∈ rows, ∀ tenant ∈ row.tenant, tenant ∈ tenants)
    ⟨fun ⟨distinct, keeps, ids, known⟩ => { distinct, keeps, ids, known },
      fun admits => ⟨admits.distinct, admits.keeps, admits.ids, admits.known⟩⟩

section
variable (settings : OutboxSettings) (outbox : Outbox World Payload)

/-- One step; a write the database does not admit is rolled back. -/
def act : OutboxStep World Payload → Outbox World Payload
  | .write world tenants rows =>
    if outbox.Admits tenants rows then { outbox with world, tenants, rows := outbox.rows ++ rows.map NewEvent.event }
    else outbox
  | .drain drain => (outbox.deliverBatch settings drain).1

def reached (steps : List (OutboxStep World Payload)) : Outbox World Payload :=
  steps.foldl (act settings) outbox

def sends : OutboxStep World Payload → List (OutboxEvent Payload)
  | .write _ _ _ => []
  | .drain drain => outbox.delivers settings drain

end

def deliveries (settings : OutboxSettings) : Outbox World Payload → List (OutboxStep World Payload) →
    List (OutboxEvent Payload)
  | _, [] => []
  | outbox, step :: rest => outbox.sends settings step ++ deliveries settings (outbox.act settings step) rest

end Outbox

end Grc.Shared
