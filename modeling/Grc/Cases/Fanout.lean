import Grc.Cases.Logic
import Grc.Lib.Locks
import Grc.Lib.Runs
import Grc.Taxonomy.Matching

/-! The fan-out of a registered change: `create_cases` inside the transactions that deliver the outbox, bank by bank, against `UNIQUE (tenant, change)`.
Any number of them may be under way; none relies on the cursor's lock. -/
namespace Grc.Cases

open Grc.Shared Grc.Lib Grc.Taxonomy

/-- A change, as far as its cases are opened from it: its scope terms and the jurisdiction of its authority, and what it suggests. -/
structure RegisteredChange where
  title : String := ""
  terms : List Id := []
  jurisdiction : Option Id := none
  suggestedUrgency : Option ListRow := none
  soWhatDraft : String := ""

/-- A bank, as `_active_tenants` reads it. -/
structure BankRow where
  id : Id
  active : Bool := true
  triageTargetHours : Nat

/-- What the fan-out reads: the library, and the banks in the order of their slugs with their footprints. -/
structure CaseTables where
  table : TermTable
  defaultUrgency : Option ListRow := none
  changes : Id → Option RegisteredChange := fun _ => none
  tenants : List BankRow := []
  footprint : Id → List Id := fun _ => []

/-- The key of `change_case_one_per_tenant`. -/
def CaseFile.key (file : CaseFile) : Id × Id := (file.case.tenantId, file.case.changeId)

namespace CaseTables

variable (tables : CaseTables)

def urgencyFor (change : RegisteredChange) : Except Refusal ListRow :=
  match change.suggestedUrgency with
  | some urgency => .ok urgency
  | none => demand tables.defaultUrgency internalError

/-- `change_facts`, its scope aside. -/
def changeFacts (changeId : Id) : Except Refusal (Option (ChangeFacts × RegisteredChange)) :=
  match tables.changes changeId with
  | none => .ok none
  | some change => (tables.urgencyFor change).map fun urgency =>
      some ({ id := changeId, title := change.title, urgency, soWhatDraft := change.soWhatDraft }, change)

/-- `_scope_of`. -/
def scopeTermsOf (change : RegisteredChange) : List TaxonomyTerm := tables.table.named change.terms ++ tables.table.reaching change.jurisdiction

def activeTenants : List BankRow := tables.tenants.filter (·.active)

/-- What the rule covers for a `change.registered` event: its change, where it is there, in every bank that is active. -/
def covers (subject : Option Id) : List (Id × Id) :=
  match subject with
  | none => []
  | some changeId => if (tables.changes changeId).isSome = true then tables.activeTenants.map fun bank => (bank.id, changeId) else []

end CaseTables

/-- `create_cases` under way: what it has read, and the banks it has still to come to. -/
structure Fanout where
  facts : Option ChangeFacts := none
  scope : Scope := []
  restricting : Restricting := { keys := [], optIn := [] }
  todo : List BankRow := []
  /-- What the rule covers, as it was read. -/
  covers : List (Id × Id) := []

/-- A transaction that delivers outbox rows: the cases of the rows handled, and those of the row in hand, which stands in a savepoint. -/
structure Delivery where
  made : List CaseFile := []
  making : List CaseFile := []
  fanout : Option Fanout := none
  /-- What the rule covered of the rows handled. -/
  covered : List (Id × Id) := []

def Delivery.inserted (delivery : Delivery) : List CaseFile := delivery.made ++ delivery.making

structure CaseDesk where
  tables : CaseTables
  cases : List CaseFile := []
  deliveries : List (Id × Delivery) := []
  /-- What the rule covered of the deliveries committed. -/
  covered : List (Id × Id) := []

inductive CreationStep where
  /-- A delivery opens its transaction. -/
  | begins (worker : Id)
  /-- `create_cases` takes a row's change and reads what it needs. -/
  | takes (worker : Id) (subject : Option Id)
  /-- `_create_case` for the next bank. -/
  | creates (worker caseId : Id) (now : Instant)
  /-- The row's handlers have all ended well. -/
  | handled (worker : Id)
  /-- One of them has raised. -/
  | raised (worker : Id)
  | commits (worker : Id)
  | fails (worker : Id)
  /-- Any other transaction: registrations, banks, footprints and terms, and the banks' work on the cases they have. No other
  code opens a case, and none deletes one. -/
  | elsewhere (tables : CaseTables) (cases : List CaseFile)

namespace CreationStep

def worker : CreationStep → Option Id
  | .begins worker | .takes worker _ | .creates worker _ _ | .handled worker | .raised worker | .commits worker | .fails worker => some worker
  | .elsewhere _ _ => none

def Delivers (subject : Option Id) : CreationStep → Prop
  | .takes _ other => other = subject
  | _ => True

end CreationStep

namespace CaseDesk

variable (desk : CaseDesk)

def delivery (worker : Id) : Except Refusal Delivery := demand (heldBy desk.deliveries worker) internalError

def goOn (worker : Id) (delivery : Delivery) : CaseDesk := { desk with deliveries := putBy desk.deliveries worker delivery }

/-- The first reads of `create_cases`. -/
def fanoutOf (subject : Option Id) : Except Refusal Fanout := do
  let found ← match subject with
    | none => pure none
    | some changeId => desk.tables.changeFacts changeId
  match found with
  | none => .ok {}
  | some (facts, change) => .ok {
      facts := some facts, scope := scopeOf (desk.tables.scopeTermsOf change), restricting := desk.tables.table.restrictingDimensions
      todo := desk.tables.activeTenants, covers := desk.tables.covers subject }

/-- `_create_case`: the case it would insert for a bank. -/
def caseFor (fanout : Fanout) (facts : ChangeFacts) (bank : BankRow) (caseId : Id) (now : Instant) : CaseFile :=
  let footprint := desk.tables.table.footprintOf (desk.tables.footprint bank.id)
  let footprintMatch := (outsideReasons fanout.scope footprint fanout.restricting).isEmpty
  createCase caseId bank.id facts footprintMatch (now + bank.triageTargetHours * 3600)

/-- `_create_case`: it waits for another transaction's case of the bank and the change; a case that is there stands, and the savepoint takes the attempt
with it. -/
def createNext (worker : Id) (delivery : Delivery) (fanout : Fanout) (caseId : Id) (now : Instant) : Except Refusal CaseDesk := do
  let facts ← demand fanout.facts internalError
  match fanout.todo with
  | [] => .error internalError
  | bank :: rest => do
    let onward := { delivery with fanout := some { fanout with todo := rest } }
    require (¬waitsFor CaseFile.key Delivery.inserted desk.deliveries worker (bank.id, facts.id)) internalError
    if (bank.id, facts.id) ∈ (desk.cases ++ delivery.inserted).map (·.key) then .ok (desk.goOn worker onward)
    else
      .ok (desk.goOn worker { onward with making := delivery.making ++ [desk.caseFor fanout facts bank caseId now] })

def step : CreationStep → Except Refusal CaseDesk
  | .begins worker => do
    require (heldBy desk.deliveries worker = none) internalError
    .ok { desk with deliveries := desk.deliveries ++ [(worker, {})] }
  | .takes worker subject => do
    let delivery ← desk.delivery worker
    require (delivery.fanout.isNone = true) internalError
    let fanout ← desk.fanoutOf subject
    .ok (desk.goOn worker { delivery with fanout := some fanout })
  | .creates worker caseId now => do
    let delivery ← desk.delivery worker
    let fanout ← demand delivery.fanout internalError
    desk.createNext worker delivery fanout caseId now
  | .handled worker => do
    let delivery ← desk.delivery worker
    let fanout ← demand delivery.fanout internalError
    require (fanout.todo = []) internalError
    .ok (desk.goOn worker { made := delivery.inserted, covered := delivery.covered ++ fanout.covers })
  | .raised worker => do
    let delivery ← desk.delivery worker
    .ok (desk.goOn worker { made := delivery.made, covered := delivery.covered })
  | .commits worker => do
    let delivery ← desk.delivery worker
    require (delivery.fanout.isNone = true) internalError
    .ok { desk with
      cases := desk.cases ++ delivery.made, covered := desk.covered ++ delivery.covered, deliveries := withoutBy desk.deliveries worker }
  | .fails worker => do
    let _ ← desk.delivery worker
    .ok { desk with deliveries := withoutBy desk.deliveries worker }
  | .elsewhere tables cases => do
    require (cases.map (·.key) = desk.cases.map (·.key)) internalError
    .ok { desk with tables, cases }

def take (steps : List CreationStep) : Except Refusal CaseDesk := steps.foldlM step desk

end CaseDesk
end Grc.Cases
