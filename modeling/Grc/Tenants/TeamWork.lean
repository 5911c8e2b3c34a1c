import Grc.Lib.Locks
import Grc.Register.Duties
import Grc.Register.Gaps
import Grc.Taxonomy.ListWrites
import Grc.Tenants.Reassignment

/-! What a bank's teams own: the seven kinds of record a team is named on, the calls that give one an owner, open it or close it, and the
retirements and merges of the teams, in any overlap. -/
namespace Grc.Tenants

open Grc.Shared Grc.Lib
open Grc.Register (GapCategory DutyStatus)
open Grc.Cases (CaseStatusCategory CaseFacts)
open Grc.Library (ListRow validationError unknownKey)
open Grc.Taxonomy (TenantList ListTable ListCall ListWrite teamLinks)

/-- A kind of record a team is named on as the owner, with what says whether it is still to be worked. -/
inductive WorkState where
  | registerEntry
  | registerEntity
  | gap (status : GapCategory)
  | licence (withdrawn : Bool)
  | internalItem (active : Bool)
  | dutyOccurrence (status : DutyStatus)
  | case_ (status : CaseStatusCategory)
  deriving DecidableEq

namespace WorkState

def table : WorkState → String
  | registerEntry => "tenant_obligation"
  | registerEntity => "tenant_obligation_scope"
  | gap _ => "gap"
  | licence _ => "licence"
  | internalItem _ => "internal_item"
  | dutyOccurrence _ => "duty_occurrence"
  | case_ _ => "change_case"

/-- The kind, as a removal names it. -/
def kind : WorkState → String
  | registerEntry => "register_entry"
  | registerEntity => "register_entity"
  | gap _ => "gap"
  | licence _ => "licence"
  | internalItem _ => "internal_item"
  | dutyOccurrence _ => "duty_occurrence"
  | case_ _ => "case"

/-- A register entry and an entity row while they exist, a gap until it is closed, a licence until it is withdrawn, an item while it is
active, a duty occurrence while it is upcoming, in progress or missed, a case until it is closed or dismissed. -/
def isOpen : WorkState → Bool
  | registerEntry | registerEntity => true
  | gap status => status != .closed
  | licence withdrawn => !withdrawn
  | internalItem active => active
  | dutyOccurrence status => status.isOpen
  | case_ status => Cases.isOpen status

/-- What may be open under a team although its retirement counted none of it: what `TEAM_OPEN_WORK` leaves out, and a gap reopened since. -/
def loose : WorkState → Bool
  | gap _ | dutyOccurrence _ | case_ _ => true
  | registerEntry | registerEntity | licence _ | internalItem _ => false

/-- A write leaves a record as open as it was, ends it, or it is of a kind that goes to and fro. -/
def Settles (before after : WorkState) : Prop := after = before ∨ after.loose = true ∨ after.isOpen = false

end WorkState

/-- The owner columns of a record: the person, the compliance contact of a register entry, and the team. -/
structure Work where
  id : Id
  state : WorkState
  owner : Option Id := none
  contact : Option Id := none
  ownerTeam : Option Id := none

abbrev WorkTable := Keyed Work.id

def Work.under (row : Work) (id : Id) : Work := { row with id }

/-- A row of a table `TEAM_LINKS` links by its owner. -/
def Work.linked (row : Work) : Bool := teamLinks.any fun link => link.table == row.state.table && link.field == "owner_team"

/-- `TEAM_OPEN_WORK`. -/
def teamOpenWorkTables : List (String × (WorkState → Bool)) :=
  [("tenant_obligation", fun _ => true), ("tenant_obligation_scope", fun _ => true), ("gap", fun state => state != .gap .closed),
    ("licence", fun state => state == .licence false), ("internal_item", fun state => state == .internalItem true)]

/-- `team_open_work`: the open work a team owns, counted per table. -/
def teamOpenWork (work : WorkTable) (team : Id) : List (String × Nat) :=
  (teamOpenWorkTables.map fun each => (each.1,
    (work.rows.filter fun row => row.state.table == each.1 && each.2 row.state && row.ownerTeam == some team).length)).filter (·.2 != 0)

/-- The bank's `team` list. -/
def teamList : TenantList := { name := "team", links := teamLinks }

/-- Who may own work: the active members, and those who work cases. -/
structure People where
  members : List Id := []
  caseWorkers : List Id := []

/-- `TenantRemovalOwner`. -/
structure RemovalOwner where
  kind : String
  userId : Option Id := none
  teamKey : Option String := none

/-- The new owner of a kind of work, its team resolved. -/
structure RemovalTarget where
  kind : String
  person : Option Id
  team : Option Id

/-- A call that writes what a team may own. -/
inductive WorkCall where
  /-- `update_register`, on the obligation's entry, if it has one. -/
  | updateRegister (entry : Option Id) (firstLineOwner complianceContact : Option Id) (ownerTeam : Option String)
  /-- `update_entity_status`, on the entity's row, if it has one; `entered` where the obligation has an entry. -/
  | updateEntityStatus (entered : Bool) (scope ownerId : Option Id) (ownerTeam : Option String)
  /-- `set_applicability`: the rows answered, each with its first occurrences due, and what is new. -/
  | setApplicability (answered : List (Id × Nat)) (entries scopes occurrences : Nat)
  | createGap (entered : Bool) (ownerId : Option Id) (ownerTeam : Option String)
  | updateGap (gap : Id) (ownerId : Option Id) (ownerTeam : Option String) (status : Option GapCategory)
  | approveRiskAcceptance (gap : Id)
  | reopenGap (gap : Id)
  /-- `complete_occurrence`, of a duty with another due date or none. -/
  | completeOccurrence (occurrence : Id) (following : Bool)
  | createLicence (ownerUser : Option Id)
  | updateLicence (licence : Id) (ownerUser : Option Id) (withdrawn : Bool)
  /-- `_create_item`. -/
  | createItem (ownerId ownerTeamId : Option Id)
  | applyPrivateControl
  | openCase
  | triageChange (caseId : Id) (ownerId : Id) (ownerTeam : Option String) (facts : CaseFacts)
  /-- Every other move of a case. -/
  | moveCase (caseId : Id) (toStatus : CaseStatusCategory) (facts : CaseFacts)
  | removeMember (user : Id)

/-- What a call has decided to write: the rows it has locked, what becomes of each, and the rows it files. -/
structure WorkWrite where
  loaded : List Work := []
  change : Work → Work := id
  created : List Work := []
  settles : ∀ row : Work, row.state.Settles (change row).state := by exact fun _ => .inl rfl

section Calls
variable (people : People) (teams : ListTable) (work : WorkTable)

def lockedWork (of_ : WorkState → Bool) (detail : String) (id : Id) : Except Refusal Work :=
  demand (work.rows.find? fun row => row.id == id && of_ row.state) { code := "not_found", detail }

def teamKeys : List String := (teams.rows.filter (·.active)).map (·.key)

def activeTeam (refused : Refusal) (key : String) : Except Refusal Id :=
  (demand (teams.rows.find? fun row => row.key == key && row.active) refused).map (·.id)

/-- `_resolve`, of the owning team. -/
def resolvedTeam (key : String) : Except Refusal Id :=
  activeTeam teams {
    code := "unknown_key"
    detail := quoted key ++ " is not one of this bank's values. Valid keys: " ++ joined (sorted (teamKeys teams)) ++ "."
    extra := [("validKeys", .texts (sorted (teamKeys teams)))] } key

/-- `_resolve`, of a person. -/
def resolvedPerson (person : Option Id) : Except Refusal Unit :=
  require (∀ user ∈ person, user ∈ people.members)
    { code := "unknown_member", detail := "That person is not an active member of this bank." }

/-- `_owner`, of a gap: the owner columns a write sets, a person or a team. -/
def gapOwner (ownerId : Option Id) (ownerTeam : Option String) : Except Refusal (Option (Option Id × Option Id)) := do
  require (ownerId = none ∨ ownerTeam = none) (validationError "A gap is owned by a person or a team, not both.")
  match ownerId, ownerTeam with
  | some person, _ => do
    require (person ∈ people.members) { code := "unknown_member", detail := "That person is not an active member of the bank." }
    .ok (some (some person, none))
  | none, some key => do
    let team ← activeTeam teams (unknownKey (quoted key ++ " is not in the bank's team list. Use one of: " ++ joined (teamKeys teams) ++ ".")) key
    .ok (some (none, some team))
  | none, none => .ok none

/-- `_row("team", …)`, of a case's triage. -/
def caseTeam (key : String) : Except Refusal Id :=
  (Cases.namedRow "team" ListRow.key (teams.rows.filter (·.active)) key).map (·.id)

/-- `_targets`: the new owner of each kind of work, another active member or an active team. -/
def removalTargets (user : Id) (owners : List RemovalOwner) : Except Refusal (List RemovalTarget) := do
  require (owners.map (·.kind)).Nodup (validationError "Name each kind of work once.")
  require (∀ owner ∈ owners, ∀ person ∈ owner.userId, person ∈ people.members ∧ person ≠ user)
    { code := "unknown_member", detail := "A new owner must be another current member of this bank." }
  require (∀ owner ∈ owners, owner.kind ∈ ["case", "action"] → owner.teamKey = none)
    (validationError "Cases and actions pass to a person, never to a team.")
  require (∀ owner ∈ owners, owner.kind = "case" → ∀ person ∈ owner.userId, person ∈ people.caseWorkers)
    { code := "unknown_member", detail := "A case's new owner must be a member who works cases." }
  owners.mapM fun owner => do
    let team ← optionally (activeTeam teams (unknownKey "That is not one of this bank's teams.")) owner.teamKey
    .ok { kind := owner.kind, person := owner.userId, team }

/-- `owned_work`: what a person owns that a removal moves. -/
def ownedBy (user : Id) (row : Work) : Bool :=
  row.state.table != "licence" && row.state.isOpen && (row.owner == some user || row.contact == some user)

/-- `_new_owner`: a register entry passes the person columns the member held, a case its person alone. -/
def newOwner (user : Id) (target : RemovalTarget) (row : Work) : Work :=
  let passed (held next : Option Id) : Option Id := if held = some user then next else held
  match row.state with
  | .registerEntry =>
    match target.team with
    | some team => { row with owner := passed row.owner none, contact := passed row.contact none, ownerTeam := some team }
    | none => { row with owner := passed row.owner target.person, contact := passed row.contact target.person }
  | .case_ _ => { row with owner := target.person }
  | _ => { row with owner := target.person, ownerTeam := target.team }

def handOver (user : Id) (targets : List RemovalTarget) (row : Work) : Work :=
  (targets.find? (·.kind == row.state.kind)).elim row fun target => newOwner user target row

@[simp] theorem handOver_state (user : Id) (targets : List RemovalTarget) (row : Work) : (handOver user targets row).state = row.state := by
  unfold handOver
  cases targets.find? (·.kind == row.state.kind) with
  | none => rfl
  | some target =>
    simp only [Option.elim_some, newOwner]
    split
    · split <;> rfl
    · rfl
    · rfl

/-- An occurrence of a duty on a row, owned as the row is: by its person only where it has no team. -/
def occurrenceOn (row : Work) : Work where
  id := 0
  state := .dutyOccurrence .upcoming
  owner := if row.ownerTeam = none then row.owner else none
  ownerTeam := row.ownerTeam

def unowned (state : WorkState) : Work := { id := 0, state }

/-- `transition`, of the state machine. -/
def casePassed (row : Work) (toStatus : CaseStatusCategory) (facts : CaseFacts) : Except Refusal Unit :=
  match row.state with
  | .case_ status => Cases.checkTransition status toStatus facts
  | _ => .error internalError

/-- What a call reads and checks, under the locks of the rows it loads. -/
def plannedWork (targets : List RemovalTarget) : WorkCall → Except Refusal WorkWrite
  | .updateRegister entry firstLineOwner complianceContact ownerTeam => do
    let held ← optionally (lockedWork work (· == .registerEntry) "") entry
    let team ← optionally (resolvedTeam teams) ownerTeam
    resolvedPerson people firstLineOwner
    resolvedPerson people complianceContact
    let change (row : Work) : Work := { row with
      owner := firstLineOwner <|> row.owner, contact := complianceContact <|> row.contact, ownerTeam := team <|> row.ownerTeam }
    .ok { loaded := held.toList, change, created := if held = none then [change (unowned .registerEntry)] else [] }
  | .updateEntityStatus entered scope ownerId ownerTeam => do
    let held ← optionally (lockedWork work (· == .registerEntity) "") scope
    let team ← optionally (resolvedTeam teams) ownerTeam
    resolvedPerson people ownerId
    -- a person or a team owns an entity's row, never both
    let change (row : Work) : Work := { row with
      owner := if ownerId = none ∧ team ≠ none then none else ownerId <|> row.owner
      ownerTeam := if ownerId ≠ none then none else team <|> row.ownerTeam }
    .ok {
      loaded := held.toList, change
      created := (if entered = true then [] else [unowned .registerEntry]) ++
        if held = none then [change (unowned .registerEntity)] else [] }
  | .setApplicability answered entries scopes occurrences =>
    let loaded := work.rows.filter fun row =>
      (row.state == .registerEntry || row.state == .registerEntity) && answered.any (·.1 == row.id)
    .ok {
      loaded
      created := List.replicate entries (unowned .registerEntry) ++ List.replicate scopes (unowned .registerEntity) ++
        List.replicate occurrences (unowned (.dutyOccurrence .upcoming)) ++
        loaded.flatMap fun row => List.replicate ((answered.lookup row.id).getD 0) (occurrenceOn row) }
  | .createGap entered ownerId ownerTeam => do
    let owners ← gapOwner people teams ownerId ownerTeam
    .ok {
      created := (if entered = true then [] else [unowned .registerEntry]) ++
        [{ id := 0, state := .gap .open_, owner := owners.bind Prod.fst, ownerTeam := owners.bind Prod.snd }] }
  | .updateGap gap ownerId ownerTeam status => do
    let row ← lockedWork work (fun state => state.table == "gap") "That gap is not here." gap
    let owners ← gapOwner people teams ownerId ownerTeam
    status.elim (.ok ()) fun moved =>
      require ((∃ category ∈ GapCategory.movable, row.state = .gap category) ∧ moved ∈ GapCategory.patchTargets) (Register.invalidTransition
        "A gap moves between open and remediating and on to closed here; accept a risk or reopen a gap with its own action.")
    .ok {
      loaded := [row]
      change := fun row => { row with
        state := status.elim row.state .gap
        owner := owners.elim row.owner Prod.fst
        ownerTeam := owners.elim row.ownerTeam Prod.snd }
      settles := fun _ => by
        cases status with
        | none => exact .inl rfl
        | some _ => exact .inr (.inl rfl) }
  | .approveRiskAcceptance gap => do
    let row ← lockedWork work (fun state => state.table == "gap") "That gap is not here." gap
    require (∃ category ∈ GapCategory.movable, row.state = .gap category)
      (Register.invalidTransition "No risk acceptance is waiting for approval on this gap.")
    .ok { loaded := [row], change := fun row => { row with state := .gap .riskAccepted }, settles := fun _ => .inr (.inl rfl) }
  | .reopenGap gap => do
    let row ← lockedWork work (fun state => state.table == "gap") "That gap is not here." gap
    require (∃ category ∈ GapCategory.reopenable, row.state = .gap category)
      (Register.invalidTransition "Only a closed or risk-accepted gap can be reopened.")
    .ok { loaded := [row], change := fun row => { row with state := .gap .open_ }, settles := fun _ => .inr (.inl rfl) }
  | .completeOccurrence occurrence following => do
    let row ← lockedWork work (fun state => state.table == "duty_occurrence") "That duty occurrence is not here." occurrence
    if row.state = .dutyOccurrence .done then .ok { loaded := [row] }
    else .ok {
      loaded := [row]
      change := fun row => { row with state := .dutyOccurrence .done }
      created := if following = true then [occurrenceOn row] else []
      settles := fun _ => .inr (.inl rfl) }
  | .createLicence ownerUser => do
    resolvedPerson people ownerUser
    .ok { created := [{ id := 0, state := .licence false, owner := ownerUser }] }
  | .updateLicence licence ownerUser withdrawn => do
    let row ← lockedWork work (fun state => state.table == "licence") "" licence
    resolvedPerson people ownerUser
    .ok {
      loaded := [row]
      change := fun row => { row with state := if withdrawn = true then .licence true else row.state, owner := ownerUser <|> row.owner }
      settles := fun _ => by
        cases withdrawn with
        | true => exact .inr (.inr rfl)
        | false => exact .inl rfl }
  | .createItem ownerId ownerTeamId => do
    require (ownerId = none ∨ ownerTeamId = none) (validationError "An item is owned by a person or a team, not both.")
    require (∀ user ∈ ownerId, user ∈ people.members) (validationError "The owner is not a member of your bank.")
    require (∀ team ∈ ownerTeamId, ∃ row ∈ teams.rows, row.id = team ∧ row.active = true)
      (validationError "That team is not one of your bank's teams.")
    .ok { created := [{ id := 0, state := .internalItem true, owner := ownerId, ownerTeam := ownerTeamId }] }
  | .applyPrivateControl => .ok { created := [unowned (.internalItem true)] }
  | .openCase => .ok { created := [unowned (.case_ .new)] }
  | .triageChange caseId ownerId ownerTeam facts => do
    let row ← lockedWork work (fun state => state.table == "change_case") "" caseId
    require (ownerId ∈ people.caseWorkers) (Cases.invalidTransition "owner_required")
    let team ← optionally (caseTeam teams) ownerTeam
    casePassed row .assigned { facts with ownerSet := true }
    .ok {
      loaded := [row]
      change := fun row => { row with state := .case_ .assigned, owner := some ownerId, ownerTeam := team }
      settles := fun _ => .inr (.inl rfl) }
  | .moveCase caseId toStatus facts => do
    let row ← lockedWork work (fun state => state.table == "change_case") "" caseId
    require (toStatus ≠ .assigned) (Cases.invalidTransition "invalid_transition")
    casePassed row toStatus facts
    .ok { loaded := [row], change := fun row => { row with state := .case_ toStatus }, settles := fun _ => .inr (.inl rfl) }
  | .removeMember user => do
    let owned := work.rows.filter (ownedBy user)
    require (∀ row ∈ owned, row.state.kind ∈ targets.map (·.kind)) reassignmentRequired
    .ok { loaded := owned, change := handOver user targets, settles := fun row => .inl (handOver_state user targets row) }

end Calls

namespace WorkWrite
variable (write : WorkWrite) (work : WorkTable)

def names : List Id :=
  (write.loaded.filter fun row => (write.change row).ownerTeam != row.ownerTeam).filterMap (fun row => (write.change row).ownerTeam) ++
    write.created.filterMap (·.ownerTeam)

def apply : WorkTable :=
  (work.update (fun row => write.loaded.any (·.id == row.id)) (fun row => (write.change row).under row.id) fun _ => rfl).createAll
    Work.under (fun _ _ => rfl) write.created

end WorkWrite

/-- A bank's teams and what they may own, and the writes under way. -/
structure TeamDesk where
  people : People := {}
  teams : ListTable := {}
  work : WorkTable := {}
  lists : List (Id × ListWrite) := []
  writes : List (Id × WorkWrite) := []
  /-- The new owners a removal has checked. -/
  chosen : List (Id × List RemovalTarget) := []

inductive TeamStep where
  /-- A call on the `team` list locks its rows, reads and checks; `named` members and participants name the team it retires. -/
  | beginList (transaction : Id) (call : ListCall) (named : Nat)
  | commitList (transaction : Id)
  /-- A removal reads the new owners it is sent. -/
  | chooseOwners (transaction : Id) (user : Id) (owners : List RemovalOwner)
  /-- A call on the records locks its rows, reads and checks. -/
  | beginWork (transaction : Id) (call : WorkCall)
  | commitWork (transaction : Id)
  | abort (transaction : Id)
  | elsewhere (people : People)

def movedWork (work : WorkTable) : ListWrite → WorkTable
  | .merge source target =>
    work.update (fun row => row.linked && row.ownerTeam == some source.id) (fun row => { row with ownerTeam := some target.id }) fun _ => rfl
  | _ => work

namespace TeamDesk
variable (cap : Nat) (state : TeamDesk)

def teamFree (team : Id) : Bool := !state.lists.any fun each => each.2.loaded.any (·.id == team)

def mergeFree : ListWrite → Bool
  | .merge source _ => state.work.rows.all fun row =>
      !(row.linked && row.ownerTeam == some source.id && lockedRow Work.id WorkWrite.loaded state.writes row)
  | _ => true

def step : TeamStep → Except Refusal TeamDesk
  | .beginList transaction call named => do
    require (∀ each ∈ state.lists, each.1 ≠ transaction) Taxonomy.waits
    let usage (row : ListRow) : Nat := (state.work.rows.filter fun held => held.linked && held.ownerTeam == some row.id).length + named
    let write ← Taxonomy.planned teamList state.teams cap usage (fun row => teamOpenWork state.work row.id) call
    require (∀ row ∈ write.loaded, lockedRow ListRow.id ListWrite.loaded state.lists row = false) Taxonomy.waits
    .ok { state with lists := state.lists ++ [(transaction, write)] }
  | .commitList transaction => do
    let each ← demand (state.lists.find? (·.1 == transaction)) Taxonomy.waits
    require (state.mergeFree each.2 = true) Taxonomy.waits
    let teams ← each.2.apply state.teams
    .ok { state with teams, work := movedWork state.work each.2, lists := state.lists.filter (·.1 ≠ transaction) }
  | .chooseOwners transaction user owners => do
    let targets ← removalTargets state.people state.teams user owners
    .ok { state with chosen := state.chosen.filter (·.1 ≠ transaction) ++ [(transaction, targets)] }
  | .beginWork transaction call => do
    require (∀ each ∈ state.writes, each.1 ≠ transaction) Taxonomy.waits
    let targets := ((state.chosen.find? (·.1 == transaction)).map (·.2)).getD []
    let write ← plannedWork state.people state.teams state.work targets call
    require (∀ row ∈ write.loaded, lockedRow Work.id WorkWrite.loaded state.writes row = false) Taxonomy.waits
    .ok { state with writes := state.writes ++ [(transaction, write)] }
  | .commitWork transaction => do
    let each ← demand (state.writes.find? (·.1 == transaction)) Taxonomy.waits
    require (∀ team ∈ each.2.names, state.teamFree team = true) Taxonomy.waits
    .ok { state with work := each.2.apply state.work, writes := state.writes.filter (·.1 ≠ transaction) }
  | .abort transaction => .ok { state with
      lists := state.lists.filter (·.1 ≠ transaction), writes := state.writes.filter (·.1 ≠ transaction)
      chosen := state.chosen.filter (·.1 ≠ transaction) }
  | .elsewhere people => .ok { state with people }

end TeamDesk
end Grc.Tenants
