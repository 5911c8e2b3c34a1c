import Grc.Proposals.Writing

/-! Filing a proposal: the checks a body passes, the retry key it is looked up under, and the row
it becomes or the earlier one it answers. -/
namespace Grc.Proposals

open Grc.Shared Grc.Lib Grc.Library

variable {Rule : Type} (platform : Platform Rule) (now : Now) (zone : Option Id)

/-- A transaction on the desk. -/
abbrev Work := Tx Desk Refusal

/-- A body as it is filed, with the retry key and the server's own word on whose record it is. -/
structure Body where
  kind : String
  title : String
  payload : Dict Json
  idempotencyKey : String := ""
  targetType : String := ""
  targetId : Option Id := none
  changeId : Option Id := none
  agentRunId : Option Id := none
  model : String := ""
  fieldSources : Dict String := []
  sourceLabel : String := ""
  sourceUrl : String := ""
  effectiveFrom : Option Day := none
  isPrivate : Bool := false

def runNotOpen (detail : String) : Refusal := { code := "run_not_open", detail }

def closedRun : Refusal := runNotOpen "That run is closed. Open a run before filing anything against it."

def requireOpenRunOfKey (runs : List AgentRun) (apiKeyId runId : Option Id) : Except Refusal AgentRun := do
  let id ← demand runId
    (runNotOpen "Name the open run this is filed under in agentRunId. Open one with POST /agent-runs first.")
  let run ← demand (runs.find? fun run => run.id == id && run.apiKey == apiKeyId) notFound
  require (run.running = true) closedRun
  .ok run

def refusePersonRun (user runId : Option Id) : Except Refusal Unit :=
  require (¬(user ≠ none ∧ runId ≠ none)) notFound

/-- The open run a body is filed under, when it must name one. -/
def runOf (runs : List AgentRun) (proposer : Proposer) (named : Bool) (runId : Option Id) :
    Except Refusal (Option AgentRun) := do
  refusePersonRun proposer.user runId
  if named = true ∨ runId ≠ none then (requireOpenRunOfKey runs proposer.apiKeyId runId).map some
  else .ok none

/-- What a body is filed as: the columns of the row it asks for. -/
structure Draft where
  run : Option AgentRun
  kind : ProposalKind
  title : String
  payload : Dict Json
  targetType : String
  targetId : Option Id
  fieldSources : Dict String
  ownerTenant : Option Id
  sourceUrl : String
  effectiveFrom : Option Day

def ownDuty : Refusal :=
  validationError "A recurring duty is proposed by a person or an agent, never by a key bound to no agent."

/-- `sourceUrl`: the link a new record itself carries, an https link or nothing on every other. -/
def checkedSourceUrl (kind : ProposalKind) (sourceUrl : String) : Except Refusal Unit := do
  require (¬(kind ∈ untargetedKinds ∧ platform.isLink sourceUrl = false))
    (sourceMissing "Give sourceUrl, the https link to the authority's page the new record is read from.")
  require (sourceUrl = "" ∨ platform.isLink sourceUrl = true)
    (validationError "sourceUrl is an https link to the authority's page, or left out.")

/-- The checks of `create` on a body whose kind is known, against the library as it is. -/
def checkedBody (records : Records) (body : Body) (kind : ProposalKind) (run : Option AgentRun) :
    Except Refusal Draft := do
  let owner ← ownerOf kind body.isPrivate zone
  let parsed ← validatedPayload platform records zone now.today kind body.payload owner
  validateObligationTarget records kind body.targetType body.targetId
  let fieldSources := body.fieldSources.map fun source => (source.1, strip source.2)
  checkPayload platform records zone kind body.targetId parsed fieldSources body.sourceLabel
  checkFieldSources platform records parsed fieldSources
  checkedSourceUrl platform kind (strip body.sourceUrl)
  let effectiveFrom ← agreedEffectiveFrom parsed body.effectiveFrom
  require (strip body.title ≠ "") (validationError "Give the proposal a title.")
  .ok { run, kind, title := strip body.title, payload := platform.modelDump parsed, targetType := body.targetType
        targetId := body.targetId, fieldSources, ownerTenant := owner, sourceUrl := strip body.sourceUrl
        effectiveFrom }

/-- The checks of `create` before it looks the retry key up. -/
def drafted (desk : Desk) (proposer : Proposer) (body : Body) : Except Refusal Draft := do
  let run ← runOf desk.runs proposer proposer.agentId.isSome body.agentRunId
  let kind ← validatedKind body.kind
  require (¬(kind = .newRecurringDuty ∧ proposer.user = none ∧ proposer.agentId = none)) ownDuty
  checkedBody platform now zone desk.records body kind run

def idempotencyKeyMaxChars : Nat := 200

def checkedKeyWidth (key : String) : Except Refusal Unit :=
  require (key.length ≤ idempotencyKeyMaxChars) (validationError
    ("An Idempotency-Key is at most " ++ toString idempotencyKeyMaxChars ++ " characters."))

def visible (zone : Option Id) (proposal : Proposal) : Bool :=
  proposal.ownerTenant == none || proposal.ownerTenant == zone

/-- Whether a row is the proposer's own: the person's, or else the key's with no person on it. -/
def ownedBy (proposer : Proposer) (proposal : Proposal) : Bool :=
  match proposer.user with
  | some user => proposal.proposedByUser == some user
  | none => proposal.proposedByApiKey == proposer.apiKeyId && proposal.proposedByUser == none

/-- The earlier proposal of the same proposer under the same key, the oldest in sight. -/
def existing (desk : Desk) (proposer : Proposer) (key : String) : Option Proposal :=
  if key = "" then none
  else desk.proposals.find? fun proposal =>
    visible zone proposal && ownedBy proposer proposal && proposal.idempotencyKey == some key

def sameZone (desk : Desk) (proposal : Proposal) : Bool :=
  match zone with
  | some tenant => desk.tenants.contains { tenant, proposal := proposal.id }
  | none => !proposal.proposedInTenant

/-- The columns a retry is compared by. -/
structure Compared where
  kind : ProposalKind
  title : String
  payload : Dict Json
  targetType : String
  targetId : Option Id
  fieldSources : Dict String
  ownerTenant : Option Id
  deriving DecidableEq

def Draft.compared (draft : Draft) : Compared where
  kind := draft.kind
  title := draft.title
  payload := draft.payload
  targetType := draft.targetType
  targetId := draft.targetId
  fieldSources := draft.fieldSources
  ownerTenant := draft.ownerTenant

def Proposal.compared (proposal : Proposal) : Compared where
  kind := proposal.kind
  title := proposal.title
  payload := proposal.payload
  targetType := proposal.targetType
  targetId := proposal.targetId
  fieldSources := proposal.fieldSources
  ownerTenant := proposal.ownerTenant

def idempotencyConflict : Refusal where
  code := "idempotency_conflict"
  detail := "This Idempotency-Key was already used for a different proposal."

/-- An audit row of a proposal. -/
def proposalEvent (action summary : String) (proposal : Proposal) (actor : Actor) (tenant : Option Id)
    (before after : List (String × AuditValue)) (stepUp : Option Id) : AuditEvent where
  action := action
  actor := actor
  subjectType := "proposal"
  subjectId := some proposal.id
  subjectTitle := proposal.title
  summary := summary
  tenantId := tenant
  before := before
  after := after
  stepUpAssertionId := stepUp

def Desk.noted (desk : Desk) (event : AuditEvent) : Desk :=
  { desk with records := { desk.records with audit := record desk.records.audit event } }

/-- `record()`, on the desk's own log. -/
def logged (event : AuditEvent) : Work Unit := Tx.write fun desk => desk.noted event

/-- `proposal.replayed`. -/
def replayedEvent (proposer : Proposer) (proposal : Proposal) (key summary : String) : AuditEvent :=
  proposalEvent "proposal.replayed" summary proposal proposer.actor zone [] [("idempotencyKey", .text key)] none

def replayed (proposer : Proposer) (proposal : Proposal) (key summary : String) : Work (Proposal × Bool) := do
  logged (replayedEvent zone proposer proposal key summary)
  pure (proposal, false)

/-- `spend`: one more proposal of a run still open, within its budget. -/
def spend (desk : Desk) (run : AgentRun) : Except Refusal Unit := do
  let limit := platform.watchRunMaxProposals
  require ((desk.runs.find? (·.id == run.id)).map (·.running) = some true) closedRun
  require ((desk.proposals.filter fun proposal => visible zone proposal && proposal.agentRunId == some run.id).length
      < limit) {
    code := "run_budget_exhausted"
    detail := "This run has filed its " ++ toString limit ++ (if limit = 1 then " proposal" else " proposals") ++
      ", the most one run may file. Close it, and a new run files the rest." }

/-- The unique constraints on a proposer's retry key, over the rows of every zone. -/
def keyTaken (desk : Desk) (proposer : Proposer) (key : String) : Bool :=
  key != "" && desk.proposals.any fun proposal => proposal.idempotencyKey == some key &&
    ((proposer.user.isSome && proposal.proposedByUser == proposer.user) ||
      (proposer.apiKeyId.isSome && proposal.proposedByApiKey == proposer.apiKeyId))

/-- `idempotency_key or None`. -/
def keyColumn (key : String) : Option String := if key = "" then none else some key

/-- The row a draft becomes. -/
def Draft.row (draft : Draft) (zone : Option Id) (proposer : Proposer) (body : Body) (riskFlags : List String)
    (id : Id) : Proposal where
  id := id
  kind := draft.kind
  targetType := draft.targetType
  targetId := draft.targetId
  changeId := body.changeId
  title := draft.title
  payload := draft.payload
  fieldSources := draft.fieldSources
  sourceLabel := body.sourceLabel
  sourceUrl := draft.sourceUrl
  riskFlags := riskFlags
  effectiveFrom := draft.effectiveFrom
  origin := proposer.origin
  agentRunId := body.agentRunId
  model := body.model
  proposedByUser := proposer.user
  proposedByApiKey := proposer.apiKeyId
  proposedByAgent := proposer.agentId
  idempotencyKey := keyColumn body.idempotencyKey
  proposedInTenant := zone.isSome
  ownerTenant := draft.ownerTenant

/-- A row added at the end of the queue, linked to the bank it was made in. -/
def Desk.filed (desk : Desk) (row : Proposal) (zone : Option Id) (batchRows : List BatchRow) : Desk :=
  { desk with
    proposals := desk.proposals ++ [row]
    tenants := desk.tenants ++ zone.toList.map fun tenant => { tenant, proposal := row.id }
    batchRows := desk.batchRows ++ batchRows
    nextId := desk.nextId + 1 + batchRows.length }

/-- `proposal.created`. -/
def createdEvent (row : Proposal) (actor : Actor) (zone : Option Id) : AuditEvent :=
  proposalEvent "proposal.created" ("Proposed: " ++ row.title) row actor zone []
    ([("kind", .text row.kind.value), ("payload", .json (.dict row.payload)), ("origin", .text row.origin.value)] ++
      if row.riskFlags = [] then [] else [("riskFlags", .texts row.riskFlags)]) none

def spendRun (desk : Desk) : Option AgentRun → Except Refusal Unit
  | none => .ok ()
  | some run => spend platform zone desk run

def rowOf (desk : Desk) (proposer : Proposer) (body : Body) (draft : Draft) : Proposal :=
  draft.row zone proposer body
    (platform.screenAll ([draft.title, body.model, body.sourceLabel, draft.sourceUrl] ++
      (Json.dict draft.payload).texts ++ draft.fieldSources.map Prod.snd)) desk.nextId

section
variable (proposer : Proposer) (body : Body)

/-- The writes of `create`, in a savepoint of their own. -/
def fileNew (draft : Draft) : Work (Proposal × Bool) := Tx.atomic do
  Tx.check fun desk => spendRun platform zone desk draft.run
  Tx.check fun desk => require (keyTaken desk proposer body.idempotencyKey = false) idempotencyConflict
  let row ← Tx.check fun desk => .ok (rowOf platform zone desk proposer body draft)
  Tx.write fun desk => desk.filed row zone []
  logged (createdEvent row proposer.actor zone)
  pure (row, true)

/-- The earlier proposal under a key answers the same body, and conflicts with any other. -/
def answerExisting (draft : Draft) (proposal : Proposal) : Work (Proposal × Bool) := do
  Tx.check fun desk => require (sameZone zone desk proposal = true ∧ proposal.compared = draft.compared)
    idempotencyConflict
  replayed zone proposer proposal body.idempotencyKey
    "A retried submission answered the proposal it already made."

/-- A draft answered by the earlier proposal under its key, or filed. -/
def answerOrFile (draft : Draft) (found : Option Proposal) : Work (Proposal × Bool) :=
  match found with
  | some proposal => answerExisting zone proposer body draft proposal
  | none => fileNew platform zone proposer body draft

/-- `create`: the proposal and whether it was created. -/
def create : Work (Proposal × Bool) := do
  let draft ← Tx.check fun desk => drafted platform now zone desk proposer body
  Tx.check fun _ => checkedKeyWidth body.idempotencyKey
  let found ← Tx.check fun desk => .ok (existing zone desk proposer body.idempotencyKey)
  answerOrFile platform zone proposer body draft found

end

variable {platform now zone} {proposer : Proposer} {body : Body} {desk after : Desk} {draft : Draft}
  {proposal : Proposal}

theorem checkedBody_ok {records : Records} {kind : ProposalKind} {run : Option AgentRun}
    (checked : checkedBody platform now zone records body kind run = .ok draft) :
    ∃ owner parsed effectiveFrom, ownerOf kind body.isPrivate zone = .ok owner ∧
      validatedPayload platform records zone now.today kind body.payload owner = .ok parsed ∧
      draft = { run, kind, title := strip body.title, payload := platform.modelDump parsed
                targetType := body.targetType, targetId := body.targetId
                fieldSources := body.fieldSources.map fun source => (source.1, strip source.2)
                ownerTenant := owner, sourceUrl := strip body.sourceUrl, effectiveFrom } := by
  simp only [checkedBody, bind_ok, Except.ok.injEq] at checked
  obtain ⟨owner, owned, parsed, validated, -, -, -, -, -, -, -, -, effectiveFrom, -, -, -, rfl⟩ := checked
  exact ⟨owner, parsed, effectiveFrom, owned, validated, rfl⟩

theorem drafted_ok (checked : drafted platform now zone desk proposer body = .ok draft) :
    ∃ run kind, runOf desk.runs proposer proposer.agentId.isSome body.agentRunId = .ok run ∧
      validatedKind body.kind = .ok kind ∧ checkedBody platform now zone desk.records body kind run = .ok draft := by
  simp only [drafted, bind_ok] at checked
  obtain ⟨run, opened, kind, known, -, -, checked⟩ := checked
  exact ⟨run, kind, opened, known, checked⟩

theorem validatedKind_single {name : String} {kind : ProposalKind} (known : validatedKind name = .ok kind) :
    kind ≠ .obligationScope := by
  have listed : kind ∈ ProposalKind.filed := List.mem_of_find?_eq_some (demand_ok.mp known)
  intro same
  rw [same] at listed
  revert listed
  decide

theorem drafted_single (checked : drafted platform now zone desk proposer body = .ok draft) :
    draft.kind ≠ .obligationScope := by
  obtain ⟨run, kind, -, known, checked⟩ := drafted_ok checked
  obtain ⟨_, _, _, -, -, rfl⟩ := checkedBody_ok checked
  exact validatedKind_single known

theorem answerExisting_execute : (answerExisting zone proposer body draft proposal).execute desk =
    if sameZone zone desk proposal = true ∧ proposal.compared = draft.compared then
      (.ok (proposal, false), desk.noted (replayedEvent zone proposer proposal body.idempotencyKey
        "A retried submission answered the proposal it already made."))
    else (.error idempotencyConflict, desk) := by
  rw [answerExisting, Tx.check_bind, require]
  by_cases same : sameZone zone desk proposal = true ∧ proposal.compared = draft.compared
  · rw [if_pos same, if_pos same]
    rfl
  · rw [if_neg same, if_neg same]

theorem fileNew_ok {row : Proposal} {made : Bool}
    (filed : (fileNew platform zone proposer body draft).execute desk = (.ok (row, made), after)) :
    made = true ∧ row = rowOf platform zone desk proposer body draft ∧
      keyTaken desk proposer body.idempotencyKey = false ∧ after.queue = (desk.filed row zone []).queue := by
  rw [fileNew, Tx.atomic_ok] at filed
  simp only [Tx.check_bind_ok, Tx.write_bind_ok, Tx.pure_ok, logged, require_ok, Except.ok.injEq,
    Prod.mk.injEq] at filed
  obtain ⟨-, -, -, free, found, same, ⟨rfl, rfl⟩, rfl⟩ := filed
  exact ⟨rfl, same.symm, free, rfl⟩

theorem create_ok {row : Proposal} {made : Bool}
    (filed : (create platform now zone proposer body).execute desk = (.ok (row, made), after)) :
    ∃ draft, drafted platform now zone desk proposer body = .ok draft ∧
      body.idempotencyKey.length ≤ idempotencyKeyMaxChars ∧
      ((made = false ∧ existing zone desk proposer body.idempotencyKey = some row ∧ after.queue = desk.queue) ∨
        (made = true ∧ existing zone desk proposer body.idempotencyKey = none ∧
          row = rowOf platform zone desk proposer body draft ∧
          keyTaken desk proposer body.idempotencyKey = false ∧ after.queue = (desk.filed row zone []).queue)) := by
  have chain := filed
  simp only [create, Tx.check_bind_ok, checkedKeyWidth, require_ok, Except.ok.injEq] at chain
  obtain ⟨draft, checked, -, width, _, rfl, answered⟩ := chain
  refine ⟨draft, checked, width, ?_⟩
  cases found : existing zone desk proposer body.idempotencyKey with
  | none =>
    rw [found] at answered
    obtain ⟨rfl, row, free, queue⟩ := fileNew_ok answered
    exact .inr ⟨rfl, rfl, row, free, queue⟩
  | some proposal =>
    rw [found, answerOrFile, answerExisting_execute] at answered
    by_cases same : sameZone zone desk proposal = true ∧ proposal.compared = draft.compared
    · rw [if_pos same] at answered
      obtain ⟨answer, rfl⟩ := Prod.mk.inj answered
      obtain ⟨rfl, rfl⟩ := Prod.mk.inj (Except.ok.inj answer)
      exact .inl ⟨rfl, rfl, rfl⟩
    · rw [if_neg same] at answered
      cases (Prod.mk.inj answered).1

end Grc.Proposals
