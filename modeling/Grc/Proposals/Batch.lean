import Grc.Proposals.Filing
import Grc.Proposals.Apply

/-! Batches: one request that re-tags many obligations, filed as one proposal with a row for each,
previewed when it is filed and decided row by row. -/
namespace Grc.Proposals

open Grc.Shared Grc.Lib Grc.Library

variable {Rule : Type} (platform : Platform Rule) (now : Now) (zone : Option Id)

/-- A batch as it is filed, its payload parsed. -/
structure BatchBody where
  kind : String
  title : String
  payload : ObligationScopePayload
  idempotencyKey : String := ""
  agentRunId : Option Id := none
  model : String := ""
  sourceLabel : String := ""
  sourceUrl : String := ""

def normalizedChange (change : ObligationScopeChange) : ObligationScopeChange :=
  { change with add := change.add.eraseDups, remove := change.remove.eraseDups, source := strip change.source }

/-- The loop of `_normalized` over the changes, with the obligations named before. -/
def checkChanges : List Id → List ObligationScopeChange → Except Refusal Unit
  | _, [] => .ok ()
  | seen, change :: rest => do
    require (change.obligationId ∉ seen)
      (validationError ("Name each obligation once. Repeated: " ++ toString change.obligationId ++ "."))
    require (strip change.source ≠ "")
      (sourceMissing ("Give the source of the new scope of " ++ toString change.obligationId ++ "."))
    let both := sorted ((change.add.filter change.remove.contains).eraseDups)
    require (both = []) (validationError ("A term is added or removed, not both: " ++ joined both ++ "."))
    checkChanges (change.obligationId :: seen) rest

def ObligationScopePayload.normalized (payload : ObligationScopePayload) : ObligationScopePayload where
  changes := payload.changes.map normalizedChange
  filled := fun empty => payload.filled (List.map_eq_nil_iff.mp empty)

/-- `_normalized`. -/
def normalizedScope (payload : ObligationScopePayload) : Except Refusal ObligationScopePayload := do
  require (payload.changes.length ≤ platform.proposalBatchMaxRows) {
    code := "batch_too_large"
    detail := "A batch changes at most " ++ toString platform.proposalBatchMaxRows ++ " records; this one names " ++
      toString payload.changes.length ++ ". File it as more than one batch." }
  checkChanges [] payload.changes
  .ok payload.normalized

/-- The scope of one obligation before a change and after it, and the terms it would hold. -/
structure Preview where
  obligation : Id
  before : Dict Id
  after : Dict Id

/-- What one change would leave of an obligation's scope. -/
def previewOf (records : Records) (terms : List Term) (change : ObligationScopeChange) : Preview :=
  let before := records.scopeTerms change.obligationId
  let kept := before.filter fun entry => !change.remove.contains entry.1
  let added := change.add.filterMap fun ref =>
    (terms.find? fun term => records.refOf term == ref).map fun term => (ref, term.id)
  { obligation := change.obligationId, before, after := Dict.update kept added }

def Preview.unchanged (preview : Preview) : Bool := sorted preview.before.keys == sorted preview.after.keys

/-- The standards check of one change that changes something. -/
def checkPreview (records : Records) (sourceLabel : String) (change : ObligationScopeChange)
    (preview : Preview) : Except Refusal Unit :=
  if preview.unchanged = true then .ok ()
  else do
    let obligation ← demand (records.activeSharedObligation change.obligationId) internalError
    let instrument ← demand (records.instrumentOf obligation.instrument) internalError
    standardsCheck platform records zone .obligationScope instrument (some (preview.after.map Prod.snd))
      [("terms", change.source)] none sourceLabel

/-- The terms a batch adds or takes off, resolved. -/
def batchTerms (records : Records) (payload : ObligationScopePayload) : Except Refusal (List Term) := do
  let refs := sorted (payload.changes.flatMap fun change => change.add ++ change.remove).eraseDups
  let terms ← if refs = [] then .ok [] else records.termsOf refs
  records.refuseMirrored (terms.map (·.dimension))
  .ok terms

/-- `_preview`: the scope before and after of each obligation, once every rule has passed. -/
def previewed (records : Records) (payload : ObligationScopePayload) (sourceLabel : String) :
    Except Refusal (List Preview) := do
  let missing := (payload.changes.map (·.obligationId)).filter fun id =>
    (records.activeSharedObligation id).isNone
  require (missing = []) (unknownKey ("Not an obligation of the library in force: " ++
    joined (missing.map toString) ++ "."))
  let terms ← batchTerms records payload
  let previews := payload.changes.map (previewOf records terms)
  let _ ← (payload.changes.zip previews).mapM fun pair => checkPreview platform zone records sourceLabel pair.1 pair.2
  let unchanged := (previews.filter (·.unchanged)).map fun preview => toString preview.obligation
  require (unchanged = []) (validationError ("These entries leave the scope as it is; take them out: " ++
    joined unchanged ++ "."))
  let unknown := records.unknownProvisionKeys ((payload.changes.map (·.source)).filter fun source =>
    !platform.isLink source)
  require (unknown = []) (validationError ("A source is an https link or the stable key of a provision in the " ++
    "library. Not a source: " ++ joined (sorted unknown) ++ "."))
  .ok previews

/-- The rows of a batch, under fresh ids after the batch's own. -/
def batchRowsOf (batch first : Id) : List Preview → List BatchRow
  | [] => []
  | preview :: rest =>
    { id := first, proposal := batch, subjectId := preview.obligation, before := sorted preview.before.keys
      after := sorted preview.after.keys } :: batchRowsOf batch (first + 1) rest

/-- What a batch is filed as. -/
structure BatchDraft where
  run : Option AgentRun
  title : String
  stored : Dict Json
  payload : ObligationScopePayload
  sourceLabel : String
  sourceUrl : String

/-- The checks of `create_batch` before it looks the retry key up. -/
def draftedBatch (desk : Desk) (proposer : Proposer) (body : BatchBody) : Except Refusal BatchDraft := do
  require (zone = none) { code := "permission_denied", detail := "A bank does not re-tag the shared library." }
  let run ← runOf desk.runs proposer proposer.apiKeyId.isSome body.agentRunId
  require (body.kind = ProposalKind.obligationScope.value)
    (unknownKey (quoted body.kind ++ " is not a batch kind. Valid kinds: obligation_scope."))
  require (strip body.title ≠ "") (validationError "Give the batch a title.")
  require (strip body.sourceUrl = "" ∨ platform.isLink (strip body.sourceUrl) = true)
    (validationError "sourceUrl is an https link to the authority's page, or left out.")
  let payload ← normalizedScope platform body.payload
  .ok { run, title := strip body.title, stored := platform.scopeDump payload, payload,
        sourceLabel := strip body.sourceLabel, sourceUrl := strip body.sourceUrl }

/-- A batch's own key: the person's rows, or else the key's, a person's with it among them. -/
def batchOwnedBy (proposer : Proposer) (proposal : Proposal) : Bool :=
  match proposer.user with
  | some user => proposal.proposedByUser == some user
  | none => proposal.proposedByApiKey == proposer.apiKeyId

def existingBatch (desk : Desk) (proposer : Proposer) (key : String) : Option Proposal :=
  if key = "" then none
  else desk.proposals.find? fun proposal =>
    visible zone proposal && batchOwnedBy proposer proposal && proposal.idempotencyKey == some key

/-- The row of a batch. -/
def BatchDraft.row (draft : BatchDraft) (proposer : Proposer) (body : BatchBody) (riskFlags : List String)
    (rowCount : Nat) (id : Id) : Proposal where
  id := id
  kind := .obligationScope
  title := draft.title
  payload := draft.stored
  sourceLabel := draft.sourceLabel
  sourceUrl := draft.sourceUrl
  riskFlags := riskFlags
  origin := proposer.origin
  agentRunId := body.agentRunId
  model := body.model
  proposedByUser := proposer.user
  proposedByApiKey := proposer.apiKeyId
  proposedByAgent := proposer.agentId
  idempotencyKey := keyColumn body.idempotencyKey
  isBatch := true
  rowCount := rowCount

def BatchDraft.rowOf (draft : BatchDraft) (platform : Platform Rule) (desk : Desk) (proposer : Proposer)
    (body : BatchBody) (rowCount : Nat) : Proposal :=
  draft.row proposer body (platform.screenAll ([draft.title, body.model, draft.sourceLabel, draft.sourceUrl] ++
    draft.payload.changes.map (·.source))) rowCount desk.nextId

/-- `proposal.created`, of a batch. -/
def batchCreatedEvent (row : Proposal) (actor : Actor) (subjects : List Id) : AuditEvent :=
  proposalEvent "proposal.created" ("Proposed a batch of " ++ toString row.rowCount ++ ": " ++ row.title) row actor
    none []
    ([("kind", .text row.kind.value), ("origin", .text row.origin.value), ("isBatch", .flag true),
      ("rowCount", .number row.rowCount), ("subjectIds", .refs subjects)] ++
      if row.riskFlags = [] then [] else [("riskFlags", .texts row.riskFlags)]) none

/-- The writes of `create_batch`; the unique constraints are not answered here by name. -/
def fileBatch (proposer : Proposer) (body : BatchBody) (draft : BatchDraft) (previews : List Preview) :
    Work (Proposal × Bool) := Tx.atomic do
  Tx.check fun desk => spendRun platform zone desk draft.run
  Tx.check fun desk => require (keyTaken desk proposer body.idempotencyKey = false) internalError
  let row ← Tx.check fun desk => .ok (draft.rowOf platform desk proposer body previews.length)
  Tx.write fun desk => desk.filed row none (batchRowsOf row.id (row.id + 1) previews)
  logged (batchCreatedEvent row proposer.actor (previews.map (·.obligation)))
  pure (row, true)

def BatchDraft.answers (draft : BatchDraft) (proposal : Proposal) : Prop :=
  proposal.isBatch = true ∧ proposal.kind = .obligationScope ∧ proposal.title = draft.title ∧
    proposal.payload = draft.stored

instance (draft : BatchDraft) (proposal : Proposal) : Decidable (draft.answers proposal) := by
  unfold BatchDraft.answers
  infer_instance

/-- A batch under a key already used answers the same body, and conflicts with any other. -/
def answerBatch (proposer : Proposer) (body : BatchBody) (draft : BatchDraft) (proposal : Proposal) :
    Work (Proposal × Bool) := do
  Tx.check fun _ => require (draft.answers proposal) idempotencyConflict
  replayed zone proposer proposal body.idempotencyKey
    "A retried submission answered the batch it already made."

/-- A batch answered by the earlier one under its key, or previewed and filed. -/
def answerOrFileBatch (proposer : Proposer) (body : BatchBody) (draft : BatchDraft) (found : Option Proposal) :
    Work (Proposal × Bool) :=
  match found with
  | some proposal => answerBatch zone proposer body draft proposal
  | none => do
    let previews ← Tx.check fun desk => previewed platform zone desk.records draft.payload draft.sourceLabel
    fileBatch platform zone proposer body draft previews

def createBatch (proposer : Proposer) (body : BatchBody) : Work (Proposal × Bool) := do
  let draft ← Tx.check fun desk => draftedBatch platform zone desk proposer body
  Tx.check fun _ => checkedKeyWidth body.idempotencyKey
  let found ← Tx.check fun desk => .ok (existingBatch zone desk proposer body.idempotencyKey)
  answerOrFileBatch platform zone proposer body draft found

variable {platform zone} {proposer : Proposer} {body : BatchBody} {desk after : Desk} {draft : BatchDraft}
  {proposal : Proposal} {previews : List Preview}

theorem answerBatch_execute : (answerBatch zone proposer body draft proposal).execute desk =
    if draft.answers proposal then
      (.ok (proposal, false), desk.noted (replayedEvent zone proposer proposal body.idempotencyKey
        "A retried submission answered the batch it already made."))
    else (.error idempotencyConflict, desk) := by
  rw [answerBatch, Tx.check_bind, require]
  by_cases same : draft.answers proposal
  · rw [if_pos same, if_pos same]
    rfl
  · rw [if_neg same, if_neg same]

theorem fileBatch_ok {row : Proposal} {made : Bool}
    (filed : (fileBatch platform zone proposer body draft previews).execute desk = (.ok (row, made), after)) :
    made = true ∧ row = draft.rowOf platform desk proposer body previews.length ∧
      keyTaken desk proposer body.idempotencyKey = false ∧
      after.queue = (desk.filed row none (batchRowsOf row.id (row.id + 1) previews)).queue := by
  rw [fileBatch, Tx.atomic_ok] at filed
  simp only [Tx.check_bind_ok, Tx.write_bind_ok, Tx.pure_ok, logged, require_ok, Except.ok.injEq,
    Prod.mk.injEq] at filed
  obtain ⟨-, -, -, free, found, same, ⟨rfl, rfl⟩, rfl⟩ := filed
  exact ⟨rfl, same.symm, free, rfl⟩

theorem createBatch_ok {row : Proposal} {made : Bool}
    (filed : (createBatch platform zone proposer body).execute desk = (.ok (row, made), after)) :
    ∃ draft, draftedBatch platform zone desk proposer body = .ok draft ∧
      body.idempotencyKey.length ≤ idempotencyKeyMaxChars ∧
      ((made = false ∧ existingBatch zone desk proposer body.idempotencyKey = some row ∧ draft.answers row ∧
          after.queue = desk.queue) ∨
        (made = true ∧ existingBatch zone desk proposer body.idempotencyKey = none ∧
          keyTaken desk proposer body.idempotencyKey = false ∧
          ∃ previews, previewed platform zone desk.records draft.payload draft.sourceLabel = .ok previews ∧
            row = draft.rowOf platform desk proposer body previews.length ∧
            after.queue = (desk.filed row none (batchRowsOf row.id (row.id + 1) previews)).queue)) := by
  have chain := filed
  simp only [createBatch, Tx.check_bind_ok, checkedKeyWidth, require_ok, Except.ok.injEq] at chain
  obtain ⟨draft, checked, -, width, _, rfl, answered⟩ := chain
  refine ⟨draft, checked, width, ?_⟩
  cases found : existingBatch zone desk proposer body.idempotencyKey with
  | none =>
    rw [found, answerOrFileBatch, Tx.check_bind_ok] at answered
    obtain ⟨previews, previewed, answered⟩ := answered
    obtain ⟨rfl, row, free, queue⟩ := fileBatch_ok answered
    exact .inr ⟨rfl, rfl, free, previews, previewed, row, queue⟩
  | some proposal =>
    rw [found, answerOrFileBatch, answerBatch_execute] at answered
    by_cases same : draft.answers proposal
    · rw [if_pos same] at answered
      obtain ⟨answer, rfl⟩ := Prod.mk.inj answered
      obtain ⟨rfl, rfl⟩ := Prod.mk.inj (Except.ok.inj answer)
      exact .inl ⟨rfl, rfl, same, rfl⟩
    · rw [if_neg same] at answered
      cases (Prod.mk.inj answered).1

theorem batchRowsOf_length (batch first : Id) (previews : List Preview) :
    (batchRowsOf batch first previews).length = previews.length := by
  induction previews generalizing first with
  | nil => rfl
  | cons preview rest ih => exact congrArg (· + 1) (ih (first + 1))

theorem batchRowsOf_ids (batch first : Id) (previews : List Preview) :
    (batchRowsOf batch first previews).map (·.id) = List.range' first previews.length := by
  induction previews generalizing first with
  | nil => rfl
  | cons preview rest ih => exact congrArg (first :: ·) (ih (first + 1))

theorem batchRowsOf_subjects (batch first : Id) (previews : List Preview) :
    (batchRowsOf batch first previews).map (·.subjectId) = previews.map (·.obligation) := by
  induction previews generalizing first with
  | nil => rfl
  | cons preview rest ih => exact congrArg (preview.obligation :: ·) (ih (first + 1))

theorem mem_batchRowsOf {batch first : Id} {row : BatchRow} (member : row ∈ batchRowsOf batch first previews) :
    row.proposal = batch ∧ row.decision = .pending ∧
      ∃ preview ∈ previews, row.subjectId = preview.obligation ∧ row.before = sorted preview.before.keys ∧
        row.after = sorted preview.after.keys := by
  induction previews generalizing first with
  | nil => cases member
  | cons preview rest ih =>
    rcases List.mem_cons.mp member with rfl | later
    · exact ⟨rfl, rfl, preview, List.mem_cons_self, rfl, rfl, rfl⟩
    · obtain ⟨owned, pending, other, among, filed⟩ := ih later
      exact ⟨owned, pending, other, List.mem_cons_of_mem preview among, filed⟩

theorem checkChanges_ok {seen : List Id} {changes : List ObligationScopeChange} {answer : Unit}
    (checked : checkChanges seen changes = .ok answer) :
    (changes.map (·.obligationId)).Nodup ∧ ∀ change ∈ changes, change.obligationId ∉ seen := by
  induction changes generalizing seen with
  | nil => exact ⟨List.nodup_nil, by simp⟩
  | cons change rest ih =>
    simp only [checkChanges, bind_ok, require_ok] at checked
    obtain ⟨-, new, -, -, -, -, later⟩ := checked
    obtain ⟨apart, unseen⟩ := ih later
    constructor
    · rw [List.map_cons, List.nodup_cons]
      refine ⟨?_, apart⟩
      intro repeated
      obtain ⟨other, among, same⟩ := List.mem_map.mp repeated
      exact unseen other among (same ▸ List.mem_cons_self)
    · intro other among
      rcases List.mem_cons.mp among with rfl | further
      · exact new
      · exact fun earlier => unseen other further (List.mem_cons_of_mem _ earlier)

theorem normalizedScope_ok {payload stored : ObligationScopePayload}
    (checked : normalizedScope platform payload = .ok stored) :
    stored = payload.normalized ∧ (stored.changes.map (·.obligationId)).Nodup := by
  simp only [normalizedScope, bind_ok, Except.ok.injEq] at checked
  obtain ⟨-, -, _, changes, rfl⟩ := checked
  refine ⟨rfl, ?_⟩
  rw [ObligationScopePayload.normalized, List.map_map]
  exact (checkChanges_ok changes).1

theorem previewed_ok {records : Records} {payload : ObligationScopePayload} {sourceLabel : String}
    (checked : previewed platform zone records payload sourceLabel = .ok previews) :
    ∃ terms, previews = payload.changes.map (previewOf records terms) := by
  simp only [previewed, bind_ok, Except.ok.injEq] at checked
  obtain ⟨-, -, terms, -, -, -, -, -, -, -, rfl⟩ := checked
  exact ⟨terms, rfl⟩

theorem previewOf_ordered (records : Records) (terms : List Term) (change : ObligationScopeChange) :
    (previewOf records terms change).before.Ordered ∧ (previewOf records terms change).after.Ordered :=
  ⟨Dict.ordered_ofList _, ((Dict.ordered_ofList _).filter _).update⟩

theorem draftedBatch_ok (checked : draftedBatch platform zone desk proposer body = .ok draft) :
    zone = none ∧ draft.title = strip body.title ∧ draft.payload = body.payload.normalized ∧
      draft.stored = platform.scopeDump body.payload.normalized ∧
      (draft.payload.changes.map (·.obligationId)).Nodup := by
  simp only [draftedBatch, bind_ok, require_ok, Except.ok.injEq] at checked
  obtain ⟨-, shared, run, -, -, -, -, -, -, -, payload, normalized, rfl⟩ := checked
  obtain ⟨rfl, apart⟩ := normalizedScope_ok normalized
  exact ⟨shared, rfl, rfl, rfl, apart⟩

end Grc.Proposals
