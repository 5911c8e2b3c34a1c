import Grc.Proposals.Batch

/-! Deciding a proposal: under its row's lock, by someone other than who made it, with a
correction on the way when the reviewer makes one. -/
namespace Grc.Proposals

open Grc.Shared Grc.Lib Grc.Library

variable {Rule : Type} (platform : Platform Rule) (now : Now) (zone : Option Id)

/-- The model call behind an agent's decision. -/
structure AgentDecision where
  model : String
  modelVersion : String
  output : String

def invalidTransition (detail : String) : Refusal := { code := "invalid_transition", detail }

def fourEyesViolation (detail : String) : Refusal := { code := "four_eyes_violation", detail }

def personReviewRequired (detail : String) : Refusal := { code := "person_review_required", detail }

/-- `_not_a_batch`, of the row as the caller read it. -/
def notABatch (proposal : Proposal) : Except Refusal Unit :=
  require (proposal.isBatch = false) (invalidTransition
    "This proposal is a batch: decide its rows through POST /proposal-batches/{batchId}/decide.")

def lockedRow (desk : Desk) (id : Id) : Except Refusal Proposal :=
  demand (desk.proposals.find? fun proposal => proposal.id == id && proposal.ownerTenant == zone) internalError

/-- Whether the reviewer is who made the proposal, as a user, as a key or as an agent. -/
def sameParty (proposal : Proposal) (reviewer : Reviewer) : Prop :=
  (reviewer.user ≠ none ∧ proposal.proposedByUser = reviewer.user) ∨
    (reviewer.apiKeyId ≠ none ∧ proposal.proposedByApiKey = reviewer.apiKeyId) ∨
    (reviewer.agentId ≠ none ∧ proposal.proposedByAgent = reviewer.agentId)

instance (proposal : Proposal) (reviewer : Reviewer) : Decidable (sameParty proposal reviewer) := by
  unfold sameParty
  infer_instance

/-- `_decidable`: the row under its lock, open, and made by someone else. -/
def decidableRow (desk : Desk) (id : Id) (reviewer : Reviewer) : Except Refusal Proposal := do
  let proposal ← lockedRow zone desk id
  require (proposal.status = .open_) (invalidTransition "This proposal has already been decided.")
  require (¬(reviewer.apiKeyId ≠ none ∧ reviewer.agentId = none))
    (fourEyesViolation "A reviewing key must be bound to an agent definition.")
  require (¬sameParty proposal reviewer) (fourEyesViolation
    "A proposal is decided by someone other than the person, key or agent who made it.")
  .ok proposal

def decisionRun (desk : Desk) (reviewer : Reviewer) (decision : Option AgentDecision) (runId : Option Id) :
    Except Refusal (Option AgentRun) :=
  if reviewer.user ≠ none then do
    require (decision = none ∧ runId = none) (validationError
      "A person's decision names no model call and no run: leave out decision and agentRunId.")
    .ok none
  else do
    require (decision ≠ none) (validationError ("Send the model call behind this decision in decision: the model, " ++
      "its version, the output and at least one citation."))
    (requireOpenRunOfKey desk.runs reviewer.apiKeyId runId).map some

/-- `_log_decision`: refused when the call names no model or no version. -/
def logDecision (proposal : Id) (decision : Option AgentDecision) (run : Option AgentRun) : Work Unit :=
  match decision, run with
  | some decision, some run => do
    Tx.check fun _ => require (strip decision.model ≠ "" ∧ strip decision.modelVersion ≠ "")
      (validationError "A model call is logged with the model and the model version behind it.")
    Tx.write fun desk => { desk with generations := desk.generations ++ [{
      model := decision.model, modelVersion := decision.modelVersion, output := decision.output,
      agentRunId := run.id, subjectId := proposal }] }
  | _, _ => pure ()

def reviewerFacts (reviewer : Reviewer) (run : Option AgentRun) : List (String × AuditValue) :=
  if reviewer.apiKeyId = none then []
  else ("reviewingApiKeyPrefix", .text reviewer.apiKeyPrefix) ::
    (run.toList.map fun run => ("agentRunId", .ref run.id))

/-- `_field_value`: what a stored payload holds for a sourced field. -/
def fieldValue (payload : Dict Json) (field : String) : Option Json :=
  let letters := field.toList
  let name := String.ofList (letters.takeWhile (· != '.'))
  let language := String.ofList ((letters.dropWhile (· != '.')).drop 1)
  match payload.get name with
  | some (.dict entries) => if language = "" then some (.dict entries) else Dict.get entries language
  | value => value

/-- What a reviewer sends with an approval. -/
structure Approval where
  note : String := ""
  payloadOverrides : Dict Json := []
  fieldSources : Dict String := []
  stepUpAssertionId : Option Id := none
  decision : Option AgentDecision := none
  agentRunId : Option Id := none

def changedFields (parsed : Payload) (stored proposed : Dict Json) : List String :=
  (sourcedFields parsed).filter fun name => fieldValue stored name != fieldValue proposed name

/-- The rules of a correction's own sources. -/
def checkFresh (changed : List String) (fresh : Dict String) : Except Refusal Unit := do
  let missing := changed.filter fun name => (fresh.get name).getD "" == ""
  require (missing = []) (sourceMissing ("Give the source you read each corrected value in. Missing: " ++
    joined missing ++ "."))
  let stray := sorted (fresh.keys.filter fun name => !changed.contains name)
  require (stray = []) (validationError (joined stray ++ ": this correction does not change that field, so it " ++
    "takes no new source."))

/-- `corrected`: the proposal with the payload as the reviewer corrected it. -/
def corrected (records : Records) (proposal : Proposal) (reviewer : Reviewer) (approval : Approval) :
    Except Refusal Proposal := do
  require (proposal.kind ∈ correctableKinds)
    (validationError "Corrections belong to a version or a new record. Reject this one with a reason instead.")
  let parsed ← validatedPayload platform records zone now.today proposal.kind
    (proposal.payload.update approval.payloadOverrides) proposal.ownerTenant
  let stored := platform.modelDump parsed
  let fresh := approval.fieldSources.map fun source => (source.1, strip source.2)
  let sources := Dict.update proposal.fieldSources fresh
  checkPayload platform records zone proposal.kind proposal.targetId parsed sources proposal.sourceLabel
  checkFresh (changedFields parsed stored proposal.payload) fresh
  checkFieldSources platform records parsed sources
  require (¬(reviewer.user = none ∧ stored.get "originalLanguage" ≠ proposal.payload.get "originalLanguage"))
    (validationError ("An agent cannot change which language a summary was written in. Reject it with a reason " ++
      "instead."))
  .ok { proposal with
    correctedPayload := some stored
    correctedBy := reviewer.user
    correctedAt := some now.moment
    fieldSources := sources
    effectiveFrom := (payloadDate parsed).getD proposal.effectiveFrom }

/-- The proposal an approval applies: corrected, when the reviewer sent a correction. -/
def revised (records : Records) (proposal : Proposal) (reviewer : Reviewer) (approval : Approval) :
    Except Refusal Proposal :=
  if approval.payloadOverrides = [] ∧ approval.fieldSources = [] then .ok proposal
  else corrected platform now zone records proposal reviewer approval

/-- What only a person may approve. -/
def checkConfirmable (proposal : Proposal) (reviewer : Reviewer) (approval : Approval) : Except Refusal Unit := do
  require (¬(reviewer.user = none ∧ proposal.kind ∉ agentConfirmableKinds)) (personReviewRequired
    "An agent cannot approve this kind of change: a person has to approve it.")
  require (¬(reviewer.user = none ∧ (proposal.riskFlags ≠ [] ∨
      platform.screenAll (Json.dict approval.payloadOverrides).texts ≠ []))) {
    code := "risk_flagged"
    detail := "This proposal carries text the injection screen flagged, so an agent cannot approve it: a person " ++
      "reads the flag and decides." }

/-- The apply step, on the desk's library, with its place in the model's account of it. -/
def applyStep (proposal : Proposal) (actor : Actor) (reviewer : Reviewer) (stepUp : Option Id)
    (rows : List BatchRow) : Work Unit := do
  Tx.within Desk.records (fun records desk => { desk with records })
    (apply platform now zone proposal.filed actor reviewer stepUp rows)
  Tx.write fun desk => { desk with
    applied := desk.applied ++ [{ proposal := proposal.id, rows := rows.map (·.id) }] }

/-- `proposal.save(update_fields=...)`. -/
def Desk.save (desk : Desk) (saved : Proposal) : Desk :=
  { desk with proposals := desk.proposals.map fun proposal =>
      if proposal.id = saved.id then saved else proposal }

/-- An approved row. -/
def Proposal.approve (proposal : Proposal) (reviewer : Reviewer) (moment : Instant) (note : String) : Proposal :=
  { proposal with
    status := .approved
    reviewedBy := reviewer.user
    reviewedByApiKey := reviewer.apiKeyId
    reviewedByAgent := reviewer.agentId
    reviewedAt := some moment
    appliedAt := some moment
    reviewNote := strip note }

/-- A rejected row. -/
def Proposal.reject (proposal : Proposal) (reviewer : Reviewer) (moment : Instant) (code note : String) :
    Proposal :=
  { proposal with
    status := .rejected
    reviewedBy := reviewer.user
    reviewedByApiKey := reviewer.apiKeyId
    reviewedByAgent := reviewer.agentId
    reviewedAt := some moment
    rejectionCode := code
    reviewNote := note }

def sourcesValue (sent sources : Dict String) : List (String × AuditValue) :=
  if sent = [] then []
  else [("fieldSources", .json (Json.ofTexts (sources.filter fun source => sent.has source.1)))]

/-- `proposal.approved`. -/
def approvedEvent (proposal revision : Proposal) (actor : Actor) (reviewer : Reviewer) (approval : Approval)
    (run : Option AgentRun) : AuditEvent :=
  let sent := approval.fieldSources
  proposalEvent "proposal.approved" ("Approved: " ++ proposal.title) proposal actor proposal.ownerTenant
    ([("status", .text "open")] ++ sourcesValue sent proposal.fieldSources)
    ([("status", .text "approved"), ("corrected", .flag revision.correctedPayload.isSome)] ++
      sourcesValue sent revision.fieldSources ++ reviewerFacts reviewer run) approval.stepUpAssertionId

/-- The transaction of `approve`, from the moment it holds the row's lock. -/
def approveLocked (id : Id) (reviewer : Reviewer) (actor : Actor) (approval : Approval) : Work Proposal := do
  let run ← Tx.check fun desk => decisionRun desk reviewer approval.decision approval.agentRunId
  let proposal ← Tx.check fun desk => decidableRow zone desk id reviewer
  Tx.check fun _ => checkConfirmable platform proposal reviewer approval
  let revision ← Tx.check fun desk => revised platform now zone desk.records proposal reviewer approval
  applyStep platform now zone revision actor reviewer approval.stepUpAssertionId []
  Tx.write fun desk => desk.save (revision.approve reviewer now.moment approval.note)
  logDecision proposal.id approval.decision run
  logged (approvedEvent proposal revision actor reviewer approval run)
  pure (revision.approve reviewer now.moment approval.note)

def checkOwnRecord (proposal : Proposal) (reviewer : Reviewer) : Except Refusal Unit :=
  require (¬(reviewer.user = none ∧ proposal.ownerTenant ≠ none)) (personReviewRequired
    "A record of an organisation's own is approved by a person there, never by an agent.")

/-- `approve`, of a proposal as the caller read it. -/
def approve (proposal : Proposal) (reviewer : Reviewer) (actor : Actor) (approval : Approval) : Work Proposal := do
  Tx.check fun _ => notABatch proposal
  Tx.check fun _ => checkOwnRecord proposal reviewer
  Tx.atomic (approveLocked platform now zone proposal.id reviewer actor approval)

/-- What a reviewer sends with a rejection. -/
structure Rejection where
  rejectionCode : String
  note : String
  decision : Option AgentDecision := none
  agentRunId : Option Id := none

def reasonRequired (detail : String) : Refusal := { code := "reason_required", detail }

def liveReason (records : Records) (code : String) : Bool :=
  records.rows.any fun row => row.list == "rejection_reason" && row.key == code && row.active

/-- A rejection's reason: a live code and a sentence. -/
def checkReason (records : Records) (code note : String) : Except Refusal Unit := do
  require (code ≠ "" ∧ note ≠ "")
    (reasonRequired "Say why: choose a reason and write a note the proposer will read.")
  require (liveReason records code = true) (reasonRequired (quoted code ++
    " is not a reason the rejection reason list offers. Choose one of its live rows."))

/-- `proposal.rejected`. -/
def rejectedEvent (proposal : Proposal) (actor : Actor) (reviewer : Reviewer) (code : String)
    (run : Option AgentRun) : AuditEvent :=
  proposalEvent "proposal.rejected" ("Rejected: " ++ proposal.title) proposal actor proposal.ownerTenant
    [("status", .text "open")]
    ([("status", .text "rejected"), ("rejectionCode", .text code)] ++ reviewerFacts reviewer run) none

/-- The transaction of `reject`. -/
def rejectLocked (id : Id) (reviewer : Reviewer) (actor : Actor) (rejection : Rejection) : Work Proposal := do
  let run ← Tx.check fun desk => decisionRun desk reviewer rejection.decision rejection.agentRunId
  let code := strip rejection.rejectionCode
  Tx.check fun desk => checkReason desk.records code (strip rejection.note)
  let proposal ← Tx.check fun desk => decidableRow zone desk id reviewer
  Tx.write fun desk => desk.save (proposal.reject reviewer now.moment code (strip rejection.note))
  logDecision proposal.id rejection.decision run
  logged (rejectedEvent proposal actor reviewer code run)
  pure (proposal.reject reviewer now.moment code (strip rejection.note))

/-- `reject`, of a proposal as the caller read it. -/
def reject (proposal : Proposal) (reviewer : Reviewer) (actor : Actor) (rejection : Rejection) : Work Proposal := do
  Tx.check fun _ => notABatch proposal
  Tx.atomic (rejectLocked now zone proposal.id reviewer actor rejection)

variable {platform now zone} {desk after : Desk} {proposal row : Proposal} {reviewer : Reviewer} {actor : Actor}

theorem lockedRow_ok {id : Id} (found : lockedRow zone desk id = .ok row) :
    row ∈ desk.proposals ∧ row.id = id ∧ row.ownerTenant = zone := by
  rw [lockedRow, demand_ok] at found
  have named := List.find?_some found
  simp only [Bool.and_eq_true, beq_iff_eq] at named
  exact ⟨List.mem_of_find?_eq_some found, named.1, named.2⟩

theorem decidableRow_ok {id : Id} (found : decidableRow zone desk id reviewer = .ok row) :
    row ∈ desk.proposals ∧ row.id = id ∧ row.status = .open_ ∧ ¬sameParty row reviewer ∧
      (reviewer.apiKeyId ≠ none → reviewer.agentId ≠ none) := by
  simp only [decidableRow, bind_ok, require_ok, Except.ok.injEq] at found
  obtain ⟨found, locked, -, waits, -, bound, -, apart, rfl⟩ := found
  obtain ⟨member, same, -⟩ := lockedRow_ok locked
  exact ⟨member, same, waits, apart, fun keyed unbound => bound ⟨keyed, unbound⟩⟩

theorem applyStep_ok {stepUp : Option Id} {rows : List BatchRow} {answer : Unit}
    (applied : (applyStep platform now zone proposal actor reviewer stepUp rows).execute desk = (.ok answer, after)) :
    ∃ records, (apply platform now zone proposal.filed actor reviewer stepUp rows).execute desk.records =
        (.ok (), records) ∧
      after = { desk with
        records
        applied := desk.applied ++ [{ proposal := proposal.id, rows := rows.map (·.id) }] } := by
  simp only [applyStep, Tx.bind_ok, Tx.within_ok, Tx.write_ok] at applied
  obtain ⟨_, _, ⟨records, done, rfl⟩, rfl⟩ := applied
  exact ⟨records, done, rfl⟩

theorem logDecision_ok {id : Id} {decision : Option AgentDecision} {run : Option AgentRun} {answer : Unit}
    (logs : (logDecision id decision run).execute desk = (.ok answer, after)) :
    ∃ generations, after = { desk with generations } := by
  cases decision with
  | none => exact ⟨desk.generations, (Tx.pure_ok.mp logs).2⟩
  | some decision =>
    cases run with
    | none => exact ⟨desk.generations, (Tx.pure_ok.mp logs).2⟩
    | some run =>
      rw [logDecision, Tx.check_bind_ok] at logs
      obtain ⟨_, -, written⟩ := logs
      exact ⟨_, Tx.write_ok.mp written⟩

theorem checkConfirmable_ok {approval : Approval} {answer : Unit}
    (confirmable : checkConfirmable platform proposal reviewer approval = .ok answer) (agent : reviewer.user = none) :
    proposal.kind ∈ agentConfirmableKinds ∧ proposal.riskFlags = [] := by
  simp only [checkConfirmable, bind_ok, require_ok] at confirmable
  obtain ⟨_, kind, flags⟩ := confirmable
  constructor
  · by_contra other
    exact kind ⟨agent, other⟩
  · by_contra flagged
    exact flags ⟨agent, .inl flagged⟩

theorem corrected_ok {records : Records} {approval : Approval} {revision : Proposal}
    (found : corrected platform now zone records proposal reviewer approval = .ok revision) :
    ∃ payload by_ at_ sources date, revision = { proposal with
      correctedPayload := payload, correctedBy := by_, correctedAt := at_, fieldSources := sources
      effectiveFrom := date } := by
  simp only [corrected, bind_ok, Except.ok.injEq] at found
  obtain ⟨-, -, _, -, -, -, -, -, -, -, -, -, rfl⟩ := found
  exact ⟨_, _, _, _, _, rfl⟩

theorem revised_ok {records : Records} {approval : Approval} {revision : Proposal}
    (found : revised platform now zone records proposal reviewer approval = .ok revision) :
    ∃ payload by_ at_ sources date, revision = { proposal with
      correctedPayload := payload, correctedBy := by_, correctedAt := at_, fieldSources := sources
      effectiveFrom := date } := by
  by_cases plain : approval.payloadOverrides = [] ∧ approval.fieldSources = []
  · rw [revised, if_pos plain, Except.ok.injEq] at found
    exact ⟨proposal.correctedPayload, proposal.correctedBy, proposal.correctedAt, proposal.fieldSources,
      proposal.effectiveFrom, found.symm⟩
  · rw [revised, if_neg plain] at found
    exact corrected_ok found

theorem approve_ok {approval : Approval} {answer : Proposal}
    (approved : (approve platform now zone proposal reviewer actor approval).execute desk = (.ok answer, after)) :
    proposal.isBatch = false ∧ (reviewer.user = none → proposal.ownerTenant = none) ∧
      ∃ row revision, decidableRow zone desk proposal.id reviewer = .ok row ∧
        checkConfirmable platform row reviewer approval = .ok () ∧
        revised platform now zone desk.records row reviewer approval = .ok revision ∧
        (∃ records, (apply platform now zone revision.filed actor reviewer approval.stepUpAssertionId []).execute
          desk.records = (.ok (), records)) ∧
        answer = revision.approve reviewer now.moment approval.note ∧
        after.queue = { desk.queue with
          proposals := (desk.save answer).proposals
          applied := desk.applied ++ [{ proposal := revision.id }] } := by
  simp only [approve, approveLocked, Tx.check_bind_ok, Tx.atomic_ok, notABatch, checkOwnRecord, require_ok] at approved
  obtain ⟨_, single, _, own, run, -, row, decidable, _, confirmable, revision, revises, rest⟩ := approved
  obtain ⟨_, middle, applies, rest⟩ := Tx.bind_ok.mp rest
  obtain ⟨records, done, rfl⟩ := applyStep_ok applies
  rw [Tx.write_bind_ok] at rest
  obtain ⟨_, noted, logs, rest⟩ := Tx.bind_ok.mp rest
  obtain ⟨generations, rfl⟩ := logDecision_ok logs
  rw [logged, Tx.write_bind_ok, Tx.pure_ok] at rest
  obtain ⟨rfl, rfl⟩ := rest
  refine ⟨single, ?_, row, revision, decidable, confirmable, revises, ⟨records, done⟩, rfl, rfl⟩
  intro agent
  by_contra foreign
  exact own ⟨agent, foreign⟩

theorem reject_ok {rejection : Rejection} {answer : Proposal}
    (rejected : (reject now zone proposal reviewer actor rejection).execute desk = (.ok answer, after)) :
    proposal.isBatch = false ∧
      ∃ row, decidableRow zone desk proposal.id reviewer = .ok row ∧
        answer = row.reject reviewer now.moment (strip rejection.rejectionCode) (strip rejection.note) ∧
        after.queue = { desk.queue with proposals := (desk.save answer).proposals } ∧
        ∃ generations event, after = ({ desk.save answer with generations } : Desk).noted event := by
  simp only [reject, rejectLocked, Tx.check_bind_ok, Tx.atomic_ok, notABatch, require_ok, Tx.write_bind_ok] at rejected
  obtain ⟨-, single, run, -, -, -, row, decidable, rest⟩ := rejected
  obtain ⟨_, noted, logs, rest⟩ := Tx.bind_ok.mp rest
  obtain ⟨generations, rfl⟩ := logDecision_ok logs
  rw [logged, Tx.write_bind_ok, Tx.pure_ok] at rest
  obtain ⟨rfl, rfl⟩ := rest
  exact ⟨single, row, decidable, rfl, rfl, _, _, rfl⟩

end Grc.Proposals
