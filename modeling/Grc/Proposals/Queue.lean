import Grc.Proposals.BatchDeciding
import Grc.Lib.Docket

/-! The queue of proposals on its own: what filing and deciding do to it, whatever the library
holds, and what holds of every queue they lead to. -/
namespace Grc.Proposals

open Grc.Shared Grc.Lib Grc.Library

/-- The columns of a proposal that are written once, when it is filed. -/
structure Standing where
  id : Id
  kind : ProposalKind
  targetType : String
  targetId : Option Id
  changeId : Option Id
  title : String
  payload : Dict Json
  sourceLabel : String
  sourceUrl : String
  riskFlags : List String
  origin : OriginType
  agentRunId : Option Id
  model : String
  proposedByUser : Option Id
  proposedByApiKey : Option Id
  proposedByAgent : Option Id
  idempotencyKey : Option String
  proposedInTenant : Bool
  isBatch : Bool
  rowCount : Nat
  ownerTenant : Option Id

def Proposal.standing (proposal : Proposal) : Standing where
  id := proposal.id
  kind := proposal.kind
  targetType := proposal.targetType
  targetId := proposal.targetId
  changeId := proposal.changeId
  title := proposal.title
  payload := proposal.payload
  sourceLabel := proposal.sourceLabel
  sourceUrl := proposal.sourceUrl
  riskFlags := proposal.riskFlags
  origin := proposal.origin
  agentRunId := proposal.agentRunId
  model := proposal.model
  proposedByUser := proposal.proposedByUser
  proposedByApiKey := proposal.proposedByApiKey
  proposedByAgent := proposal.proposedByAgent
  idempotencyKey := proposal.idempotencyKey
  proposedInTenant := proposal.proposedInTenant
  isBatch := proposal.isBatch
  rowCount := proposal.rowCount
  ownerTenant := proposal.ownerTenant

@[simp] theorem close_standing (proposal : Proposal) (rows : List BatchRow) (user : Id) (moment : Instant)
    (note : String) : (proposal.close rows user moment note).standing = proposal.standing := by
  by_cases decided : (rows.all fun row => row.decision != .pending) = true
  · simp only [Proposal.close, if_pos decided]
    rfl
  · simp only [Proposal.close, if_neg decided]
    rfl

def Proposal.Unreviewed (proposal : Proposal) : Prop :=
  proposal.reviewedBy = none ∧ proposal.reviewedByApiKey = none ∧ proposal.reviewedByAgent = none

/-- Its reviewer is not who made it, as a user, as a key or as an agent. -/
structure Proposal.Apart (proposal : Proposal) : Prop where
  user : ∀ user, proposal.reviewedBy = some user → proposal.proposedByUser ≠ some user
  apiKey : ∀ key, proposal.reviewedByApiKey = some key → proposal.proposedByApiKey ≠ some key
  agent : ∀ agent, proposal.reviewedByAgent = some agent → proposal.proposedByAgent ≠ some agent

def Proposal.Confirmable (proposal : Proposal) : Prop :=
  proposal.status = .approved → proposal.reviewedBy = none →
    proposal.kind ∈ agentConfirmableKinds ∧ proposal.riskFlags = [] ∧ proposal.ownerTenant = none

def Proposal.Fair (proposal : Proposal) : Prop :=
  (proposal.status = .open_ ∧ proposal.Unreviewed) ∨
    (proposal.status ≠ .open_ ∧ proposal.Apart ∧ proposal.Confirmable)

/-- The single proposals, each applied when it is approved. -/
def singles : Docket Proposal Id where
  key := Proposal.id
  waits proposal := proposal.status == .open_
  granted proposal := !proposal.isBatch && proposal.status == .approved
  waiting := by
    intro proposal waits
    rw [beq_iff_eq.mp waits]
    simp

/-- The rows of the batches, each applied when it is approved. -/
def rowDocket : Docket BatchRow Id where
  key := BatchRow.id
  waits row := row.decision == .pending
  granted row := row.decision == .approved
  waiting := by
    intro row waits
    rw [beq_iff_eq.mp waits]
    rfl

theorem rowDocket_waits {row : BatchRow} : rowDocket.waits row = true ↔ row.decision = .pending := beq_iff_eq

theorem rowDocket_granted {row : BatchRow} : rowDocket.granted row = true ↔ row.decision = .approved := beq_iff_eq

theorem singles_waits {proposal : Proposal} : singles.waits proposal = true ↔ proposal.status = .open_ := beq_iff_eq

theorem singles_granted {proposal : Proposal} :
    singles.granted proposal = true ↔ proposal.isBatch = false ∧ proposal.status = .approved := by
  simp [singles]

def batchStatus (rows : List BatchRow) : ProposalStatus :=
  if rows.any (·.decision == .pending) then .open_
  else if rows.any (·.decision == .approved) then .approved
  else .rejected

theorem close_status {batch : Proposal} (waits : batch.status = .open_) (rows : List BatchRow) (user : Id)
    (moment : Instant) (note : String) : (batch.close rows user moment note).status = batchStatus rows := by
  have dual : (rows.all fun row => row.decision != .pending) = !rows.any fun row => row.decision == .pending := by
    rw [List.all_eq_not_any_not]
    simp [bne]
  unfold batchStatus
  cases pending : rows.any fun row => row.decision == .pending with
  | true =>
    rw [pending] at dual
    simp only [Proposal.close, dual]
    exact waits
  | false =>
    rw [pending] at dual
    simp only [Proposal.close, dual]
    rfl

theorem close_reviewed (batch : Proposal) (rows : List BatchRow) (user : Id) (moment : Instant) (note : String) :
    (batch.close rows user moment note).reviewedByApiKey = batch.reviewedByApiKey ∧
      (batch.close rows user moment note).reviewedByAgent = batch.reviewedByAgent ∧
      ((batch.close rows user moment note).reviewedBy = some user ∨
        ((batch.close rows user moment note).reviewedBy = batch.reviewedBy ∧
          (batch.close rows user moment note).status = batch.status)) := by
  by_cases decided : (rows.all fun row => row.decision != .pending) = true
  · simp only [Proposal.close, if_pos decided]
    exact ⟨trivial, trivial, .inl trivial⟩
  · simp only [Proposal.close, if_neg decided]
    exact ⟨trivial, trivial, .inr ⟨trivial, trivial⟩⟩

namespace Queue

def singlesApplied (queue : Queue) : List Id :=
  (queue.applied.filter (·.rows.isEmpty)).map Application.proposal

def rowsApplied (queue : Queue) : List Id := queue.applied.flatMap Application.rows

def rowsOf (queue : Queue) (batch : Id) : List BatchRow := queue.batchRows.filter (·.proposal == batch)

def filed (queue : Queue) (row : Proposal) (zone : Option Id) (rows : List BatchRow) : Queue where
  proposals := queue.proposals ++ [row]
  tenants := queue.tenants ++ zone.toList.map fun tenant => { tenant, proposal := row.id }
  batchRows := queue.batchRows ++ rows
  applied := queue.applied
  nextId := queue.nextId + 1 + rows.length

def saved (saved : Proposal) (proposals : List Proposal) : List Proposal :=
  proposals.map fun proposal => if proposal.id = saved.id then saved else proposal

def judged (queue : Queue) (row : Proposal) (applied : List Application) : Queue :=
  { queue with proposals := saved row queue.proposals, applied := queue.applied ++ applied }

/-- Some rows of a batch decided, the approved ones applied. -/
def decided (queue : Queue) (batch : Proposal) (chosen : List (BatchRow × Outcome)) (user : Id) (moment : Instant)
    (note : String) : Queue :=
  let batchRows := decidedRows chosen user moment queue.batchRows
  { queue with
    proposals := saved (batch.close (batchRows.filter (·.proposal == batch.id)) user moment note) queue.proposals
    batchRows
    applied := queue.applied ++ applicationsOf batch.id (approvedRows chosen) }

/-- A row as it is filed, with the rows of a batch. -/
structure Fileable (queue : Queue) (row : Proposal) (rows : List BatchRow) : Prop where
  id : row.id = queue.nextId
  waits : row.status = .open_
  unreviewed : row.Unreviewed
  batch : row.isBatch = true ↔ rows ≠ []
  kind : row.isBatch = true ↔ row.kind = .obligationScope
  owned : ∀ other ∈ rows, other.proposal = row.id
  pending : ∀ other ∈ rows, other.decision = .pending
  ids : rows.map BatchRow.id = List.range' (row.id + 1) rows.length
  subjects : (rows.map BatchRow.subjectId).Nodup
  ordered : ∀ other ∈ rows, other.after.Pairwise (· < ·)

/-- A single proposal as its decision reads it and leaves it. -/
structure Judged (queue : Queue) (row after : Proposal) (reviewer : Reviewer) : Prop where
  there : row ∈ queue.proposals
  waits : row.status = .open_
  single : row.isBatch = false
  apart : ¬sameParty row reviewer
  standing : after.standing = row.standing
  user : after.reviewedBy = reviewer.user
  apiKey : after.reviewedByApiKey = reviewer.apiKeyId
  agent : after.reviewedByAgent = reviewer.agentId

/-- A batch and the rows of it a decision is made on. -/
structure Chosen (queue : Queue) (batch : Proposal) (chosen : List (BatchRow × Outcome)) (user : Id) : Prop where
  there : batch ∈ queue.proposals
  waits : batch.status = .open_
  whole : batch.isBatch = true
  apart : batch.proposedByUser ≠ some user
  rows : (chosen.map Prod.fst).Sublist ((queue.rowsOf batch.id).filter (·.decision == .pending))

/-- What one call does to the queue, and whether it decides a batch. -/
inductive Step : Bool → Queue → Queue → Prop where
  | still (queue : Queue) : Step false queue queue
  | file {queue : Queue} {row : Proposal} {rows : List BatchRow} (zone : Option Id)
      (fileable : queue.Fileable row rows) : Step false queue (queue.filed row zone rows)
  | approve {queue : Queue} {row after : Proposal} {reviewer : Reviewer} (judged : queue.Judged row after reviewer)
      (approved : after.status = .approved)
      (confirmable : reviewer.user = none →
        row.kind ∈ agentConfirmableKinds ∧ row.riskFlags = [] ∧ row.ownerTenant = none) :
      Step false queue (queue.judged after [{ proposal := row.id }])
  | reject {queue : Queue} {row after : Proposal} {reviewer : Reviewer} (judged : queue.Judged row after reviewer)
      (rejected : after.status = .rejected) : Step false queue (queue.judged after [])
  | decide {queue : Queue} {batch : Proposal} {chosen : List (BatchRow × Outcome)} {user : Id} (moment : Instant)
      (note : String) (choice : queue.Chosen batch chosen user) :
      Step true queue (queue.decided batch chosen user moment note)

end Queue
end Grc.Proposals
