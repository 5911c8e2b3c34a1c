import Grc.Proposals.Deciding

/-! Deciding a batch, whole or row by row: each row once, the batch closed when no row waits. -/
namespace Grc.Proposals

open Grc.Shared Grc.Lib Grc.Library

variable {Rule : Type} (platform : Platform Rule) (now : Now) (zone : Option Id)

/-- One row of a decision as it is sent. -/
structure RowDecision where
  rowId : Id
  decision : String
  rejectionCode : String := ""

structure BatchDecision where
  rows : List RowDecision := []
  rest : Option String := none
  restRejectionCode : String := ""
  note : String := ""

/-- A decision on a row, a rejection with the key of its reason. -/
inductive Outcome where
  | approved
  | rejected (reason : String)
  deriving DecidableEq

def Outcome.decision : Outcome → BatchRowDecision
  | approved => .approved
  | rejected _ => .rejected

def Outcome.reason : Outcome → Option String
  | approved => none
  | rejected reason => some reason

/-- `_reason`. -/
def outcomeOf (records : Records) (decision code : String) : Except Refusal Outcome := do
  require (decision = "approved" ∨ decision = "rejected") (validationError (quoted decision ++
    " is not a decision. Valid decisions: approved, rejected."))
  if decision = "approved" then do
    require (strip code = "") (validationError "An approval takes no rejection reason.")
    .ok .approved
  else do
    require (strip code ≠ "" ∧ liveReason records (strip code) = true) (reasonRequired
      "Say why: choose a live reason from the rejection reason list for every rejected row.")
    .ok (.rejected (strip code))

/-- The loop of `_decisions` over the rows a body names. -/
def namedOutcomes (records : Records) : List Id → List RowDecision → Except Refusal (List (Id × Outcome))
  | _, [] => .ok []
  | seen, row :: rest => do
    require (row.rowId ∉ seen) (validationError ("Name each row once. Repeated: " ++ toString row.rowId ++ "."))
    let outcome ← outcomeOf records row.decision row.rejectionCode
    let others ← namedOutcomes records (row.rowId :: seen) rest
    .ok ((row.rowId, outcome) :: others)

/-- A body's decisions: those on named rows, and the one on the rest. -/
structure Decisions where
  named : List (Id × Outcome)
  rest : Option Outcome

/-- `_decisions`. -/
def decisionsOf (records : Records) (decision : BatchDecision) : Except Refusal Decisions := do
  let named ← namedOutcomes records [] decision.rows
  let rest ← optionally (fun rest => outcomeOf records rest decision.restRejectionCode) decision.rest
  require (¬(decision.rest = none ∧ strip decision.restRejectionCode ≠ ""))
    (validationError "restRejectionCode goes with a rest that is rejected.")
  require (¬(named = [] ∧ rest = none))
    (validationError "Decide at least one row, or give the rest a decision.")
  .ok { named, rest }

def Decisions.on (decisions : Decisions) (row : Id) : Option Outcome :=
  ((decisions.named.find? (·.1 == row)).map Prod.snd).or decisions.rest

def Decisions.names (decisions : Decisions) (row : Id) : Bool := decisions.named.any (·.1 == row)

/-- Whether a row's record was retired, or its scope moved, since the batch was filed. -/
def isStale (records : Records) (row : BatchRow) : Bool :=
  (records.activeSharedObligation row.subjectId).isNone ||
    sorted (records.scopeTerms row.subjectId).keys != row.before

/-- The pending rows a decision is made on; a stale one is never approved. -/
def chosenRows (records : Records) (decisions : Decisions) :
    List BatchRow → Except Refusal (List (BatchRow × Outcome))
  | [] => .ok []
  | row :: rest =>
    match decisions.on row.id with
    | none => chosenRows records decisions rest
    | some outcome =>
      if outcome = .approved ∧ isStale records row = true then
        if decisions.names row.id = true then
          .error (staleWrite "A row whose record changed after the batch was filed cannot be approved: reject it.")
        else chosenRows records decisions rest
      else do
        let others ← chosenRows records decisions rest
        .ok ((row, outcome) :: others)

def requestedBy (desk : Desk) (proposal : Proposal) : Option Id :=
  proposal.agentRunId.bind fun run => (desk.runs.find? (·.id == run)).bind (·.requestedBy)

/-- The batch under its lock: open, and asked for by someone else. -/
def decidableBatch (desk : Desk) (id user : Id) : Except Refusal Proposal := do
  let proposal ← lockedRow zone desk id
  require (proposal.status = .open_) (invalidTransition "This batch has already been decided.")
  require (proposal.proposedByUser ≠ some user ∧ requestedBy desk proposal ≠ some user)
    (fourEyesViolation "A batch is decided by someone other than the person who asked for it.")
  .ok proposal

def Desk.rowsOf (desk : Desk) (batch : Id) : List BatchRow := desk.batchRows.filter (·.proposal == batch)

/-- The rows a decision is made on, once every row it names is one of the batch's own and pending. -/
def chosenOf (desk : Desk) (batch : Id) (decisions : Decisions) : Except Refusal (List (BatchRow × Outcome)) := do
  let rows := desk.rowsOf batch
  let unknown := (decisions.named.map Prod.fst).filter fun id => !rows.any (·.id == id)
  require (unknown = []) (unknownKey ("Not a row of this batch: " ++ joined (unknown.map toString) ++ "."))
  require (∀ row ∈ rows, decisions.names row.id = true → row.decision = .pending)
    (invalidTransition "A row is decided once, and this call names one already decided.")
  let chosen ← chosenRows desk.records decisions (rows.filter (·.decision == .pending))
  require (chosen ≠ [])
    (staleWrite "Every row left to approve changed after the batch was filed: reject them.")
  .ok chosen

def BatchRow.decide (row : BatchRow) (outcome : Outcome) (user : Id) (moment : Instant) : BatchRow :=
  { row with decision := outcome.decision, rejectionReason := outcome.reason, decidedBy := some user,
             decidedAt := some moment }

section
variable (chosen : List (BatchRow × Outcome)) (user : Id) (moment : Instant)

def decidedRow (row : BatchRow) : BatchRow :=
  match chosen.find? (·.1.id == row.id) with
  | none => row
  | some pair => row.decide pair.2 user moment

theorem decidedRow_about (row : BatchRow) :
    (decidedRow chosen user moment row).id = row.id ∧ (decidedRow chosen user moment row).proposal = row.proposal ∧
      (decidedRow chosen user moment row).subjectId = row.subjectId ∧
      (decidedRow chosen user moment row).before = row.before ∧
      (decidedRow chosen user moment row).after = row.after := by
  unfold decidedRow
  cases chosen.find? (·.1.id == row.id) with
  | none | some pair => exact ⟨rfl, rfl, rfl, rfl, rfl⟩

def decidedRows (rows : List BatchRow) : List BatchRow := rows.map (decidedRow chosen user moment)

end

/-- `_close`: the note kept, and the batch closed once no row of it waits. -/
def Proposal.close (proposal : Proposal) (rows : List BatchRow) (user : Id) (moment : Instant) (note : String) :
    Proposal :=
  let reviewNote := if note = "" then proposal.reviewNote else note
  let isApproved := rows.any (·.decision == .approved)
  let reasons := (rows.filterMap (·.rejectionReason)).eraseDups
  if rows.all (·.decision != .pending) then
    { proposal with
      reviewNote
      status := if isApproved then .approved else .rejected
      reviewedBy := some user
      reviewedAt := some moment
      appliedAt := if isApproved then some moment else none
      rejectionCode := if isApproved then "" else match reasons with
        | [reason] => reason
        | _ => "" }
  else { proposal with reviewNote }

/-- `proposal.batch_row_rejected`. -/
def rowRejectedEvent (proposal : Proposal) (row : BatchRow) (reason : String) (actor : Actor)
    (stepUp : Option Id) : AuditEvent where
  action := "proposal.batch_row_rejected"
  actor := actor
  subjectType := "obligation"
  subjectId := some row.subjectId
  subjectTitle := proposal.title
  summary := "Kept the scope as it is: a row of " ++ proposal.title ++ " was rejected."
  tenantId := none
  before := [("terms", .texts row.before)]
  after := [("decision", .text "rejected"), ("rejectionCode", .text reason), ("proposal", .ref proposal.id),
    ("batchRow", .ref row.id)]
  stepUpAssertionId := stepUp

def rejectedEvents (proposal : Proposal) (chosen : List (BatchRow × Outcome)) (actor : Actor)
    (stepUp : Option Id) : List AuditEvent :=
  chosen.filterMap fun pair => pair.2.reason.map fun reason => rowRejectedEvent proposal pair.1 reason actor stepUp

/-- `proposal.batch_decided`. -/
def batchDecidedEvent (proposal closed : Proposal) (chosen : List (BatchRow × Outcome)) (rows : List BatchRow)
    (actor : Actor) (stepUp : Option Id) : AuditEvent :=
  proposalEvent "proposal.batch_decided"
    ("Decided " ++ toString chosen.length ++ " of " ++ toString rows.length ++ " rows: " ++ proposal.title) proposal
    actor none [("status", .text "open")]
    [("status", .text (if closed.status = .open_ then "open"
        else if closed.status = .approved then "approved" else "rejected")),
      ("rows", .records (rows.map fun row => [("rowId", .inl row.id), ("subjectId", .inl row.subjectId),
        ("rejectionCode", .inr (row.rejectionReason.getD ""))]))] stepUp

def applyRows (proposal : Proposal) (actor : Actor) (reviewer : Reviewer) (stepUp : Option Id)
    (rows : List BatchRow) : Work Unit :=
  if rows = [] then pure () else applyStep platform now zone proposal actor reviewer stepUp rows

def Desk.closeBatch (desk : Desk) (proposal : Proposal) (chosen : List (BatchRow × Outcome)) (user : Id)
    (moment : Instant) (note : String) : Desk :=
  let batchRows := decidedRows chosen user moment desk.batchRows
  { desk.save (proposal.close (batchRows.filter (·.proposal == proposal.id)) user moment note) with batchRows }

/-- The transaction of `decide`. -/
def decideLocked (id user : Id) (decisions : Decisions) (note : String) (reviewer : Reviewer)
    (stepUp : Option Id) : Work Proposal := do
  let proposal ← Tx.check fun desk => decidableBatch zone desk id user
  let chosen ← Tx.check fun desk => chosenOf desk id decisions
  applyRows platform now zone proposal reviewer.actor reviewer stepUp
    ((chosen.filter (·.2 == .approved)).map Prod.fst)
  Tx.each (rejectedEvents proposal chosen reviewer.actor stepUp) logged
  Tx.write fun desk => desk.closeBatch proposal chosen user now.moment (strip note)
  let rows ← Tx.check fun desk => .ok (desk.rowsOf id)
  let closed := proposal.close rows user now.moment (strip note)
  logged (batchDecidedEvent proposal closed chosen rows reviewer.actor stepUp)
  pure closed

/-- `decide`, of a batch as the caller read it. -/
def decideBatch (proposal : Proposal) (decision : BatchDecision) (reviewer : Reviewer) (stepUp : Option Id) :
    Work Proposal := do
  let user ← Tx.check fun _ => demand reviewer.user
    (personReviewRequired "A person decides a batch: an agent cannot approve or reject its rows.")
  Tx.check fun _ => require (zone = none)
    { code := "permission_denied", detail := "A bank does not decide the shared library's batches." }
  let decisions ← Tx.check fun desk => decisionsOf desk.records decision
  Tx.atomic (decideLocked platform now zone proposal.id user decisions decision.note reviewer stepUp)

variable {platform now zone} {desk after : Desk} {proposal row : Proposal} {reviewer : Reviewer} {stepUp : Option Id}

variable {chosen : List (BatchRow × Outcome)} {decisions : Decisions} {rows : List BatchRow}

theorem chosenRows_sublist {records : Records}
    (found : chosenRows records decisions rows = .ok chosen) :
    (chosen.map Prod.fst).Sublist rows := by
  induction rows generalizing chosen with
  | nil =>
    rw [chosenRows, Except.ok.injEq] at found
    rw [← found]
    exact .slnil
  | cons row rest ih =>
    rw [chosenRows] at found
    split at found
    · exact (ih found).cons row
    · split at found
      · split at found
        · cases found
        · exact (ih found).cons row
      · simp only [bind_ok, Except.ok.injEq] at found
        obtain ⟨others, chose, rfl⟩ := found
        exact (ih chose).cons_cons row

theorem chosenRows_fresh {records : Records}
    (found : chosenRows records decisions rows = .ok chosen)
    {pair : BatchRow × Outcome} (member : pair ∈ chosen) (approved : pair.2 = .approved) :
    isStale records pair.1 = false := by
  induction rows generalizing chosen with
  | nil =>
    rw [chosenRows, Except.ok.injEq] at found
    rw [← found] at member
    cases member
  | cons row rest ih =>
    rw [chosenRows] at found
    split at found
    · exact ih found member
    · next outcome on =>
      split at found
      · split at found
        · cases found
        · exact ih found member
      · next sound =>
        simp only [bind_ok, Except.ok.injEq] at found
        obtain ⟨others, chose, rfl⟩ := found
        rcases List.mem_cons.mp member with rfl | later
        · by_contra stale
          exact sound ⟨approved, by simpa using stale⟩
        · exact ih chose later

theorem chosenOf_ok {batch : Id}
    (found : chosenOf desk batch decisions = .ok chosen) :
    (chosen.map Prod.fst).Sublist ((desk.rowsOf batch).filter (·.decision == .pending)) ∧ chosen ≠ [] ∧
      ∀ pair ∈ chosen, pair.2 = .approved → isStale desk.records pair.1 = false := by
  simp only [chosenOf, bind_ok, require_ok, Except.ok.injEq] at found
  obtain ⟨-, -, -, -, _, chose, -, filled, rfl⟩ := found
  exact ⟨chosenRows_sublist chose, filled, fun _ member approved => chosenRows_fresh chose member approved⟩

theorem decidableBatch_ok {id user : Id} (found : decidableBatch zone desk id user = .ok row) :
    row ∈ desk.proposals ∧ row.id = id ∧ row.status = .open_ ∧ row.proposedByUser ≠ some user ∧
      row.ownerTenant = zone := by
  simp only [decidableBatch, bind_ok, require_ok, Except.ok.injEq] at found
  obtain ⟨found, locked, -, waits, -, ⟨apart, -⟩, rfl⟩ := found
  obtain ⟨member, same, own⟩ := lockedRow_ok locked
  exact ⟨member, same, waits, apart, own⟩

theorem each_logged_ok {events : List AuditEvent} {answer : PUnit}
    (logs : (Tx.each events logged).execute desk = (.ok answer, after)) :
    ∃ audit, after = { desk with records := { desk.records with audit } } := by
  induction events generalizing desk with
  | nil => exact ⟨desk.records.audit, (Tx.pure_ok.mp logs).2⟩
  | cons event rest ih =>
    have first : (logged event >>= fun _ => Tx.each rest logged).execute desk = (.ok answer, after) := logs
    rw [logged, Tx.write_bind_ok] at first
    obtain ⟨audit, rfl⟩ := ih first
    exact ⟨audit, rfl⟩

def applicationsOf (batch : Id) (rows : List BatchRow) : List Application :=
  if rows = [] then [] else [{ proposal := batch, rows := rows.map (·.id) }]

def approvedRows (chosen : List (BatchRow × Outcome)) : List BatchRow :=
  (chosen.filter (·.2 == .approved)).map Prod.fst

theorem applyRows_ok {actor : Actor} {answer : Unit}
    (applied : (applyRows platform now zone proposal actor reviewer stepUp rows).execute desk = (.ok answer, after)) :
    ∃ records,
      (if rows = [] then records = desk.records
        else (apply platform now zone proposal.filed actor reviewer stepUp rows).execute desk.records =
          (.ok (), records)) ∧
      after = { desk with records, applied := desk.applied ++ applicationsOf proposal.id rows } := by
  by_cases empty : rows = []
  · rw [applyRows, if_pos empty, Tx.pure_ok] at applied
    refine ⟨desk.records, ?_, ?_⟩
    · rw [if_pos empty]
    · rw [applied.2, applicationsOf, if_pos empty, List.append_nil]
  · rw [applyRows, if_neg empty] at applied
    obtain ⟨records, done, rfl⟩ := applyStep_ok applied
    refine ⟨records, ?_, ?_⟩
    · rw [if_neg empty]
      exact done
    · rw [applicationsOf, if_neg empty]

theorem decideBatch_ok {decision : BatchDecision} {answer : Proposal}
    (decided : (decideBatch platform now zone proposal decision reviewer stepUp).execute desk =
      (.ok answer, after)) :
    ∃ user decisions row chosen records audit, reviewer.user = some user ∧ zone = none ∧
      decisionsOf desk.records decision = .ok decisions ∧
      decidableBatch zone desk proposal.id user = .ok row ∧ chosenOf desk proposal.id decisions = .ok chosen ∧
      (if approvedRows chosen = [] then records = desk.records
        else (apply platform now zone row.filed reviewer.actor reviewer stepUp (approvedRows chosen)).execute
          desk.records = (.ok (), records)) ∧
      after = { desk.closeBatch row chosen user now.moment (strip decision.note) with
        records := { records with audit }
        applied := desk.applied ++ applicationsOf row.id (approvedRows chosen) } := by
  simp only [decideBatch, decideLocked, Tx.check_bind_ok, Tx.atomic_ok, demand_ok, require_ok] at decided
  obtain ⟨user, person, _, shared, decisions, named, row, decidable, chosen, chose, rest⟩ := decided
  obtain ⟨_, middle, applies, rest⟩ := Tx.bind_ok.mp rest
  obtain ⟨records, done, rfl⟩ := applyRows_ok applies
  obtain ⟨_, noted, logs, rest⟩ := Tx.bind_ok.mp rest
  obtain ⟨audit, rfl⟩ := each_logged_ok logs
  simp only [Tx.write_bind_ok, Tx.check_bind_ok, logged, Tx.pure_ok, Except.ok.injEq] at rest
  obtain ⟨rows, -, -, rfl⟩ := rest
  exact ⟨user, decisions, row, chosen, records, _, person, shared, named, decidable, chose, done, rfl⟩

end Grc.Proposals
