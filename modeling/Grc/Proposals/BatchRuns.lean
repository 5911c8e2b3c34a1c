import Grc.Proposals.Run
import Grc.Proposals.Retag

/-! Batches over time: each row decided once and never when its record moved, an approved row's
scope written exactly, a decision taken whole or not at all, and a batch closed with its last row. -/
namespace Grc.Proposals

open Grc.Shared Grc.Lib Grc.Library

variable {Rule : Type} {platform : Platform Rule} {office later : Office} {event : Event}

def Approves (before after : Desk) (row : BatchRow) : Prop :=
  row ∈ before.batchRows ∧ row.decision = .pending ∧
    ∃ decided ∈ after.batchRows, decided.id = row.id ∧ decided.decision = .approved

/-- What a decision makes of a row: its outcome, when the row is one of the batch's own and waits,
and is not approved though its record moved. -/
def Decisions.taken (decisions : Decisions) (records : Records) (batch : Id) (row : BatchRow) : Option Outcome :=
  if row.proposal = batch ∧ row.decision = .pending then
    (decisions.on row.id).filter fun outcome => !(outcome == .approved && isStale records row)
  else none

def BatchRow.after_ (row : BatchRow) (outcome : Option Outcome) (user : Id) (moment : Instant) : BatchRow :=
  match outcome with
  | none => row
  | some outcome => row.decide outcome user moment

variable {rows : List BatchRow} {chosen : List (BatchRow × Outcome)} {decisions : Decisions} {records : Records} {row : BatchRow}

/-- The rows a decision is made on are exactly those it offers an outcome it may take. -/
theorem chosenRows_mem
    (found : chosenRows records decisions rows = .ok chosen)
    (member : row ∈ rows) (outcome : Outcome) (apart : rows.Nodup) :
    (row, outcome) ∈ chosen ↔
      (decisions.on row.id).filter (fun outcome => !(outcome == .approved && isStale records row)) = some outcome := by
  induction rows generalizing chosen with
  | nil => cases member
  | cons first rest ih =>
    obtain ⟨new, distinct⟩ := List.nodup_cons.mp apart
    have beyond {others : List (BatchRow × Outcome)} (chose : chosenRows records decisions rest = .ok others)
        (outcome : Outcome) : (first, outcome) ∉ others := by
      intro among
      exact new ((chosenRows_sublist chose).subset (List.mem_map_of_mem among))
    rw [chosenRows] at found
    rcases List.mem_cons.mp member with rfl | further
    · cases on : decisions.on row.id with
      | none =>
        rw [on] at found
        simp [beyond found]
      | some offered =>
        rw [on] at found
        by_cases stale : offered = .approved ∧ isStale records row = true
        · simp only [if_pos stale] at found
          split at found
          · cases found
          · simp [beyond found, Option.filter, stale]
        · simp only [if_neg stale, bind_ok, Except.ok.injEq] at found
          obtain ⟨others, chose, rfl⟩ := found
          have passes : (!(offered == .approved && isStale records row)) = true := by
            rw [Bool.not_eq_true', ← Bool.not_eq_true, Bool.and_eq_true, beq_iff_eq]
            exact stale
          rw [Option.filter_some, if_pos passes, List.mem_cons, Prod.mk.injEq, Option.some.injEq]
          constructor
          · intro held
            rcases held with ⟨-, same⟩ | among
            · exact same.symm
            · exact absurd among (beyond chose outcome)
          · exact fun same => .inl ⟨rfl, same.symm⟩
    · have apart' : row ≠ first := fun same => new (same ▸ further)
      split at found
      · exact ih found further distinct
      · split at found
        · split at found
          · cases found
          · exact ih found further distinct
        · simp only [bind_ok, Except.ok.injEq] at found
          obtain ⟨others, chose, rfl⟩ := found
          rw [List.mem_cons, Prod.mk.injEq, ← ih chose further distinct]
          exact ⟨fun held => held.resolve_left fun same => apart' same.1, .inr⟩

theorem chosenRows_named
    (found : chosenRows records decisions rows = .ok chosen)
    (member : row ∈ rows) (named : decisions.names row.id = true) :
    (decisions.on row.id).filter (fun outcome => !(outcome == .approved && isStale records row)) =
      decisions.on row.id := by
  induction rows generalizing chosen with
  | nil => cases member
  | cons first rest ih =>
    rw [chosenRows] at found
    rcases List.mem_cons.mp member with rfl | further
    · cases on : decisions.on row.id with
      | none => rfl
      | some offered =>
        rw [on] at found
        by_cases stale : offered = .approved ∧ isStale records row = true
        · simp only [if_pos stale, if_pos named] at found
          cases found
        · have passes : (!(offered == .approved && isStale records row)) = true := by
            rw [Bool.not_eq_true', ← Bool.not_eq_true, Bool.and_eq_true, beq_iff_eq]
            exact stale
          rw [Option.filter_some, if_pos passes]
    · split at found
      · exact ih found further
      · split at found
        · split at found
          · cases found
          · exact ih found further
        · simp only [bind_ok, Except.ok.injEq] at found
          obtain ⟨others, chose, rfl⟩ := found
          exact ih chose further

theorem namedOutcomes_ok {seen : List Id} {rows : List RowDecision}
    {named : List (Id × Outcome)} (found : namedOutcomes records seen rows = .ok named) :
    (named.map Prod.fst).Nodup ∧ ∀ id ∈ named.map Prod.fst, id ∉ seen := by
  induction rows generalizing seen named with
  | nil =>
    rw [namedOutcomes, Except.ok.injEq] at found
    rw [← found]
    exact ⟨List.nodup_nil, by simp⟩
  | cons row rest ih =>
    simp only [namedOutcomes, bind_ok, require_ok, Except.ok.injEq] at found
    obtain ⟨-, new, outcome, -, others, later, rfl⟩ := found
    obtain ⟨distinct, unseen⟩ := ih later
    constructor
    · rw [List.map_cons, List.nodup_cons]
      exact ⟨fun again => unseen _ again List.mem_cons_self, distinct⟩
    · intro id member
      rcases List.mem_cons.mp member with rfl | further
      · exact new
      · exact fun earlier => unseen id further (List.mem_cons_of_mem _ earlier)

theorem decisionsOf_on {decision : BatchDecision}
    (found : decisionsOf records decision = .ok decisions) {entry : Id × Outcome} (member : entry ∈ decisions.named) :
    decisions.on entry.1 = some entry.2 := by
  simp only [decisionsOf, bind_ok, Except.ok.injEq] at found
  obtain ⟨named, outcomes, rest, -, -, -, -, -, rfl⟩ := found
  have distinct := (namedOutcomes_ok outcomes).1
  have first : named.find? (·.1 == entry.1) = some entry := by
    cases listed : named.find? (·.1 == entry.1) with
    | none => exact absurd (beq_self_eq_true entry.1) (List.find?_eq_none.mp listed entry member)
    | some other =>
      have same : other.1 = entry.1 := by
        have named := List.find?_some listed
        exact beq_iff_eq.mp named
      rw [List.inj_on_of_nodup_map distinct (List.mem_of_find?_eq_some listed) member same]
  rw [Decisions.on, first]
  rfl

/-- What a committed decision on a batch is: every row it names decided as it is named, every row
it leaves to the rest decided so unless it went stale, every other row as it was. -/
structure Decision (before after : Desk) (batch : Proposal) (decisions : Decisions) (user : Id) (moment : Instant) :
    Prop where
  rows : after.batchRows = before.batchRows.map fun row =>
    row.after_ (decisions.taken before.records batch.id row) user moment
  named : ∀ entry ∈ decisions.named, ∃ row ∈ before.batchRows, row.id = entry.1 ∧
    decisions.taken before.records batch.id row = some entry.2

variable {now : Now} {zone : Option Id} {desk after : Desk} {proposal : Proposal} {decision : BatchDecision}
  {reviewer : Reviewer} {stepUp : Option Id} {answer : Proposal}

theorem chosenOf_taken {batch : Id}
    (sound : desk.queue.Sound) (found : chosenOf desk batch decisions = .ok chosen) :
    (∀ row ∈ desk.batchRows, ∀ outcome,
      (row, outcome) ∈ chosen ↔ decisions.taken desk.records batch row = some outcome) ∧
    ∀ entry ∈ decisions.named, decisions.on entry.1 = some entry.2 → ∃ row ∈ desk.batchRows, row.id = entry.1 ∧
      decisions.taken desk.records batch row = some entry.2 := by
  simp only [chosenOf, bind_ok, require_ok, Except.ok.injEq] at found
  obtain ⟨-, known, -, pending, chosen', chose, -, filled, rfl⟩ := found
  have distinct : ((desk.rowsOf batch).filter (·.decision == .pending)).Nodup :=
    (List.Nodup.of_map _ sound.whole.keys).sublist (List.filter_sublist.trans List.filter_sublist)
  have offered (row : BatchRow) : row ∈ (desk.rowsOf batch).filter (·.decision == .pending) ↔
      row ∈ desk.batchRows ∧ row.proposal = batch ∧ row.decision = .pending := by
    simp only [Desk.rowsOf, List.mem_filter, beq_iff_eq, and_assoc]
  constructor
  · intro row there outcome
    rw [Decisions.taken]
    by_cases own : row.proposal = batch ∧ row.decision = .pending
    · rw [if_pos own]
      exact chosenRows_mem chose ((offered row).mpr ⟨there, own⟩) outcome distinct
    · rw [if_neg own]
      constructor
      · intro among
        have member := (chosenRows_sublist chose).subset (List.mem_map_of_mem among)
        exact absurd ((offered row).mp member).2 own
      · intro taken
        cases taken
  · intro entry member on
    have listed : (desk.rowsOf batch).any (·.id == entry.1) = true := by
      by_contra missing
      have unknown : entry.1 ∈ (decisions.named.map Prod.fst).filter fun id =>
          !(desk.rowsOf batch).any (·.id == id) := by
        refine List.mem_filter.mpr ⟨List.mem_map_of_mem member, ?_⟩
        rw [Bool.not_eq_true] at missing
        rw [missing]
        rfl
      rw [known] at unknown
      cases unknown
    obtain ⟨row, there, same⟩ := List.any_eq_true.mp listed
    have same := beq_iff_eq.mp same
    have names : decisions.names row.id = true := by
      rw [Decisions.names, List.any_eq_true]
      exact ⟨entry, member, beq_iff_eq.mpr same.symm⟩
    have waits := pending row there names
    obtain ⟨held, own⟩ := List.mem_filter.mp there
    have own := beq_iff_eq.mp own
    refine ⟨row, held, same, ?_⟩
    rw [Decisions.taken, if_pos ⟨own, waits⟩, chosenRows_named chose ((offered row).mpr ⟨held, own, waits⟩) names,
      same, on]

theorem decideBatch_rows (sound : desk.queue.Sound) (holds : desk.Holds proposal) (whole : proposal.isBatch = true)
    (decided : (decideBatch platform now zone proposal decision reviewer stepUp).execute desk =
      (.ok answer, after)) :
    ∃ user decisions, reviewer.user = some user ∧ decisionsOf desk.records decision = .ok decisions ∧
      Decision desk after proposal decisions user now.moment := by
  obtain ⟨user, decisions, row, chosen, records, audit, person, -, named, decidable, chose, -, rfl⟩ :=
    decideBatch_ok decided
  obtain ⟨member, same, waits, apart, -⟩ := decidableBatch_ok decidable
  obtain ⟨held, there, standing⟩ := holds
  have one : row = held := sound.unique member there (same.trans (Queue.id_of_standing standing).symm)
  have rows := (chosenOf_ok chose).1
  rw [← same] at rows
  have choice : desk.queue.Chosen row chosen user :=
    { there := member, waits, apart, rows, whole := one ▸ (Queue.isBatch_of_standing standing).trans whole }
  obtain ⟨taken, names⟩ := chosenOf_taken sound chose
  refine ⟨user, decisions, person, named, { rows := ?_, named := ?_ }⟩
  · apply List.map_congr_left
    intro row there
    rcases choice.decidedRow sound now.moment there with ⟨outcome, among, result⟩ | ⟨absent, result⟩
    · rw [result, (taken row there outcome).mp among]
      rfl
    · have none : decisions.taken desk.records proposal.id row = none := by
        cases found : decisions.taken desk.records proposal.id row with
        | none => rfl
        | some outcome => exact absurd ((taken row there outcome).mpr found) (absent outcome)
      rw [result, none]
      rfl
  · exact fun entry member => names entry member (decisionsOf_on named member)

theorem apply_retag {filed : Filed} {actor : Actor} {records written : Records}
    (kind : filed.kind = .obligationScope) (coherent : records.Coherent)
    (apart : (rows.map BatchRow.subjectId).Nodup) (ordered : ∀ row ∈ rows, row.after.Pairwise (· < ·))
    (done : (apply platform now zone filed actor reviewer stepUp rows).execute records = (.ok (), written)) :
    (∀ row ∈ rows, written.scope row.subjectId = row.after) ∧
      ∀ id, id ∉ rows.map BatchRow.subjectId → written.scopeTerms id = records.scopeTerms id := by
  rw [apply, if_pos kind, Tx.check_bind_ok] at done
  obtain ⟨payload, -, done⟩ := done
  obtain ⟨_, -, done⟩ := Tx.check_bind_ok.mp done
  exact obligationScope_ok coherent apart ordered done

theorem decideBatch_approves (sound : desk.queue.Sound) (holds : desk.Holds proposal) (whole : proposal.isBatch = true)
    (decided : (decideBatch platform now zone proposal decision reviewer stepUp).execute desk =
      (.ok answer, after)) :
    (∀ row, Approves desk after row → desk.records.scope row.subjectId = row.before ∧
      (desk.records.activeSharedObligation row.subjectId).isSome = true) ∧
    (desk.records.Coherent →
      (∀ row, Approves desk after row → after.records.scope row.subjectId = row.after) ∧
      ∀ id, (∀ row, Approves desk after row → row.subjectId ≠ id) →
        after.records.scopeTerms id = desk.records.scopeTerms id) := by
  obtain ⟨user, decisions, batch, chosen, records, audit, -, -, -, decidable, chose, applied, rfl⟩ :=
    decideBatch_ok decided
  obtain ⟨member, same, waits, apart, -⟩ := decidableBatch_ok decidable
  obtain ⟨held, there, standing⟩ := holds
  have one : batch = held := sound.unique member there (same.trans (Queue.id_of_standing standing).symm)
  obtain ⟨rows, -, fresh⟩ := chosenOf_ok chose
  rw [← same] at rows
  have isBatch : batch.isBatch = true := one ▸ (Queue.isBatch_of_standing standing).trans whole
  have choice : desk.queue.Chosen batch chosen user := { there := member, waits, apart, rows, whole := isBatch }
  have approves {row : BatchRow} (approved : Approves desk { desk.closeBatch batch chosen user now.moment
      (strip decision.note) with
        records := { records with audit }
        applied := desk.applied ++ applicationsOf batch.id (approvedRows chosen) } row) :
      row ∈ desk.batchRows ∧ (row, .approved) ∈ chosen := by
    obtain ⟨there, waiting, result, among, ids, granted⟩ := approved
    refine ⟨there, ?_⟩
    obtain ⟨old, held, rfl⟩ := List.mem_map.mp among
    have here : old = row := sound.uniqueRow held there ((decidedRow_about ..).1.symm.trans ids)
    rw [here] at granted
    rcases choice.decidedRow sound now.moment there with ⟨outcome, among, result⟩ | ⟨-, result⟩
    · rw [result] at granted
      cases outcome with
      | approved => exact among
      | rejected reason => cases granted
    · rw [result, waiting] at granted
      cases granted
  have approved_rows {row : BatchRow} : row ∈ approvedRows chosen ↔ (row, .approved) ∈ chosen := by
    rw [approvedRows, List.mem_map]
    constructor
    · intro held
      obtain ⟨⟨other, outcome⟩, member, rfl⟩ := held
      obtain ⟨among, granted⟩ := List.mem_filter.mp member
      rw [← beq_iff_eq.mp granted]
      exact among
    · exact fun among => ⟨(row, .approved), List.mem_filter.mpr ⟨among, rfl⟩, rfl⟩
  constructor
  · intro row approved
    have current := fresh _ (approves approved).2 rfl
    rw [isStale, Bool.or_eq_false_iff] at current
    constructor
    · have recorded := bne_eq_false_iff_eq.mp current.2
      rw [← recorded]
      exact ((Dict.ordered_ofList _).sorted_keys).symm
    · simpa using current.1
  · intro coherent
    by_cases empty : approvedRows chosen = []
    · have none {row : BatchRow} : (row, Outcome.approved) ∉ chosen := by
        rw [← approved_rows, empty]
        exact List.not_mem_nil
      rw [if_pos empty] at applied
      refine ⟨fun row approved => absurd (approves approved).2 none, ?_⟩
      intro id _
      rw [applied]
      rfl
    · rw [if_neg empty] at applied
      have offered : (approvedRows chosen).Sublist (desk.rowsOf batch.id) :=
        (List.filter_sublist.map Prod.fst).trans (rows.trans List.filter_sublist)
      have retag := apply_retag ((sound.kinds batch member).mp isBatch) coherent
        ((sound.subjects batch.id).sublist (offered.map BatchRow.subjectId))
        (fun row among => sound.ordered row (List.mem_of_mem_filter (offered.subset among))) applied
      constructor
      · intro row approved
        exact retag.1 row (approved_rows.mpr (approves approved).2)
      · intro id untouched
        apply retag.2 id
        intro touched
        obtain ⟨row, among, rfl⟩ := List.mem_map.mp touched
        have there : row ∈ desk.batchRows := List.mem_of_mem_filter (offered.subset among)
        have granted := approved_rows.mp among
        refine untouched row ⟨there, (choice.mem granted).2.2, _, List.mem_map_of_mem there, ?_, ?_⟩ rfl
        · exact (decidedRow_about ..).1
        · rcases choice.decidedRow sound now.moment there with ⟨outcome, other, result⟩ | ⟨absent, -⟩
          · rw [result, choice.outcome_unique sound other granted]
            rfl
          · exact absurd granted (absent _)

theorem not_approves {before later : Desk} (sound : before.queue.Sound)
    (step : Queue.Step false before.queue later.queue) (row : BatchRow) : ¬Approves before later row := by
  intro approves
  obtain ⟨there, waits, decided, member, same, approved⟩ := approves
  rcases step.plain decided member with old | pending
  · have one : decided = row := sound.uniqueRow old there same
    rw [one, waits] at approved
    cases approved
  · rw [pending] at approved
    cases approved

theorem act_approves (sound : office.Sound) (event : Event) :
    (∀ row, Approves office.desk ((act platform event).left office).desk row →
      office.desk.records.scope row.subjectId = row.before ∧
        (office.desk.records.activeSharedObligation row.subjectId).isSome = true) ∧
    (office.desk.records.Coherent →
      (∀ row, Approves office.desk ((act platform event).left office).desk row →
        ((act platform event).left office).desk.records.scope row.subjectId = row.after) ∧
      (event.decidesBatch = true → ∀ id,
        (∀ row, Approves office.desk ((act platform event).left office).desk row → row.subjectId ≠ id) →
        ((act platform event).left office).desk.records.scopeTerms id = office.desk.records.scopeTerms id)) := by
  have plain {later : Office} (step : Queue.Step false office.desk.queue later.desk.queue)
      (kept : event.decidesBatch = true → later = office) :
      (∀ row, Approves office.desk later.desk row → office.desk.records.scope row.subjectId = row.before ∧
        (office.desk.records.activeSharedObligation row.subjectId).isSome = true) ∧
      (office.desk.records.Coherent →
        (∀ row, Approves office.desk later.desk row → later.desk.records.scope row.subjectId = row.after) ∧
        (event.decidesBatch = true → ∀ id, (∀ row, Approves office.desk later.desk row → row.subjectId ≠ id) →
          later.desk.records.scopeTerms id = office.desk.records.scopeTerms id)) := by
    have never := not_approves sound.queue step
    refine ⟨fun row approves => absurd approves (never row), fun _ => ⟨fun row approves => absurd approves (never row), ?_⟩⟩
    intro decides id _
    rw [kept decides]
  cases found : (act platform event).execute office with
  | mk outcome later =>
    have same : (act platform event).left office = later := by rw [Tx.left, found]
    rw [same]
    cases outcome with
    | error refused =>
      rw [act_clean platform event office refused later found]
      exact plain (.still _) fun _ => rfl
    | ok answer =>
      obtain ⟨now, zone, action⟩ := event
      cases action with
      | decideBatch handle decision reviewer stepUp =>
        obtain ⟨batch, held, turn⟩ := Tx.check_bind_ok.mp found
        obtain ⟨value, desk, worked, rfl⟩ := onDesk_ok turn
        obtain ⟨member, whole⟩ := heldBatch_ok held
        obtain ⟨fresh, written⟩ := decideBatch_approves sound.queue (sound.loaded batch member) whole worked
        refine ⟨fresh, fun coherent => ?_⟩
        obtain ⟨scopes, untouched⟩ := written coherent
        exact ⟨scopes, fun _ => untouched⟩
      | _ =>
        obtain ⟨⟨batched, decides, step⟩, -⟩ := act_ok sound found
        have none : batched = false := by
          cases batched with
          | false => rfl
          | true => exact absurd (decides rfl) (by simp [Event.decidesBatch])
        rw [none] at step
        exact plain step (by simp [Event.decidesBatch])

theorem act_files (sound : office.Sound) (event : Event)
    (member : row ∈ ((act platform event).left office).desk.batchRows)
    (new : ∀ old ∈ office.desk.batchRows, old.id ≠ row.id) :
    row.before = office.desk.records.scope row.subjectId := by
  have old {later : Office} (same : later.desk.batchRows = office.desk.batchRows) (there : row ∈ later.desk.batchRows) :
      row.before = office.desk.records.scope row.subjectId := absurd rfl (new row (same ▸ there))
  cases found : (act platform event).execute office with
  | mk outcome later =>
    have same : (act platform event).left office = later := by rw [Tx.left, found]
    rw [same] at member
    cases outcome with
    | error refused =>
      rw [act_clean platform event office refused later found] at member
      exact absurd rfl (new row member)
    | ok answer =>
      obtain ⟨now, zone, action⟩ := event
      cases action with
      | create proposer body =>
        obtain ⟨⟨filed, made⟩, desk, worked, rfl⟩ := onDesk_ok found
        obtain ⟨draft, -, -, ⟨-, -, queue⟩ | ⟨-, -, -, -, queue⟩⟩ := create_ok worked
        · exact old (congrArg Queue.batchRows queue) member
        · exact old ((congrArg Queue.batchRows queue).trans (List.append_nil _)) member
      | createBatch proposer body =>
        obtain ⟨⟨filed, made⟩, desk, worked, rfl⟩ := onDesk_ok found
        obtain ⟨draft, checked, -, ⟨-, -, -, queue⟩ | ⟨-, -, -, previews, shown, -, queue⟩⟩ := createBatch_ok worked
        · exact old (congrArg Queue.batchRows queue) member
        · have rows : desk.batchRows = office.desk.batchRows ++ batchRowsOf filed.id (filed.id + 1) previews :=
            congrArg Queue.batchRows queue
          have among : row ∈ office.desk.batchRows ++ batchRowsOf filed.id (filed.id + 1) previews := rows ▸ member
          rcases List.mem_append.mp among with there | filedNow
          · exact absurd rfl (new row there)
          · obtain ⟨-, -, preview, listed, subject, before, -⟩ := mem_batchRowsOf filedNow
            obtain ⟨terms, rfl⟩ := previewed_ok shown
            obtain ⟨change, -, rfl⟩ := List.mem_map.mp listed
            rw [before, subject, (previewOf_ordered office.desk.records terms change).1.sorted_keys]
            rfl
      | load id =>
        obtain ⟨read, -, written⟩ := Tx.check_bind_ok.mp found
        rw [Tx.write_ok.mp written] at member
        exact absurd rfl (new row member)
      | approve handle reviewer actor approval =>
        obtain ⟨held, -, turn⟩ := Tx.check_bind_ok.mp found
        obtain ⟨value, desk, worked, rfl⟩ := onDesk_ok turn
        obtain ⟨-, -, _, _, -, -, -, -, -, queue⟩ := approve_ok worked
        exact old (congrArg Queue.batchRows queue) member
      | reject handle reviewer actor rejection =>
        obtain ⟨held, -, turn⟩ := Tx.check_bind_ok.mp found
        obtain ⟨value, desk, worked, rfl⟩ := onDesk_ok turn
        obtain ⟨-, _, -, -, queue, -⟩ := reject_ok worked
        exact old (congrArg Queue.batchRows queue) member
      | decideBatch handle decision reviewer stepUp =>
        obtain ⟨batch, held, turn⟩ := Tx.check_bind_ok.mp found
        obtain ⟨value, desk, worked, rfl⟩ := onDesk_ok turn
        obtain ⟨user, decisions, _, chosen, _, _, -, -, -, -, -, -, rfl⟩ := decideBatch_ok worked
        obtain ⟨earlier, there, rfl⟩ := List.mem_map.mp member
        exact absurd (decidedRow_about ..).1.symm (new earlier there)
      | elsewhere records runs =>
        rw [Tx.write_ok.mp found] at member
        exact absurd rfl (new row member)

theorem reached_recorded (sound : office.Sound) (member : row ∈ office.desk.batchRows)
    (events : List Event) : ∃ later ∈ (reached platform office events).desk.batchRows, Queue.Recorded row later := by
  apply reached_invariant sound (fun queue => ∃ later ∈ queue.batchRows, Queue.Recorded row later)
    ⟨row, member, rfl, rfl, rfl, rfl, rfl⟩
  intro batched queue after _ step kept
  obtain ⟨held, there, same⟩ := kept
  obtain ⟨next, among, recorded⟩ := step.recorded there
  exact ⟨next, among, recorded.id.trans same.id, recorded.proposal.trans same.proposal,
    recorded.subjectId.trans same.subjectId, recorded.before.trans same.before, recorded.after.trans same.after⟩

theorem batchStatus_open :
    batchStatus rows = .open_ ↔ ∃ row ∈ rows, row.decision = .pending := by
  have pending : (rows.any fun row => row.decision == .pending) = true ↔ ∃ row ∈ rows, row.decision = .pending := by
    simp only [List.any_eq_true, beq_iff_eq]
  rw [← pending, batchStatus]
  split
  · simp [*]
  · split <;> simp [*]

theorem batchStatus_approved : batchStatus rows = .approved ↔
    batchStatus rows ≠ .open_ ∧ ∃ row ∈ rows, row.decision = .approved := by
  have approved : (rows.any fun row => row.decision == .approved) = true ↔ ∃ row ∈ rows, row.decision = .approved := by
    simp only [List.any_eq_true, beq_iff_eq]
  rw [← approved, batchStatus]
  split
  · simp
  · split <;> simp [*]

/-- In every run: a decided row stays decided as it was; an approved row's record is in force with
the scope it had when the batch was filed, and is left with the scope the row recorded, while no
other record's scope moves; a decision is taken on all its rows or on none; and a batch is open
exactly while a row of it waits, and then approved exactly when a row of it was. The terms of the
library obey their unique constraints where a scope is read back. -/
theorem run_batches (platform : Platform Rule) (records : Records) (runs : List AgentRun) (events : List Event) :
    let office := reached platform (opened records runs) events
    (∀ row ∈ office.desk.batchRows, row.decision ≠ .pending → ∀ more,
      (reached platform office more).desk.batchRows.filter (·.id == row.id) = [row]) ∧
    (∀ event, let after := ((act platform event).left office).desk
      office.desk.records.Coherent →
        (∀ row, Approves office.desk after row → after.records.scope row.subjectId = row.after) ∧
        (event.decidesBatch = true → ∀ id, (∀ row, Approves office.desk after row → row.subjectId ≠ id) →
          after.records.scopeTerms id = office.desk.records.scopeTerms id)) ∧
    (∀ filing middle deciding, let filed := (act platform filing).left office
      let held := reached platform filed middle
      ∀ row ∈ filed.desk.batchRows, (∀ old ∈ office.desk.batchRows, old.id ≠ row.id) → ∀ later, later.id = row.id →
        Approves held.desk ((act platform deciding).left held).desk later →
          held.desk.records.scope row.subjectId = office.desk.records.scope row.subjectId ∧
            (held.desk.records.activeSharedObligation row.subjectId).isSome = true) ∧
    (∀ event after refused, (act platform event).execute office = (.error refused, after) → after = office) ∧
    (∀ now zone handle decision reviewer stepUp answer after,
      (act platform { now, zone, action := .decideBatch handle decision reviewer stepUp }).execute office =
        (.ok answer, after) →
      ∃ batch user decisions, heldBatch handle office = .ok batch ∧ reviewer.user = some user ∧
        decisionsOf office.desk.records decision = .ok decisions ∧
        Decision office.desk after.desk batch decisions user now.moment) ∧
    ∀ batch ∈ office.desk.proposals, batch.isBatch = true →
      (batch.status = .open_ ↔ ∃ row ∈ office.desk.rowsOf batch.id, row.decision = .pending) ∧
      (batch.status = .approved ↔
        batch.status ≠ .open_ ∧ ∃ row ∈ office.desk.rowsOf batch.id, row.decision = .approved) := by
  intro office
  have sound : office.Sound := reached_sound (opened_sound records runs) events
  refine ⟨?_, ?_, ?_, ?_, ?_, ?_⟩
  · intro row there decided more
    have stays : row ∈ (reached platform office more).desk.batchRows :=
      reached_invariant sound (fun queue => row ∈ queue.batchRows) there
        (fun _ _ _ held step member => step.finalRow held member decided) more
    exact (reached_sound sound more).queue.whole.alone stays
  · intro event after coherent
    exact (act_approves sound event).2 coherent
  · intro filing middle deciding filed held row member new later same approves
    have filedSound : filed.Sound := act_sound filing sound
    have heldSound : held.Sound := reached_sound filedSound middle
    obtain ⟨recorded, there, about⟩ := reached_recorded filedSound member middle
    have one : later = recorded := heldSound.queue.uniqueRow approves.1 there (same.trans about.id.symm)
    obtain ⟨scope, active⟩ := (act_approves heldSound deciding).1 later approves
    rw [one, about.subjectId, about.before] at scope
    rw [one, about.subjectId] at active
    exact ⟨scope.trans (act_files sound filing member new), active⟩
  · intro event after refused refusal
    exact act_clean platform event office refused after refusal
  · intro now zone handle decision reviewer stepUp answer after done
    obtain ⟨batch, held, turn⟩ := Tx.check_bind_ok.mp done
    obtain ⟨value, desk, worked, rfl⟩ := onDesk_ok turn
    obtain ⟨member, whole⟩ := heldBatch_ok held
    obtain ⟨user, decisions, person, named, taken⟩ :=
      decideBatch_rows sound.queue (sound.loaded batch member) whole worked
    exact ⟨batch, user, decisions, held, person, named, taken⟩
  · intro batch there whole
    have status := sound.queue.closed batch there whole
    rw [status]
    exact ⟨batchStatus_open, batchStatus_approved⟩

/-- In every run each row is of a stored batch, no batch names an obligation twice, and a row's scope lists a term once. -/
theorem run_rowsWhole (platform : Platform Rule) (records : Records) (runs : List AgentRun) (events : List Event) :
    let queue := (reached platform (opened records runs) events).desk.queue
    (∀ row ∈ queue.batchRows, ∃ batch ∈ queue.proposals, batch.id = row.proposal ∧ batch.isBatch = true) ∧
      (∀ batch, ((queue.rowsOf batch).map BatchRow.subjectId).Nodup) ∧ ∀ row ∈ queue.batchRows, row.after.Pairwise (· < ·) := by
  intro queue
  have sound : queue.Sound := (reached_sound (opened_sound records runs) events).queue
  exact ⟨sound.owned, sound.subjects, sound.ordered⟩

end Grc.Proposals
