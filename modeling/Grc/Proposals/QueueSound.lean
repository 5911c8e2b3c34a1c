import Grc.Proposals.Queue

/-! What holds of every queue: ids once each, applications exactly for what was approved, reviewers
apart from proposers, a batch open while a row of it waits. -/
namespace Grc.Proposals.Queue

open Grc.Shared Grc.Lib Grc.Library

variable {queue after : Queue} {row saved' : Proposal} {rows : List BatchRow} {batched : Bool}

/-- What is true of every queue. -/
structure Sound (queue : Queue) : Prop where
  numbered : ∀ proposal ∈ queue.proposals, proposal.id < queue.nextId
  rowsNumbered : ∀ row ∈ queue.batchRows, row.id < queue.nextId
  single : singles.Settled queue.proposals queue.singlesApplied
  whole : rowDocket.Settled queue.batchRows queue.rowsApplied
  attributed : ∀ application ∈ queue.applied, ∃ proposal ∈ queue.proposals,
    proposal.id = application.proposal ∧ (proposal.isBatch = true ↔ application.rows ≠ [])
  owned : ∀ row ∈ queue.batchRows, ∃ proposal ∈ queue.proposals,
    proposal.id = row.proposal ∧ proposal.isBatch = true
  kinds : ∀ proposal ∈ queue.proposals, proposal.isBatch = true ↔ proposal.kind = .obligationScope
  fair : ∀ proposal ∈ queue.proposals, proposal.Fair
  closed : ∀ proposal ∈ queue.proposals, proposal.isBatch = true →
    proposal.status = batchStatus (queue.rowsOf proposal.id)
  subjects : ∀ batch, ((queue.rowsOf batch).map BatchRow.subjectId).Nodup
  ordered : ∀ row ∈ queue.batchRows, row.after.Pairwise (· < ·)

theorem mem_saved {proposals : List Proposal} {proposal : Proposal} (member : proposal ∈ saved row proposals) :
    (proposal ∈ proposals ∧ proposal.id ≠ row.id) ∨ proposal = row := by
  obtain ⟨old, there, rfl⟩ := List.mem_map.mp member
  by_cases same : old.id = row.id
  · rw [if_pos same]
    exact .inr rfl
  · rw [if_neg same]
    exact .inl ⟨there, same⟩

theorem mem_saved_self {proposals : List Proposal} {old : Proposal} (member : old ∈ proposals)
    (same : old.id = row.id) : row ∈ saved row proposals :=
  List.mem_map.mpr ⟨old, member, if_pos same⟩

theorem Sound.unique (sound : queue.Sound) {first second : Proposal} (left : first ∈ queue.proposals)
    (right : second ∈ queue.proposals) (same : first.id = second.id) : first = second :=
  sound.single.unique left right same

theorem Sound.uniqueRow (sound : queue.Sound) {first second : BatchRow} (left : first ∈ queue.batchRows)
    (right : second ∈ queue.batchRows) (same : first.id = second.id) : first = second :=
  sound.whole.unique left right same

theorem id_of_standing {first second : Proposal} (same : first.standing = second.standing) : first.id = second.id :=
  congrArg Standing.id same

theorem isBatch_of_standing {first second : Proposal} (same : first.standing = second.standing) :
    first.isBatch = second.isBatch := congrArg Standing.isBatch same

theorem Sound.saved_step (sound : queue.Sound) (there : row ∈ queue.proposals) (waits : row.status = .open_)
    (standing : saved'.standing = row.standing) {fresh : List Id}
    (applied : fresh = if singles.granted saved' = true then [row.id] else []) :
    singles.Step queue.proposals queue.singlesApplied (saved saved' queue.proposals)
      (queue.singlesApplied ++ fresh) := by
  have same : saved'.id = row.id := id_of_standing standing
  refine .decide _ { key := ?_, once := ?_, counted := ?_, known := ?_ }
  · intro proposal _
    by_cases here : proposal.id = saved'.id
    · rw [if_pos here]
      exact here.symm
    · rw [if_neg here]
  · intro proposal member decided
    by_cases here : proposal.id = saved'.id
    · have old : proposal = row := sound.unique member there (here.trans same)
      rw [old] at decided
      simp [singles, waits] at decided
    · rw [if_neg here]
  · intro proposal member
    by_cases here : proposal.id = saved'.id
    · have old : proposal = row := sound.unique member there (here.trans same)
      have waiting : singles.waits proposal = true := by
        rw [old]
        exact singles_waits.mpr waits
      rw [if_pos waiting, if_pos here, applied, Docket.due]
      by_cases granted : singles.granted saved' = true
      · rw [if_pos granted, if_pos granted, old]
        exact List.count_singleton_self
      · rw [if_neg granted, if_neg granted]
        rfl
    · have absent : fresh.count (singles.key proposal) = 0 := by
        rw [List.count_eq_zero, applied]
        intro member
        split at member
        · exact here ((List.mem_singleton.mp member).trans same.symm)
        · cases member
      rw [absent, if_neg here]
      by_cases waiting : singles.waits proposal = true
      · rw [if_pos waiting, Docket.due, singles.waiting proposal waiting]
        rfl
      · rw [if_neg waiting]
  · intro key member
    rw [applied] at member
    split at member
    · rw [List.mem_singleton.mp member]
      exact List.mem_map_of_mem there
    · cases member

variable {batch : Proposal} {chosen : List (BatchRow × Outcome)} {user : Id} {moment : Instant} {note : String}

section
variable (choice : queue.Chosen batch chosen user)
include choice

theorem Chosen.mem {pair : BatchRow × Outcome} (member : pair ∈ chosen) :
    pair.1 ∈ queue.batchRows ∧ pair.1.proposal = batch.id ∧ pair.1.decision = .pending := by
  have offered := choice.rows.subset (List.mem_map_of_mem member)
  simp only [rowsOf, List.mem_filter, beq_iff_eq] at offered
  exact ⟨offered.1.1, offered.1.2, offered.2⟩

theorem Chosen.nodup (sound : queue.Sound) : (chosen.map fun pair => pair.1.id).Nodup := by
  have below : ((chosen.map Prod.fst).map BatchRow.id).Sublist (queue.batchRows.map BatchRow.id) :=
    (choice.rows.trans (List.filter_sublist.trans List.filter_sublist)).map BatchRow.id
  rw [List.map_map] at below
  exact sound.whole.keys.sublist below

theorem Chosen.outcome_unique (sound : queue.Sound)
    {row : BatchRow} {first second : Outcome} (left : (row, first) ∈ chosen) (right : (row, second) ∈ chosen) :
    first = second := by
  have same := List.inj_on_of_nodup_map (choice.nodup sound) left right rfl
  exact (Prod.mk.inj same).2

theorem Chosen.decidedRow (sound : queue.Sound) (moment : Instant) {row : BatchRow} (there : row ∈ queue.batchRows) :
    (∃ outcome, (row, outcome) ∈ chosen ∧ decidedRow chosen user moment row = row.decide outcome user moment) ∨
      ((∀ outcome, (row, outcome) ∉ chosen) ∧ decidedRow chosen user moment row = row) := by
  unfold Proposals.decidedRow
  cases found : chosen.find? (·.1.id == row.id) with
  | none =>
    refine .inr ⟨?_, rfl⟩
    intro outcome member
    have absent := List.find?_eq_none.mp found _ member
    exact absent (beq_self_eq_true row.id)
  | some pair =>
    have member := List.mem_of_find?_eq_some found
    have same : pair.1.id = row.id := by
      have named := List.find?_some found
      exact beq_iff_eq.mp named
    have here : pair.1 = row := sound.uniqueRow (choice.mem member).1 there same
    exact .inl ⟨pair.2, here ▸ member, rfl⟩

theorem Chosen.approved_iff (sound : queue.Sound) {row : BatchRow}
    (there : row ∈ queue.batchRows) : row.id ∈ (approvedRows chosen).map BatchRow.id ↔ (row, .approved) ∈ chosen := by
  rw [approvedRows, List.map_map, List.mem_map]
  constructor
  · intro held
    obtain ⟨⟨other, outcome⟩, member, same⟩ := held
    obtain ⟨member, approved⟩ := List.mem_filter.mp member
    have here : other = row := sound.uniqueRow (choice.mem member).1 there same
    rw [← here, ← beq_iff_eq.mp approved]
    exact member
  · intro member
    exact ⟨(row, .approved), List.mem_filter.mpr ⟨member, rfl⟩, rfl⟩

theorem Chosen.approved_nodup (sound : queue.Sound) : ((approvedRows chosen).map BatchRow.id).Nodup := by
  have below : ((approvedRows chosen).map BatchRow.id).Sublist (chosen.map fun pair => pair.1.id) := by
    rw [approvedRows, List.map_map]
    exact List.filter_sublist.map _
  exact (choice.nodup sound).sublist below

end

theorem Sound.decided_step (sound : queue.Sound) (choice : queue.Chosen batch chosen user) :
    rowDocket.Step queue.batchRows queue.rowsApplied (decidedRows chosen user moment queue.batchRows)
      (queue.rowsApplied ++ (approvedRows chosen).map BatchRow.id) := by
  refine .decide _ { key := ?_, once := ?_, counted := ?_, known := ?_ }
  · intro row there
    rcases choice.decidedRow sound moment there with ⟨outcome, -, same⟩ | ⟨-, same⟩
    · rw [same]
      rfl
    · rw [same]
  · intro row there decided
    rcases choice.decidedRow sound moment there with ⟨outcome, member, -⟩ | ⟨-, same⟩
    · have waits : rowDocket.waits row = true := rowDocket_waits.mpr (choice.mem member).2.2
      rw [waits] at decided
      cases decided
    · exact same
  · intro row there
    rcases choice.decidedRow sound moment there with ⟨outcome, member, same⟩ | ⟨absent, same⟩
    · have waits : rowDocket.waits row = true := rowDocket_waits.mpr (choice.mem member).2.2
      rw [if_pos waits, same]
      cases outcome with
      | approved =>
        exact List.count_eq_one_of_mem (choice.approved_nodup sound) ((choice.approved_iff sound there).mpr member)
      | rejected reason =>
        apply List.count_eq_zero.mpr
        intro approved
        have both := choice.outcome_unique sound member ((choice.approved_iff sound there).mp approved)
        cases both
    · have none : ((approvedRows chosen).map BatchRow.id).count (rowDocket.key row) = 0 :=
        List.count_eq_zero.mpr fun approved => absent _ ((choice.approved_iff sound there).mp approved)
      rw [none, same]
      by_cases waits : rowDocket.waits row = true
      · rw [if_pos waits, Docket.due, rowDocket.waiting row waits]
        rfl
      · rw [if_neg waits]
  · intro key member
    obtain ⟨other, among, rfl⟩ := List.mem_map.mp member
    obtain ⟨pair, held, rfl⟩ := List.mem_map.mp among
    exact List.mem_map_of_mem (choice.mem (List.mem_filter.mp held).1).1

theorem Sound.saved_standing (sound : queue.Sound) (there : row ∈ queue.proposals)
    (standing : saved'.standing = row.standing) :
    (saved saved' queue.proposals).map Proposal.standing = queue.proposals.map Proposal.standing := by
  rw [saved, List.map_map]
  apply List.map_congr_left
  intro proposal member
  by_cases here : proposal.id = saved'.id
  · have old : proposal = row := sound.unique member there (here.trans (id_of_standing standing))
    rw [Function.comp_apply, if_pos here, old, standing]
  · rw [Function.comp_apply, if_neg here]

theorem Step.standings (step : Step batched queue after) (sound : queue.Sound) :
    ∃ more, after.proposals.map Proposal.standing = queue.proposals.map Proposal.standing ++ more := by
  cases step with
  | still => exact ⟨[], (List.append_nil _).symm⟩
  | file zone fileable => exact ⟨_, List.map_append⟩
  | approve judged | reject judged => exact ⟨[], by rw [List.append_nil]; exact sound.saved_standing judged.there judged.standing⟩
  | decide moment note choice =>
    exact ⟨[], by rw [List.append_nil]; exact sound.saved_standing choice.there (close_standing ..)⟩

theorem Step.stands (step : Step batched queue after) (sound : queue.Sound) {proposal : Proposal}
    (member : proposal ∈ queue.proposals) : ∃ later ∈ after.proposals, later.standing = proposal.standing := by
  obtain ⟨more, same⟩ := step.standings sound
  have held : proposal.standing ∈ after.proposals.map Proposal.standing := by
    rw [same]
    exact List.mem_append_left _ (List.mem_map_of_mem member)
  obtain ⟨later, there, standing⟩ := List.mem_map.mp held
  exact ⟨later, there, standing⟩

theorem Step.tenants (step : Step batched queue after) : ∃ more, after.tenants = queue.tenants ++ more := by
  cases step with
  | file zone fileable => exact ⟨_, rfl⟩
  | still | approve | reject | decide => exact ⟨[], (List.append_nil _).symm⟩

theorem Fileable.fresh (fileable : queue.Fileable row rows) (sound : queue.Sound) :
    ∀ proposal ∈ queue.proposals, proposal.id ≠ row.id := by
  intro proposal member same
  have below := sound.numbered proposal member
  rw [same, fileable.id] at below
  exact Nat.lt_irrefl _ below

theorem Fileable.row_id (fileable : queue.Fileable row rows) {other : BatchRow} (member : other ∈ rows) :
    queue.nextId < other.id ∧ other.id < queue.nextId + 1 + rows.length := by
  have listed : other.id ∈ List.range' (row.id + 1) rows.length := by
    rw [← fileable.ids]
    exact List.mem_map_of_mem member
  rw [List.mem_range'_1, fileable.id] at listed
  exact ⟨Nat.lt_of_succ_le listed.1, listed.2⟩

theorem Step.single (step : Step batched queue after) (sound : queue.Sound) :
    singles.Step queue.proposals queue.singlesApplied after.proposals after.singlesApplied := by
  cases step with
  | still => exact .still sound.single
  | @file _ row rows zone fileable =>
    refine .add ?_ ?_
    · rw [List.map_append, List.nodup_append]
      refine ⟨sound.single.keys, List.nodup_singleton _, ?_⟩
      intro key held new added same
      obtain ⟨proposal, member, rfl⟩ := List.mem_map.mp held
      rw [List.map_singleton, List.mem_singleton] at added
      exact fileable.fresh sound proposal member (same.trans added)
    · intro proposal member
      rw [List.mem_singleton.mp member]
      exact singles.waiting row (singles_waits.mpr fileable.waits)
  | @approve _ row after _ judged approved =>
    have granted : singles.granted after = true :=
      singles_granted.mpr ⟨(isBatch_of_standing judged.standing).trans judged.single, approved⟩
    have step := sound.saved_step judged.there judged.waits judged.standing (if_pos granted).symm
    have effects : (queue.judged after [{ proposal := row.id }]).singlesApplied = queue.singlesApplied ++ [row.id] := by
      simp [singlesApplied, Queue.judged]
    rw [effects]
    exact step
  | @reject _ row after _ judged rejected =>
    have granted : ¬singles.granted after = true := by
      rw [singles_granted, rejected]
      simp
    have step := sound.saved_step judged.there judged.waits judged.standing (if_neg granted).symm
    have effects : (queue.judged after []).singlesApplied = queue.singlesApplied ++ [] := by
      simp [singlesApplied, Queue.judged]
    rw [effects]
    exact step
  | @decide _ batch chosen user moment note choice =>
    have granted : ¬singles.granted (batch.close ((decidedRows chosen user moment queue.batchRows).filter
        (·.proposal == batch.id)) user moment note) = true := by
      intro held
      have single := (singles_granted.mp held).1
      have whole := isBatch_of_standing (close_standing batch ((decidedRows chosen user moment
        queue.batchRows).filter (·.proposal == batch.id)) user moment note)
      exact Bool.noConfusion ((single.symm.trans whole).trans choice.whole)
    have step := sound.saved_step choice.there choice.waits (close_standing ..) (if_neg granted).symm
    have effects : (queue.decided batch chosen user moment note).singlesApplied = queue.singlesApplied ++ [] := by
      by_cases empty : approvedRows chosen = []
      · simp [singlesApplied, Queue.decided, applicationsOf, empty]
      · simp [singlesApplied, Queue.decided, applicationsOf, empty]
    rw [effects]
    exact step

theorem Step.whole (step : Step batched queue after) (sound : queue.Sound) :
    rowDocket.Step queue.batchRows queue.rowsApplied after.batchRows after.rowsApplied := by
  cases step with
  | still => exact .still sound.whole
  | @file _ row rows zone fileable =>
    refine .add ?_ ?_
    · rw [List.map_append, List.nodup_append]
      refine ⟨sound.whole.keys, ?_, ?_⟩
      · have ids : rows.map rowDocket.key = List.range' (row.id + 1) rows.length := fileable.ids
        rw [ids]
        exact List.nodup_range'
      · intro key held new added same
        obtain ⟨old, member, rfl⟩ := List.mem_map.mp held
        obtain ⟨other, among, rfl⟩ := List.mem_map.mp added
        have above := (fileable.row_id among).1
        have below := sound.rowsNumbered old member
        have equal : old.id = other.id := same
        rw [equal] at below
        exact Nat.lt_irrefl _ (Nat.lt_trans below above)
    · intro other member
      exact rowDocket.waiting other (rowDocket_waits.mpr (fileable.pending other member))
  | @approve _ row after _ judged =>
    have effects : (queue.judged after [{ proposal := row.id }]).rowsApplied = queue.rowsApplied := by
      simp [rowsApplied, Queue.judged]
    rw [effects]
    exact .still sound.whole
  | @reject _ row after _ judged =>
    have effects : (queue.judged after []).rowsApplied = queue.rowsApplied := by
      simp [rowsApplied, Queue.judged]
    rw [effects]
    exact .still sound.whole
  | @decide _ batch chosen user moment note choice =>
    have effects : (queue.decided batch chosen user moment note).rowsApplied =
        queue.rowsApplied ++ (approvedRows chosen).map BatchRow.id := by
      by_cases empty : approvedRows chosen = []
      · simp [rowsApplied, Queue.decided, applicationsOf, empty]
      · simp [rowsApplied, Queue.decided, applicationsOf, empty]
    rw [effects]
    exact sound.decided_step choice

theorem filed_rowsOf (queue : Queue) (row : Proposal) (zone : Option Id) (rows : List BatchRow) (batch : Id) :
    (queue.filed row zone rows).rowsOf batch = queue.rowsOf batch ++ rows.filter (·.proposal == batch) :=
  List.filter_append ..

theorem Fileable.rowsOf_self (fileable : queue.Fileable row rows) (sound : queue.Sound) (zone : Option Id) :
    (queue.filed row zone rows).rowsOf row.id = rows := by
  have none : queue.rowsOf row.id = [] := by
    rw [rowsOf, List.filter_eq_nil_iff]
    intro other member
    obtain ⟨proposal, there, same, -⟩ := sound.owned other member
    rw [beq_iff_eq, ← same]
    exact fileable.fresh sound proposal there
  rw [filed_rowsOf, none, List.nil_append, List.filter_eq_self]
  intro other member
  rw [beq_iff_eq]
  exact fileable.owned other member

theorem Fileable.rowsOf_other (fileable : queue.Fileable row rows) (zone : Option Id) {batch : Id}
    (apart : batch ≠ row.id) : (queue.filed row zone rows).rowsOf batch = queue.rowsOf batch := by
  rw [filed_rowsOf]
  apply List.append_right_eq_self.mpr
  rw [List.filter_eq_nil_iff]
  intro other member
  rw [beq_iff_eq, fileable.owned other member]
  exact fun same => apart same.symm

theorem decided_rowsOf (queue : Queue) (batch : Proposal) (chosen : List (BatchRow × Outcome)) (user : Id)
    (moment : Instant) (note : String) (id : Id) :
    (queue.decided batch chosen user moment note).rowsOf id = (queue.rowsOf id).map (decidedRow chosen user moment) := by
  have kept : ((·.proposal == id) ∘ decidedRow chosen user moment) = fun row : BatchRow => row.proposal == id := by
    funext row
    rw [Function.comp_apply, (decidedRow_about chosen user moment row).2.1]
  change (decidedRows chosen user moment queue.batchRows).filter (·.proposal == id) = _
  rw [decidedRows, List.filter_map, kept]
  rfl

theorem Chosen.rowsOf_other (choice : queue.Chosen batch chosen user) (sound : queue.Sound) {id : Id}
    (apart : id ≠ batch.id) : (queue.decided batch chosen user moment note).rowsOf id = queue.rowsOf id := by
  rw [decided_rowsOf]
  refine (List.map_congr_left ?_).trans (List.map_id _)
  intro row member
  obtain ⟨there, owned⟩ := List.mem_filter.mp member
  rcases choice.decidedRow sound moment there with ⟨outcome, among, -⟩ | ⟨-, same⟩
  · exact absurd ((beq_iff_eq.mp owned).symm.trans (choice.mem among).2.1) apart
  · exact same

section
variable (step : Step batched queue after) (sound : queue.Sound)
include step sound

theorem Step.numbered : ∀ proposal ∈ after.proposals, proposal.id < after.nextId := by
  intro proposal member
  cases step with
  | still => exact sound.numbered proposal member
  | @file _ row rows zone fileable =>
    have room : queue.nextId < queue.nextId + 1 + rows.length := Nat.lt_add_right _ (Nat.lt_succ_self _)
    rcases List.mem_append.mp member with old | new
    · exact Nat.lt_trans (sound.numbered proposal old) room
    · rw [List.mem_singleton.mp new, fileable.id]
      exact room
  | @approve _ row after _ judged | @reject _ row after _ judged =>
    rcases mem_saved member with ⟨old, -⟩ | rfl
    · exact sound.numbered proposal old
    · rw [id_of_standing judged.standing]
      exact sound.numbered row judged.there
  | @decide _ batch chosen user moment note choice =>
    rcases mem_saved member with ⟨old, -⟩ | rfl
    · exact sound.numbered proposal old
    · rw [id_of_standing (close_standing ..)]
      exact sound.numbered batch choice.there

theorem Step.rowsNumbered : ∀ row ∈ after.batchRows, row.id < after.nextId := by
  intro row member
  cases step with
  | still | approve | reject => exact sound.rowsNumbered row member
  | @file _ proposal rows zone fileable =>
    rcases List.mem_append.mp member with old | new
    · exact Nat.lt_of_lt_of_le (sound.rowsNumbered row old)
        (Nat.le_trans (Nat.le_succ _) (Nat.le_add_right _ _))
    · exact (fileable.row_id new).2
  | @decide _ batch chosen user moment note choice =>
    obtain ⟨old, there, rfl⟩ := List.mem_map.mp member
    rw [(decidedRow_about chosen user moment old).1]
    exact sound.rowsNumbered old there

theorem Step.attributed : ∀ application ∈ after.applied, ∃ proposal ∈ after.proposals,
      proposal.id = application.proposal ∧ (proposal.isBatch = true ↔ application.rows ≠ []) := by
  have kept {application : Application} (old : application ∈ queue.applied) : ∃ proposal ∈ after.proposals,
      proposal.id = application.proposal ∧ (proposal.isBatch = true ↔ application.rows ≠ []) := by
    obtain ⟨proposal, there, same, kind⟩ := sound.attributed application old
    obtain ⟨later, held, standing⟩ := step.stands sound there
    refine ⟨later, held, (id_of_standing standing).trans same, ?_⟩
    rw [isBatch_of_standing standing]
    exact kind
  intro application member
  cases step with
  | still | file => exact kept member
  | @approve _ row after _ judged =>
    rcases List.mem_append.mp member with old | new
    · exact kept old
    · rw [List.mem_singleton.mp new]
      have same := id_of_standing judged.standing
      have single := isBatch_of_standing judged.standing
      refine ⟨after, mem_saved_self judged.there same.symm, same, ?_⟩
      simp [single.trans judged.single]
  | @reject _ row after _ judged =>
    rcases List.mem_append.mp member with old | new
    · exact kept old
    · cases new
  | @decide _ batch chosen user moment note choice =>
    rcases List.mem_append.mp member with old | new
    · exact kept old
    · by_cases empty : approvedRows chosen = []
      · rw [applicationsOf, if_pos empty] at new
        cases new
      · rw [applicationsOf, if_neg empty, List.mem_singleton] at new
        rw [new]
        have standing := close_standing batch ((decidedRows chosen user moment queue.batchRows).filter
          (·.proposal == batch.id)) user moment note
        have same := id_of_standing standing
        have whole := isBatch_of_standing standing
        refine ⟨_, mem_saved_self choice.there same.symm, same, ?_⟩
        simp [whole.trans choice.whole, empty]

theorem Step.owned : ∀ row ∈ after.batchRows, ∃ proposal ∈ after.proposals, proposal.id = row.proposal ∧ proposal.isBatch = true := by
  have kept {row : BatchRow} (old : row ∈ queue.batchRows) :
      ∃ proposal ∈ after.proposals, proposal.id = row.proposal ∧ proposal.isBatch = true := by
    obtain ⟨proposal, there, same, whole⟩ := sound.owned row old
    obtain ⟨later, held, standing⟩ := step.stands sound there
    exact ⟨later, held, (id_of_standing standing).trans same, (isBatch_of_standing standing).trans whole⟩
  intro row member
  cases step with
  | still | approve | reject => exact kept member
  | @file _ proposal rows zone fileable =>
    rcases List.mem_append.mp member with old | new
    · exact kept old
    · refine ⟨proposal, List.mem_append_right _ (List.mem_singleton_self _), (fileable.owned row new).symm, ?_⟩
      exact fileable.batch.mpr (List.ne_nil_of_mem new)
  | @decide _ batch chosen user moment note choice =>
    obtain ⟨old, there, rfl⟩ := List.mem_map.mp member
    rw [(decidedRow_about chosen user moment old).2.1]
    exact kept there

theorem Step.kinds : ∀ proposal ∈ after.proposals, proposal.isBatch = true ↔ proposal.kind = .obligationScope := by
  have kept {proposal old : Proposal} (there : old ∈ queue.proposals) (standing : proposal.standing = old.standing) :
      proposal.isBatch = true ↔ proposal.kind = .obligationScope := by
    have kind : proposal.kind = old.kind := congrArg Standing.kind standing
    rw [isBatch_of_standing standing, kind]
    exact sound.kinds old there
  intro proposal member
  cases step with
  | still => exact sound.kinds proposal member
  | file zone fileable =>
    rcases List.mem_append.mp member with old | new
    · exact sound.kinds proposal old
    · rw [List.mem_singleton.mp new]
      exact fileable.kind
  | approve judged | reject judged =>
    rcases mem_saved member with ⟨old, -⟩ | rfl
    · exact sound.kinds proposal old
    · exact kept judged.there judged.standing
  | decide moment note choice =>
    rcases mem_saved member with ⟨old, -⟩ | rfl
    · exact sound.kinds proposal old
    · exact kept choice.there (close_standing ..)

theorem Step.subjects (batch : Id) : ((after.rowsOf batch).map BatchRow.subjectId).Nodup := by
  cases step with
  | still | approve | reject => exact sound.subjects batch
  | @file _ row rows zone fileable =>
    by_cases same : batch = row.id
    · rw [same, fileable.rowsOf_self sound]
      exact fileable.subjects
    · rw [fileable.rowsOf_other zone same]
      exact sound.subjects batch
  | @decide _ other chosen user moment note choice =>
    have kept : BatchRow.subjectId ∘ decidedRow chosen user moment = BatchRow.subjectId :=
      funext fun row => (decidedRow_about chosen user moment row).2.2.1
    rw [decided_rowsOf, List.map_map, kept]
    exact sound.subjects batch

theorem Step.ordered : ∀ row ∈ after.batchRows, row.after.Pairwise (· < ·) := by
  intro row member
  cases step with
  | still | approve | reject => exact sound.ordered row member
  | file zone fileable =>
    rcases List.mem_append.mp member with old | new
    · exact sound.ordered row old
    · exact fileable.ordered row new
  | @decide _ batch chosen user moment note choice =>
    obtain ⟨old, there, rfl⟩ := List.mem_map.mp member
    rw [(decidedRow_about chosen user moment old).2.2.2.2]
    exact sound.ordered old there

end

theorem Judged.apart_of {reviewer : Reviewer} {saved : Proposal} (judged : queue.Judged row saved reviewer) :
    saved.Apart := by
  have standing := judged.standing
  refine { user := ?_, apiKey := ?_, agent := ?_ }
  · intro user reviewed proposed
    have made : row.proposedByUser = some user := (congrArg Standing.proposedByUser standing).symm.trans proposed
    have reviews : reviewer.user = some user := judged.user.symm.trans reviewed
    exact judged.apart (.inl ⟨by simp [reviews], made.trans reviews.symm⟩)
  · intro key reviewed proposed
    have made : row.proposedByApiKey = some key := (congrArg Standing.proposedByApiKey standing).symm.trans proposed
    have reviews : reviewer.apiKeyId = some key := judged.apiKey.symm.trans reviewed
    exact judged.apart (.inr (.inl ⟨by simp [reviews], made.trans reviews.symm⟩))
  · intro agent reviewed proposed
    have made : row.proposedByAgent = some agent := (congrArg Standing.proposedByAgent standing).symm.trans proposed
    have reviews : reviewer.agentId = some agent := judged.agent.symm.trans reviewed
    exact judged.apart (.inr (.inr ⟨by simp [reviews], made.trans reviews.symm⟩))

theorem Chosen.fair_of (choice : queue.Chosen batch chosen user) (sound : queue.Sound) (rows : List BatchRow)
    (moment : Instant) (note : String) : (batch.close rows user moment note).Fair := by
  obtain ⟨apiKey, agent, reviewed⟩ := close_reviewed batch rows user moment note
  have blank : batch.Unreviewed := by
    rcases sound.fair batch choice.there with ⟨-, blank⟩ | ⟨decided, -⟩
    · exact blank
    · exact absurd choice.waits decided
  have standing := close_standing batch rows user moment note
  rw [blank.2.1] at apiKey
  rw [blank.2.2] at agent
  rcases reviewed with closed | ⟨kept, status⟩
  · by_cases waits : (batch.close rows user moment note).status = .open_
    · have decided : (rows.all fun row => row.decision != .pending) = true := by
        by_contra pending
        rw [Bool.not_eq_true] at pending
        simp only [Proposal.close, pending] at closed
        exact Option.some_ne_none user (closed.symm.trans blank.1)
      rw [close_status choice.waits, batchStatus] at waits
      have settled : ¬(rows.any fun row => row.decision == .pending) = true := by
        rw [List.all_eq_true] at decided
        rw [List.any_eq_true]
        intro pending
        obtain ⟨row, member, waiting⟩ := pending
        have other := decided row member
        rw [beq_iff_eq.mp waiting] at other
        cases other
      rw [if_neg settled] at waits
      split at waits
      · cases waits
      · cases waits
    · refine .inr ⟨waits, { user := ?_, apiKey := ?_, agent := ?_ }, ?_⟩
      · intro other reviewed proposed
        rw [closed, Option.some.injEq] at reviewed
        have made : batch.proposedByUser = some other := (congrArg Standing.proposedByUser standing).symm.trans proposed
        exact choice.apart (reviewed ▸ made)
      · intro key reviewed
        rw [apiKey] at reviewed
        cases reviewed
      · intro other reviewed
        rw [agent] at reviewed
        cases reviewed
      · intro _ unsigned
        rw [closed] at unsigned
        cases unsigned
  · exact .inl ⟨status.trans choice.waits, kept.trans blank.1, apiKey, agent⟩

theorem Step.fair (step : Step batched queue after) (sound : queue.Sound) : ∀ proposal ∈ after.proposals, proposal.Fair := by
  intro proposal member
  cases step with
  | still => exact sound.fair proposal member
  | @file _ row rows zone fileable =>
    rcases List.mem_append.mp member with old | new
    · exact sound.fair proposal old
    · rw [List.mem_singleton.mp new]
      exact .inl ⟨fileable.waits, fileable.unreviewed⟩
  | @approve _ row after reviewer judged approved confirmable =>
    rcases mem_saved member with ⟨old, -⟩ | rfl
    · exact sound.fair proposal old
    · refine .inr ⟨by simp [approved], judged.apart_of, ?_⟩
      intro _ unsigned
      obtain ⟨kind, flags, own⟩ := confirmable (judged.user.symm.trans unsigned)
      have standing := judged.standing
      have sameKind : proposal.kind = row.kind := congrArg Standing.kind standing
      exact ⟨sameKind ▸ kind, (congrArg Standing.riskFlags standing).trans flags,
        (congrArg Standing.ownerTenant standing).trans own⟩
  | @reject _ row after reviewer judged rejected =>
    rcases mem_saved member with ⟨old, -⟩ | rfl
    · exact sound.fair proposal old
    · refine .inr ⟨by simp [rejected], judged.apart_of, ?_⟩
      intro approved
      rw [rejected] at approved
      cases approved
  | @decide _ batch chosen user moment note choice =>
    rcases mem_saved member with ⟨old, -⟩ | rfl
    · exact sound.fair proposal old
    · exact choice.fair_of sound _ moment note

theorem batchStatus_pending {rows : List BatchRow} (filled : rows ≠ []) (pending : ∀ row ∈ rows, row.decision = .pending) :
    batchStatus rows = .open_ := by
  obtain ⟨row, rest, rfl⟩ := List.exists_cons_of_ne_nil filled
  have waits : ((row :: rest).any fun row => row.decision == .pending) = true :=
    List.any_eq_true.mpr ⟨row, List.mem_cons_self, beq_iff_eq.mpr (pending row List.mem_cons_self)⟩
  rw [batchStatus, if_pos waits]

theorem Step.closed (step : Step batched queue after) (sound : queue.Sound) : ∀ proposal ∈ after.proposals,
    proposal.isBatch = true → proposal.status = batchStatus (after.rowsOf proposal.id) := by
  intro proposal member whole
  cases step with
  | still => exact sound.closed proposal member whole
  | @file _ row rows zone fileable =>
    rcases List.mem_append.mp member with old | new
    · rw [fileable.rowsOf_other zone (fileable.fresh sound proposal old)]
      exact sound.closed proposal old whole
    · rw [List.mem_singleton.mp new] at whole ⊢
      rw [fileable.rowsOf_self sound, batchStatus_pending (fileable.batch.mp whole) fileable.pending]
      exact fileable.waits
  | @approve _ row after _ judged | @reject _ row after _ judged =>
    rcases mem_saved member with ⟨old, -⟩ | rfl
    · exact sound.closed proposal old whole
    · rw [isBatch_of_standing judged.standing, judged.single] at whole
      cases whole
  | @decide _ batch chosen user moment note choice =>
    rcases mem_saved member with ⟨old, apart⟩ | rfl
    · rw [id_of_standing (close_standing ..)] at apart
      rw [choice.rowsOf_other sound apart]
      exact sound.closed proposal old whole
    · rw [close_status choice.waits, id_of_standing (close_standing ..)]
      rfl

theorem Step.sound (step : Step batched queue after) (sound : queue.Sound) : after.Sound where
  numbered := step.numbered sound
  rowsNumbered := step.rowsNumbered sound
  single := (step.single sound).settled sound.single
  whole := (step.whole sound).settled sound.whole
  attributed := step.attributed sound
  owned := step.owned sound
  kinds := step.kinds sound
  fair := step.fair sound
  closed := step.closed sound
  subjects := step.subjects sound
  ordered := step.ordered sound

theorem sound_empty : Sound {} where
  numbered := by simp
  rowsNumbered := by simp
  single := Docket.settled_nil
  whole := Docket.settled_nil
  attributed := by simp
  owned := by simp
  kinds := by simp
  fair := by simp
  closed := by simp
  subjects := by simp [rowsOf]
  ordered := by simp

/-- What a row is about, and what it recorded when it was filed. -/
structure Recorded (row later : BatchRow) : Prop where
  id : later.id = row.id
  proposal : later.proposal = row.proposal
  subjectId : later.subjectId = row.subjectId
  before : later.before = row.before
  after : later.after = row.after

theorem Step.recorded (step : Step batched queue after) {row : BatchRow} (member : row ∈ queue.batchRows) :
    ∃ later ∈ after.batchRows, Recorded row later := by
  cases step with
  | still | approve | reject => exact ⟨row, member, rfl, rfl, rfl, rfl, rfl⟩
  | file => exact ⟨row, List.mem_append_left _ member, rfl, rfl, rfl, rfl, rfl⟩
  | @decide _ batch chosen user moment note choice =>
    obtain ⟨id, proposal, subjectId, before, after⟩ := decidedRow_about chosen user moment row
    exact ⟨_, List.mem_map_of_mem member, id, proposal, subjectId, before, after⟩

theorem Step.plain (step : Step false queue after) :
    ∀ row ∈ after.batchRows, row ∈ queue.batchRows ∨ row.decision = .pending := by
  intro row member
  cases step with
  | still | approve | reject => exact .inl member
  | file zone fileable => exact (List.mem_append.mp member).imp id (fileable.pending row)

/-- No batch was decided yet, and nothing of one applied. -/
structure Unbatched (queue : Queue) : Prop where
  waits : ∀ proposal ∈ queue.proposals, proposal.isBatch = true → proposal.status = .open_
  single : ∀ application ∈ queue.applied, application.rows = []

theorem Step.unbatched (step : Step false queue after) (unbatched : queue.Unbatched) : after.Unbatched := by
  cases step with
  | still => exact unbatched
  | @file _ row rows zone fileable =>
    refine { waits := ?_, single := unbatched.single }
    intro proposal member whole
    rcases List.mem_append.mp member with old | new
    · exact unbatched.waits proposal old whole
    · rw [List.mem_singleton.mp new]
      exact fileable.waits
  | @approve _ row after _ judged =>
    refine { waits := ?_, single := ?_ }
    · intro proposal member whole
      rcases mem_saved member with ⟨old, -⟩ | rfl
      · exact unbatched.waits proposal old whole
      · rw [isBatch_of_standing judged.standing, judged.single] at whole
        cases whole
    · intro application member
      rcases List.mem_append.mp member with old | new
      · exact unbatched.single application old
      · rw [List.mem_singleton.mp new]
  | @reject _ row after _ judged =>
    refine { waits := ?_, single := ?_ }
    · intro proposal member whole
      rcases mem_saved member with ⟨old, -⟩ | rfl
      · exact unbatched.waits proposal old whole
      · rw [isBatch_of_standing judged.standing, judged.single] at whole
        cases whole
    · intro application member
      rcases List.mem_append.mp member with old | new
      · exact unbatched.single application old
      · cases new

theorem Step.final (step : Step batched queue after) (sound : queue.Sound) {proposal : Proposal}
    (member : proposal ∈ queue.proposals) (decided : proposal.status ≠ .open_) : proposal ∈ after.proposals := by
  apply (step.single sound).final member
  rw [← Bool.not_eq_true, singles_waits]
  exact decided

theorem Step.finalRow (step : Step batched queue after) (sound : queue.Sound) {row : BatchRow}
    (member : row ∈ queue.batchRows) (decided : row.decision ≠ .pending) : row ∈ after.batchRows := by
  apply (step.whole sound).final member
  rw [← Bool.not_eq_true, rowDocket_waits]
  exact decided

end Grc.Proposals.Queue
