import Grc.Proposals.QueueSound

/-! The proposals of the platform over time: proposals filed, read and decided in any order of
steps, while the rest of the platform changes the library and the runs as it likes. -/
namespace Grc.Proposals

open Grc.Shared Grc.Lib Grc.Library

variable {Rule : Type}

/-- The desk with the rows each caller read before it decides, in the order they were read. -/
structure Office where
  desk : Desk
  loaded : List Proposal := []

/-- What a caller does: a row it decides on is named by when it was read. -/
inductive Action where
  | create (proposer : Proposer) (body : Body)
  | createBatch (proposer : Proposer) (body : BatchBody)
  | load (id : Id)
  | approve (handle : Nat) (reviewer : Reviewer) (actor : Actor) (approval : Approval)
  | reject (handle : Nat) (reviewer : Reviewer) (actor : Actor) (rejection : Rejection)
  | decideBatch (handle : Nat) (decision : BatchDecision) (reviewer : Reviewer) (stepUp : Option Id)
  /-- Whatever the rest of the platform writes: the library, the runs. -/
  | elsewhere (records : Records) (runs : List AgentRun)

/-- An action, when it is made and the zone it is made in. -/
structure Event where
  now : Now
  zone : Option Id
  action : Action

def Event.decidesBatch (event : Event) : Bool :=
  match event.action with
  | .decideBatch .. => true
  | _ => false

/-- A transaction on the office. -/
abbrev Turn := Tx Office Refusal

def onDesk {α : Type} (work : Work α) : Turn Unit := do
  let _ ← Tx.within Office.desk (fun desk office => { office with desk }) work
  pure ()

/-- `by_id`: the row as it is read, without a lock. -/
def loadedRow (zone : Option Id) (desk : Desk) (id : Id) : Except Refusal Proposal :=
  demand (desk.proposals.find? fun proposal => proposal.id == id && visible zone proposal)
    { code := "not_found", detail := "That proposal is not here." }

def heldRow (handle : Nat) (office : Office) : Except Refusal Proposal := demand office.loaded[handle]? notFound

/-- `batch.by_id`, of a row that was read. -/
def heldBatch (handle : Nat) (office : Office) : Except Refusal Proposal :=
  demand (office.loaded[handle]?.filter (·.isBatch)) { code := "not_found", detail := "That batch is not here." }

/-- One event. -/
def act (platform : Platform Rule) (event : Event) : Turn Unit :=
  match event.action with
  | .create proposer body => onDesk (create platform event.now event.zone proposer body)
  | .createBatch proposer body => onDesk (createBatch platform event.zone proposer body)
  | .load id => do
    let row ← Tx.check fun office => loadedRow event.zone office.desk id
    Tx.write fun office => { office with loaded := office.loaded ++ [row] }
  | .approve handle reviewer actor approval => do
    let row ← Tx.check (heldRow handle)
    onDesk (approve platform event.now event.zone row reviewer actor approval)
  | .reject handle reviewer actor rejection => do
    let row ← Tx.check (heldRow handle)
    onDesk (reject event.now event.zone row reviewer actor rejection)
  | .decideBatch handle decision reviewer stepUp => do
    let row ← Tx.check (heldBatch handle)
    onDesk (decideBatch platform event.now event.zone row decision reviewer stepUp)
  | .elsewhere records runs => Tx.write fun office => { office with desk := { office.desk with records, runs } }

def reached (platform : Platform Rule) (office : Office) (events : List Event) : Office :=
  Tx.runs (act platform) office events

def opened (records : Records) (runs : List AgentRun) : Office where
  desk := { records, runs }

variable {platform : Platform Rule} {now : Now} {zone : Option Id} {desk after : Desk}

theorem create_clean (proposer : Proposer) (body : Body) : (create platform now zone proposer body).Clean := by
  refine .check_bind fun draft => .check_bind fun _ => .check_bind fun found => ?_
  cases found with
  | none => exact .atomic _
  | some proposal => exact .check_bind fun _ => .write_pure _ _

theorem createBatch_clean (proposer : Proposer) (body : BatchBody) :
    (createBatch platform zone proposer body).Clean := by
  refine .check_bind fun draft => .check_bind fun _ => .check_bind fun found => ?_
  cases found with
  | none => exact .check_bind fun _ => .atomic _
  | some proposal => exact .check_bind fun _ => .write_pure _ _

theorem approve_clean (proposal : Proposal) (reviewer : Reviewer) (actor : Actor) (approval : Approval) :
    (approve platform now zone proposal reviewer actor approval).Clean :=
  .check_bind fun _ => .check_bind fun _ => .atomic _

theorem reject_clean (proposal : Proposal) (reviewer : Reviewer) (actor : Actor) (rejection : Rejection) :
    (reject now zone proposal reviewer actor rejection).Clean :=
  .check_bind fun _ => .atomic _

theorem decideBatch_clean (proposal : Proposal) (decision : BatchDecision) (reviewer : Reviewer)
    (stepUp : Option Id) : (decideBatch platform now zone proposal decision reviewer stepUp).Clean :=
  .check_bind fun _ => .check_bind fun _ => .check_bind fun _ => .atomic _

theorem onDesk_clean {α : Type} {work : Work α} (clean : work.Clean) : (onDesk work).Clean :=
  .bind_pure (.within clean fun _ => rfl) fun _ => PUnit.unit

theorem act_clean (platform : Platform Rule) (event : Event) : (act platform event).Clean := by
  obtain ⟨now, zone, action⟩ := event
  cases action with
  | create proposer body => exact onDesk_clean (create_clean proposer body)
  | createBatch proposer body => exact onDesk_clean (createBatch_clean proposer body)
  | load id =>
    refine .check_bind fun row => ?_
    intro office refused after refusal
    cases refusal
  | approve handle reviewer actor approval =>
    exact .check_bind fun row => onDesk_clean (approve_clean row reviewer actor approval)
  | reject handle reviewer actor rejection =>
    exact .check_bind fun row => onDesk_clean (reject_clean row reviewer actor rejection)
  | decideBatch handle decision reviewer stepUp =>
    exact .check_bind fun row => onDesk_clean (decideBatch_clean row decision reviewer stepUp)
  | elsewhere records runs =>
    intro office refused after refusal
    cases refusal

theorem create_step {proposer : Proposer} {body : Body} {answer : Proposal × Bool}
    (filed : (create platform now zone proposer body).execute desk = (.ok answer, after)) :
    Queue.Step false desk.queue after.queue := by
  obtain ⟨row, made⟩ := answer
  obtain ⟨draft, checked, -, ⟨-, -, same⟩ | ⟨-, -, row, -, queue⟩⟩ := create_ok filed
  · rw [same]
    exact .still _
  · rw [queue]
    refine .file zone { id := ?_, waits := ?_, unreviewed := ?_, batch := ?_, owned := ?_, pending := ?_
                        kind := ?_, ids := ?_, subjects := List.nodup_nil, ordered := ?_ }
    all_goals simp [row, rowOf, Draft.row, Proposal.Unreviewed, Desk.queue, drafted_single checked]

theorem createBatch_step {proposer : Proposer} {body : BatchBody} {answer : Proposal × Bool}
    (filed : (createBatch platform zone proposer body).execute desk = (.ok answer, after)) :
    Queue.Step false desk.queue after.queue := by
  obtain ⟨row, made⟩ := answer
  obtain ⟨draft, checked, -, ⟨-, -, -, same⟩ | ⟨-, -, -, previews, shown, found, queue⟩⟩ := createBatch_ok filed
  · rw [same]
    exact .still _
  · rw [queue]
    obtain ⟨terms, rfl⟩ := previewed_ok shown
    have filled : draft.payload.changes ≠ [] := draft.payload.filled
    refine .file none { id := ?_, waits := ?_, unreviewed := ?_, batch := ?_, owned := ?_, pending := ?_
                        kind := ?_, ids := ?_, subjects := ?_, ordered := ?_ }
    · simp [found, BatchDraft.rowOf, BatchDraft.row, Desk.queue]
    · simp [found, BatchDraft.rowOf, BatchDraft.row]
    · simp [found, BatchDraft.rowOf, BatchDraft.row, Proposal.Unreviewed]
    · have length := batchRowsOf_length row.id (row.id + 1)
        (draft.payload.changes.map (previewOf desk.records terms))
      have rows : batchRowsOf row.id (row.id + 1)
          (draft.payload.changes.map (previewOf desk.records terms)) ≠ [] := by
        intro empty
        rw [empty, List.length_nil, List.length_map] at length
        exact filled (List.length_eq_zero_iff.mp length.symm)
      have whole : row.isBatch = true := by rw [found]; rfl
      exact ⟨fun _ => rows, fun _ => whole⟩
    · simp [found, BatchDraft.rowOf, BatchDraft.row]
    · exact fun other member => (mem_batchRowsOf member).1
    · exact fun other member => (mem_batchRowsOf member).2.1
    · rw [batchRowsOf_ids, batchRowsOf_length]
    · rw [batchRowsOf_subjects, List.map_map]
      exact (draftedBatch_ok checked).2.2.2.2
    · intro other member
      obtain ⟨-, -, preview, among, -, -, after⟩ := mem_batchRowsOf member
      obtain ⟨change, -, rfl⟩ := List.mem_map.mp among
      have ordered := (previewOf_ordered desk.records terms change).2
      rw [after, ordered.sorted_keys]
      exact ordered

def Desk.Holds (desk : Desk) (proposal : Proposal) : Prop :=
  ∃ held ∈ desk.proposals, held.standing = proposal.standing

theorem decidableRow_standing {proposal row : Proposal} {reviewer : Reviewer} (sound : desk.queue.Sound)
    (holds : desk.Holds proposal) (decidable : decidableRow zone desk proposal.id reviewer = .ok row) :
    row.standing = proposal.standing := by
  obtain ⟨held, there, standing⟩ := holds
  obtain ⟨member, same, -⟩ := decidableRow_ok decidable
  have one : row = held := sound.unique member there (same.trans (Queue.id_of_standing standing).symm)
  rw [one]
  exact standing

theorem approve_step {proposal : Proposal} {reviewer : Reviewer} {actor : Actor} {approval : Approval}
    {answer : Proposal} (sound : desk.queue.Sound) (holds : desk.Holds proposal)
    (approved : (approve platform now zone proposal reviewer actor approval).execute desk = (.ok answer, after)) :
    Queue.Step false desk.queue after.queue := by
  obtain ⟨single, own, row, revision, decidable, confirmable, revises, -, rfl, queue⟩ := approve_ok approved
  have standing := decidableRow_standing sound holds decidable
  obtain ⟨member, same, waits, apart, -⟩ := decidableRow_ok decidable
  have filed : revision.standing = row.standing := by
    obtain ⟨_, _, _, _, _, rfl⟩ := revised_ok revises
    rfl
  have judged : desk.queue.Judged row (revision.approve reviewer now.moment approval.note) reviewer :=
    { there := member, waits, apart, standing := filed, user := rfl, apiKey := rfl, agent := rfl
      single := (Queue.isBatch_of_standing standing).trans single }
  rw [queue, Queue.id_of_standing filed]
  refine .approve judged rfl ?_
  · intro agent
    obtain ⟨kind, flags⟩ := checkConfirmable_ok confirmable agent
    exact ⟨kind, flags, (congrArg Standing.ownerTenant standing).trans (own agent)⟩

theorem reject_step {proposal : Proposal} {reviewer : Reviewer} {actor : Actor} {rejection : Rejection}
    {answer : Proposal} (sound : desk.queue.Sound) (holds : desk.Holds proposal)
    (rejected : (reject now zone proposal reviewer actor rejection).execute desk = (.ok answer, after)) :
    Queue.Step false desk.queue after.queue := by
  obtain ⟨single, row, decidable, rfl, queue, -⟩ := reject_ok rejected
  have standing := decidableRow_standing sound holds decidable
  obtain ⟨member, same, waits, apart, -⟩ := decidableRow_ok decidable
  have judged : desk.queue.Judged row (row.reject reviewer now.moment (strip rejection.rejectionCode)
      (strip rejection.note)) reviewer :=
    { there := member, waits, apart, standing := rfl, user := rfl, apiKey := rfl, agent := rfl
      single := (Queue.isBatch_of_standing standing).trans single }
  have step : Queue.Step false desk.queue (desk.queue.judged _ []) := .reject judged rfl
  rw [Queue.judged, List.append_nil] at step
  rw [queue]
  exact step

theorem decideBatch_step {proposal : Proposal} {decision : BatchDecision} {reviewer : Reviewer} {stepUp : Option Id}
    {answer : Proposal} (sound : desk.queue.Sound) (holds : desk.Holds proposal) (whole : proposal.isBatch = true)
    (decided : (decideBatch platform now zone proposal decision reviewer stepUp).execute desk = (.ok answer, after)) :
    Queue.Step true desk.queue after.queue := by
  obtain ⟨user, decisions, row, chosen, records, audit, -, -, -, decidable, chose, -, rfl⟩ := decideBatch_ok decided
  obtain ⟨member, same, waits, apart, -⟩ := decidableBatch_ok decidable
  obtain ⟨held, there, standing⟩ := holds
  have one : row = held := sound.unique member there (same.trans (Queue.id_of_standing standing).symm)
  have rows := (chosenOf_ok chose).1
  rw [← same] at rows
  exact .decide now.moment (strip decision.note) { there := member, waits, apart, rows
                                                   whole := one ▸ (Queue.isBatch_of_standing standing).trans whole }

/-- The queue is sound, and every row that was read is filed as it was read. -/
structure Office.Sound (office : Office) : Prop where
  queue : office.desk.queue.Sound
  loaded : ∀ row ∈ office.loaded, office.desk.Holds row

theorem loadedRow_ok {id : Id} {row : Proposal} (found : loadedRow zone desk id = .ok row) : row ∈ desk.proposals :=
  List.mem_of_find?_eq_some (demand_ok.mp found)

theorem heldRow_ok {handle : Nat} {office : Office} {row : Proposal} (found : heldRow handle office = .ok row) :
    row ∈ office.loaded :=
  List.mem_of_getElem? (demand_ok.mp found)

theorem heldBatch_ok {handle : Nat} {office : Office} {row : Proposal} (found : heldBatch handle office = .ok row) :
    row ∈ office.loaded ∧ row.isBatch = true := by
  rw [heldBatch, demand_ok, Option.filter_eq_some_iff] at found
  exact ⟨List.mem_of_getElem? found.1, found.2⟩

theorem onDesk_ok {α : Type} {work : Work α} {office later : Office} {answer : Unit}
    (done : (onDesk work).execute office = (.ok answer, later)) :
    ∃ value desk, work.execute office.desk = (.ok value, desk) ∧ later = { office with desk } := by
  simp only [onDesk, Tx.bind_ok, Tx.within_ok, Tx.pure_ok] at done
  obtain ⟨value, _, ⟨desk, worked, rfl⟩, -, rfl⟩ := done
  exact ⟨value, desk, worked, rfl⟩

theorem act_ok {event : Event} {office later : Office} {answer : Unit} (sound : office.Sound)
    (done : (act platform event).execute office = (.ok answer, later)) :
    (∃ batched, (batched = true → event.decidesBatch = true) ∧
        Queue.Step batched office.desk.queue later.desk.queue) ∧
      (later.loaded = office.loaded ∨
        ∃ row ∈ office.desk.proposals, later.desk = office.desk ∧ later.loaded = office.loaded ++ [row]) := by
  obtain ⟨now, zone, action⟩ := event
  cases action with
  | create proposer body =>
    obtain ⟨value, desk, worked, rfl⟩ := onDesk_ok done
    exact ⟨⟨false, nofun, create_step worked⟩, .inl rfl⟩
  | createBatch proposer body =>
    obtain ⟨value, desk, worked, rfl⟩ := onDesk_ok done
    exact ⟨⟨false, nofun, createBatch_step worked⟩, .inl rfl⟩
  | load id =>
    obtain ⟨row, found, written⟩ := Tx.check_bind_ok.mp done
    rw [Tx.write_ok.mp written]
    exact ⟨⟨false, nofun, .still _⟩, .inr ⟨row, loadedRow_ok found, rfl, rfl⟩⟩
  | approve handle reviewer actor approval =>
    obtain ⟨row, held, turn⟩ := Tx.check_bind_ok.mp done
    obtain ⟨value, desk, worked, rfl⟩ := onDesk_ok turn
    exact ⟨⟨false, nofun, approve_step sound.queue (sound.loaded row (heldRow_ok held)) worked⟩, .inl rfl⟩
  | reject handle reviewer actor rejection =>
    obtain ⟨row, held, turn⟩ := Tx.check_bind_ok.mp done
    obtain ⟨value, desk, worked, rfl⟩ := onDesk_ok turn
    exact ⟨⟨false, nofun, reject_step sound.queue (sound.loaded row (heldRow_ok held)) worked⟩, .inl rfl⟩
  | decideBatch handle decision reviewer stepUp =>
    obtain ⟨row, held, turn⟩ := Tx.check_bind_ok.mp done
    obtain ⟨value, desk, worked, rfl⟩ := onDesk_ok turn
    obtain ⟨member, whole⟩ := heldBatch_ok held
    exact ⟨⟨true, fun _ => rfl, decideBatch_step sound.queue (sound.loaded row member) whole worked⟩, .inl rfl⟩
  | elsewhere records runs =>
    rw [Tx.write_ok.mp done]
    exact ⟨⟨false, nofun, .still _⟩, .inl rfl⟩

theorem Queue.Step.holds {desk later : Desk} {batched : Bool} (step : Queue.Step batched desk.queue later.queue) (sound : desk.queue.Sound)
    {row : Proposal} (holds : desk.Holds row) : later.Holds row := by
  obtain ⟨held, there, standing⟩ := holds
  obtain ⟨next, member, same⟩ := step.stands sound there
  exact ⟨next, member, same.trans standing⟩

theorem act_step (event : Event) {office : Office} (sound : office.Sound) :
    ∃ batched, (batched = true → event.decidesBatch = true) ∧
      Queue.Step batched office.desk.queue ((act platform event).left office).desk.queue := by
  apply (act_clean platform event).left_invariant fun later => ∃ batched,
    (batched = true → event.decidesBatch = true) ∧ Queue.Step batched office.desk.queue later.desk.queue
  · exact ⟨false, nofun, .still _⟩
  · exact fun _ _ done => (act_ok sound done).1

theorem act_sound (event : Event) {office : Office} (sound : office.Sound) :
    ((act platform event).left office).Sound := by
  apply (act_clean platform event).left_invariant Office.Sound sound
  intro answer later done
  obtain ⟨⟨batched, -, step⟩, loaded⟩ := act_ok sound done
  refine { queue := step.sound sound.queue, loaded := ?_ }
  intro row member
  rcases loaded with same | ⟨read, there, same, more⟩
  · rw [same] at member
    exact step.holds sound.queue (sound.loaded row member)
  · rw [more] at member
    rcases List.mem_append.mp member with old | new
    · exact step.holds sound.queue (sound.loaded row old)
    · rw [List.mem_singleton.mp new]
      exact ⟨read, same ▸ there, rfl⟩

theorem opened_sound (records : Records) (runs : List AgentRun) : (opened records runs).Sound where
  queue := Queue.sound_empty
  loaded := by simp [opened]

theorem opened_unbatched (records : Records) (runs : List AgentRun) : (opened records runs).desk.queue.Unbatched where
  waits := by simp [opened, Desk.queue]
  single := by simp [opened, Desk.queue]

theorem reached_sound {office : Office} (sound : office.Sound) (events : List Event) :
    (reached platform office events).Sound :=
  Tx.runs_invariant Office.Sound sound (fun _ event held => act_sound event held) events

theorem reached_invariant {office : Office} (sound : office.Sound) (Kept : Queue → Prop)
    (initial : Kept office.desk.queue)
    (step : ∀ batched queue later, queue.Sound → Queue.Step batched queue later → Kept queue → Kept later) (events : List Event) :
    Kept (reached platform office events).desk.queue := by
  have both : (reached platform office events).Sound ∧ Kept (reached platform office events).desk.queue :=
    Tx.runs_invariant (fun office : Office => office.Sound ∧ Kept office.desk.queue) ⟨sound, initial⟩
      (fun _ event held => by
        obtain ⟨batched, -, moved⟩ := act_step event held.1
        exact ⟨act_sound event held.1, step _ _ _ held.1.queue moved held.2⟩) events
  exact both.2

end Grc.Proposals

/-! Four eyes: whatever the order of the calls, a proposal is decided once and by someone apart from
who made it, applied exactly when it is approved, and left alone by a decision that fails. -/
namespace Grc.Proposals

open Grc.Shared Grc.Lib Grc.Library

variable {Rule : Type} {queue : Queue}

namespace Queue

def applications (queue : Queue) (id : Id) : Nat := queue.applied.countP (·.proposal == id)

def rowApplications (queue : Queue) (row : Id) : Nat := queue.rowsApplied.count row

section
variable (sound : queue.Sound) {proposal : Proposal} (there : proposal ∈ queue.proposals)
include sound there

theorem Sound.single_application {application : Application} (member : application ∈ queue.applied) (same : application.proposal = proposal.id) :
    proposal.isBatch = true ↔ application.rows ≠ [] := by
  obtain ⟨other, held, named, kind⟩ := sound.attributed application member
  have one : other = proposal := sound.unique held there (named.trans same)
  rw [← one]
  exact kind

theorem Sound.applications_eq (single : proposal.isBatch = false) : queue.applications proposal.id = queue.singlesApplied.count proposal.id := by
  rw [applications, singlesApplied, List.count_eq_countP, List.countP_map, List.countP_filter]
  apply List.countP_congr
  intro application member
  simp only [Function.comp_apply, Bool.and_eq_true, List.isEmpty_iff, beq_iff_eq]
  constructor
  · intro same
    refine ⟨same, ?_⟩
    by_contra filled
    have whole := (sound.single_application there member same).mpr filled
    exact Bool.noConfusion (single.symm.trans whole)
  · exact fun held => held.1

theorem Sound.applied_single (single : proposal.isBatch = false) :
    queue.applications proposal.id = if proposal.status = .approved then 1 else 0 := by
  have counted : queue.singlesApplied.count proposal.id = singles.due proposal := sound.single.counted proposal there
  rw [sound.applications_eq there single, counted, Docket.due]
  by_cases approved : proposal.status = .approved
  · rw [if_pos (singles_granted.mpr ⟨single, approved⟩), if_pos approved]
  · rw [if_neg (fun granted => approved (singles_granted.mp granted).2), if_neg approved]

end

theorem Sound.applied_unbatched (sound : queue.Sound) (unbatched : queue.Unbatched) {proposal : Proposal}
    (there : proposal ∈ queue.proposals) (whole : proposal.isBatch = true) :
    queue.applications proposal.id = if proposal.status = .approved then 1 else 0 := by
  rw [unbatched.waits proposal there whole, if_neg (by decide), applications, List.countP_eq_zero]
  intro application member same
  exact (sound.single_application there member (beq_iff_eq.mp same)).mp whole (unbatched.single application member)

theorem Sound.applied_row (sound : queue.Sound) {row : BatchRow} (there : row ∈ queue.batchRows) :
    queue.rowApplications row.id = if row.decision = .approved then 1 else 0 := by
  have counted : queue.rowsApplied.count row.id = rowDocket.due row := sound.whole.counted row there
  rw [rowApplications, counted, Docket.due]
  by_cases approved : row.decision = .approved
  · rw [if_pos (rowDocket_granted.mpr approved), if_pos approved]
  · rw [if_neg (fun granted => approved (rowDocket_granted.mp granted)), if_neg approved]

end Queue

variable {platform : Platform Rule} {office : Office}

theorem reached_final (sound : office.Sound) {proposal : Proposal} (there : proposal ∈ office.desk.proposals)
    (decided : proposal.status ≠ .open_) (later : List Event) :
    proposal ∈ (reached platform office later).desk.proposals :=
  reached_invariant sound (fun queue => proposal ∈ queue.proposals) there
    (fun _ _ _ held step member => step.final held member decided) later

theorem reached_unbatched (sound : office.Sound) (initial : office.desk.queue.Unbatched) (events : List Event)
    (plain : ∀ event ∈ events, event.decidesBatch = false) :
    (reached platform office events).desk.queue.Unbatched := by
  induction events generalizing office with
  | nil => exact initial
  | cons event rest ih =>
    obtain ⟨batched, decides, step⟩ := @act_step _ platform event office sound
    have none : batched = false := by
      cases batched with
      | false => rfl
      | true => exact absurd (decides rfl) (by simp [plain event List.mem_cons_self])
    rw [none] at step
    exact ih (act_sound event sound) (step.unbatched initial) fun other member =>
      plain other (List.mem_cons_of_mem event member)

/-- In every order of calls: a decided proposal stays decided as it was; a proposal's apply step
ran once when it is approved and never otherwise, and a batch's once for each approved row; its
reviewer is apart from its proposer; an agent approved only what it may; and a refused call left
everything as it was. -/
theorem run_fourEyes (platform : Platform Rule) (records : Records) (runs : List AgentRun) (events : List Event) :
    let office := reached platform (opened records runs) events
    (∀ proposal ∈ office.desk.proposals, proposal.status ≠ .open_ → ∀ later,
      (reached platform office later).desk.proposals.filter (·.id == proposal.id) = [proposal]) ∧
    (∀ proposal ∈ office.desk.proposals,
      (proposal.isBatch = true → ∀ event ∈ events, event.decidesBatch = false) →
        office.desk.queue.applications proposal.id = if proposal.status = .approved then 1 else 0) ∧
    (∀ row ∈ office.desk.batchRows,
      office.desk.queue.rowApplications row.id = if row.decision = .approved then 1 else 0) ∧
    (∀ proposal ∈ office.desk.proposals, proposal.status ≠ .open_ → proposal.Apart) ∧
    (∀ proposal ∈ office.desk.proposals, proposal.Confirmable) ∧
    ∀ event after refused, (act platform event).execute office = (.error refused, after) → after = office := by
  intro office
  have sound : office.Sound := reached_sound (opened_sound records runs) events
  refine ⟨?_, ?_, ?_, ?_, ?_, ?_⟩
  · intro proposal there decided later
    exact (reached_sound sound later).queue.single.alone (reached_final sound there decided later)
  · intro proposal there plain
    cases whole : proposal.isBatch with
    | false => exact sound.queue.applied_single there whole
    | true =>
      have unbatched : office.desk.queue.Unbatched :=
        reached_unbatched (opened_sound records runs) (opened_unbatched records runs) events (plain whole)
      exact sound.queue.applied_unbatched unbatched there whole
  · intro row there
    exact sound.queue.applied_row there
  · intro proposal there decided
    rcases sound.queue.fair proposal there with ⟨waits, -⟩ | ⟨-, apart, -⟩
    · exact absurd waits decided
    · exact apart
  · intro proposal there approved
    rcases sound.queue.fair proposal there with ⟨waits, -⟩ | ⟨-, -, confirmable⟩
    · rw [waits] at approved
      cases approved
    · exact confirmable approved
  · intro event after refused refusal
    exact act_clean platform event office refused after refusal

end Grc.Proposals
