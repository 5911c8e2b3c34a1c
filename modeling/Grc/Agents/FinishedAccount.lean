import Grc.Agents.RunDesk

/-! A run that a key opened is a finished account: its budgets are kept, it closes once, and what it counted is what was filed under it, in any
overlap of filings and closes. -/
namespace Grc.Agents

open Grc.Shared Grc.Lib
open Grc.Watch (Principal refuseTenantKey)

def AgentRunStats.reported (stats : AgentRunStats) : Int × Int × Int × Int :=
  (stats.modelCalls, stats.fetches, stats.outOfScope, stats.correctionsProposed)

/-- A close that says what another said. Left out, the counters stand as they are. -/
def AgentRunFinish.Repeats (again first : AgentRunFinish) : Prop :=
  again.status = first.status ∧ again.outputRef.getD "" = first.outputRef.getD "" ∧ again.error.getD "" = first.error.getD "" ∧
    ∀ stats ∈ again.stats, stats.reported = (first.stats.getD {}).reported

instance (again first : AgentRunFinish) : Decidable (again.Repeats first) := by
  unfold AgentRunFinish.Repeats
  infer_instance

/-- What a desk holds of its runs. -/
structure FinishedAccount (limits : RunLimits) (desk : RunDesk) : Prop where
  /-- No budgeted kind is over its limit. -/
  budgets : ∀ run kind, desk.filedOf run kind ≤ limits kind
  /-- A run closes at most once, and is closed when it did. -/
  once : (desk.closings.map (·.1)).Nodup
  closed : ∀ run ∈ desk.runs.rows, run.status ≠ .running ↔ run.id ∈ desk.closings.map (·.1)
  /-- The counters of a closed run are those of what is filed under it. -/
  counted : ∀ run ∈ desk.runs.rows, run.status ≠ .running → run.stats = desk.counted run.id run.stats
  /-- The same close again answers the run, and another is refused. -/
  repeats : ∀ closing ∈ desk.closings, ∀ run ∈ desk.runs.rows, run.id = closing.1 → ∀ who : Principal, who.tenantId = none →
    who.subjectId = run.apiKey → ∀ (again : AgentRunFinish) (now : Instant), desk.finishRun who run.id again now =
      if again.Repeats closing.2 then .ok .again else .error closedAlready
  /-- A request under way holds its run as it stands. -/
  current : ∀ each ∈ desk.underway, each.2.run ∈ desk.runs.rows

def Finished (desk after : RunDesk) : Prop :=
  ∀ run ∈ desk.runs.rows, run.status ≠ .running → run ∈ after.runs.rows ∧ after.filedUnder run.id = desk.filedUnder run.id

section Closing
variable {limits : RunLimits} {desk next : RunDesk} {run : KeyRun} {request : RunRequest} {row : FiledRow} {wrote : Wrote} {id : Id}

/-- The row a close leaves of a run whose column held no counter. -/
structure ClosedBy (desk : RunDesk) (finish : AgentRunFinish) (run : KeyRun) : Prop where
  status : run.status = finish.status.status
  outputRef : run.outputRef = finish.outputRef.getD ""
  error : run.error = finish.error.getD ""
  stats : run.stats = desk.counted run.id (statsOf finish.stats {})

theorem ClosedState.status_ne_running (state : ClosedState) : state.status ≠ .running := by
  cases state <;> decide

theorem ClosedState.status_inj {state other : ClosedState} (same : state.status = other.status) : state = other := by
  cases state <;> cases other <;> first | rfl | cases same

theorem ClosedBy.closed {finish : AgentRunFinish} (closed : ClosedBy desk finish run) : run.status ≠ .running :=
  closed.status ▸ finish.status.status_ne_running

theorem counted_counted (stats : StoredStats) : desk.counted id (desk.counted id stats) = desk.counted id stats := rfl

theorem counted_eq_iff {stats other : AgentRunStats} :
    desk.counted id stats.dump = desk.counted id other.dump ↔ stats.reported = other.reported := by
  simp [RunDesk.counted, AgentRunStats.dump, AgentRunStats.reported]

theorem counted_validate (first : Option AgentRunStats) :
    desk.counted id (desk.counted id (statsOf first {})).validate.dump = desk.counted id (first.getD {}).dump := by
  cases first <;> rfl

theorem close_closed {first : AgentRunFinish} (closed : ClosedBy desk first run) (again : AgentRunFinish) (now : Instant) :
    desk.close run again now = if again.Repeats first then .ok .again else .error closedAlready := by
  have stored : desk.counted run.id (statsOf (some run.stats.validate) run.stats) = desk.counted run.id (first.stats.getD {}).dump := by
    rw [statsOf, closed.stats]
    exact counted_validate first.stats
  have same : (run.status, desk.counted run.id (first.stats.getD {}).dump, run.outputRef, run.error) =
      (again.status.status, desk.counted run.id (statsOf again.stats (desk.counted run.id (first.stats.getD {}).dump)),
        again.outputRef.getD "", again.error.getD "") ↔ again.Repeats first := by
    rw [closed.status, closed.outputRef, closed.error]
    simp only [Prod.mk.injEq, AgentRunFinish.Repeats]
    constructor
    · rintro ⟨status, stats, outputRef, error⟩
      refine ⟨(ClosedState.status_inj status).symm, outputRef.symm, error.symm, fun sent there => ?_⟩
      rw [there] at stats
      exact (counted_eq_iff.mp stats).symm
    · rintro ⟨status, outputRef, error, reports⟩
      refine ⟨congrArg _ status.symm, ?_, outputRef.symm, error.symm⟩
      cases sent : again.stats with
      | none => rfl
      | some stats => exact (counted_eq_iff.mpr (reports stats sent)).symm
  unfold RunDesk.close
  rw [if_pos closed.closed]
  simp only [stored, same]
  by_cases repeats : again.Repeats first
  · simp [require, repeats]
    rfl
  · simp [require, repeats]
    rfl

end Closing

/-- What a request wrote was checked under its lock, and nothing it was checked against has moved since. -/
def WroteSound (limits : RunLimits) (desk : RunDesk) (request : RunRequest) : Wrote → Prop
  | .filed row => row.agentRun = some request.run.id ∧ request.run.status = .running ∧
      ∀ kind, row.what.budget = some kind → desk.filedOf request.run.id kind < limits kind
  | .closed run => ∃ finish, request.body = .close finish ∧ request.run.status = .running ∧ run.id = request.run.id ∧
      ClosedBy desk finish run
  | .again => True

/-- The invariant of the desk. -/
structure SoundDesk (limits : RunLimits) (desk : RunDesk) : Prop where
  holding : Holding RunRequest.loaded desk.runs desk.underway
  ids : (desk.underway.map (·.1)).Nodup
  filing : ∀ each ∈ desk.underway, ∀ what, each.2.body = .file what → each.2.run.status = .running
  wrote : ∀ each ∈ desk.underway, ∀ wrote ∈ each.2.wrote, WroteSound limits desk each.2 wrote
  budgets : ∀ run kind, desk.filedOf run kind ≤ limits kind
  once : (desk.closings.map (·.1)).Nodup
  opened : ∀ run ∈ desk.runs.rows, run.status = .running → run.stats = {} ∧ run.id ∉ desk.closings.map (·.1)
  closed : ∀ run ∈ desk.runs.rows, run.status ≠ .running → ∃ finish, (run.id, finish) ∈ desk.closings ∧ ClosedBy desk finish run
  listed : ∀ closing ∈ desk.closings, ∃ run ∈ desk.runs.rows, run.id = closing.1

section Frame
variable {limits : RunLimits} {desk after : RunDesk} {run : KeyRun} {request : RunRequest} {row : FiledRow} {wrote : Wrote} {id : Id}

theorem filedOf_congr (same : after.filedUnder id = desk.filedUnder id) (kind : Budgeted) : after.filedOf id kind = desk.filedOf id kind := by
  rw [RunDesk.filedOf, RunDesk.filedOf, same]

theorem counted_congr (same : after.filedUnder id = desk.filedUnder id) (stats : StoredStats) :
    after.counted id stats = desk.counted id stats := by
  rw [RunDesk.counted, RunDesk.counted, same, filedOf_congr same, filedOf_congr same]

theorem ClosedBy.congr {finish : AgentRunFinish} (closed : ClosedBy desk finish run) (same : after.filedUnder run.id = desk.filedUnder run.id) :
    ClosedBy after finish run where
  status := closed.status
  outputRef := closed.outputRef
  error := closed.error
  stats := closed.stats.trans (counted_congr same _).symm

theorem WroteSound.congr (sound : WroteSound limits desk request wrote)
    (same : after.filedUnder request.run.id = desk.filedUnder request.run.id) : WroteSound limits after request wrote := by
  cases wrote with
  | filed row =>
    obtain ⟨names, open_, room⟩ := sound
    exact ⟨names, open_, fun kind budget => filedOf_congr same kind ▸ room kind budget⟩
  | closed run =>
    obtain ⟨finish, body, open_, its, closed⟩ := sound
    exact ⟨finish, body, open_, its, closed.congr (its ▸ same)⟩
  | again => trivial

theorem WroteSound.goOn {other : RunRequest} (sound : WroteSound limits desk request wrote) (run : other.run = request.run)
    (body : other.body = request.body) : WroteSound limits desk other wrote := by
  cases wrote with
  | filed row =>
    rw [WroteSound, run]
    exact sound
  | closed closed =>
    rw [WroteSound, run, body]
    exact sound
  | again => trivial

theorem filedUnder_other (other : row.agentRun ≠ some id) :
    ({ desk with filed := desk.filed ++ [row] } : RunDesk).filedUnder id = desk.filedUnder id := by
  simp [RunDesk.filedUnder, List.filter_append, other]

theorem filedUnder_own (names : row.agentRun = some id) :
    ({ desk with filed := desk.filed ++ [row] } : RunDesk).filedUnder id = desk.filedUnder id ++ [row.what] := by
  simp [RunDesk.filedUnder, List.filter_append, names]

theorem filedOf_filed (desk : RunDesk) (names : row.agentRun = some id) (kind : Budgeted) :
    ({ desk with filed := desk.filed ++ [row] } : RunDesk).filedOf id kind =
      desk.filedOf id kind + (if row.what.budget = some kind then 1 else 0) := by
  rw [RunDesk.filedOf, filedUnder_own names, List.filter_append, List.length_append, RunDesk.filedOf]
  split <;> simp_all

theorem Finished.refl : Finished desk desk := fun _ there _ => ⟨there, rfl⟩

theorem Finished.trans {last : RunDesk} (first : Finished desk after) (second : Finished after last) : Finished desk last := by
  intro run there closed
  obtain ⟨still, same⟩ := first run there closed
  obtain ⟨stays, again⟩ := second run still closed
  exact ⟨stays, again.trans same⟩

theorem Finished.of_same (runs : after.runs = desk.runs) (filed : after.filed = desk.filed) : Finished desk after := by
  intro run there _
  refine ⟨runs ▸ there, ?_⟩
  rw [RunDesk.filedUnder, RunDesk.filedUnder, filed]

end Frame

section Steps
variable {limits : RunLimits} {desk next : RunDesk} {run : KeyRun} {request : RunRequest} {row : FiledRow} {wrote : Wrote} {id : Id}

variable {each : Id × RunRequest}

theorem underway_find (found : desk.underway.find? (·.1 == id) = some each) :
    each ∈ desk.underway ∧ each.1 = id := by
  have its := List.find?_some found
  rw [beq_iff_eq] at its
  exact ⟨List.mem_of_find?_eq_some found, its⟩

theorem ownRun_ok {apiKey : Id} (found : desk.ownRun apiKey id = .ok run) : run ∈ desk.runs.rows ∧ run.id = id ∧ run.apiKey = apiKey := by
  have named := demand_ok.mp found
  have its := List.find?_some named
  rw [Bool.and_eq_true, beq_iff_eq, beq_iff_eq] at its
  exact ⟨List.mem_of_find?_eq_some named, its⟩

variable {named : Option Id}

theorem requireOpenRunOfKey_ok {apiKey : Id} (found : desk.requireOpenRunOfKey apiKey named = .ok run) :
    run ∈ desk.runs.rows ∧ run.status = .running := by
  obtain ⟨id, -, found⟩ := bind_ok.mp found
  obtain ⟨own, its, found⟩ := bind_ok.mp found
  obtain ⟨_, open_, found⟩ := bind_ok.mp found
  obtain rfl := Except.ok.inj found
  exact ⟨(ownRun_ok its).1, require_ok.mp open_⟩

variable {who : Principal}

theorem runFor_ok {body : RunCallBody} (found : desk.runFor who named body = .ok run) :
    run ∈ desk.runs.rows ∧ ∀ what, body = .file what → run.status = .running := by
  cases body with
  | file what =>
    have opened : run ∈ desk.runs.rows ∧ run.status = .running := by
      cases what with
      | proposal key content => exact requireOpenRunOfKey_ok found
      | change | check =>
        obtain ⟨_, -, found⟩ := bind_ok.mp found
        exact requireOpenRunOfKey_ok found
    exact ⟨opened.1, fun _ _ => opened.2⟩
  | close finish =>
    obtain ⟨_, -, found⟩ := bind_ok.mp found
    obtain ⟨_, -, found⟩ := bind_ok.mp found
    exact ⟨(ownRun_ok found).1, fun what other => nomatch other⟩

theorem file_sound {what : Filing} (open_ : request.run.status = .running) (done : desk.file limits request.run what = .ok wrote) :
    WroteSound limits desk request wrote := by
  obtain ⟨again, -, done⟩ := bind_ok.mp done
  split at done
  · cases done
    trivial
  · obtain ⟨_, spent, done⟩ := bind_ok.mp done
    cases done
    refine ⟨rfl, open_, fun kind budget => ?_⟩
    have its : what.budget = some kind := budget
    rw [its] at spent
    obtain ⟨_, -, room⟩ := bind_ok.mp spent
    exact require_ok.mp room

variable {now : Instant}

theorem close_sound {finish : AgentRunFinish} (body : request.body = .close finish)
    (empty : request.run.status = .running → request.run.stats = {}) (done : desk.close request.run finish now = .ok wrote) :
    WroteSound limits desk request wrote := by
  unfold RunDesk.close at done
  split at done
  · obtain ⟨_, -, done⟩ := bind_ok.mp done
    cases done
    trivial
  · rename_i running
    have open_ : request.run.status = .running := not_not.mp running
    cases done
    refine ⟨finish, body, open_, rfl, rfl, rfl, rfl, ?_⟩
    show desk.counted _ (statsOf finish.stats request.run.stats) = _
    rw [empty open_]

theorem SoundDesk.open_ {label : String} {body : AgentRunInput} {key : String}
    (sound : SoundDesk limits desk) (done : desk.openRun who label body key now = .ok next) :
    SoundDesk limits next ∧ Finished desk next := by
  obtain ⟨_, -, done⟩ := bind_ok.mp done
  obtain ⟨_, -, done⟩ := bind_ok.mp done
  obtain ⟨agent, -, done⟩ := bind_ok.mp done
  obtain ⟨replayed, -, done⟩ := bind_ok.mp done
  split at done
  · cases done
    exact ⟨sound, Finished.refl⟩
  · cases done
    have old : ∀ run ∈ desk.runs.rows, run ∈ (desk.runs.create (fun id => ({
        id, agent, apiKey := who.subjectId, startedAt := now, model := body.model, pipelineVersion := body.pipelineVersion
        idempotencyKey := key } : KeyRun)) fun _ => rfl).rows := fun run there => (Keyed.mem_create _).mpr (.inl there)
    refine ⟨{
      holding := sound.holding.mono fun each there row held => old row (sound.holding.there each there row held)
      ids := sound.ids
      filing := sound.filing
      wrote := fun each there wrote was => (sound.wrote each there wrote was).congr rfl
      budgets := sound.budgets
      once := sound.once
      opened := ?_
      closed := ?_
      listed := ?_ }, fun run there _ => ⟨old run there, rfl⟩⟩
    · intro run there open_
      rcases (Keyed.mem_create _).mp there with before | rfl
      · exact sound.opened run before open_
      · refine ⟨rfl, fun listed => ?_⟩
        obtain ⟨closing, member, its⟩ := List.mem_map.mp listed
        obtain ⟨held, here, same⟩ := sound.listed closing member
        have below := Keyed.key_lt_fresh here
        have fresh : held.id = desk.runs.fresh := same.trans its
        exact absurd fresh (Nat.ne_of_lt below)
    · intro run there closed
      rcases (Keyed.mem_create _).mp there with before | rfl
      · obtain ⟨finish, member, by_⟩ := sound.closed run before closed
        exact ⟨finish, member, by_.congr rfl⟩
      · exact absurd rfl closed
    · intro closing member
      obtain ⟨held, here, same⟩ := sound.listed closing member
      exact ⟨held, old held here, same⟩

theorem SoundDesk.requests {underway : List (Id × RunRequest)} (sound : SoundDesk limits desk)
    (holding : Holding RunRequest.loaded desk.runs underway) (ids : (underway.map (·.1)).Nodup)
    (filing : ∀ each ∈ underway, ∀ what, each.2.body = .file what → each.2.run.status = .running)
    (wrote : ∀ each ∈ underway, ∀ wrote ∈ each.2.wrote, WroteSound limits desk each.2 wrote) :
    SoundDesk limits { desk with underway } where
  holding := holding
  ids := ids
  filing := filing
  wrote := fun each there written was => (wrote each there written was).congr rfl
  budgets := sound.budgets
  once := sound.once
  opened := sound.opened
  closed := by
    intro run there closed
    obtain ⟨finish, member, by_⟩ := sound.closed run there closed
    exact ⟨finish, member, by_.congr rfl⟩
  listed := sound.listed

theorem SoundDesk.begin_ {body : RunCallBody} (sound : SoundDesk limits desk)
    (new : ∀ each ∈ desk.underway, each.1 ≠ id) (there : desk.runFor who named body = .ok run) (free : lockedRow KeyRun.id RunRequest.loaded desk.underway run = false) :
    SoundDesk limits { desk with underway := desk.underway ++ [(id, { run, body })] } := by
  obtain ⟨here, files⟩ := runFor_ok there
  refine sound.requests (sound.holding.begin_ ?_ ?_) ?_ ?_ ?_
  · intro held mine
    obtain rfl := List.mem_singleton.mp mine
    exact here
  · intro held mine
    obtain rfl := List.mem_singleton.mp mine
    exact free
  · rw [List.map_append]
    refine List.nodup_append.mpr ⟨sound.ids, List.nodup_singleton _, ?_⟩
    intro old member added drawn same
    obtain ⟨each, there, rfl⟩ := List.mem_map.mp member
    exact new each there (same.trans (List.mem_singleton.mp drawn))
  · intro each member what its
    rcases mem_concat.mp member with old | rfl
    · exact sound.filing each old what its
    · exact files what its
  · intro each member wrote was
    rcases mem_concat.mp member with old | rfl
    · exact sound.wrote each old wrote was
    · cases was

theorem SoundDesk.handle (sound : SoundDesk limits desk) (there : each ∈ desk.underway)
    (done : desk.handle limits each.2 now = .ok wrote) : WroteSound limits desk each.2 wrote := by
  unfold RunDesk.handle at done
  split at done
  · rename_i what its
    exact file_sound (sound.filing each there what its) done
  · rename_i finish its
    have held := sound.holding.there each there each.2.run (List.mem_singleton_self _)
    exact close_sound its (fun open_ => (sound.opened _ held open_).1) done

theorem written_same (id : Id) (wrote : Wrote) (other : Id × RunRequest) :
    (written id wrote other).1 = other.1 ∧ (written id wrote other).2.run = other.2.run ∧ (written id wrote other).2.body = other.2.body := by
  unfold written
  split <;> exact ⟨rfl, rfl, rfl⟩

theorem SoundDesk.write (sound : SoundDesk limits desk) (there : each ∈ desk.underway)
    (done : desk.handle limits each.2 now = .ok wrote) :
    SoundDesk limits { desk with underway := desk.underway.map (written each.1 wrote) } := by
  refine sound.requests (sound.holding.goOn fun other _ => ?_) ?_ ?_ ?_
  · obtain ⟨its, run, -⟩ := written_same each.1 wrote other
    exact ⟨its, by rw [RunRequest.loaded, run, RunRequest.loaded]⟩
  · have same : ((·.1) ∘ written each.1 wrote) = ((·.1) : Id × RunRequest → Id) := funext fun other => (written_same each.1 wrote other).1
    rw [List.map_map, same]
    exact sound.ids
  · intro other member what its
    obtain ⟨before, was, rfl⟩ := List.mem_map.mp member
    obtain ⟨-, run, body⟩ := written_same each.1 wrote before
    rw [run]
    exact sound.filing before was what (body ▸ its)
  · intro other member said was
    obtain ⟨before, old, rfl⟩ := List.mem_map.mp member
    obtain ⟨-, run, body⟩ := written_same each.1 wrote before
    by_cases its : before.1 = each.1
    · obtain rfl := List.inj_on_of_nodup_map sound.ids old there its
      rw [written, if_pos its] at was
      obtain rfl := Option.some.inj was
      exact (sound.handle there done).goOn run body
    · rw [written, if_neg its] at was
      exact (sound.wrote before old said was).goOn run body

theorem SoundDesk.commit_filed (sound : SoundDesk limits desk) (there : each ∈ desk.underway)
    (wrote : each.2.wrote = some (.filed row)) :
    SoundDesk limits { desk with filed := desk.filed ++ [row], underway := desk.underway.filter (·.1 ≠ each.1) } ∧
      Finished desk { desk with filed := desk.filed ++ [row], underway := desk.underway.filter (·.1 ≠ each.1) } := by
  obtain ⟨names, open_, room⟩ := sound.wrote each there _ wrote
  have held := sound.holding.there each there each.2.run (List.mem_singleton_self _)
  have other : ∀ id ≠ each.2.run.id, row.agentRun ≠ some id := by
    intro id differ same
    exact differ (Option.some.inj (same.symm.trans names))
  have spared : ∀ run ∈ desk.runs.rows, run.status ≠ .running → run.id ≠ each.2.run.id := by
    intro run here closed same
    exact closed (desk.runs.eq_of_key here held same ▸ open_)
  refine ⟨{
    holding := sound.holding.finish there fun run here _ => here
    ids := sound.ids.sublist (List.filter_sublist.map _)
    filing := fun other left => sound.filing other (List.mem_filter.mp left).1
    wrote := ?_
    budgets := ?_
    once := sound.once
    opened := sound.opened
    closed := ?_
    listed := sound.listed }, fun run here closed => ⟨here, filedUnder_other (other _ (spared run here closed))⟩⟩
  · intro request left said was
    obtain ⟨member, differ⟩ := List.mem_filter.mp left
    have apart := sound.holding.apart request member each there (of_decide_eq_true differ) request.2.run
      (List.mem_singleton_self _) each.2.run (List.mem_singleton_self _)
    exact (sound.wrote request member said was).congr (filedUnder_other (other _ apart))
  · intro id kind
    by_cases its : id = each.2.run.id
    · subst its
      have filed := filedOf_filed desk names kind
      have before := sound.budgets each.2.run.id kind
      show ({ desk with filed := desk.filed ++ [row] } : RunDesk).filedOf each.2.run.id kind ≤ limits kind
      rw [filed]
      split
      · rename_i budget
        exact room kind budget
      · exact before
    · exact (filedOf_congr (filedUnder_other (other _ its)) kind).trans_le (sound.budgets id kind)
  · intro run here closed
    obtain ⟨finish, member, by_⟩ := sound.closed run here closed
    exact ⟨finish, member, by_.congr (filedUnder_other (other _ (spared run here closed)))⟩

theorem mem_closed {closed : KeyRun} :
    run ∈ (desk.runs.update (·.id == closed.id) (fun row => { closed with id := row.id }) fun _ => rfl).rows ↔
      (run = closed ∧ ∃ old ∈ desk.runs.rows, old.id = closed.id) ∨ (run ∈ desk.runs.rows ∧ run.id ≠ closed.id) := by
  rw [Keyed.mem_update]
  constructor
  · rintro ⟨old, there, rfl⟩
    by_cases its : old.id = closed.id
    · rw [if_pos (beq_iff_eq.mpr its)]
      exact .inl ⟨by rw [its], old, there, its⟩
    · rw [if_neg (by simpa using its)]
      exact .inr ⟨there, its⟩
  · rintro (⟨rfl, old, there, its⟩ | ⟨there, its⟩)
    · exact ⟨old, there, by simp [its]⟩
    · exact ⟨run, there, by simp [its]⟩

/-- A close commits: the run was open until now, and what it counted is what is filed. -/
theorem SoundDesk.commit_closed {closed : KeyRun} {finish : AgentRunFinish} (sound : SoundDesk limits desk)
    (there : each ∈ desk.underway) (wrote : each.2.wrote = some (.closed closed)) (body : each.2.body = .close finish)
    (runs : next.runs = desk.runs.update (·.id == closed.id) (fun row => { closed with id := row.id }) fun _ => rfl)
    (filed : next.filed = desk.filed) (underway : next.underway = desk.underway.filter (·.1 ≠ each.1))
    (closings : next.closings = desk.closings ++ [(closed.id, finish)]) : SoundDesk limits next ∧ Finished desk next := by
  obtain ⟨said, its, open_, same, by_⟩ := sound.wrote each there _ wrote
  obtain rfl : finish = said := RunCallBody.close.inj (body.symm.trans its)
  have held := sound.holding.there each there each.2.run (List.mem_singleton_self _)
  have mem : ∀ {run : KeyRun}, run ∈ next.runs.rows ↔
      (run = closed ∧ ∃ old ∈ desk.runs.rows, old.id = closed.id) ∨ (run ∈ desk.runs.rows ∧ run.id ≠ closed.id) := by
    intro run
    rw [runs]
    exact mem_closed
  have under : ∀ id, next.filedUnder id = desk.filedUnder id := by
    intro id
    rw [RunDesk.filedUnder, RunDesk.filedUnder, filed]
  have spared : ∀ run ∈ desk.runs.rows, run.status ≠ .running → run.id ≠ closed.id := by
    intro run here done its
    exact done (desk.runs.eq_of_key here held (its.trans same) ▸ open_)
  have unlisted : closed.id ∉ desk.closings.map (·.1) := same ▸ (sound.opened _ held open_).2
  refine ⟨{
    holding := ?_
    ids := ?_
    filing := ?_
    wrote := ?_
    budgets := fun id kind => (filedOf_congr (under id) kind).trans_le (sound.budgets id kind)
    once := ?_
    opened := ?_
    closed := ?_
    listed := ?_ }, fun run here done => ⟨mem.mpr (.inr ⟨here, spared run here done⟩), under _⟩⟩
  · rw [underway]
    refine sound.holding.finish there fun run here apart => mem.mpr (.inr ⟨here, ?_⟩)
    rw [same]
    exact apart each.2.run (List.mem_singleton_self _)
  · rw [underway]
    exact sound.ids.sublist (List.filter_sublist.map _)
  · intro other left
    rw [underway] at left
    exact sound.filing other (List.mem_filter.mp left).1
  · intro other left wrote was
    rw [underway] at left
    exact (sound.wrote other (List.mem_filter.mp left).1 wrote was).congr (under _)
  · rw [closings, List.map_append]
    refine List.nodup_append.mpr ⟨sound.once, List.nodup_singleton _, ?_⟩
    intro id member added new its
    rw [its, List.mem_singleton.mp new] at member
    exact unlisted member
  · intro run here running
    rcases mem.mp here with ⟨rfl, -⟩ | ⟨old, differ⟩
    · exact absurd running by_.closed
    · obtain ⟨empty, free⟩ := sound.opened run old running
      refine ⟨empty, fun listed => ?_⟩
      rw [closings, List.map_append, List.mem_append] at listed
      rcases listed with before | new
      · exact free before
      · exact differ (List.mem_singleton.mp new)
  · intro run here done
    rw [closings]
    rcases mem.mp here with ⟨rfl, -⟩ | ⟨old, differ⟩
    · exact ⟨finish, List.mem_append_right _ (List.mem_singleton_self _), by_.congr (under _)⟩
    · obtain ⟨first, member, closing⟩ := sound.closed run old done
      exact ⟨first, List.mem_append_left _ member, closing.congr (under _)⟩
  · intro closing member
    rw [closings] at member
    rcases mem_concat.mp member with before | rfl
    · obtain ⟨run, here, its⟩ := sound.listed closing before
      by_cases own : run.id = closed.id
      · exact ⟨closed, mem.mpr (.inl ⟨rfl, run, here, own⟩), own.symm.trans its⟩
      · exact ⟨run, mem.mpr (.inr ⟨here, own⟩), its⟩
    · exact ⟨closed, mem.mpr (.inl ⟨rfl, each.2.run, held, same.symm⟩), rfl⟩

theorem SoundDesk.release (sound : SoundDesk limits desk) : SoundDesk limits { desk with underway := desk.underway.filter (·.1 ≠ id) } :=
  sound.requests sound.holding.abort (sound.ids.sublist (List.filter_sublist.map _)) (fun other left => sound.filing other (List.mem_filter.mp left).1)
    fun other left => sound.wrote other (List.mem_filter.mp left).1

theorem SoundDesk.byHand (sound : SoundDesk limits desk) (unnamed : row.agentRun = none) :
    SoundDesk limits { desk with filed := desk.filed ++ [row] } ∧ Finished desk { desk with filed := desk.filed ++ [row] } := by
  have under : ∀ id, ({ desk with filed := desk.filed ++ [row] } : RunDesk).filedUnder id = desk.filedUnder id := by
    intro id
    exact filedUnder_other (unnamed ▸ nofun)
  refine ⟨{
    sound with
    wrote := fun each there wrote was => (sound.wrote each there wrote was).congr (under _)
    budgets := fun id kind => (filedOf_congr (under id) kind).trans_le (sound.budgets id kind)
    closed := ?_ }, fun run here _ => ⟨here, under _⟩⟩
  intro run here done
  obtain ⟨finish, member, by_⟩ := sound.closed run here done
  exact ⟨finish, member, by_.congr (under _)⟩

theorem SoundDesk.step {taken : RunStep} (sound : SoundDesk limits desk) (done : desk.step limits taken = .ok next) :
    SoundDesk limits next ∧ Finished desk next := by
  cases taken with
  | open_ who label body key now => exact sound.open_ done
  | begin_ request who named body =>
    obtain ⟨_, new, done⟩ := bind_ok.mp done
    obtain ⟨run, there, done⟩ := bind_ok.mp done
    obtain ⟨_, free, done⟩ := bind_ok.mp done
    cases done
    exact ⟨sound.begin_ (require_ok.mp new) there (require_ok.mp free), Finished.of_same rfl rfl⟩
  | write request now =>
    obtain ⟨each, found, done⟩ := bind_ok.mp done
    obtain ⟨_, -, done⟩ := bind_ok.mp done
    obtain ⟨wrote, handled, done⟩ := bind_ok.mp done
    cases done
    obtain ⟨there, rfl⟩ := underway_find (demand_ok.mp found)
    exact ⟨sound.write there handled, Finished.of_same rfl rfl⟩
  | commit request =>
    obtain ⟨each, found, done⟩ := bind_ok.mp done
    obtain ⟨wrote, was, done⟩ := bind_ok.mp done
    obtain ⟨after, committed, done⟩ := bind_ok.mp done
    cases done
    obtain ⟨there, rfl⟩ := underway_find (demand_ok.mp found)
    have was := demand_ok.mp was
    cases wrote with
    | filed row =>
      obtain ⟨_, -, committed⟩ := bind_ok.mp committed
      cases committed
      exact sound.commit_filed there was
    | closed closed =>
      obtain ⟨finish, body, -⟩ := sound.wrote each there _ was
      cases committed
      refine sound.commit_closed there was body rfl rfl rfl ?_
      rw [body]
    | again =>
      cases committed
      exact ⟨sound.release, Finished.of_same rfl rfl⟩
  | abort request =>
    cases done
    exact ⟨sound.release, Finished.of_same rfl rfl⟩
  | byHand person what =>
    obtain ⟨_, -, done⟩ := bind_ok.mp done
    cases done
    exact sound.byHand rfl

theorem SoundDesk.empty : SoundDesk limits {} where
  holding := Holding.nil
  ids := List.nodup_nil
  filing := fun _ there => absurd there List.not_mem_nil
  wrote := fun _ there => absurd there List.not_mem_nil
  budgets := fun _ _ => Nat.zero_le _
  once := List.nodup_nil
  opened := fun _ there => absurd there List.not_mem_nil
  closed := fun _ there => absurd there List.not_mem_nil
  listed := fun _ there => absurd there List.not_mem_nil

theorem SoundDesk.throughout (sound : SoundDesk limits desk) (steps : List RunStep) :
    SoundDesk limits (Lib.run (RunDesk.step limits) desk steps) :=
  run_invariant sound (fun _ _ _ sound done => (sound.step done).1) steps

theorem SoundDesk.finished (sound : SoundDesk limits desk) (steps : List RunStep) :
    Finished desk (Lib.run (RunDesk.step limits) desk steps) := by
  have both : SoundDesk limits (Lib.run (RunDesk.step limits) desk steps) ∧ Finished desk (Lib.run (RunDesk.step limits) desk steps) := by
    have each : ∀ before taken after, SoundDesk limits before ∧ Finished desk before → RunDesk.step limits before taken = .ok after →
        SoundDesk limits after ∧ Finished desk after := by
      intro before taken after held done
      obtain ⟨kept, later⟩ := held.1.step done
      exact ⟨kept, held.2.trans later⟩
    exact run_invariant ⟨sound, Finished.refl⟩ each steps
  exact both.2

theorem SoundDesk.account (sound : SoundDesk limits desk) : FinishedAccount limits desk where
  budgets := sound.budgets
  once := sound.once
  closed := by
    intro run here
    constructor
    · intro done
      obtain ⟨finish, member, -⟩ := sound.closed run here done
      exact List.mem_map_of_mem member
    · intro listed open_
      exact (sound.opened run here open_).2 listed
  counted := by
    intro run here done
    obtain ⟨finish, -, by_⟩ := sound.closed run here done
    have its := by_.stats
    rw [its]
    exact (counted_counted _).symm
  repeats := by
    intro closing member run here its who platform key again now
    have done : run.status ≠ .running := by
      intro open_
      exact (sound.opened run here open_).2 (its ▸ List.mem_map_of_mem member)
    obtain ⟨first, listed, by_⟩ := sound.closed run here done
    obtain rfl : (run.id, first) = closing := List.inj_on_of_nodup_map sound.once listed member its
    have own : desk.ownRun who.subjectId run.id = .ok run := by
      refine demand_ok.mpr ?_
      cases found : desk.runs.rows.find? fun row => row.id == run.id && row.apiKey == who.subjectId with
      | none =>
        have missed := List.find?_eq_none.mp found run here
        simp [key] at missed
      | some other =>
        have same := List.find?_some found
        rw [Bool.and_eq_true, beq_iff_eq] at same
        rw [desk.runs.eq_of_key (List.mem_of_find?_eq_some found) here same.1]
    have platform : refuseTenantKey who = .ok () := require_ok.mpr platform
    rw [RunDesk.finishRun, platform, ← close_closed by_ again now]
    show (desk.ownRun who.subjectId run.id >>= fun own => desk.close own again now) = _
    rw [own]
    rfl
  current := fun each there => sound.holding.there each there each.2.run (List.mem_singleton_self _)

end Steps

end Grc.Agents
