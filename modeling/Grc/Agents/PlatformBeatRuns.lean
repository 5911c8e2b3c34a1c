import Grc.Agents.PlatformBeat

/-! What the beats of bleqq's agents start: never two scheduled runs of an agent in one of its periods, whatever overlaps; and, of a beat
nobody disturbs, as many runs as agents that can run among those it took on, so that agents that cannot hold the places of those that can. -/
namespace Grc.Agents.Platform

open Grc.Shared Grc.Lib

/-- A scheduled run a beat opened is in a later period of its agent than every scheduled run before it. -/
def Apart (earlier later : AgentRun) : Prop :=
  earlier.counts = true → earlier.agent = later.agent → ∀ its ∈ later.period, its.start earlier.startedAt < its.start later.startedAt

def OnePerPeriod (runs : List AgentRun) : Prop := runs.Pairwise Apart

def Clear (runs : List AgentRun) (agent : Id) (since : UtcTime) : Prop :=
  ∀ run ∈ runs, run.counts = true → run.agent = agent → run.startedAt < since

section Clear
variable {runs : List AgentRun} {run : AgentRun} {agent : Id} {since : UtcTime}

theorem Clear.append (clear : Clear runs agent since) (other : run.counts = true → run.agent ≠ agent) : Clear (runs ++ [run]) agent since := by
  intro held there counts its
  rcases mem_concat.mp there with before | rfl
  · exact clear held before counts its
  · exact absurd its (other counts)

theorem clear_of_due {period : Period} {now : UtcTime} (due : isDue runs period now agent = true) : Clear runs agent (period.start now) := by
  intro run there counts its
  have listed : run.startedAt ∈ (runs.filter fun run => run.counts && run.agent == agent).map (·.startedAt) :=
    List.mem_map_of_mem (List.mem_filter.mpr ⟨there, Bool.and_eq_true_iff.mpr ⟨counts, beq_iff_eq.mpr its⟩⟩)
  unfold isDue at due
  cases found : lastRun runs agent with
  | none =>
    rw [lastRun, List.max?_eq_none_iff] at found
    rw [found] at listed
    cases listed
  | some last =>
    rw [found] at due
    exact lt_of_le_of_lt ((List.max?_eq_some_iff.mp found).2 _ listed) (of_decide_eq_true due)

theorem hasRun_of_clear {desk : BeatDesk} (clear : Clear desk.runs agent since) : desk.hasRun agent since = false := by
  refine List.any_eq_false.mpr fun run there => ?_
  simp only [Bool.and_eq_true, beq_iff_eq, decide_eq_true_eq, not_and, not_le]
  exact fun counts => clear run there counts.1 counts.2

theorem clear_of_hasRun {desk : BeatDesk} (none_ : desk.hasRun agent since = false) : Clear desk.runs agent since := by
  intro run there counts its
  have spared := List.any_eq_false.mp none_ run there
  simp only [Bool.and_eq_true, beq_iff_eq, decide_eq_true_eq, not_and, not_le] at spared
  exact spared ⟨counts, its⟩

end Clear

section Runs
variable {lockKey : Id → Nat} {perBeat : Nat} {desk next : BeatDesk} {id : Nat} {beat later : Beat} {call : BeatStep}

theorem beatOf_ok : desk.beatOf id = .ok beat ↔ heldBy desk.underway id = some beat := demand_ok

/-- What a beat under way has seen: it holds an agent no scheduled run of which started in the period, and a run it wrote is in a period
of its own. -/
def Beat.Sound (now : UtcTime) (runs : List AgentRun) (beat : Beat) : Prop :=
  beat.now ≤ now ∧
    match beat.stage with
    | .woken | .going _ => True
    | .holding agent _ => Clear runs agent.id (agent.period.start beat.now)
    | .inserted run _ => run.startedAt ≤ now ∧ ∀ its ∈ run.period, Clear runs run.agent (its.start run.startedAt)

def Exclusive (lockKey : Id → Nat) (underway : List (Nat × Beat)) : Prop :=
  ∀ one ∈ underway, ∀ other ∈ underway, one.1 ≠ other.1 → ∀ mine ∈ one.2.stage.held, ∀ theirs ∈ other.2.stage.held, lockKey mine ≠ lockKey theirs

theorem Exclusive.put {underway : List (Nat × Beat)} (exclusive : Exclusive lockKey underway)
    (free : ∀ each ∈ underway, each.1 ≠ id → ∀ theirs ∈ each.2.stage.held, ∀ mine ∈ later.stage.held, lockKey mine ≠ lockKey theirs) :
    Exclusive lockKey (putBy underway id later) := by
  intro one first other second differ mine holds theirs held
  rcases of_mem_putBy first with rfl | ⟨was, notOne⟩
  · rcases of_mem_putBy second with rfl | ⟨there, notOther⟩
    · exact absurd rfl differ
    · exact free other there notOther theirs held mine holds
  · rcases of_mem_putBy second with rfl | ⟨there, -⟩
    · exact (free one was notOne mine holds theirs held).symm
    · exact exclusive one was other there differ mine holds theirs held

theorem Exclusive.keep {underway : List (Nat × Beat)} (exclusive : Exclusive lockKey underway) (there : (id, beat) ∈ underway)
    (kept : ∀ mine ∈ later.stage.held, mine ∈ beat.stage.held) : Exclusive lockKey (putBy underway id later) :=
  exclusive.put fun each others apart theirs held mine holds => exclusive (id, beat) there each others (Ne.symm apart) mine (kept mine holds) theirs held

/-- The desk after any run of beats. -/
structure SoundDesk (lockKey : Id → Nat) (desk : BeatDesk) : Prop where
  apart : OnePerPeriod desk.runs
  beats : ∀ each ∈ desk.underway, each.2.Sound desk.now desk.runs
  locks : Exclusive lockKey desk.underway

theorem SoundDesk.opened (agents : Keyed Agent.id) (past : List AgentRun) (now : UtcTime) : SoundDesk lockKey (BeatDesk.opened agents past now) where
  apart := by
    refine List.pairwise_map.mpr (List.pairwise_of_forall fun _ _ => ?_)
    exact fun _ _ _ wrong => nomatch wrong
  beats := fun _ there => absurd there List.not_mem_nil
  locks := fun _ there => absurd there List.not_mem_nil

theorem SoundDesk.put (sound : SoundDesk lockKey desk) (its : later.Sound desk.now desk.runs) (locks : Exclusive lockKey (putBy desk.underway id later)) :
    SoundDesk lockKey (desk.put id later) where
  apart := sound.apart
  beats := by
    intro each there
    rcases of_mem_putBy there with rfl | ⟨was, -⟩
    · exact its
    · exact sound.beats each was
  locks := locks

theorem SoundDesk.otherRun (sound : SoundDesk lockKey desk) {run : AgentRun} (other : run.counts = false) (none_ : run.period = none) :
    SoundDesk lockKey { desk with runs := desk.runs ++ [run] } where
  apart := by
    refine List.pairwise_append.mpr ⟨sound.apart, List.pairwise_singleton _ _, fun earlier _ later last _ _ its wrong => ?_⟩
    rw [List.mem_singleton.mp last, none_] at wrong
    cases wrong
  beats := by
    intro each there
    obtain ⟨woke, its⟩ := sound.beats each there
    refine ⟨woke, ?_⟩
    have uncounted : ∀ agent, run.counts = true → run.agent ≠ agent := fun agent counts => absurd counts (by rw [other]; decide)
    cases stage : each.2.stage with
    | woken | going => trivial
    | holding agent rest =>
      rw [stage] at its
      exact its.append (uncounted _)
    | inserted made rest =>
      rw [stage] at its
      exact ⟨its.1, fun period given => (its.2 period given).append (uncounted _)⟩
  locks := sound.locks

theorem SoundDesk.commit (sound : SoundDesk lockKey desk) {run : AgentRun} {rest : List DueAgent} (there : (id, beat) ∈ desk.underway)
    (stage : beat.stage = .inserted run rest) {account : Account} :
    SoundDesk lockKey { desk.put id { beat with stage := .going rest, account } with runs := desk.runs ++ [run] } where
  apart := by
    obtain ⟨-, its⟩ := sound.beats (id, beat) there
    simp only [stage] at its
    refine List.pairwise_append.mpr ⟨sound.apart, List.pairwise_singleton _ _, fun earlier before later last counts same period given => ?_⟩
    obtain rfl := List.mem_singleton.mp last
    exact period.start_lt_of_lt (its.2 period given earlier before counts same)
  beats := by
    intro each held
    rcases of_mem_putBy held with rfl | ⟨was, other⟩
    · exact ⟨(sound.beats (id, beat) there).1, trivial⟩
    · obtain ⟨woke, its⟩ := sound.beats each was
      have apart : ∀ theirs ∈ each.2.stage.held, run.agent ≠ theirs := fun theirs holds same =>
        sound.locks (id, beat) there each was (Ne.symm other) run.agent (by rw [stage]; rfl) theirs holds (congrArg lockKey same)
      refine ⟨woke, ?_⟩
      cases theirs : each.2.stage with
      | woken | going => trivial
      | holding agent rest =>
        rw [theirs] at its apart
        exact its.append fun _ => apart agent.id rfl
      | inserted made rest =>
        rw [theirs] at its apart
        exact ⟨its.1, fun period given => (its.2 period given).append fun _ => apart made.agent rfl⟩
  locks := sound.locks.keep there fun _ none_ => nomatch none_

theorem free_of_claimed {agent : DueAgent} (claimed : desk.claimed lockKey id beat agent = true) :
    ¬desk.locked lockKey id agent.id ∧ desk.hasRun agent.id (agent.period.start beat.now) = false := by
  simp only [BeatDesk.claimed, Bool.and_eq_true, Bool.not_eq_true', decide_eq_false_iff_not] at claimed
  exact claimed

theorem SoundDesk.step (sound : SoundDesk lockKey desk) (done : desk.step lockKey perBeat call = .ok next) : SoundDesk lockKey next := by
  cases call with
  | tick now =>
    obtain ⟨_, later, same⟩ := bind_ok.mp done
    obtain rfl := Except.ok.inj same
    have onward := require_ok.mp later
    refine ⟨sound.apart, fun each there => ?_, sound.locks⟩
    obtain ⟨woke, its⟩ := sound.beats each there
    refine ⟨woke.trans onward, ?_⟩
    cases stage : each.2.stage with
    | woken | going => trivial
    | holding agent rest =>
      rw [stage] at its
      exact its
    | inserted run rest =>
      rw [stage] at its
      exact ⟨its.1.trans onward, its.2⟩
  | start id =>
    obtain ⟨_, -, same⟩ := bind_ok.mp done
    obtain rfl := Except.ok.inj same
    refine ⟨sound.apart, List.forall_mem_append.mpr ⟨sound.beats, List.forall_mem_singleton.mpr ⟨le_rfl, trivial⟩⟩, ?_⟩
    intro one first other second differ mine holds theirs held
    rcases List.mem_append.mp first with old | new
    · rcases List.mem_append.mp second with older | newer
      · exact sound.locks one old other older differ mine holds theirs held
      · rw [List.mem_singleton.mp newer] at held
        cases held
    · rw [List.mem_singleton.mp new] at holds
      cases holds
  | look id =>
    obtain ⟨beat, found, goes⟩ := bind_ok.mp done
    have there := mem_of_heldBy (beatOf_ok.mp found)
    split at goes
    · obtain rfl := Except.ok.inj goes
      exact sound.put ⟨(sound.beats _ there).1, trivial⟩ (sound.locks.keep there fun _ none_ => nomatch none_)
    · cases goes
  | claim id =>
    obtain ⟨beat, found, goes⟩ := bind_ok.mp done
    have there := mem_of_heldBy (beatOf_ok.mp found)
    split at goes
    · rename_i agent rest stage
      obtain rfl := Except.ok.inj goes
      split
      · rename_i claimed
        obtain ⟨free, none_⟩ := free_of_claimed claimed
        refine sound.put ⟨(sound.beats _ there).1, clear_of_hasRun none_⟩ (sound.locks.put fun each others apart theirs held mine holds => ?_)
        obtain rfl := Option.mem_some_iff.mp holds
        exact fun same => free ⟨each, others, apart, theirs, held, same.symm⟩
      · exact sound.put ⟨(sound.beats _ there).1, trivial⟩ (sound.locks.keep there fun _ none_ => nomatch none_)
    · cases goes
  | open_ id =>
    obtain ⟨beat, found, goes⟩ := bind_ok.mp done
    have there := mem_of_heldBy (beatOf_ok.mp found)
    split at goes
    · rename_i agent rest stage
      obtain ⟨woke, its⟩ := sound.beats _ there
      simp only [stage] at its
      split at goes
      · obtain rfl := Except.ok.inj goes
        refine sound.put ⟨woke, le_rfl, fun period given => ?_⟩ (sound.locks.keep there fun mine holds => ?_)
        · obtain rfl := Option.mem_some_iff.mp given
          exact fun run before counts same => lt_of_lt_of_le (its run before counts same) (agent.period.start_mono woke)
        · rw [stage]
          exact holds
      · obtain rfl := Except.ok.inj goes
        have kept : SoundDesk lockKey (desk.put id { beat with stage := .going rest }) :=
          sound.put ⟨woke, trivial⟩ (sound.locks.keep there fun _ none_ => nomatch none_)
        exact ⟨kept.apart, kept.beats, kept.locks⟩
    · cases goes
  | commit id =>
    obtain ⟨beat, found, goes⟩ := bind_ok.mp done
    split at goes
    · rename_i run rest stage
      obtain rfl := Except.ok.inj goes
      exact sound.commit (mem_of_heldBy (beatOf_ok.mp found)) stage
    · cases goes
  | finish id =>
    obtain ⟨beat, found, goes⟩ := bind_ok.mp done
    split at goes
    · obtain rfl := Except.ok.inj goes
      exact ⟨sound.apart, fun each left => sound.beats each (mem_withoutBy.mp left).1,
        fun one first other second => sound.locks one (mem_withoutBy.mp first).1 other (mem_withoutBy.mp second).1⟩
    · cases goes
  | abort id =>
    cases done
    exact ⟨sound.apart, fun each left => sound.beats each (mem_withoutBy.mp left).1,
      fun one first other second => sound.locks one (mem_withoutBy.mp first).1 other (mem_withoutBy.mp second).1⟩
  | library agents =>
    cases done
    exact ⟨sound.apart, sound.beats, sound.locks⟩
  | otherRun run =>
    obtain ⟨_, other, same⟩ := bind_ok.mp done
    obtain rfl := Except.ok.inj same
    exact sound.otherRun (require_ok.mp other) rfl

def ableOf (agents : List Agent) (due : List DueAgent) : Nat := (due.filter (canRun agents)).length

/-- The agents a beat has before it: no two are one, and none has a scheduled run in its period. -/
structure Waiting (runs : List AgentRun) (now : UtcTime) (rest : List DueAgent) : Prop where
  nodup : (rest.map (·.id)).Nodup
  clear : ∀ agent ∈ rest, Clear runs agent.id (agent.period.start now)

/-- How far a beat is: the runs it opened, and the agents before it that can run, are those it took on that can. -/
def Beat.Progress (agents : List Agent) (runs : List AgentRun) (beat : Beat) : Prop :=
  match beat.stage with
  | .woken => beat.account.opened = 0
  | .going rest => Waiting runs beat.now rest ∧ beat.account.opened + ableOf agents rest = beat.account.slots
  | .holding agent rest =>
    Waiting runs beat.now rest ∧ agent.id ∉ rest.map (·.id) ∧ beat.account.opened + ableOf agents (agent :: rest) = beat.account.slots
  | .inserted run rest =>
    Waiting runs beat.now rest ∧ run.agent ∉ rest.map (·.id) ∧ beat.account.opened + 1 + ableOf agents rest = beat.account.slots

/-- A beat starts when no other is under way, and while one is, no agent becomes able to run or unable to. -/
def Undisturbed (desk : BeatDesk) : BeatStep → Prop
  | .start _ => desk.underway = []
  | .library agents => desk.underway = [] ∨ ∀ agent, canRun agents.rows agent = canRun desk.agents.rows agent
  | _ => True

/-- The desk of beats nobody disturbs: one at most is under way, and each that finished opened a run for every agent it took on that could
run. -/
structure Steady (desk : BeatDesk) : Prop where
  alone : ∀ one ∈ desk.underway, ∀ other ∈ desk.underway, one.1 = other.1
  beats : ∀ each ∈ desk.underway, each.2.Progress desk.agents.rows desk.runs
  finished : ∀ account ∈ desk.finished, account.opened = account.slots

theorem Steady.opened (agents : Keyed Agent.id) (past : List AgentRun) (now : UtcTime) : Steady (BeatDesk.opened agents past now) where
  alone := fun _ there => absurd there List.not_mem_nil
  beats := fun _ there => absurd there List.not_mem_nil
  finished := fun _ there => absurd there List.not_mem_nil

theorem alone_putBy {underway : List (Nat × Beat)} (alone : ∀ one ∈ underway, ∀ other ∈ underway, one.1 = other.1) (there : (id, beat) ∈ underway) :
    ∀ one ∈ putBy underway id later, ∀ other ∈ putBy underway id later, one.1 = other.1 := by
  have named : ∀ each ∈ putBy underway id later, each.1 = id := by
    intro each held
    rcases of_mem_putBy held with rfl | ⟨was, -⟩
    · rfl
    · exact alone each was (id, beat) there
  exact fun one first other second => (named one first).trans (named other second).symm

theorem Steady.put (steady : Steady desk) (its : later.Progress desk.agents.rows desk.runs) (there : (id, beat) ∈ desk.underway) :
    Steady (desk.put id later) where
  alone := alone_putBy steady.alone there
  beats := by
    intro each held
    rcases of_mem_putBy held with rfl | ⟨was, -⟩
    · exact its
    · exact steady.beats each was
  finished := steady.finished

theorem Steady.without (steady : Steady desk) (id : Nat) : Steady { desk with underway := withoutBy desk.underway id } where
  alone := fun one first other second => steady.alone one (mem_withoutBy.mp first).1 other (mem_withoutBy.mp second).1
  beats := fun each left => steady.beats each (mem_withoutBy.mp left).1
  finished := steady.finished

section Waiting
variable {runs : List AgentRun} {run : AgentRun} {now : UtcTime} {agent : DueAgent} {rest : List DueAgent} {agents : List Agent}

theorem Waiting.append (waiting : Waiting runs now rest) (other : run.counts = true → run.agent ∉ rest.map (·.id)) : Waiting (runs ++ [run]) now rest where
  nodup := waiting.nodup
  clear := fun agent there => (waiting.clear agent there).append fun counts same => other counts (same ▸ List.mem_map_of_mem there)

theorem Waiting.tail (waiting : Waiting runs now (agent :: rest)) : Waiting runs now rest where
  nodup := (List.nodup_cons.mp waiting.nodup).2
  clear := fun other there => waiting.clear other (List.mem_cons_of_mem _ there)

theorem waiting_due (agents : Keyed Agent.id) (runs : List AgentRun) (now : UtcTime) (most : Nat) :
    Waiting runs now ((duePlatformAgents runs agents.rows now).take most) := by
  have found : ∀ {agent : Agent} {due : DueAgent}, ((period agent.cadence).bind fun period =>
      if isDue runs period now agent.id = true then some { id := agent.id, period } else none) = some due →
      due.id = agent.id ∧ isDue runs due.period now due.id = true := by
    intro agent due found
    obtain ⟨period, -, picked⟩ := Option.bind_eq_some_iff.mp found
    split at picked
    · rename_i its
      obtain rfl := Option.some.inj picked
      exact ⟨rfl, its⟩
    · cases picked
  constructor
  · have unique : ((agents.rows.filter (·.active)).insertionSort fun one other => waitsLonger runs one other = true).Pairwise
        fun one other => one.id ≠ other.id := by
      refine List.pairwise_map.mp ?_
      exact (((List.perm_insertionSort _ _).map Agent.id).nodup_iff).mpr (agents.keyed.sublist (List.filter_sublist.map _))
    have ids : (duePlatformAgents runs agents.rows now).Pairwise fun one other => one.id ≠ other.id := by
      refine List.pairwise_filterMap.mpr (unique.imp fun {one other} apart first its second theirs => ?_)
      rw [(found its).1, (found theirs).1]
      exact apart
    exact List.pairwise_map.mpr (ids.sublist (List.take_sublist _ _))
  · intro due there
    obtain ⟨agent, -, its⟩ := List.mem_filterMap.mp (List.mem_of_mem_take there)
    exact clear_of_due (found its).2

theorem ableOf_cons_able (able : canRun agents agent = true) : ableOf agents (agent :: rest) = 1 + ableOf agents rest := by
  rw [ableOf, List.filter_cons_of_pos able, List.length_cons, ableOf, Nat.add_comm]

theorem ableOf_cons_unable (unable : canRun agents agent = false) : ableOf agents (agent :: rest) = ableOf agents rest := by
  rw [ableOf, List.filter_cons_of_neg (by rw [unable]; decide), ableOf]

end Waiting

theorem Steady.otherRun (steady : Steady desk) {run : AgentRun} (other : run.counts = false) : Steady { desk with runs := desk.runs ++ [run] } where
  alone := steady.alone
  beats := by
    intro each there
    have its := steady.beats each there
    have uncounted : ∀ rest : List DueAgent, run.counts = true → run.agent ∉ rest.map (·.id) := fun _ counts => absurd counts (by rw [other]; decide)
    unfold Beat.Progress at its ⊢
    cases stage : each.2.stage with
    | woken =>
      rw [stage] at its
      exact its
    | going rest | holding agent rest | inserted made rest =>
      rw [stage] at its
      exact ⟨its.1.append (uncounted rest), its.2⟩
  finished := steady.finished

theorem Steady.library (steady : Steady desk) {agents : Keyed Agent.id}
    (same : desk.underway = [] ∨ ∀ agent, canRun agents.rows agent = canRun desk.agents.rows agent) : Steady { desk with agents } where
  alone := steady.alone
  beats := by
    intro each there
    rcases same with none_ | same
    · exact absurd there (none_ ▸ List.not_mem_nil)
    · have able : canRun agents.rows = canRun desk.agents.rows := funext same
      have its := steady.beats each there
      unfold Beat.Progress ableOf at its ⊢
      rwa [able]
  finished := steady.finished

theorem Steady.step (steady : Steady desk) (calm : Undisturbed desk call) (done : desk.step lockKey perBeat call = .ok next) : Steady next := by
  cases call with
  | tick now =>
    obtain ⟨_, -, same⟩ := bind_ok.mp done
    obtain rfl := Except.ok.inj same
    exact ⟨steady.alone, steady.beats, steady.finished⟩
  | start id =>
    obtain ⟨_, -, same⟩ := bind_ok.mp done
    obtain rfl := Except.ok.inj same
    have none_ : desk.underway = [] := calm
    constructor
    · rw [none_]
      intro one first other second
      rw [List.mem_singleton.mp first, List.mem_singleton.mp second]
    · rw [none_]
      intro each there
      rw [List.mem_singleton.mp there]
      rfl
    · exact steady.finished
  | look id =>
    obtain ⟨beat, found, goes⟩ := bind_ok.mp done
    split at goes
    · obtain rfl := Except.ok.inj goes
      exact steady.put ⟨waiting_due _ _ _ _, Nat.zero_add _⟩ (mem_of_heldBy (beatOf_ok.mp found))
    · cases goes
  | claim id =>
    obtain ⟨beat, found, goes⟩ := bind_ok.mp done
    have there := mem_of_heldBy (beatOf_ok.mp found)
    split at goes
    · rename_i agent rest stage
      obtain rfl := Except.ok.inj goes
      have its := steady.beats _ there
      simp only [Beat.Progress, stage] at its
      obtain ⟨waiting, counted⟩ := its
      have free : ¬desk.locked lockKey id agent.id := by
        rintro ⟨each, others, apart, -⟩
        exact apart (steady.alone _ others _ there)
      have claimed : desk.claimed lockKey id beat agent = true := by
        rw [BeatDesk.claimed, hasRun_of_clear (waiting.clear agent List.mem_cons_self), decide_eq_false free]
        rfl
      rw [if_pos claimed]
      exact steady.put ⟨waiting.tail, (List.nodup_cons.mp waiting.nodup).1, counted⟩ there
    · cases goes
  | open_ id =>
    obtain ⟨beat, found, goes⟩ := bind_ok.mp done
    have there := mem_of_heldBy (beatOf_ok.mp found)
    split at goes
    · rename_i agent rest stage
      have its := steady.beats _ there
      simp only [Beat.Progress, stage] at its
      obtain ⟨waiting, new, counted⟩ := its
      split at goes
      · rename_i version published
        obtain rfl := Except.ok.inj goes
        have able : canRun desk.agents.rows agent = true := by rw [canRun, published]; rfl
        rw [ableOf_cons_able able, ← Nat.add_assoc] at counted
        exact steady.put ⟨waiting, new, counted⟩ there
      · rename_i refused retired
        obtain rfl := Except.ok.inj goes
        have unable : canRun desk.agents.rows agent = false := by rw [canRun, retired]; rfl
        rw [ableOf_cons_unable unable] at counted
        have kept : Steady (desk.put id { beat with stage := .going rest }) := steady.put ⟨waiting, counted⟩ there
        exact ⟨kept.alone, kept.beats, kept.finished⟩
    · cases goes
  | commit id =>
    obtain ⟨beat, found, goes⟩ := bind_ok.mp done
    have there := mem_of_heldBy (beatOf_ok.mp found)
    split at goes
    · rename_i run rest stage
      obtain rfl := Except.ok.inj goes
      have its := steady.beats _ there
      simp only [Beat.Progress, stage] at its
      obtain ⟨waiting, new, counted⟩ := its
      refine ⟨alone_putBy steady.alone there, ?_, steady.finished⟩
      intro each held
      rcases of_mem_putBy held with rfl | ⟨was, other⟩
      · exact ⟨waiting.append fun _ => new, counted⟩
      · exact absurd (steady.alone each was (id, beat) there) other
    · cases goes
  | finish id =>
    obtain ⟨beat, found, goes⟩ := bind_ok.mp done
    split at goes
    · rename_i stage
      obtain rfl := Except.ok.inj goes
      have its := steady.beats _ (mem_of_heldBy (beatOf_ok.mp found))
      simp only [Beat.Progress, stage] at its
      have left := steady.without id
      exact ⟨left.alone, left.beats, List.forall_mem_append.mpr ⟨steady.finished, List.forall_mem_singleton.mpr its.2⟩⟩
    · cases goes
  | abort id =>
    cases done
    exact steady.without id
  | library agents =>
    cases done
    exact steady.library calm
  | otherRun run =>
    obtain ⟨_, other, same⟩ := bind_ok.mp done
    obtain rfl := Except.ok.inj same
    have uncounted : ({ run with period := none } : AgentRun).counts = false := require_ok.mp other
    exact steady.otherRun uncounted

end Runs

/-- In every run of beats, overlapping or not, no agent has two scheduled runs in one of its periods; and where nobody disturbs the beats, one
opens exactly as many runs as it may and can when the agents it takes on, the first of those due, hold as many that can run. -/
theorem beats_open_iff (lockKey : Id → Nat) (perBeat : Nat) (agents : Keyed Agent.id) (past : List AgentRun) (now : UtcTime) (steps : List BeatStep) :
    OnePerPeriod (run (BeatDesk.step lockKey perBeat) (BeatDesk.opened agents past now) steps).runs ∧
      (Meets (BeatDesk.step lockKey perBeat) Undisturbed (BeatDesk.opened agents past now) steps →
        ∀ account ∈ (run (BeatDesk.step lockKey perBeat) (BeatDesk.opened agents past now) steps).finished,
          account.opened = min perBeat account.able ↔ account.slots = min perBeat account.able) := by
  constructor
  · have sound : SoundDesk lockKey (run (BeatDesk.step lockKey perBeat) (BeatDesk.opened agents past now) steps) :=
      run_invariant (.opened agents past now) (fun _ _ _ sound done => sound.step done) steps
    exact sound.apart
  · intro calm account there
    have steady : Steady (run (BeatDesk.step lockKey perBeat) (BeatDesk.opened agents past now) steps) :=
      run_invariant_of_meets (.opened agents past now) (fun _ _ _ steady calm done => steady.step calm done) steps calm
    rw [steady.finished account there]

def monday : UtcTime := toLex (Day.october5, 0)

def quarterPast : UtcTime := toLex (Day.october5, 900000000)

/-- An agent whose one version is retired, which ran once, and one that can run and never did. -/
def retiredBeside : Keyed Agent.id where
  rows := [{ id := 1, key := "retired", versions := [{ number := 1, retired := true }] }, { id := 2, key := "sweeper", versions := [{ number := 1 }] }]
  keyed := by decide

def ranOnce : List AgentRun := [{ agent := 1, scheduled := true, startedAt := toLex (⟨2026, 9, 7, Day.newYear2026.yearIn, by decide, by decide⟩, 0) }]

def twoBeats : List BeatStep :=
  [.start 1, .look 1, .claim 1, .open_ 1, .finish 1, .tick quarterPast, .start 2, .look 2, .claim 2, .open_ 2, .finish 2]

/-- Where a beat may start one run, the agent that cannot run takes the place of the one that can, beat after beat. -/
theorem retired_holdsBack :
    (run (BeatDesk.step id 1) (BeatDesk.opened retiredBeside ranOnce monday) twoBeats).finished =
        [{ able := 1, slots := 0, opened := 0 }, { able := 1, slots := 0, opened := 0 }] ∧
      (run (BeatDesk.step id 1) (BeatDesk.opened retiredBeside ranOnce monday) twoBeats).skipped = [1, 1] := by
  decide +kernel

/-- With a place for each, the beat opens the one run it can. -/
theorem twoPlaces_open :
    ∀ account ∈ (run (BeatDesk.step id 2) (BeatDesk.opened retiredBeside ranOnce monday)
      [.start 1, .look 1, .claim 1, .open_ 1, .claim 1, .open_ 1, .commit 1, .finish 1]).finished,
      account.opened = min 2 account.able ↔ account.slots = min 2 account.able :=
  (beats_open_iff id 2 retiredBeside ranOnce monday _).2
    ⟨fun _ _ => rfl, fun _ _ => trivial, fun _ _ => trivial, fun _ _ => trivial, fun _ _ => trivial, fun _ _ => trivial, fun _ _ => trivial,
      fun _ _ => trivial, trivial⟩

end Grc.Agents.Platform
