import Grc.Agents.NextRuns
import Grc.Lib.Lists

/-! A bank's beat: it locks the bank's agents that are due, moves each one's next run on, opens its run, and commits them together. Beats may
overlap, and one skips what another holds. -/
namespace Grc.Agents.Bank

open Grc.Shared Grc.Lib

/-- A beat under way: the time it asked with, the agents it locked as it read them, those still to come, those it has written, and the starts it
has taken. -/
structure Beat where
  tenant : Id
  asked : Instant
  looked : Bool := false
  loaded : List TenantAgent := []
  rest : List TenantAgent := []
  written : List TenantAgent := []
  starts : List (Id × Instant) := []

/-- The agents' rows as committed, and the beats under way. `taken` is the desk's own account of the starts committed beats took. -/
structure BeatDesk where
  now : Instant
  agents : Keyed TenantAgent.id := {}
  underway : List (Nat × Beat) := []
  taken : List (Id × Instant) := []

inductive BeatStep where
  | tick (now : Instant)
  /-- `run_due_tenant_agents` begins, and reads the clock for its query. -/
  | start (beat : Nat) (tenant : Id)
  /-- The query: due agents are locked, and locked ones skipped. -/
  | look (beat : Nat)
  /-- The next agent's slot is taken and its run opened; `capped` is whether the run does not fit under the cap. -/
  | take (beat : Nat) (capped : Bool)
  | commit (beat : Nat)
  /-- The worker dies, or an agent's turn fails: what was not committed is gone. -/
  | abort (beat : Nat)
  /-- Another call writes an agent that no beat holds: its next run stays, goes, or is computed anew and so is ahead. -/
  | edit (agent : TenantAgent)

def notNow : Refusal := { code := "not_now", detail := "" }

def slotOf (agent : TenantAgent) : List (Id × Instant) := agent.nextRunAt.toList.map fun start => (agent.id, start)

/-- `enabled=True, paused_at__isnull=True, next_run_at__lte=…`. -/
def isDue (tenant : Id) (asked : Instant) (agent : TenantAgent) : Bool :=
  agent.tenant == tenant && agent.enabled && agent.pausedAt.isNone && agent.nextRunAt.any (· ≤ asked)

/-- `order_by("next_run_at", "id")`, of agents that have a next run. -/
def runsSooner (one other : TenantAgent) : Bool :=
  one.nextRunAt.getD 0 < other.nextRunAt.getD 0 || one.nextRunAt == other.nextRunAt && one.id ≤ other.id

namespace BeatDesk
variable (plan : AgentPlan) (zones : BankZones) (desk : BeatDesk)

def put (id : Nat) (beat : Beat) : BeatDesk := { desk with underway := putBy desk.underway id beat }

def slotTaken (agent : TenantAgent) (next : Option Instant) (capped : Bool) : TenantAgent :=
  let taken := { agent with nextRunAt := next }
  if capped = true then taken.paused capReason none desk.now else taken

def committed (written : List TenantAgent) (agent : TenantAgent) : TenantAgent := (written.find? (·.id == agent.id)).getD agent

theorem committed_id (written : List TenantAgent) (agent : TenantAgent) : (committed written agent).id = agent.id := by
  unfold committed
  cases found : written.find? (·.id == agent.id) with
  | none => rfl
  | some row =>
    have its := List.find?_some found
    exact beq_iff_eq.mp its

def settled (written : List TenantAgent) : Keyed TenantAgent.id :=
  desk.agents.update (fun _ => true) (committed written) (committed_id written)

def edited (agent : TenantAgent) : Keyed TenantAgent.id :=
  desk.agents.update (·.id == agent.id) (fun row => { agent with id := row.id }) fun _ => rfl

def step : BeatStep → Except Refusal BeatDesk
  | .tick now => do
    require (desk.now ≤ now) notNow
    .ok { desk with now }
  | .start id tenant => do
    require (heldBy desk.underway id = none) notNow
    .ok { desk with underway := desk.underway ++ [(id, { tenant, asked := desk.now })] }
  | .look id => do
    let beat ← demand (heldBy desk.underway id) notNow
    require (beat.looked = false) notNow
    let free := desk.agents.rows.filter fun agent =>
      isDue beat.tenant beat.asked agent && !lockedRow TenantAgent.id Beat.loaded desk.underway agent
    let due := free.insertionSort fun one other => runsSooner one other = true
    .ok (desk.put id { beat with looked := true, loaded := due, rest := due })
  | .take id capped => do
    let beat ← demand (heldBy desk.underway id) notNow
    match beat.rest with
    | [] => .error notNow
    | agent :: rest =>
      let next ← nextRunAt plan zones agent desk.now
      .ok (desk.put id { beat with
        rest
        written := beat.written ++ [desk.slotTaken agent next capped]
        starts := beat.starts ++ slotOf agent })
  | .commit id => do
    let beat ← demand (heldBy desk.underway id) notNow
    require (beat.looked = true ∧ beat.rest = []) notNow
    .ok { desk with
      agents := desk.settled beat.written
      underway := withoutBy desk.underway id
      taken := desk.taken ++ beat.starts }
  | .abort id => .ok { desk with underway := withoutBy desk.underway id }
  | .edit agent => do
    let current ← demand (desk.agents.rows.find? (·.id == agent.id)) notNow
    require (lockedRow TenantAgent.id Beat.loaded desk.underway current = false) notNow
    require (agent.nextRunAt = current.nextRunAt ∨ ∀ start ∈ agent.nextRunAt, desk.now < start) notNow
    .ok { desk with agents := desk.edited agent }

end BeatDesk

/-! ## One beat -/

/-- What a beat has done of what it locked: it took each slot as it read it, and left a next run after it. -/
structure Beat.Sound (now : Instant) (beat : Beat) : Prop where
  asked : beat.asked ≤ now
  unlooked : beat.looked = false → beat.loaded = []
  apart : (beat.loaded.map (·.id)).Nodup
  due : ∀ agent ∈ beat.loaded, ∃ start, agent.nextRunAt = some start ∧ start ≤ beat.asked
  done : ∃ done, beat.loaded = done ++ beat.rest ∧ beat.starts = done.flatMap slotOf ∧
    List.Forall₂ (fun before after => after.id = before.id ∧ ∀ start ∈ before.nextRunAt, ∀ next ∈ after.nextRunAt, start < next) done beat.written

/-- Every start taken is past, before the agent's next run, and was taken once. -/
structure BeatDesk.Sound (desk : BeatDesk) : Prop where
  holding : Holding Beat.loaded desk.agents desk.underway
  beats : ∀ each ∈ desk.underway, each.2.Sound desk.now
  past : ∀ taken ∈ desk.taken, taken.2 ≤ desk.now ∧ ∀ agent ∈ desk.agents.rows, agent.id = taken.1 → ∀ next ∈ agent.nextRunAt, taken.2 < next
  once : desk.taken.Nodup

section Steps
variable {plan : AgentPlan} {zones : BankZones} {desk next : BeatDesk} {beat : Beat} {id : Nat}

theorem Beat.Sound.later {now later : Instant} (sound : beat.Sound now) (after : now ≤ later) : beat.Sound later :=
  ⟨Nat.le_trans sound.asked after, sound.unlooked, sound.apart, sound.due, sound.done⟩

theorem committed_cases (written : List TenantAgent) (agent : TenantAgent) :
    BeatDesk.committed written agent ∈ written ∨ BeatDesk.committed written agent = agent ∧ ∀ row ∈ written, row.id ≠ agent.id := by
  unfold BeatDesk.committed
  cases found : written.find? (·.id == agent.id) with
  | none =>
    refine .inr ⟨rfl, fun row there same => ?_⟩
    exact List.find?_eq_none.mp found row there (beq_iff_eq.mpr same)
  | some row => exact .inl (List.mem_of_find?_eq_some found)

theorem mem_slotOf {agent : TenantAgent} {slot : Id × Instant} : slot ∈ slotOf agent ↔ slot.1 = agent.id ∧ agent.nextRunAt = some slot.2 := by
  unfold slotOf
  cases its : agent.nextRunAt with
  | none => simp
  | some start =>
    obtain ⟨named, at_⟩ := slot
    simp [eq_comm]

theorem slots_nodup {agents : List TenantAgent} (apart : (agents.map (·.id)).Nodup) : (agents.flatMap slotOf).Nodup := by
  induction agents with
  | nil => exact List.nodup_nil
  | cons agent agents ih =>
    obtain ⟨new, rest⟩ := List.nodup_cons.mp apart
    rw [List.flatMap_cons]
    refine List.nodup_append.mpr ⟨?_, ih rest, ?_⟩
    · unfold slotOf
      cases agent.nextRunAt with
      | none => exact List.nodup_nil
      | some start => exact List.nodup_singleton _
    · rintro slot its other there rfl
      obtain ⟨fellow, inside, theirs⟩ := List.mem_flatMap.mp there
      refine new (List.mem_map.mpr ⟨fellow, inside, ?_⟩)
      exact (mem_slotOf.mp theirs).1.symm.trans (mem_slotOf.mp its).1

theorem mem_settled {written : List TenantAgent} {row : TenantAgent} :
    row ∈ (desk.settled written).rows ↔ ∃ before ∈ desk.agents.rows, row = BeatDesk.committed written before := Keyed.mem_update

theorem mem_edited {agent row : TenantAgent} :
    row ∈ (desk.edited agent).rows ↔ ∃ before ∈ desk.agents.rows, row = if (before.id == agent.id) = true then { agent with id := before.id } else before :=
  Keyed.mem_update

namespace BeatDesk.Sound

theorem tick {now : Instant} (sound : desk.Sound) (after : desk.now ≤ now) : ({ desk with now } : BeatDesk).Sound where
  holding := sound.holding
  beats each there := (sound.beats each there).later after
  past taken there := ⟨Nat.le_trans (sound.past taken there).1 after, (sound.past taken there).2⟩
  once := sound.once

theorem start {tenant : Id} (sound : desk.Sound) :
    ({ desk with underway := desk.underway ++ [(id, { tenant, asked := desk.now })] } : BeatDesk).Sound where
  holding := sound.holding.begin_ (List.forall_mem_nil _) (List.forall_mem_nil _)
  beats := by
    refine List.forall_mem_append.mpr ⟨sound.beats, List.forall_mem_singleton.mpr ?_⟩
    exact ⟨Nat.le_refl _, fun _ => rfl, List.nodup_nil, List.forall_mem_nil _, [], rfl, rfl, .nil⟩
  past := sound.past
  once := sound.once

theorem abort (sound : desk.Sound) : ({ desk with underway := withoutBy desk.underway id } : BeatDesk).Sound where
  holding := sound.holding.abort
  beats each there := sound.beats each (mem_withoutBy.mp there).1
  past := sound.past
  once := sound.once

theorem put {later : Beat} (sound : desk.Sound) (held : heldBy desk.underway id = some beat)
    (rows : ∀ agent ∈ later.loaded, agent ∈ beat.loaded ∨
      agent ∈ desk.agents.rows ∧ lockedRow TenantAgent.id Beat.loaded desk.underway agent = false)
    (its : later.Sound desk.now) : (desk.put id later).Sound where
  holding := sound.holding.put held rows
  beats each there := by
    rcases of_mem_putBy there with rfl | ⟨was, -⟩
    · exact its
    · exact sound.beats each was
  past := sound.past
  once := sound.once

theorem edit {agent current : TenantAgent} (sound : desk.Sound) (there : current ∈ desk.agents.rows) (its : current.id = agent.id)
    (free : lockedRow TenantAgent.id Beat.loaded desk.underway current = false)
    (ahead : agent.nextRunAt = current.nextRunAt ∨ ∀ start ∈ agent.nextRunAt, desk.now < start) :
    ({ desk with agents := desk.edited agent } : BeatDesk).Sound where
  holding := by
    refine sound.holding.mono fun each underway row loads => mem_edited.mpr ⟨row, sound.holding.there each underway row loads, ?_⟩
    have apart : ¬(row.id == agent.id) = true := fun same =>
      List.any_eq_false.mp free each underway (List.any_eq_true.mpr ⟨row, loads, its ▸ same⟩)
    exact (if_neg apart).symm
  beats := sound.beats
  past taken old := by
    refine ⟨(sound.past taken old).1, fun row member named next future => ?_⟩
    obtain ⟨before, was, rfl⟩ := mem_edited.mp member
    by_cases chosen : (before.id == agent.id) = true
    · rw [if_pos chosen] at named future
      obtain rfl := desk.agents.eq_of_key was there ((beq_iff_eq.mp chosen).trans its.symm)
      rcases ahead with same | ahead
      · exact (sound.past taken old).2 before was named next (same ▸ future)
      · exact Nat.lt_of_le_of_lt (sound.past taken old).1 (ahead next future)
    · rw [if_neg chosen] at named future
      exact (sound.past taken old).2 before was named next future
  once := sound.once

theorem look (sound : desk.Sound) (held : heldBy desk.underway id = some beat) {due : List TenantAgent}
    (same : due.Perm (desk.agents.rows.filter fun agent =>
      isDue beat.tenant beat.asked agent && !lockedRow TenantAgent.id Beat.loaded desk.underway agent))
    (unlooked : beat.looked = false) :
    (desk.put id { beat with looked := true, loaded := due, rest := due }).Sound := by
  have rows : ∀ agent ∈ due, agent ∈ desk.agents.rows ∧ isDue beat.tenant beat.asked agent = true ∧
      lockedRow TenantAgent.id Beat.loaded desk.underway agent = false := by
    intro agent there
    obtain ⟨row, chosen⟩ := List.mem_filter.mp (same.mem_iff.mp there)
    rw [Bool.and_eq_true, Bool.not_eq_true'] at chosen
    exact ⟨row, chosen⟩
  have its := sound.beats _ (mem_of_heldBy held)
  have fresh : beat.starts = [] ∧ beat.written = [] := by
    obtain ⟨done, whole, starts, written⟩ := its.done
    rw [its.unlooked unlooked] at whole
    obtain ⟨rfl, -⟩ := List.append_eq_nil_iff.mp whole.symm
    exact ⟨starts, List.forall₂_nil_left_iff.mp written⟩
  refine sound.put held (fun agent there => .inr ⟨(rows agent there).1, (rows agent there).2.2⟩) ?_
  refine ⟨its.asked, nofun, ?_, fun agent there => ?_, [], rfl, fresh.1, ?_⟩
  · exact (same.map _).nodup_iff.mpr (desk.agents.keyed.sublist (List.filter_sublist.map _))
  · have its := (rows agent there).2.1
    rw [isDue, Bool.and_eq_true] at its
    obtain ⟨start, found, before⟩ := (Option.any_eq_true _ _).mp its.2
    exact ⟨start, found, of_decide_eq_true before⟩
  · rw [fresh.2]
    exact .nil

theorem take (ordered : zones.Ordered) {agent : TenantAgent} {rest : List TenantAgent} {upcoming : Option Instant} {capped : Bool}
    (sound : desk.Sound) (held : heldBy desk.underway id = some beat) (first : beat.rest = agent :: rest)
    (found : nextRunAt plan zones agent desk.now = .ok upcoming) :
    (desk.put id { beat with
      rest
      written := beat.written ++ [desk.slotTaken agent upcoming capped]
      starts := beat.starts ++ slotOf agent }).Sound := by
  have its := sound.beats _ (mem_of_heldBy held)
  obtain ⟨done, whole, starts, written⟩ := its.done
  have parts : beat.loaded = (done ++ [agent]) ++ rest := by rw [whole, first, List.append_assoc, List.singleton_append]
  refine sound.put held (fun _ there => .inl there) ⟨its.asked, its.unlooked, its.apart, its.due, done ++ [agent], parts, ?_, ?_⟩
  · rw [List.flatMap_append, starts, List.flatMap_singleton]
  · refine List.rel_append written (.cons ⟨?_, fun start before next after => ?_⟩ .nil)
    · unfold BeatDesk.slotTaken
      split <;> rfl
    · obtain ⟨slot, named, past⟩ := its.due agent (parts ▸ by simp)
      obtain rfl : slot = start := Option.some.inj (named.symm.trans before)
      have later : next ∈ upcoming := by
        unfold BeatDesk.slotTaken at after
        split at after
        · cases after
        · exact after
      exact Nat.lt_of_le_of_lt (Nat.le_trans past its.asked) (nextRunAt_ahead ordered found next later)

/-- A beat that commits takes starts nobody took, and leaves each agent with a later one. -/
theorem commit (sound : desk.Sound) (held : heldBy desk.underway id = some beat) (walked : beat.rest = []) :
    ({ desk with
      agents := desk.settled beat.written
      underway := withoutBy desk.underway id
      taken := desk.taken ++ beat.starts } : BeatDesk).Sound := by
  have mine := mem_of_heldBy held
  have its := sound.beats _ mine
  obtain ⟨done, whole, starts, written⟩ := its.done
  rw [walked, List.append_nil] at whole
  rw [← whole] at starts written
  have wrote : ∀ after ∈ beat.written, ∃ before ∈ beat.loaded, after.id = before.id ∧
      ∀ start ∈ before.nextRunAt, ∀ next ∈ after.nextRunAt, start < next := fun after there => source_of_forall₂ written there
  -- The row of an agent as it stands, beside what the beat made of it.
  have became : ∀ row ∈ desk.agents.rows, ∀ next ∈ (BeatDesk.committed beat.written row).nextRunAt,
      (row ∈ beat.loaded ∧ ∀ start ∈ row.nextRunAt, start < next) ∨ (row ∉ beat.loaded ∧ next ∈ row.nextRunAt) := by
    intro row there next future
    rcases committed_cases beat.written row with made | ⟨same, others⟩
    · obtain ⟨before, loads, named, after⟩ := wrote _ made
      rw [BeatDesk.committed_id] at named
      obtain rfl := desk.agents.eq_of_key there (sound.holding.there _ mine before loads) named
      exact .inl ⟨loads, fun start its => after start its next future⟩
    · refine .inr ⟨fun loads => ?_, same ▸ future⟩
      obtain ⟨after, pair⟩ := fellow_of_left written.length_eq loads
      exact others after (List.of_mem_zip pair).2 (List.forall₂_zip written pair).1
  constructor
  · refine sound.holding.finish mine fun row there apart => mem_settled.mpr ⟨row, there, Eq.symm ?_⟩
    have same : BeatDesk.committed beat.written row = row := by
      rcases committed_cases beat.written row with made | ⟨same, -⟩
      · obtain ⟨before, loads, named, -⟩ := wrote _ made
        rw [BeatDesk.committed_id] at named
        exact absurd named (apart before loads)
      · exact same
    exact same
  · exact fun each there => sound.beats each (mem_withoutBy.mp there).1
  · intro taken there
    rcases List.mem_append.mp there with old | new
    · refine ⟨(sound.past taken old).1, fun row member named next future => ?_⟩
      obtain ⟨before, was, rfl⟩ := mem_settled.mp member
      have known : before.id = taken.1 := (BeatDesk.committed_id beat.written before).symm.trans named
      rcases became before was next future with ⟨loads, after⟩ | ⟨-, same⟩
      · obtain ⟨start, slot, -⟩ := its.due before loads
        exact Nat.lt_trans ((sound.past taken old).2 before was known start slot) (after start slot)
      · exact (sound.past taken old).2 before was known next same
    · rw [starts] at new
      obtain ⟨agent, loads, slot⟩ := List.mem_flatMap.mp new
      obtain ⟨named, start⟩ := mem_slotOf.mp slot
      obtain ⟨_, same, before⟩ := its.due agent loads
      rw [start] at same
      cases same
      refine ⟨Nat.le_trans before its.asked, fun row member known next future => ?_⟩
      obtain ⟨row, was, rfl⟩ := mem_settled.mp member
      have one : row.id = agent.id := (BeatDesk.committed_id beat.written row).symm.trans (known.trans named)
      obtain rfl := desk.agents.eq_of_key was (sound.holding.there _ mine agent loads) one
      rcases became row was next future with ⟨-, after⟩ | ⟨apart, -⟩
      · exact after _ start
      · exact absurd loads apart
  · refine List.nodup_append.mpr ⟨sound.once, starts ▸ slots_nodup its.apart, ?_⟩
    rintro taken old other new rfl
    rw [starts] at new
    obtain ⟨agent, loads, slot⟩ := List.mem_flatMap.mp new
    obtain ⟨named, next⟩ := mem_slotOf.mp slot
    exact absurd ((sound.past taken old).2 agent (sound.holding.there _ mine agent loads) named.symm _ next) (Nat.lt_irrefl _)

theorem step (ordered : zones.Ordered) {taken : BeatStep} (sound : desk.Sound) (done : desk.step plan zones taken = .ok next) : next.Sound := by
  cases taken with
  | tick now =>
    obtain ⟨_, after, done⟩ := bind_ok.mp done
    cases done
    exact sound.tick (require_ok.mp after)
  | start id tenant =>
    obtain ⟨_, -, done⟩ := bind_ok.mp done
    cases done
    exact sound.start
  | look id =>
    obtain ⟨beat, held, done⟩ := bind_ok.mp done
    obtain ⟨_, unlooked, done⟩ := bind_ok.mp done
    cases done
    exact sound.look (demand_ok.mp held) (List.perm_insertionSort _ _) (require_ok.mp unlooked)
  | take id capped =>
    obtain ⟨beat, held, done⟩ := bind_ok.mp done
    cases isRest : beat.rest with
    | nil =>
      rw [isRest] at done
      cases done
    | cons agent rest =>
      rw [isRest] at done
      obtain ⟨upcoming, found, done⟩ := bind_ok.mp done
      cases done
      exact sound.take ordered (demand_ok.mp held) isRest found
  | commit id =>
    obtain ⟨beat, held, done⟩ := bind_ok.mp done
    obtain ⟨_, walked, done⟩ := bind_ok.mp done
    cases done
    exact sound.commit (demand_ok.mp held) (require_ok.mp walked).2
  | abort id =>
    cases done
    exact sound.abort
  | edit agent =>
    obtain ⟨current, found, done⟩ := bind_ok.mp done
    obtain ⟨_, free, done⟩ := bind_ok.mp done
    obtain ⟨_, ahead, done⟩ := bind_ok.mp done
    cases done
    have its := List.find?_some (demand_ok.mp found)
    exact sound.edit (List.mem_of_find?_eq_some (demand_ok.mp found)) (beq_iff_eq.mp its) (require_ok.mp free) (require_ok.mp ahead)

end BeatDesk.Sound
end Steps

/-- `next_run_at` answers the earliest start the schedule names after now, unless the calendar ends within thirty-eight days; and over any run of
beats, in any overlap, an agent's start is taken once at most. -/
theorem starts_once (plan : AgentPlan) (zones : BankZones) (ordered : zones.Ordered) :
    (∀ agent now, checkRange agent = .ok () →
      if agent.runs = true then
        (∀ next, nextRunAt plan zones agent now = .ok next → ∃ start, next = some start ∧ agent.NextStart plan zones now start) ∧
          ((∃ next, nextRunAt plan zones agent now = .ok next) ∨ (zones.today agent.tenant now).addDays 38 = none)
      else nextRunAt plan zones agent now = .ok none) ∧
    ∀ (now : Instant) (agents : Keyed TenantAgent.id) (steps : List BeatStep),
      (run (BeatDesk.step plan zones) { now, agents } steps).taken.Nodup := by
  refine ⟨fun agent now range => ?_, fun now agents steps => ?_⟩
  · split
    · rename_i runs
      refine ⟨fun next found => nextRunAt_next ordered range runs found, ?_⟩
      cases far : (zones.today agent.tenant now).addDays 38 with
      | none => exact .inr rfl
      | some day =>
        obtain ⟨start, found⟩ := @nextRunAt_total plan zones agent now ordered runs (Day.room_of_addDays far)
        exact .inl ⟨_, found⟩
    · rename_i off
      rw [nextRunAt, if_pos (by simpa using off)]
  · have begins : BeatDesk.Sound { now, agents } :=
      ⟨Holding.nil, List.forall_mem_nil _, List.forall_mem_nil _, List.nodup_nil⟩
    exact (run_invariant begins (fun _ _ _ sound done => sound.step ordered done) steps).once

def utcToday (now : Nat) : Day := (mondayMorning.addDays (now / 24 - mondayMorning.ordinal)).getD Day.last

def utcClock : BankZones where
  today := fun _ now => utcToday now
  at_ := fun _ day hour => day.ordinal * 24 + hour

theorem div_lt_of_tomorrow (now : Nat) {next : Day} (found : (utcToday now).tomorrow = some next) : now / 24 < next.ordinal := by
  have grown := Day.ordinal_tomorrow found
  unfold utcToday at grown found
  cases moved : mondayMorning.addDays (now / 24 - mondayMorning.ordinal) with
  | none =>
    have last : Day.last.tomorrow = none := by decide
    rw [moved, Option.getD_none, last] at found
    cases found
  | some today =>
    rw [moved, Option.getD_some] at grown
    have days := Day.ordinal_addDays moved
    omega

theorem utcClock_today (tenant : Id) (now : Instant) : utcClock.today tenant now = utcToday now := by
  rw [utcClock]

theorem utcClock_at (tenant : Id) (day : Day) (hour : Nat) : utcClock.at_ tenant day hour = day.ordinal * 24 + hour := by
  rw [utcClock]

theorem utcClock_ordered : utcClock.Ordered := by
  constructor
  · intro tenant hour date next before
    rw [utcClock_at, utcClock_at]
    have days := Day.ordinal_lt before
    exact Nat.add_lt_add_right (Nat.mul_lt_mul_of_pos_right days (by decide)) hour
  · intro tenant hour now next found
    rw [utcClock_at]
    rw [utcClock_today] at found
    exact Nat.lt_add_right hour ((Nat.div_lt_iff_lt_mul (by decide)).mp (div_lt_of_tomorrow now found))

def sixOnMonday : Instant := mondayMorning.ordinal * 24 + 6

/-- Two beats of one bank overlap: the second skips the agent the first holds, and a third finds it not due. -/
def overlappingBeats : List BeatStep :=
  [.tick (sixOnMonday + 1), .start 1 5, .start 2 5, .look 1, .look 2, .take 1 false, .commit 2, .commit 1, .start 3 5, .look 3, .commit 3,
    .tick (sixOnMonday + 170), .start 4 5, .look 4, .take 4 false, .commit 4]

def weeklyAgents : Keyed TenantAgent.id where
  rows := [{ id := 7, tenant := 5, agent := 1, enabled := true, nextRunAt := some sixOnMonday }]
  keyed := by decide

theorem overlappingBeats_once :
    (run (BeatDesk.step weeklyPlan utcClock) { now := sixOnMonday, agents := weeklyAgents } overlappingBeats).taken.Nodup ∧
      (run (BeatDesk.step weeklyPlan utcClock) { now := sixOnMonday, agents := weeklyAgents } overlappingBeats).taken =
        [(7, sixOnMonday), (7, sixOnMonday + 168)] :=
  ⟨(starts_once weeklyPlan utcClock utcClock_ordered).2 sixOnMonday weeklyAgents overlappingBeats, by decide +kernel⟩

end Grc.Agents.Bank
