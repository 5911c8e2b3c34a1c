import Grc.Agents.Schedule

/-! The schedule of a bank's agents over whole runs of the calls that write it, in any overlap. -/
namespace Grc.Agents

open Grc.Shared Grc.Lib

/-- A day that an agent's cadence and run day name. -/
def TenantAgent.Names (agent : TenantAgent) (day : Day) : Prop :=
  match agent.cadence with
  | .daily => True
  | .weekly => agent.runWeekday = some day.isoweekday
  | .monthly => agent.runWeekday = some day.isoweekday ∧ day.day ≤ 7
  | .manual => False

def TenantAgent.Starts (zones : BankZones) (agent : TenantAgent) (start : Instant) : Prop :=
  ∃ day hour, agent.Names day ∧ agent.runHour = some hour ∧ start = zones.at_ agent.tenant day hour

/-- An agent has a next run exactly when it runs on its own, and that is a start it names. -/
structure TenantAgent.Consistent (zones : BankZones) (agent : TenantAgent) : Prop where
  none_iff : agent.nextRunAt = none ↔ agent.enabled = false ∨ agent.pausedAt ≠ none ∨ agent.cadence = .manual
  starts : ∀ start ∈ agent.nextRunAt, agent.Starts zones start

/-- The state of every agent's schedule is consistent, and a pause was undone by a resume that had read it. -/
structure AgentDesk.Consistent (zones : BankZones) (desk : AgentDesk) : Prop where
  agents : ∀ row ∈ desk.agents.rows, row.agent.Consistent zones
  undone : ∀ undone ∈ desk.undone, undone.2 = some undone.1

def TenantAgent.schedule (agent : TenantAgent) : Id × Bool × AgentCadence × Option Nat × Option Nat :=
  (agent.tenant, agent.enabled, agent.cadence, agent.runWeekday, agent.runHour)

/-- A resume that clears a pause writes on the schedule it read, and on no pause it did not read. -/
def ReadWhatStands (desk : AgentDesk) : ScheduleStep → Prop
  | .write request _ => ∀ each ∈ desk.underway.find? (·.1 == request), each.2.write.resumes = true → each.2.read.agent.pausedAt ≠ none →
      ∀ current ∈ desk.agents.rows.find? (·.id == each.2.read.id),
        current.agent.schedule = each.2.read.agent.schedule ∧ (current.agent.pausedAt = none ∨ current.pauses = each.2.read.pauses)
  | _ => True

instance : ∀ (desk : AgentDesk) (taken : ScheduleStep), Decidable (ReadWhatStands desk taken) := by
  intro desk taken
  cases taken <;> unfold ReadWhatStands <;> infer_instance

section Next
variable {plan : AgentPlan} {zones : BankZones} {agent other : TenantAgent} {next : Option Instant} {now start : Instant}

/-- The run day and hour are what the cadence reads. -/
def TenantAgent.Normal (agent : TenantAgent) : Prop :=
  match agent.cadence with
  | .manual => True
  | .daily => ∃ hour, agent.runHour = some hour
  | .weekly | .monthly => (∃ hour, agent.runHour = some hour) ∧ ∃ weekday, agent.runWeekday = some weekday ∧ 1 ≤ weekday ∧ weekday ≤ 7

theorem orMonday_of_pos {weekday : Nat} (positive : 1 ≤ weekday) : orMonday (some weekday) = weekday := by
  obtain ⟨before, rfl⟩ := Nat.exists_eq_add_of_le' positive
  rfl

theorem scheduled_normal {done : Unit} (range : checkRange (scheduled plan agent) = .ok done) : (scheduled plan agent).Normal := by
  obtain ⟨weekdays, -⟩ := require_ok.mp range
  unfold scheduled at weekdays ⊢
  cases cadence : agent.cadence with
  | manual => simp only [TenantAgent.Normal]
  | daily =>
    simp only [TenantAgent.Normal]
    exact ⟨_, rfl⟩
  | weekly | monthly =>
    simp only [cadence] at weekdays
    simp only [TenantAgent.Normal]
    exact ⟨⟨_, rfl⟩, _, rfl, weekdays _ rfl⟩

theorem TenantAgent.Normal.of_schedule (normal : other.Normal) (same : agent.schedule = other.schedule) : agent.Normal := by
  simp only [TenantAgent.schedule, Prod.mk.injEq] at same
  obtain ⟨-, -, cadence, weekday, hour⟩ := same
  rw [TenantAgent.Normal, cadence, weekday, hour]
  exact normal

theorem TenantAgent.Consistent.of_schedule (consistent : other.Consistent zones) (same : agent.schedule = other.schedule)
    (paused : agent.pausedAt = none ↔ other.pausedAt = none) (starts : agent.nextRunAt = other.nextRunAt) : agent.Consistent zones := by
  simp only [TenantAgent.schedule, Prod.mk.injEq] at same
  obtain ⟨tenant, enabled, cadence, weekday, hour⟩ := same
  constructor
  · rw [starts, enabled, cadence, consistent.none_iff]
    exact or_congr_right (or_congr_left (not_congr paused.symm))
  · intro start its
    obtain ⟨day, at_, names, hours, same⟩ := consistent.starts start (starts ▸ its)
    refine ⟨day, at_, ?_, hour.trans hours, tenant ▸ same⟩
    rw [TenantAgent.Names, cadence, weekday]
    exact names

theorem weekdayFrom_ok {weekday : Nat} {date day : Day} (range : 1 ≤ weekday ∧ weekday ≤ 7) (found : weekdayFrom weekday date = .ok day) :
    day.isoweekday = weekday :=
  Day.isoweekday_ahead range (demand_ok.mp found)

theorem firstInMonths_ok {at_ : Day → Instant} {weekday months : Nat} {date : Day} (range : 1 ≤ weekday ∧ weekday ≤ 7)
    (found : firstInMonths at_ weekday now months date.firstOfMonth = .ok start) :
    ∃ day, (day.isoweekday = weekday ∧ day.day ≤ 7) ∧ start = at_ day := by
  induction months generalizing date with
  | zero => cases found
  | succ months ih =>
    obtain ⟨first, its, found⟩ := bind_ok.mp found
    split at found
    · cases found
      exact ⟨first, ⟨weekdayFrom_ok range its, Day.firstWeekday_le (demand_ok.mp its)⟩, rfl⟩
    · obtain ⟨later, -, found⟩ := bind_ok.mp found
      exact ih found

theorem nextRunAt_runs (normal : agent.Normal) (runs : agent.runs = true) (found : nextRunAt plan zones agent now = .ok next) :
    ∃ start, next = some start ∧ agent.Starts zones start := by
  have manual : agent.cadence ≠ .manual := by
    intro manual
    simp [TenantAgent.runs, manual] at runs
  unfold nextRunAt at found
  rw [if_neg (by simp [runs])] at found
  unfold TenantAgent.Normal at normal
  unfold TenantAgent.Starts TenantAgent.Names
  cases cadence : agent.cadence with
  | manual => exact absurd cadence manual
  | daily =>
    simp only [cadence] at normal found
    obtain ⟨hour, hours⟩ := normal
    rw [hours, Option.getD_some] at found
    obtain ⟨tomorrow, -, found⟩ := bind_ok.mp found
    split at found
    · cases found
      exact ⟨_, rfl, _, hour, trivial, hours, rfl⟩
    · obtain ⟨_, -, found⟩ := bind_ok.mp found
      cases found
      exact ⟨_, rfl, _, hour, trivial, hours, rfl⟩
  | weekly =>
    simp only [cadence] at normal found
    obtain ⟨⟨hour, hours⟩, weekday, weekdays, range⟩ := normal
    rw [hours, Option.getD_some, weekdays, orMonday_of_pos range.1] at found
    obtain ⟨day, its, found⟩ := bind_ok.mp found
    have named := weekdayFrom_ok range its
    split at found
    · cases found
      exact ⟨_, rfl, day, hour, weekdays.trans (congrArg some named.symm), hours, rfl⟩
    · obtain ⟨following, week, found⟩ := bind_ok.mp found
      cases found
      have same := Day.isoweekday_addDays_week (demand_ok.mp week)
      exact ⟨_, rfl, following, hour, weekdays.trans (congrArg some (same.trans named).symm), hours, rfl⟩
  | monthly =>
    simp only [cadence] at normal found
    obtain ⟨⟨hour, hours⟩, weekday, weekdays, range⟩ := normal
    rw [hours, Option.getD_some, weekdays, orMonday_of_pos range.1] at found
    obtain ⟨start, first, rfl⟩ := map_ok.mp found
    obtain ⟨day, ⟨named, early⟩, rfl⟩ := firstInMonths_ok range first
    exact ⟨_, rfl, day, hour, ⟨weekdays.trans (congrArg some named.symm), early⟩, hours, rfl⟩

theorem nextRunAt_consistent (normal : agent.Normal) (found : nextRunAt plan zones agent now = .ok next) :
    ({ agent with nextRunAt := next } : TenantAgent).Consistent zones := by
  by_cases runs : agent.runs = true
  · obtain ⟨start, rfl, starts⟩ := nextRunAt_runs normal runs found
    simp only [TenantAgent.runs, Bool.and_eq_true, bne_iff_ne, Option.isNone_iff_eq_none] at runs
    obtain ⟨⟨enabled, unpaused⟩, cadence⟩ := runs
    constructor
    · simp [enabled, unpaused, cadence]
    · intro other its
      obtain rfl := Option.some.inj its
      exact starts
  · rw [nextRunAt, if_pos (by simpa using runs)] at found
    cases found
    constructor
    · simp only [TenantAgent.runs, Bool.and_eq_true, bne_iff_ne, Option.isNone_iff_eq_none, not_and] at runs
      simp only [true_iff]
      by_cases enabled : agent.enabled = true
      · by_cases unpaused : agent.pausedAt = none
        · exact .inr (.inr (not_not.mp (runs ⟨enabled, unpaused⟩)))
        · exact .inr (.inl unpaused)
      · exact .inl (by simpa using enabled)
    · intro start its
      cases its

theorem paused_consistent (reason : String) (by_ : Option Id) : (agent.paused reason by_ now).Consistent zones := by
  constructor
  · simp [TenantAgent.paused]
  · intro start its
    cases its

end Next
def AgentRow.Kept (zones : BankZones) (row : AgentRow) : Prop := row.agent.Normal ∧ row.agent.Consistent zones

section Results
variable {plan : AgentPlan} {zones : BankZones} {budgets : List Id} {request : AgentRequest} {read current after : AgentRow} {now : Instant}

/-- What a call leaves of a row: it is kept, and a pause it undoes is one it had read. -/
structure Leaves (zones : BankZones) (request : AgentRequest) (current after : AgentRow) : Prop where
  kept : after.Kept zones
  undone : ∀ undone ∈ AgentDesk.undoes request current after, undone.2 = some undone.1

theorem Leaves.of_paused (kept : after.Kept zones) (paused : current.agent.pausedAt ≠ none → after.agent.pausedAt ≠ none) :
    Leaves zones request current after := by
  refine ⟨kept, fun undone there => ?_⟩
  unfold AgentDesk.undoes at there
  split at there
  · rename_i both
    simp only [Bool.and_eq_true, Option.isSome_iff_ne_none, Option.isNone_iff_eq_none] at both
    exact absurd both.2 (paused both.1)
  · cases there

theorem pausedRow_leaves (kept : current.Kept zones) (reason : String) (by_ : Option Id) :
    Leaves zones request current (pausedRow read current reason by_ now) := by
  unfold pausedRow
  split
  · exact Leaves.of_paused kept id
  · exact Leaves.of_paused ⟨kept.1, paused_consistent reason by_⟩ fun _ => Option.some_ne_none now

theorem updated_leaves {by_ : Id} {body : TenantAgentUpdate} {agent : TenantAgent}
    (done : updated plan zones budgets current.agent by_ body now = .ok agent) : Leaves zones request current { current with agent } := by
  obtain ⟨changed, patch, done⟩ := bind_ok.mp done
  obtain ⟨_, range, done⟩ := bind_ok.mp done
  obtain ⟨next, found, done⟩ := bind_ok.mp done
  obtain ⟨_, -, patch⟩ := bind_ok.mp patch
  obtain ⟨_, -, patch⟩ := bind_ok.mp patch
  cases done
  obtain rfl := Except.ok.inj patch
  have normal := scheduled_normal range
  have consistent := nextRunAt_consistent normal found
  refine Leaves.of_paused ⟨normal, consistent.none_iff, consistent.starts⟩ fun paused => ?_
  unfold scheduled
  split <;> exact paused

theorem resumed_leaves {by_ : Id} (kept : current.Kept zones) (reads : request.read = read)
    (stands : read.agent.pausedAt ≠ none → current.agent.schedule = read.agent.schedule ∧
      (current.agent.pausedAt = none ∨ current.pauses = read.pauses))
    (done : resumedRow plan zones read current by_ now = .ok after) : Leaves zones request current after := by
  unfold resumedRow at done
  split at done
  · cases done
    exact Leaves.of_paused kept id
  · rename_i paused
    simp only [Option.isNone_iff_eq_none] at paused
    obtain ⟨next, found, done⟩ := bind_ok.mp done
    cases done
    obtain ⟨same, standing⟩ := stands paused
    have normal : ({ read.agent with pausedAt := none, pausedBy := none, pauseReason := "" } : TenantAgent).Normal :=
      kept.1.of_schedule same.symm
    have consistent := nextRunAt_consistent normal found
    refine ⟨⟨kept.1.of_schedule rfl, consistent.of_schedule same Iff.rfl rfl⟩, fun undone there => ?_⟩
    unfold AgentDesk.undoes at there
    split at there
    · rename_i both
      simp only [Bool.and_eq_true, Option.isSome_iff_ne_none] at both
      obtain rfl := List.mem_singleton.mp there
      have its := standing.resolve_left both.1
      simp only [reads, Option.isSome_iff_ne_none, ne_eq, paused, not_false_iff, if_true]
      exact congrArg some its.symm
    · cases there

theorem beaten_leaves {capped : Bool} (kept : current.Kept zones) (done : beaten plan zones current current capped now = .ok after) :
    Leaves zones request current after := by
  obtain ⟨next, found, done⟩ := bind_ok.mp done
  have consistent := nextRunAt_consistent kept.1 found
  have taken : AgentRow.Kept zones { current with agent := { current.agent with nextRunAt := next } } := ⟨kept.1, consistent⟩
  cases done
  split
  · have paused : Leaves zones request _ (pausedRow current _ capReason none now) := pausedRow_leaves taken capReason none
    exact ⟨paused.kept, paused.undone⟩
  · exact Leaves.of_paused taken id

theorem AgentRequest.result_leaves (kept : current.Kept zones) (locked : request.write.locks = true → request.read = current)
    (stands : request.write.resumes = true → request.read.agent.pausedAt ≠ none → current.agent.schedule = request.read.agent.schedule ∧
      (current.agent.pausedAt = none ∨ current.pauses = request.read.pauses))
    (done : request.result plan zones budgets current now = .ok after) : Leaves zones request current after := by
  obtain ⟨read, write⟩ := request
  cases write with
  | update by_ body =>
    obtain rfl := locked rfl
    obtain ⟨agent, changed, rfl⟩ := map_ok.mp done
    exact updated_leaves changed
  | pause by_ | lowered | overrun =>
    cases done
    exact pausedRow_leaves kept _ _
  | resume by_ => exact resumed_leaves kept rfl (stands rfl) done
  | beat capped =>
    obtain rfl := locked rfl
    exact beaten_leaves kept done

end Results
/-- The invariant of the desk. -/
structure ScheduleSound (zones : BankZones) (desk : AgentDesk) : Prop where
  holding : Holding AgentRequest.loaded desk.agents desk.underway
  kept : ∀ row ∈ desk.agents.rows, row.Kept zones
  undone : ∀ undone ∈ desk.undone, undone.2 = some undone.1

section Steps
variable {plan : AgentPlan} {zones : BankZones} {desk next : AgentDesk} {id : Id} {row : AgentRow}

theorem scheduled_enabled {agent : TenantAgent} : (scheduled plan agent).enabled = agent.enabled := by
  unfold scheduled
  split <;> rfl

theorem scheduled_next {agent : TenantAgent} : (scheduled plan agent).nextRunAt = agent.nextRunAt := by
  unfold scheduled
  split <;> rfl

theorem ScheduleSound.create {tenant by_ : Id} {body : TenantAgentInput} (sound : ScheduleSound zones desk)
    (done : desk.create plan tenant by_ body = .ok next) : ScheduleSound zones next := by
  obtain ⟨_, -, done⟩ := bind_ok.mp done
  obtain ⟨_, -, done⟩ := bind_ok.mp done
  obtain ⟨_, -, done⟩ := bind_ok.mp done
  obtain ⟨_, range, done⟩ := bind_ok.mp done
  cases done
  refine ⟨sound.holding.mono fun each there row held => (Keyed.mem_create _).mpr (.inl (sound.holding.there each there row held)), ?_,
    sound.undone⟩
  intro row there
  rcases (Keyed.mem_create _).mp there with old | rfl
  · exact sound.kept row old
  · refine ⟨(scheduled_normal range).of_schedule rfl, ?_, fun start its => ?_⟩
    · exact iff_of_true scheduled_next (.inl scheduled_enabled)
    · exact absurd (scheduled_next.symm.trans its) (Option.some_ne_none start).symm

theorem ScheduleSound.read_ {agent : Id} {write : AgentWrite} (sound : ScheduleSound zones desk)
    (there : desk.agents.rows.find? (·.id == agent) = some row)
    (free : write.locks = true → lockedRow AgentRow.id AgentRequest.loaded desk.underway row = false) :
    ScheduleSound zones { desk with underway := desk.underway ++ [(id, { read := row, write })] } := by
  refine ⟨sound.holding.begin_ ?_ ?_, sound.kept, sound.undone⟩
  · intro held mine
    unfold AgentRequest.loaded at mine
    split at mine
    · obtain rfl := List.mem_singleton.mp mine
      exact List.mem_of_find?_eq_some there
    · cases mine
  · intro held mine
    unfold AgentRequest.loaded at mine
    split at mine
    · rename_i locks
      obtain rfl := List.mem_singleton.mp mine
      exact free locks
    · cases mine

theorem ScheduleSound.apart {each other : Id × AgentRequest} {held current : AgentRow} (sound : ScheduleSound zones desk)
    (there : each ∈ desk.underway) (named : current.id = each.2.read.id)
    (free : each.2.write.locks = false → lockedRow AgentRow.id AgentRequest.loaded desk.underway current = false)
    (member : other ∈ desk.underway) (differ : other.1 ≠ each.1) (loaded : held ∈ other.2.loaded) : held.id ≠ current.id := by
  cases locks : each.2.write.locks with
  | false =>
    intro same
    have open_ := List.any_eq_false.mp (free locks) other member
    exact open_ (List.any_eq_true.mpr ⟨held, loaded, beq_iff_eq.mpr same⟩)
  | true =>
    have mine : each.2.read ∈ each.2.loaded := by
      rw [AgentRequest.loaded, if_pos locks]
      exact List.mem_singleton_self _
    rw [named]
    exact sound.holding.apart other member each there differ held loaded each.2.read mine

theorem ScheduleSound.write {each : Id × AgentRequest} {current after : AgentRow} {now : Instant} (sound : ScheduleSound zones desk)
    (there : each ∈ desk.underway) (found : desk.agents.rows.find? (·.id == each.2.read.id) = some current)
    (free : each.2.write.locks = false → lockedRow AgentRow.id AgentRequest.loaded desk.underway current = false)
    (stands : each.2.write.resumes = true → each.2.read.agent.pausedAt ≠ none → current.agent.schedule = each.2.read.agent.schedule ∧
      (current.agent.pausedAt = none ∨ current.pauses = each.2.read.pauses))
    (done : each.2.result plan zones desk.budgets current now = .ok after) :
    ScheduleSound zones { desk with
      agents := desk.agents.update (·.id == current.id) (fun row => { after with agent := { after.agent with id := row.id } }) fun _ => rfl
      underway := desk.underway.filter (·.1 ≠ each.1)
      undone := desk.undone ++ AgentDesk.undoes each.2 current after } := by
  have here := List.mem_of_find?_eq_some found
  have named := List.find?_some found
  rw [beq_iff_eq] at named
  have locked : each.2.write.locks = true → each.2.read = current := by
    intro locks
    have mine : each.2.read ∈ each.2.loaded := by
      rw [AgentRequest.loaded, if_pos locks]
      exact List.mem_singleton_self _
    exact desk.agents.eq_of_key (sound.holding.there each there each.2.read mine) here named.symm
  have leaves := each.2.result_leaves (sound.kept current here) locked stands done
  constructor
  · refine sound.holding.abort.mono fun other left held loaded => ?_
    obtain ⟨member, differ⟩ := List.mem_filter.mp left
    have apart := sound.apart there named free member (of_decide_eq_true differ) loaded
    have spared : held = if (held.id == current.id) = true then { after with agent := { after.agent with id := held.id } } else held :=
      (if_neg (by simpa using apart)).symm
    exact List.mem_map.mpr ⟨held, sound.holding.there other member held loaded, spared.symm⟩
  · intro row member
    obtain ⟨old, before, rfl⟩ := List.mem_map.mp member
    split
    · exact ⟨leaves.kept.1.of_schedule rfl, leaves.kept.2.of_schedule rfl Iff.rfl rfl⟩
    · exact sound.kept old before
  · intro undone member
    rcases List.mem_append.mp member with before | new
    · exact sound.undone undone before
    · exact leaves.undone undone new

theorem ScheduleSound.step {taken : ScheduleStep} (sound : ScheduleSound zones desk) (stands : ReadWhatStands desk taken)
    (done : desk.step plan zones taken = .ok next) : ScheduleSound zones next := by
  cases taken with
  | create tenant by_ body => exact sound.create done
  | setCap tenant =>
    cases done
    exact ⟨sound.holding, sound.kept, sound.undone⟩
  | read_ request agent write now =>
    obtain ⟨_, -, done⟩ := bind_ok.mp done
    obtain ⟨row, found, done⟩ := bind_ok.mp done
    obtain ⟨_, -, done⟩ := bind_ok.mp done
    obtain ⟨_, free, done⟩ := bind_ok.mp done
    cases done
    exact sound.read_ (demand_ok.mp found) (require_ok.mp free)
  | write request now =>
    obtain ⟨each, found, done⟩ := bind_ok.mp done
    obtain ⟨current, names, done⟩ := bind_ok.mp done
    obtain ⟨_, free, done⟩ := bind_ok.mp done
    obtain ⟨after, result, done⟩ := bind_ok.mp done
    cases done
    have its := List.find?_some (demand_ok.mp found)
    obtain rfl : each.1 = request := beq_iff_eq.mp its
    exact sound.write (List.mem_of_find?_eq_some (demand_ok.mp found)) (demand_ok.mp names) (require_ok.mp free)
      (fun resumes paused => stands each (demand_ok.mp found) resumes paused current (demand_ok.mp names)) result
  | abort request =>
    cases done
    exact ⟨sound.holding.abort, sound.kept, sound.undone⟩

end Steps

/-- In a run whose resumes each write on what they read, every agent's schedule is consistent in every state reached, and every pause that was
undone was undone by a resume that had read it. -/
theorem schedule_consistent (plan : AgentPlan) (zones : BankZones) (steps : List ScheduleStep)
    (stands : Meets (AgentDesk.step plan zones) ReadWhatStands {} steps) :
    ∀ first, first <+: steps → (run (AgentDesk.step plan zones) {} first).Consistent zones := by
  intro first isPrefix
  have empty : ScheduleSound zones {} := ⟨Holding.nil, fun _ there => absurd there List.not_mem_nil, fun _ there => absurd there List.not_mem_nil⟩
  have sound : ScheduleSound zones (run (AgentDesk.step plan zones) {} first) :=
    run_invariant_of_meets empty (fun _ _ _ sound stands done => sound.step stands done) first (stands.initial isPrefix)
  exact ⟨fun row there => (sound.kept row there).2, sound.undone⟩

def mondayMorning : Day := .october5

def utcHours : BankZones where
  today := fun _ now => (mondayMorning.addDays (now / 24)).getD mondayMorning
  at_ := fun _ day hour => (day.ordinal - mondayMorning.ordinal) * 24 + hour

def weeklyPlan : AgentPlan := { minCadence := .daily, agentsMax := 5, defaultRunHour := 6 }

/-- An agent is added, switched on, paused and resumed by a resume that read the pause. -/
def pausedAndResumed : List ScheduleStep := [
  .create 1 10 { agent := 100 }, .setCap 1,
  .read_ 1 0 (.update 10 { enabled := some true }) 30, .write 1 30,
  .read_ 2 0 (.pause 11) 40, .write 2 40, .read_ 3 0 (.resume 10) 50, .write 3 50]

theorem pausedAndResumed_consistent :
    (run (AgentDesk.step weeklyPlan utcHours) {} pausedAndResumed).Consistent utcHours ∧
      (run (AgentDesk.step weeklyPlan utcHours) {} pausedAndResumed).agents.rows.map (·.agent.nextRunAt) = [some 174] ∧
        (run (AgentDesk.step weeklyPlan utcHours) {} pausedAndResumed).undone = [(1, some 1)] :=
  ⟨schedule_consistent weeklyPlan utcHours pausedAndResumed (by decide +kernel) pausedAndResumed (List.prefix_refl _), by decide +kernel,
    by decide +kernel⟩

/-- A resume reads a paused weekly agent; the agent is then resumed, made manual and paused again, and the first resume writes. -/
def resumedFromAnOldRead : List ScheduleStep := [
  .create 1 10 { agent := 100 }, .setCap 1,
  .read_ 1 0 (.update 10 { enabled := some true }) 30, .write 1 30,
  .read_ 2 0 (.pause 11) 40, .write 2 40, .read_ 3 0 (.resume 10) 50,
  .read_ 4 0 (.resume 11) 51, .write 4 51, .read_ 5 0 (.update 11 { cadence := some .manual }) 52, .write 5 52,
  .read_ 6 0 (.pause 12) 53, .write 6 53, .write 3 54]

/-- The manual agent is left with a next run, and a pause was undone that the resume had not read. -/
theorem resumedFromAnOldRead_inconsistent :
    ¬(run (AgentDesk.step weeklyPlan utcHours) {} resumedFromAnOldRead).Consistent utcHours ∧
      (run (AgentDesk.step weeklyPlan utcHours) {} resumedFromAnOldRead).agents.rows.map
        (fun row => (row.agent.cadence, row.agent.nextRunAt, row.agent.pausedAt)) = [(.manual, some 174, none)] ∧
      (run (AgentDesk.step weeklyPlan utcHours) {} resumedFromAnOldRead).undone = [(1, some 1), (2, some 1)] := by
  have undone : (run (AgentDesk.step weeklyPlan utcHours) {} resumedFromAnOldRead).undone = [(1, some 1), (2, some 1)] := by decide +kernel
  refine ⟨fun consistent => ?_, by decide +kernel, undone⟩
  have its := consistent.undone (2, some 1) (undone ▸ by decide)
  exact absurd its (by decide)

end Grc.Agents
