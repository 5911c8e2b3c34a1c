import Grc.Agents.ScheduleRuns

/-! The start `next_run_at` answers is the earliest its schedule names after now. -/
namespace Grc.Agents

open Grc.Shared Grc.Lib

/-- What is assumed of a bank's zone: an hour of a later local date is a later instant, and tomorrow's is after now. -/
structure BankZones.Ordered (zones : BankZones) : Prop where
  later : ∀ tenant hour, ∀ {date next : Day}, date < next → zones.at_ tenant date hour < zones.at_ tenant next hour
  tomorrow : ∀ tenant hour now, ∀ {next : Day}, (zones.today tenant now).tomorrow = some next → now < zones.at_ tenant next hour

def TenantAgent.startOn (plan : AgentPlan) (zones : BankZones) (agent : TenantAgent) (day : Day) : Instant :=
  zones.at_ agent.tenant day (agent.runHour.getD plan.defaultRunHour)

/-- A day an agent's cadence names, on a Monday where the bank named no day. -/
def TenantAgent.NamesDay (agent : TenantAgent) (day : Day) : Prop :=
  match agent.cadence with
  | .daily => True
  | .weekly => day.isoweekday = orMonday agent.runWeekday
  | .monthly => day.isoweekday = orMonday agent.runWeekday ∧ day.day ≤ 7
  | .manual => False

/-- The start an agent has next: after now, on a day its schedule names, and none such is earlier of the bank's local dates from today on;
nor of any date, where the run hour of every date before today has passed. -/
structure TenantAgent.NextStart (plan : AgentPlan) (zones : BankZones) (agent : TenantAgent) (now start : Instant) : Prop where
  ahead : now < start
  named : ∃ day, agent.NamesDay day ∧ start = agent.startOn plan zones day
  earliest : ∀ day, agent.NamesDay day → now < agent.startOn plan zones day → zones.today agent.tenant now ≤ day →
    start ≤ agent.startOn plan zones day
  always : (∀ day < zones.today agent.tenant now, agent.startOn plan zones day ≤ now) →
    ∀ day, agent.NamesDay day → now < agent.startOn plan zones day → start ≤ agent.startOn plan zones day

variable {plan : AgentPlan} {zones : BankZones} {agent : TenantAgent} {now start : Instant}

/-! ## Days -/

theorem weekdayFrom_first {weekday : Nat} {date day : Day} (found : weekdayFrom weekday date = .ok day) :
    date ≤ day ∧ day.ordinal < date.ordinal + 7 ∧
      (1 ≤ weekday ∧ weekday ≤ 7 → ∀ other : Day, other.isoweekday = weekday → date ≤ other → day ≤ other) := by
  have moved := Day.ordinal_addDays (demand_ok.mp found)
  refine ⟨Day.ordinal_le_iff.mp (by omega), by omega, fun range other its after => ?_⟩
  have below := Day.ordinal_le_iff.mpr after
  have same := weekdayFrom_ok range found
  refine Day.ordinal_le_iff.mp ?_
  unfold Day.isoweekday at its same
  omega

theorem weekdayFrom_total {weekday : Nat} {date : Day} (room : date.ordinal + 6 ≤ Day.last.ordinal) : ∃ day, weekdayFrom weekday date = .ok day := by
  obtain ⟨day, found⟩ := @Day.exists_addDays date ((weekday + 7 - date.isoweekday) % 7) (by omega)
  exact ⟨day, demand_ok.mpr found⟩

theorem startOn_mono (ordered : zones.Ordered) {day other : Day} (below : day ≤ other) :
    agent.startOn plan zones day ≤ agent.startOn plan zones other := by
  rcases lt_or_eq_of_le below with later | rfl
  · exact Nat.le_of_lt (ordered.later _ _ later)
  · exact Nat.le_refl _

theorem now_lt_startOn (ordered : zones.Ordered) {day : Day} (later : zones.today agent.tenant now < day) :
    now < agent.startOn plan zones day := by
  obtain ⟨tomorrow, next⟩ := Day.exists_tomorrow (lt_of_lt_of_le later (Day.le_last day))
  have below : tomorrow ≤ day := by
    have grown := Day.ordinal_tomorrow next
    have before := Day.ordinal_lt later
    exact Day.ordinal_le_iff.mp (by omega)
  exact Nat.lt_of_lt_of_le (ordered.tomorrow _ _ _ next) (startOn_mono ordered below)

/-! ## The first run weekday of a month -/

theorem weekdayFrom_month {weekday : Nat} {date day : Day} (found : weekdayFrom weekday date.firstOfMonth = .ok day) :
    day.year = date.year ∧ day.month = date.month := by
  have long := Day.daysInMonth_ge date.year date.month
  have first : date.firstOfMonth.year = date.year ∧ date.firstOfMonth.month = date.month ∧ date.firstOfMonth.day = 1 := ⟨rfl, rfl, rfl⟩
  obtain ⟨year, month, -⟩ := Day.addDays_within (demand_ok.mp found) (by rw [first.1, first.2.1, first.2.2]; omega)
  exact ⟨year, month⟩

theorem month_later {date next : Day} (found : date.firstOfMonth.addDays 32 = some next) : date < next.firstOfMonth := by
  have after := Day.month_after found
  have month := date.monthIn
  have days := Day.daysInMonth_le date.year date.month
  have day := date.dayIn
  have nextMonth := next.monthIn
  have first : next.firstOfMonth.year = next.year ∧ next.firstOfMonth.month = next.month ∧ next.firstOfMonth.day = 1 := ⟨rfl, rfl, rfl⟩
  rw [Day.lt_iff, Day.place, Day.place, first.1, first.2.1, first.2.2]
  omega

theorem same_month_or_later {date next other : Day} (found : date.firstOfMonth.addDays 32 = some next) (after : date ≤ other) :
    (other.year = date.year ∧ other.month = date.month) ∨ next.firstOfMonth ≤ other := by
  have index := Day.month_after found
  have month := date.monthIn
  have nextMonth := next.monthIn
  have otherMonth := other.monthIn
  have days := Day.daysInMonth_le date.year date.month
  have otherDays := Day.daysInMonth_le other.year other.month
  have day := date.dayIn
  have otherDay := other.dayIn
  have first : next.firstOfMonth.year = next.year ∧ next.firstOfMonth.month = next.month ∧ next.firstOfMonth.day = 1 := ⟨rfl, rfl, rfl⟩
  rw [Day.le_iff, Day.place, Day.place] at after
  rw [Day.le_iff, Day.place, Day.place, first.1, first.2.1, first.2.2]
  omega

/-! ## The answer -/

/-- The day of the answer: named and ahead, and of the named days from today on that are ahead the first. -/
structure TenantAgent.NextDay (plan : AgentPlan) (zones : BankZones) (agent : TenantAgent) (now : Instant) (day : Day) : Prop where
  ahead : now < agent.startOn plan zones day
  named : agent.NamesDay day
  first : ∀ other, agent.NamesDay other → now < agent.startOn plan zones other → zones.today agent.tenant now ≤ other → day ≤ other

theorem range_orMonday {done : Unit} (range : checkRange agent = .ok done) : 1 ≤ orMonday agent.runWeekday ∧ orMonday agent.runWeekday ≤ 7 := by
  obtain ⟨weekdays, -⟩ := require_ok.mp range
  cases stated : agent.runWeekday with
  | none => decide
  | some weekday =>
    have within := weekdays weekday stated
    rw [orMonday_of_pos within.1]
    exact within

variable {next : Option Instant}

theorem daily_next (daily : agent.cadence = .daily) (runs : agent.runs = true)
    (found : nextRunAt plan zones agent now = .ok next) :
    ∃ day, next = some (agent.startOn plan zones day) ∧ agent.NextDay plan zones now day := by
  have named : ∀ day, agent.NamesDay day := fun day => by
    rw [TenantAgent.NamesDay, daily]
    trivial
  rw [nextRunAt, if_neg (by rw [runs]; decide)] at found
  simp only [daily] at found
  obtain ⟨tomorrow, its, found⟩ := bind_ok.mp found
  split at found
  · rename_i ahead
    cases found
    exact ⟨_, rfl, ahead, named _, fun other _ _ after => after⟩
  · rename_i passed
    obtain ⟨_, ahead, found⟩ := bind_ok.mp found
    cases found
    refine ⟨_, rfl, require_ok.mp ahead, named _, fun other _ later after => ?_⟩
    have moved := Day.ordinal_addDays (demand_ok.mp its)
    rcases lt_or_eq_of_le after with beyond | rfl
    · have days := Day.ordinal_lt beyond
      exact Day.ordinal_le_iff.mp (by omega)
    · exact absurd later passed

theorem weekly_next (ordered : zones.Ordered) (weekly : agent.cadence = .weekly) (runs : agent.runs = true)
    (range : 1 ≤ orMonday agent.runWeekday ∧ orMonday agent.runWeekday ≤ 7) (found : nextRunAt plan zones agent now = .ok next) :
    ∃ day, next = some (agent.startOn plan zones day) ∧ agent.NextDay plan zones now day := by
  have named : ∀ day, agent.NamesDay day ↔ day.isoweekday = orMonday agent.runWeekday := fun day => by
    rw [TenantAgent.NamesDay, weekly]
  rw [nextRunAt, if_neg (by rw [runs]; decide)] at found
  simp only [weekly] at found
  obtain ⟨day, its, found⟩ := bind_ok.mp found
  obtain ⟨after, near, first⟩ := weekdayFrom_first its
  have weekday := weekdayFrom_ok range its
  split at found
  · rename_i ahead
    cases found
    exact ⟨_, rfl, ahead, (named _).mpr weekday, fun other its _ after => first range other ((named _).mp its) after⟩
  · rename_i passed
    obtain ⟨following, week, found⟩ := bind_ok.mp found
    cases found
    have moved := Day.ordinal_addDays (demand_ok.mp week)
    have beyond : zones.today agent.tenant now < following := by
      refine lt_of_le_of_lt after (not_le.mp fun below => ?_)
      have := Day.ordinal_le_iff.mpr below
      omega
    refine ⟨_, rfl, now_lt_startOn ordered beyond, (named _).mpr ((Day.isoweekday_addDays_week (demand_ok.mp week)).trans weekday),
      fun other its later after => ?_⟩
    have from_ := first range other ((named _).mp its) after
    rcases lt_or_eq_of_le from_ with above | rfl
    · have days := Day.ordinal_lt above
      have same := (named _).mp its
      rw [← weekday] at same
      unfold Day.isoweekday at same
      exact Day.ordinal_le_iff.mp (by omega)
    · exact absurd later passed

theorem monthly_next (monthly : agent.cadence = .monthly) (runs : agent.runs = true)
    (range : 1 ≤ orMonday agent.runWeekday ∧ orMonday agent.runWeekday ≤ 7) (found : nextRunAt plan zones agent now = .ok next) :
    ∃ day, next = some (agent.startOn plan zones day) ∧ agent.NextDay plan zones now day := by
  have named : ∀ day, agent.NamesDay day ↔ day.isoweekday = orMonday agent.runWeekday ∧ day.day ≤ 7 := fun day => by
    rw [TenantAgent.NamesDay, monthly]
  rw [nextRunAt, if_neg (by rw [runs]; decide)] at found
  simp only [monthly] at found
  obtain ⟨start, inMonths, rfl⟩ := map_ok.mp found
  have month := (zones.today agent.tenant now).firstOfMonth_le
  rw [firstInMonths] at inMonths
  obtain ⟨first, its, inMonths⟩ := bind_ok.mp inMonths
  obtain ⟨-, near, least⟩ := weekdayFrom_first its
  have weekday := weekdayFrom_ok range its
  have early := Day.firstWeekday_le (demand_ok.mp its)
  split at inMonths
  · rename_i ahead
    cases inMonths
    exact ⟨first, rfl, ahead, (named _).mpr ⟨weekday, early⟩, fun other its _ after => least range other ((named _).mp its).1 (le_trans month after)⟩
  · rename_i passed
    obtain ⟨later, after, inMonths⟩ := bind_ok.mp inMonths
    rw [firstInMonths] at inMonths
    obtain ⟨second, its', inMonths⟩ := bind_ok.mp inMonths
    obtain ⟨-, -, least'⟩ := weekdayFrom_first its'
    split at inMonths
    · rename_i ahead
      cases inMonths
      refine ⟨second, rfl, ahead, (named _).mpr ⟨weekdayFrom_ok range its', Day.firstWeekday_le (demand_ok.mp its')⟩, fun other its'' still from_ => ?_⟩
      obtain ⟨day, seventh⟩ := (named _).mp its''
      rcases same_month_or_later (demand_ok.mp after) from_ with ⟨sameYear, sameMonth⟩ | beyond
      · obtain ⟨firstYear, firstMonth⟩ := weekdayFrom_month its
        obtain rfl := Day.eq_of_weekday (sameYear.trans firstYear.symm) (sameMonth.trans firstMonth.symm) seventh early (day.trans weekday.symm)
        exact absurd still passed
      · exact least' range other day beyond
    · obtain ⟨_, -, inMonths⟩ := bind_ok.mp inMonths
      cases inMonths

theorem firstInMonths_ahead {at_ : Day → Instant} {weekday months : Nat} {date : Day}
    (found : firstInMonths at_ weekday now months date = .ok start) : now < start := by
  induction months generalizing date with
  | zero => cases found
  | succ months ih =>
    obtain ⟨first, -, found⟩ := bind_ok.mp found
    split at found
    · cases found
      assumption
    · obtain ⟨later, -, found⟩ := bind_ok.mp found
      exact ih found

theorem nextRunAt_ahead (ordered : zones.Ordered) (found : nextRunAt plan zones agent now = .ok next) :
    ∀ start ∈ next, now < start := by
  intro start its
  rw [nextRunAt] at found
  split at found
  · cases found
    cases its
  · cases cadence : agent.cadence with
    | manual =>
      simp only [cadence] at found
      cases found
      cases its
    | daily =>
      simp only [cadence] at found
      obtain ⟨tomorrow, -, found⟩ := bind_ok.mp found
      split at found
      · cases found
        cases its
        assumption
      · obtain ⟨_, ahead, found⟩ := bind_ok.mp found
        cases found
        cases its
        exact require_ok.mp ahead
    | weekly =>
      simp only [cadence] at found
      obtain ⟨day, first, found⟩ := bind_ok.mp found
      split at found
      · cases found
        cases its
        assumption
      · obtain ⟨following, week, found⟩ := bind_ok.mp found
        cases found
        cases its
        have after := Day.ordinal_le_iff.mpr (weekdayFrom_first first).1
        have moved := Day.ordinal_addDays (demand_ok.mp week)
        exact now_lt_startOn ordered (not_le.mp fun below => by have := Day.ordinal_le_iff.mpr below; omega)
    | monthly =>
      simp only [cadence] at found
      obtain ⟨first, inMonths, rfl⟩ := map_ok.mp found
      cases its
      exact firstInMonths_ahead inMonths

theorem nextRunAt_total (ordered : zones.Ordered) (runs : agent.runs = true)
    (room : (zones.today agent.tenant now).ordinal + 38 ≤ Day.last.ordinal) : ∃ start, nextRunAt plan zones agent now = .ok (some start) := by
  have manual : agent.cadence ≠ .manual := by
    intro manual
    simp [TenantAgent.runs, manual] at runs
  have moved : ∀ (days : Nat) (date : Day), date.ordinal + days ≤ Day.last.ordinal → ∃ day, daysAhead days date = .ok day := by
    intro days date room
    obtain ⟨day, found⟩ := Day.exists_addDays room
    exact ⟨day, demand_ok.mpr found⟩
  rw [nextRunAt, if_neg (by rw [runs]; decide)]
  cases cadence : agent.cadence with
  | manual => exact absurd cadence manual
  | daily =>
    obtain ⟨tomorrow, next⟩ := moved 1 (zones.today agent.tenant now) (by omega)
    by_cases ahead : now < agent.startOn plan zones (zones.today agent.tenant now)
    · exact ⟨_, bind_ok.mpr ⟨tomorrow, next, if_pos ahead⟩⟩
    · have later : zones.today agent.tenant now < tomorrow := by
        have grown := Day.ordinal_addDays (demand_ok.mp next)
        exact not_le.mp fun below => by have := Day.ordinal_le_iff.mpr below; omega
      have after : now < agent.startOn plan zones tomorrow := now_lt_startOn ordered later
      exact ⟨_, bind_ok.mpr ⟨tomorrow, next, (if_neg ahead).trans (bind_ok.mpr ⟨(), require_ok.mpr after, rfl⟩)⟩⟩
  | weekly =>
    obtain ⟨day, first⟩ := @weekdayFrom_total (orMonday agent.runWeekday) (zones.today agent.tenant now) (by omega)
    by_cases ahead : now < agent.startOn plan zones day
    · exact ⟨_, bind_ok.mpr ⟨day, first, if_pos ahead⟩⟩
    · have near := (weekdayFrom_first first).2.1
      obtain ⟨following, week⟩ := moved 7 day (by omega)
      exact ⟨_, bind_ok.mpr ⟨day, first, (if_neg ahead).trans (bind_ok.mpr ⟨following, week, rfl⟩)⟩⟩
  | monthly =>
    have month := Day.ordinal_le_iff.mpr (zones.today agent.tenant now).firstOfMonth_le
    obtain ⟨first, its⟩ := @weekdayFrom_total (orMonday agent.runWeekday) (zones.today agent.tenant now).firstOfMonth (by omega)
    by_cases ahead : now < agent.startOn plan zones first
    · exact ⟨first |> agent.startOn plan zones, map_ok.mpr ⟨_, bind_ok.mpr ⟨first, its, if_pos ahead⟩, rfl⟩⟩
    · obtain ⟨later, found⟩ := moved 32 (zones.today agent.tenant now).firstOfMonth (by omega)
      have grown := Day.ordinal_addDays (demand_ok.mp found)
      have begins := Day.ordinal_le_iff.mpr later.firstOfMonth_le
      obtain ⟨second, its'⟩ := @weekdayFrom_total (orMonday agent.runWeekday) later.firstOfMonth (by omega)
      have beyond := lt_of_lt_of_le (month_later (demand_ok.mp found)) (weekdayFrom_first its').1
      have after : now < agent.startOn plan zones second := now_lt_startOn ordered beyond
      refine ⟨agent.startOn plan zones second, map_ok.mpr ⟨_, bind_ok.mpr ⟨first, its, (if_neg ahead).trans (bind_ok.mpr ⟨later, found, ?_⟩)⟩, rfl⟩⟩
      exact bind_ok.mpr ⟨second, its', if_pos after⟩

theorem nextRunAt_next (ordered : zones.Ordered) {done : Unit} (range : checkRange agent = .ok done) (runs : agent.runs = true)
    (found : nextRunAt plan zones agent now = .ok next) :
    ∃ start, next = some start ∧ agent.NextStart plan zones now start := by
  have which : ∃ day, next = some (agent.startOn plan zones day) ∧ agent.NextDay plan zones now day := by
    cases cadence : agent.cadence with
    | manual => simp [TenantAgent.runs, cadence] at runs
    | daily => exact daily_next cadence runs found
    | weekly => exact weekly_next ordered cadence runs (range_orMonday range) found
    | monthly => exact monthly_next cadence runs (range_orMonday range) found
  obtain ⟨day, rfl, its⟩ := which
  have earliest : ∀ other, agent.NamesDay other → now < agent.startOn plan zones other → zones.today agent.tenant now ≤ other →
      agent.startOn plan zones day ≤ agent.startOn plan zones other :=
    fun other named ahead after => startOn_mono ordered (its.first other named ahead after)
  refine ⟨_, rfl, its.ahead, ⟨day, its.named, rfl⟩, earliest, fun past other named ahead => ?_⟩
  rcases lt_or_ge other (zones.today agent.tenant now) with before | after
  · exact absurd (past other before) (Nat.not_le.mpr ahead)
  · exact earliest other named ahead after

end Grc.Agents
