import Mathlib.Data.Prod.Lex
import Mathlib.Order.Defs.LinearOrder
import Mathlib.Order.Lattice
import Mathlib.Tactic.Common
import Mathlib.Algebra.Ring.Nat

/-! The proleptic Gregorian calendar of the years 1 to 9999: days, their order, and moving a
day by whole years to a span of years with the same calendar. -/
namespace Grc.Lib

def isLeap (year : Nat) : Bool := year % 4 == 0 && (year % 100 != 0 || year % 400 == 0)

def daysInMonth (year month : Nat) : Nat :=
  if month = 2 then if isLeap year then 29 else 28
  else if month ∈ [4, 6, 9, 11] then 30 else 31

/-- A day of the calendar. -/
structure Day where
  year : Nat
  month : Nat
  day : Nat
  yearIn : 1 ≤ year ∧ year ≤ 9999
  monthIn : 1 ≤ month ∧ month ≤ 12
  dayIn : 1 ≤ day ∧ day ≤ daysInMonth year month
  deriving DecidableEq

namespace Day

def ofFields (year month day : Nat) : Option Day :=
  if valid : (1 ≤ year ∧ year ≤ 9999) ∧ (1 ≤ month ∧ month ≤ 12) ∧ 1 ≤ day ∧ day ≤ daysInMonth year month then
    some ⟨year, month, day, valid.1, valid.2.1, valid.2.2⟩
  else none

theorem ofFields_eq_some {year month day : Nat} {date : Day} :
    ofFields year month day = some date ↔ date.year = year ∧ date.month = month ∧ date.day = day := by
  unfold ofFields
  split
  · rename_i valid
    simp only [Option.some.injEq]
    constructor
    · intro same
      subst same
      exact ⟨rfl, rfl, rfl⟩
    · rintro ⟨rfl, rfl, rfl⟩
      rfl
  · rename_i invalid
    simp only [reduceCtorEq, false_iff]
    rintro ⟨rfl, rfl, rfl⟩
    exact invalid ⟨date.yearIn, date.monthIn, date.dayIn⟩

theorem daysInMonth_le (year month : Nat) : daysInMonth year month ≤ 31 := by
  unfold daysInMonth
  split
  · split <;> omega
  · split <;> omega

def place (date : Day) : Nat := (date.year * 13 + date.month) * 32 + date.day

theorem place_injective : Function.Injective place := by
  intro first second same
  unfold place at same
  have firstShort := Nat.le_trans first.dayIn.2 (daysInMonth_le first.year first.month)
  have secondShort := Nat.le_trans second.dayIn.2 (daysInMonth_le second.year second.month)
  have firstMonth := first.monthIn
  have secondMonth := second.monthIn
  obtain ⟨year, month, day, _, _, _⟩ := first
  obtain ⟨otherYear, otherMonth, otherDay, _, _, _⟩ := second
  simp only at same firstShort secondShort firstMonth secondMonth
  have days : day = otherDay := by omega
  have months : month = otherMonth := by omega
  have years : year = otherYear := by omega
  subst days months years
  rfl

instance : LinearOrder Day := LinearOrder.lift' place place_injective

theorem lt_iff {first second : Day} : first < second ↔ first.place < second.place := Iff.rfl

theorem le_iff {first second : Day} : first ≤ second ↔ first.place ≤ second.place := Iff.rfl

theorem year_le {first second : Day} (before : first ≤ second) : first.year ≤ second.year := by
  rw [le_iff] at before
  unfold place at before
  have short := Nat.le_trans second.dayIn.2 (daysInMonth_le second.year second.month)
  have month := second.monthIn
  omega

def later (shift : Nat) (date : Day) : Option Day := ofFields (date.year + shift) date.month date.day

def earlier (shift : Nat) (date : Day) : Option Day := ofFields (date.year - shift) date.month date.day

theorem later_eq_some {shift : Nat} {date moved : Day} :
    date.later shift = some moved ↔
      moved.year = date.year + shift ∧ moved.month = date.month ∧ moved.day = date.day :=
  ofFields_eq_some

theorem earlier_of_later {shift : Nat} {date moved : Day} (forward : date.later shift = some moved) :
    moved.earlier shift = some date := by
  obtain ⟨year, month, day⟩ := later_eq_some.mp forward
  rw [earlier, ofFields_eq_some]
  exact ⟨by omega, month.symm, day.symm⟩

theorem later_of_earlier {shift : Nat} {date moved : Day} (back : moved.earlier shift = some date) :
    date.later shift = some moved := by
  obtain ⟨year, month, day⟩ := ofFields_eq_some.mp back
  rw [later, ofFields_eq_some]
  have positive := date.yearIn
  exact ⟨by omega, month.symm, day.symm⟩

theorem place_later {shift : Nat} {date moved : Day} (forward : date.later shift = some moved) :
    moved.place = date.place + shift * 416 := by
  obtain ⟨year, month, day⟩ := later_eq_some.mp forward
  unfold place
  rw [year, month, day]
  omega

theorem later_le_later {shift : Nat} {first second firstMoved secondMoved : Day}
    (forward : first.later shift = some firstMoved) (also : second.later shift = some secondMoved) :
    firstMoved ≤ secondMoved ↔ first ≤ second := by
  rw [le_iff, le_iff, place_later forward, place_later also]
  omega

theorem later_lt_later {shift : Nat} {first second firstMoved secondMoved : Day}
    (forward : first.later shift = some firstMoved) (also : second.later shift = some secondMoved) :
    firstMoved < secondMoved ↔ first < second := by
  rw [lt_iff, lt_iff, place_later forward, place_later also]
  omega

def addYears (years : Nat) (date : Day) : Option Day :=
  ofFields (date.year + years) date.month (min date.day (daysInMonth (date.year + years) date.month))

/-- The day before. -/
def yesterday (date : Day) : Option Day :=
  if 1 < date.day then ofFields date.year date.month (date.day - 1)
  else if 1 < date.month then
    ofFields date.year (date.month - 1) (daysInMonth date.year (date.month - 1))
  else ofFields (date.year - 1) 12 31

def first : Day := ⟨1, 1, 1, by decide, by decide, by decide⟩

def last : Day := ⟨9999, 12, 31, by decide, by decide, by decide⟩

def newYear2026 : Day := ⟨2026, 1, 1, by decide, by decide, by decide⟩

/-- A Monday. -/
def october5 : Day := ⟨2026, 10, 5, by decide, by decide, by decide⟩

theorem first_le (date : Day) : first ≤ date := by
  have year := date.yearIn
  have month := date.monthIn
  have day := date.dayIn
  rw [le_iff, place, place, first]
  dsimp only
  omega

theorem le_last (date : Day) : date ≤ last := by
  have year := date.yearIn
  have month := date.monthIn
  have short := Nat.le_trans date.dayIn.2 (daysInMonth_le date.year date.month)
  rw [le_iff, place, place, last]
  dsimp only
  omega

theorem lt_iff_fields {date other : Day} : other < date ↔ other.year < date.year ∨
    other.year = date.year ∧ (other.month < date.month ∨ other.month = date.month ∧ other.day < date.day) := by
  have month := date.monthIn
  have others := other.monthIn
  have short := Nat.le_trans date.dayIn.2 (daysInMonth_le date.year date.month)
  have otherShort := Nat.le_trans other.dayIn.2 (daysInMonth_le other.year other.month)
  rw [lt_iff, place, place]
  omega

/-- The days up to the day before a date are the days before it. -/
theorem le_yesterday {date before other : Day} (found : date.yesterday = some before) : other ≤ before ↔ other < date := by
  have month := date.monthIn
  have day := date.dayIn
  have others := other.monthIn
  have otherDay := other.dayIn
  rw [← not_lt, lt_iff_fields, lt_iff_fields]
  unfold yesterday at found
  split at found
  · obtain ⟨sameYear, sameMonth, sameDay⟩ := ofFields_eq_some.mp found
    omega
  · split at found
    · obtain ⟨sameYear, sameMonth, sameDay⟩ := ofFields_eq_some.mp found
      have within : other.year = date.year → other.month = date.month - 1 → other.day ≤ before.day := by
        intro year month
        rw [sameDay, ← year, ← month]
        exact otherDay.2
      omega
    · obtain ⟨sameYear, sameMonth, sameDay⟩ := ofFields_eq_some.mp found
      have short := Nat.le_trans otherDay.2 (daysInMonth_le other.year other.month)
      have year := date.yearIn
      omega

/-- Every day after the first has a day before it. -/
theorem exists_yesterday {date : Day} (later : first < date) : ∃ before, date.yesterday = some before := by
  have year := date.yearIn
  have month := date.monthIn
  have day := date.dayIn
  have positive : ∀ year month, 1 ≤ daysInMonth year month := by
    intro year month
    unfold daysInMonth
    split
    · split <;> omega
    · split <;> omega
  have decDays : daysInMonth (date.year - 1) 12 = 31 := rfl
  rw [lt_iff_fields, first] at later
  dsimp only at later
  unfold yesterday
  split
  · exact ⟨⟨date.year, date.month, date.day - 1, year, month, by omega⟩, ofFields_eq_some.mpr ⟨rfl, rfl, rfl⟩⟩
  · split
    · exact ⟨⟨date.year, date.month - 1, daysInMonth date.year (date.month - 1), year, by omega, positive _ _, Nat.le_refl _⟩,
        ofFields_eq_some.mpr ⟨rfl, rfl, rfl⟩⟩
    · exact ⟨⟨date.year - 1, 12, 31, by omega, by omega, by omega⟩, ofFields_eq_some.mpr ⟨rfl, rfl, rfl⟩⟩

end Day

def newYearWeekday (year : Nat) : Nat :=
  (365 * (year - 1) + (year - 1) / 4 - (year - 1) / 100 + (year - 1) / 400) % 7

/-- The years from `first` to `last` look the same so many years later: every year as long, every
day on the same weekday. -/
def sameCalendar (first last shift : Nat) : Bool :=
  newYearWeekday first == newYearWeekday (first + shift) &&
    (List.range (last + 1 - first)).all fun offset =>
      isLeap (first + offset) == isLeap (first + offset + shift)

theorem sameCalendar_shorter {first last shorter shift : Nat} (same : sameCalendar first last shift = true)
    (within : shorter ≤ last) : sameCalendar first shorter shift = true := by
  simp only [sameCalendar, Bool.and_eq_true, List.all_eq_true, List.mem_range] at same ⊢
  refine ⟨same.1, ?_⟩
  intro offset inside
  exact same.2 offset (by omega)

theorem sameCalendar_leap {first last shift : Nat} (year : Nat) (same : sameCalendar first last shift = true)
    (above : first ≤ year) (below : year ≤ last) : isLeap (year + shift) = isLeap year := by
  simp only [sameCalendar, Bool.and_eq_true, List.all_eq_true, List.mem_range] at same
  have leap := same.2 (year - first) (by omega)
  rw [Nat.add_sub_cancel' above] at leap
  exact (eq_of_beq leap).symm

theorem later_of_sameCalendar {first last shift : Nat} (date : Day)
    (same : sameCalendar first last shift = true) (above : first ≤ date.year) (below : date.year ≤ last)
    (short : date.year + shift ≤ 9999) : ∃ moved, date.later shift = some moved := by
  have leap := sameCalendar_leap date.year same above below
  have length : daysInMonth (date.year + shift) date.month = daysInMonth date.year date.month := by
    simp only [daysInMonth, leap]
  refine ⟨⟨date.year + shift, date.month, date.day, ?_, date.monthIn, ?_⟩, ?_⟩
  · exact ⟨Nat.le_add_right_of_le date.yearIn.1, short⟩
  · rw [length]
    exact date.dayIn
  · rw [Day.later_eq_some]
    exact ⟨rfl, rfl, rfl⟩

/-- A day of the moved span moves back to a day. -/
theorem earlier_of_sameCalendar {first last shift : Nat} (moved : Day)
    (same : sameCalendar first last shift = true) (positive : 1 ≤ first)
    (above : first + shift ≤ moved.year) (below : moved.year ≤ last + shift) :
    ∃ date, moved.earlier shift = some date := by
  have leap : isLeap moved.year = isLeap (moved.year - shift) := by
    have leap := sameCalendar_leap (moved.year - shift) same (by omega) (by omega)
    rwa [Nat.sub_add_cancel (by omega)] at leap
  have length : daysInMonth (moved.year - shift) moved.month = daysInMonth moved.year moved.month := by
    simp only [daysInMonth, leap]
  refine ⟨⟨moved.year - shift, moved.month, moved.day, ?_, moved.monthIn, ?_⟩, ?_⟩
  · have bounds := moved.yearIn
    omega
  · rw [length]
    exact moved.dayIn
  · rw [Day.earlier, Day.ofFields_eq_some]
    exact ⟨rfl, rfl, rfl⟩

/-! ## Counting on by days -/

def daysBeforeYear (year : Nat) : Nat := 365 * (year - 1) + (year - 1) / 4 - (year - 1) / 100 + (year - 1) / 400

def daysBeforeMonth (year month : Nat) : Nat := ((List.range (month - 1)).map fun earlier => daysInMonth year (earlier + 1)).sum

namespace Day

/-- `toordinal()`: the first day of the calendar is day 1. -/
def ordinal (date : Day) : Nat := daysBeforeYear date.year + daysBeforeMonth date.year date.month + date.day

/-- `isoweekday()`, Monday as 1. -/
def isoweekday (date : Day) : Nat := (date.ordinal + 6) % 7 + 1

def tomorrow (date : Day) : Option Day :=
  if date.day < daysInMonth date.year date.month then ofFields date.year date.month (date.day + 1)
  else if date.month < 12 then ofFields date.year (date.month + 1) 1
  else ofFields (date.year + 1) 1 1

/-- `date + timedelta(days=…)`. -/
def addDays : Nat → Day → Option Day
  | 0, date => some date
  | days + 1, date => date.tomorrow.bind (addDays days)

/-- `date.replace(day=1)`. -/
def firstOfMonth (date : Day) : Day where
  year := date.year
  month := date.month
  day := 1
  yearIn := date.yearIn
  monthIn := date.monthIn
  dayIn := ⟨Nat.le_refl 1, Nat.le_trans date.dayIn.1 date.dayIn.2⟩

theorem daysInMonth_ge (year month : Nat) : 28 ≤ daysInMonth year month := by
  unfold daysInMonth
  split
  · split <;> omega
  · split <;> omega

theorem daysBeforeMonth_succ {year month : Nat} (positive : 1 ≤ month) :
    daysBeforeMonth year (month + 1) = daysBeforeMonth year month + daysInMonth year month := by
  obtain ⟨earlier, rfl⟩ := Nat.exists_eq_add_of_le' positive
  rw [daysBeforeMonth, daysBeforeMonth, Nat.add_sub_cancel, Nat.add_sub_cancel, List.range_succ, List.map_append, List.sum_append]
  rfl

theorem daysBeforeMonth_december (year : Nat) : daysBeforeMonth year 12 + 31 = if isLeap year then 366 else 365 := by
  have months : ∀ leap : Bool, isLeap year = leap → daysBeforeMonth year 12 + 31 = if leap then 366 else 365 := by
    intro leap is_
    cases leap <;> simp [daysBeforeMonth, daysInMonth, is_, List.range_succ]
  exact months _ rfl

theorem daysBeforeYear_succ {year : Nat} (positive : 1 ≤ year) :
    daysBeforeYear (year + 1) = daysBeforeYear year + if isLeap year then 366 else 365 := by
  obtain ⟨before, rfl⟩ := Nat.exists_eq_add_of_le' positive
  have fours : (before + 1) / 4 = before / 4 + if 4 ∣ before + 1 then 1 else 0 := Nat.succ_div
  have hundreds : (before + 1) / 100 = before / 100 + if 100 ∣ before + 1 then 1 else 0 := Nat.succ_div
  have fourHundreds : (before + 1) / 400 = before / 400 + if 400 ∣ before + 1 then 1 else 0 := Nat.succ_div
  have larger : before / 100 ≤ before / 4 := Nat.div_le_div_left (by omega) (by omega)
  have leap : isLeap (before + 1) = true ↔ 4 ∣ before + 1 ∧ (¬100 ∣ before + 1 ∨ 400 ∣ before + 1) := by
    simp only [isLeap, Bool.and_eq_true, Bool.or_eq_true, beq_iff_eq, bne_iff_ne, ne_eq, Nat.dvd_iff_mod_eq_zero]
  have centuries : 400 ∣ before + 1 → 100 ∣ before + 1 := Nat.dvd_trans (by decide)
  have decades : 100 ∣ before + 1 → 4 ∣ before + 1 := Nat.dvd_trans (by decide)
  unfold daysBeforeYear
  simp only [Nat.add_sub_cancel, leap]
  rw [fours, hundreds, fourHundreds]
  by_cases by4 : 4 ∣ before + 1
  · by_cases by100 : 100 ∣ before + 1
    · by_cases by400 : 400 ∣ before + 1
      · simp only [by4, by100, by400, if_true, or_true, and_true]
        omega
      · simp only [by4, by100, by400, if_true, if_false, not_true, or_false, and_false]
        omega
    · simp only [by4, by100, mt centuries by100, if_true, if_false, not_false_iff, true_or, and_true]
      omega
  · simp only [by4, mt decades by4, mt centuries (mt decades by4), if_false, false_and]
    omega

/-- The day after is the next day. -/
theorem ordinal_tomorrow {date next : Day} (found : date.tomorrow = some next) : next.ordinal = date.ordinal + 1 := by
  have month := date.monthIn
  have day := date.dayIn
  unfold tomorrow at found
  unfold ordinal
  split at found
  · obtain ⟨sameYear, sameMonth, sameDay⟩ := ofFields_eq_some.mp found
    rw [sameYear, sameMonth, sameDay]
    omega
  · split at found
    · obtain ⟨sameYear, sameMonth, sameDay⟩ := ofFields_eq_some.mp found
      rw [sameYear, sameMonth, sameDay, daysBeforeMonth_succ month.1]
      omega
    · obtain ⟨sameYear, sameMonth, sameDay⟩ := ofFields_eq_some.mp found
      have december : date.month = 12 := by omega
      have long : daysInMonth date.year date.month = 31 := december ▸ rfl
      have length := daysBeforeMonth_december date.year
      have first : daysBeforeMonth (date.year + 1) 1 = 0 := rfl
      rw [sameYear, sameMonth, sameDay, daysBeforeYear_succ date.yearIn.1, december, first]
      omega

theorem ordinal_addDays {days : Nat} {date next : Day} (found : date.addDays days = some next) : next.ordinal = date.ordinal + days := by
  induction days generalizing date with
  | zero =>
    cases found
    rfl
  | succ days ih =>
    obtain ⟨between, first, rest⟩ := Option.bind_eq_some_iff.mp found
    have its := ih rest
    rw [ordinal_tomorrow first] at its
    omega

theorem addDays_within {days : Nat} {date next : Day} (found : date.addDays days = some next)
    (within : date.day + days ≤ daysInMonth date.year date.month) :
    next.year = date.year ∧ next.month = date.month ∧ next.day = date.day + days := by
  induction days generalizing date with
  | zero =>
    cases found
    exact ⟨rfl, rfl, rfl⟩
  | succ days ih =>
    obtain ⟨between, first, rest⟩ := Option.bind_eq_some_iff.mp found
    rw [tomorrow, if_pos (by omega)] at first
    obtain ⟨year, month, day⟩ := ofFields_eq_some.mp first
    obtain ⟨sameYear, sameMonth, sameDay⟩ := ih rest (by rw [year, month, day]; omega)
    exact ⟨sameYear.trans year, sameMonth.trans month, by omega⟩

theorem isoweekday_ahead {weekday : Nat} {date next : Day} (range : 1 ≤ weekday ∧ weekday ≤ 7)
    (found : date.addDays ((weekday + 7 - date.isoweekday) % 7) = some next) : next.isoweekday = weekday := by
  have its := ordinal_addDays found
  unfold isoweekday at its ⊢
  omega

theorem isoweekday_addDays_week {date next : Day} (found : date.addDays 7 = some next) : next.isoweekday = date.isoweekday := by
  have its := ordinal_addDays found
  unfold isoweekday
  omega

theorem firstWeekday_le {weekday : Nat} {date next : Day}
    (found : date.firstOfMonth.addDays ((weekday + 7 - date.firstOfMonth.isoweekday) % 7) = some next) : next.day ≤ 7 := by
  have long := daysInMonth_ge date.firstOfMonth.year date.firstOfMonth.month
  have first : date.firstOfMonth.day = 1 := rfl
  obtain ⟨-, -, day⟩ := addDays_within found (by rw [first]; omega)
  rw [day, first]
  omega

end Day

/-! ## The days of a span moved by whole years -/

theorem daysBeforeMonth_leap {year other : Nat} (leap : isLeap other = isLeap year) (month : Nat) :
    daysBeforeMonth other month = daysBeforeMonth year month := by
  have length : ∀ earlier, daysInMonth other earlier = daysInMonth year earlier := by
    intro earlier
    simp only [daysInMonth, leap]
  simp only [daysBeforeMonth, length]

theorem daysBeforeYear_same {first last shift : Nat} (same : sameCalendar first last shift = true) (positive : 1 ≤ first)
    (year : Nat) (above : first ≤ year) (below : year ≤ last) :
    daysBeforeYear (year + shift) % 7 = daysBeforeYear year % 7 := by
  induction year, above using Nat.le_induction with
  | base =>
    simp only [sameCalendar, Bool.and_eq_true, beq_iff_eq] at same
    exact same.1.symm
  | succ year above ih =>
    have leap := sameCalendar_leap year same above (by omega)
    have before := ih (by omega)
    rw [Nat.add_right_comm, Day.daysBeforeYear_succ (by omega), Day.daysBeforeYear_succ (by omega), leap]
    omega

/-- A day, moved by so many years, is the same day of the same month, on the same weekday of a year as long. -/
structure SameDate (shift : Nat) (date moved : Day) : Prop where
  year : moved.year = date.year + shift
  month : moved.month = date.month
  day : moved.day = date.day
  weekday : moved.isoweekday = date.isoweekday
  leap : isLeap moved.year = isLeap date.year

/-- Every day of the years from `first` to `last` moves to such a day. -/
def KeepsDates (first last shift : Nat) : Prop :=
  ∀ date : Day, first ≤ date.year → date.year ≤ last → ∃ moved, date.later shift = some moved ∧ SameDate shift date moved

theorem keepsDates_of_sameCalendar {first last shift : Nat} (same : sameCalendar first last shift = true)
    (positive : 1 ≤ first) (short : last + shift ≤ 9999) : KeepsDates first last shift := by
  intro date above below
  obtain ⟨moved, forward⟩ := later_of_sameCalendar date same above below (by omega)
  obtain ⟨year, month, day⟩ := Day.later_eq_some.mp forward
  have leap : isLeap moved.year = isLeap date.year := by
    rw [year]
    exact sameCalendar_leap date.year same above below
  have before := daysBeforeYear_same same positive date.year above below
  have months := daysBeforeMonth_leap leap date.month
  refine ⟨moved, forward, year, month, day, ?_, leap⟩
  unfold Day.isoweekday Day.ordinal
  rw [month, months, day, year]
  omega

/-! The days, weeks and months of the calendar: the period a moment is in begins at or before it, and no later than the period of any
later moment. -/

namespace Day
variable {date before first second next : Day}

theorem ordinal_yesterday (found : date.yesterday = some before) : date.ordinal = before.ordinal + 1 := by
  have month := date.monthIn
  have day := date.dayIn
  unfold yesterday at found
  unfold ordinal
  split at found
  · obtain ⟨sameYear, sameMonth, sameDay⟩ := ofFields_eq_some.mp found
    rw [sameYear, sameMonth, sameDay]
    omega
  · split at found
    · obtain ⟨sameYear, sameMonth, sameDay⟩ := ofFields_eq_some.mp found
      have earlier : 1 ≤ date.month - 1 := by omega
      have grown := @daysBeforeMonth_succ date.year (date.month - 1) earlier
      rw [Nat.sub_add_cancel month.1] at grown
      rw [sameYear, sameMonth, sameDay, grown]
      omega
    · obtain ⟨sameYear, sameMonth, sameDay⟩ := ofFields_eq_some.mp found
      have january : date.month = 1 := by omega
      have positive : 1 ≤ date.year - 1 := by
        have year := before.yearIn
        omega
      have grown := daysBeforeYear_succ positive
      have length := daysBeforeMonth_december (date.year - 1)
      have none_ : daysBeforeMonth date.year 1 = 0 := rfl
      rw [Nat.sub_add_cancel date.yearIn.1] at grown
      rw [sameYear, sameMonth, sameDay, january, none_, grown]
      omega

theorem ordinal_pos (date : Day) : 0 < date.ordinal := by
  have day := date.dayIn
  unfold ordinal
  omega

theorem ordinal_lt {first second : Day} (later : first < second) : first.ordinal < second.ordinal := by
  obtain ⟨before, found⟩ := exists_yesterday (lt_of_le_of_lt (first_le first) later)
  have grown := ordinal_yesterday found
  rcases lt_or_eq_of_le ((le_yesterday found).mpr later) with below | rfl
  · have earlier : before < second := (le_yesterday found).mp le_rfl
    have its := ordinal_lt below
    omega
  · omega
termination_by second.place
decreasing_by exact earlier

theorem ordinal_le_iff : first.ordinal ≤ second.ordinal ↔ first ≤ second := by
  constructor
  · intro below
    exact not_lt.mp fun later => absurd (ordinal_lt later) (Nat.not_lt.mpr below)
  · intro below
    rcases lt_or_eq_of_le below with later | rfl
    · exact Nat.le_of_lt (ordinal_lt later)
    · exact Nat.le_refl _

/-- `date - timedelta(days=…)`. -/
def daysBack : Nat → Day → Option Day
  | 0, date => some date
  | days + 1, date => date.yesterday.bind (daysBack days)

theorem ordinal_daysBack {days : Nat} (found : date.daysBack days = some before) : before.ordinal + days = date.ordinal := by
  induction days generalizing date with
  | zero =>
    cases found
    rfl
  | succ days ih =>
    obtain ⟨between, one, rest⟩ := Option.bind_eq_some_iff.mp found
    have its := ih rest
    have grown := ordinal_yesterday one
    omega

theorem exists_daysBack {days : Nat} (room : days < date.ordinal) : ∃ before, date.daysBack days = some before := by
  induction days generalizing date with
  | zero => exact ⟨date, rfl⟩
  | succ days ih =>
    have notFirst : first < date := by
      refine lt_of_le_of_ne (first_le date) fun same => ?_
      have one : (Day.first).ordinal = 1 := rfl
      rw [← same, one] at room
      omega
    obtain ⟨between, one⟩ := exists_yesterday notFirst
    have grown := ordinal_yesterday one
    obtain ⟨before, rest⟩ := @ih between (by omega)
    exact ⟨before, Option.bind_eq_some_iff.mpr ⟨between, one, rest⟩⟩

/-- `date - timedelta(days=date.weekday())`: the Monday of the week. -/
def weekStart (date : Day) : Day := (date.daysBack (date.isoweekday - 1)).getD date

theorem ordinal_weekStart (date : Day) : date.weekStart.ordinal + (date.isoweekday - 1) = date.ordinal := by
  have positive := date.ordinal_pos
  have room : date.isoweekday - 1 < date.ordinal := by
    unfold isoweekday
    omega
  obtain ⟨before, found⟩ := exists_daysBack room
  rw [weekStart, found, Option.getD_some]
  exact ordinal_daysBack found

theorem weekStart_le (date : Day) : date.weekStart ≤ date := by
  have its := date.ordinal_weekStart
  exact ordinal_le_iff.mp (by omega)

theorem weekStart_mono (below : first ≤ second) : first.weekStart ≤ second.weekStart := by
  have one := first.ordinal_weekStart
  have two := second.ordinal_weekStart
  have days := ordinal_le_iff.mpr below
  have positive := first.ordinal_pos
  refine ordinal_le_iff.mp ?_
  unfold isoweekday at one two
  omega

theorem firstOfMonth_le (date : Day) : date.firstOfMonth ≤ date := by
  have day := date.dayIn
  rw [le_iff, place, place, firstOfMonth]
  dsimp only
  omega

theorem firstOfMonth_mono (below : first ≤ second) : first.firstOfMonth ≤ second.firstOfMonth := by
  have day := first.dayIn
  have short := Nat.le_trans second.dayIn.2 (daysInMonth_le second.year second.month)
  rw [le_iff, place, place] at below ⊢
  unfold firstOfMonth
  dsimp only
  omega

end Day

namespace Day

variable {date next other : Day}

/-- Every day but the last has a day after it. -/
theorem exists_tomorrow (before : date < last) : ∃ next, date.tomorrow = some next := by
  have month := date.monthIn
  have year := date.yearIn
  have day := date.dayIn
  have found : ∀ {y m d : Nat}, (1 ≤ y ∧ y ≤ 9999) → (1 ≤ m ∧ m ≤ 12) → (1 ≤ d ∧ d ≤ daysInMonth y m) → ∃ next, ofFields y m d = some next :=
    fun yearIn monthIn dayIn => ⟨⟨_, _, _, yearIn, monthIn, dayIn⟩, ofFields_eq_some.mpr ⟨rfl, rfl, rfl⟩⟩
  unfold tomorrow
  split
  · exact found year month (by omega)
  · split
    · have := daysInMonth_ge date.year (date.month + 1)
      exact found year (by omega) (by omega)
    · rename_i full december
      have long : daysInMonth date.year 12 = 31 := rfl
      have its : date.month = 12 := by omega
      have short : date.year < 9999 := by
        rw [lt_iff, place, place] at before
        rw [its] at full before
        have lastYear : last.year = 9999 ∧ last.month = 12 ∧ last.day = 31 := ⟨rfl, rfl, rfl⟩
        omega
      have := daysInMonth_ge (date.year + 1) 1
      exact found (by omega) (by decide) (by omega)

theorem exists_addDays {days : Nat} (room : date.ordinal + days ≤ last.ordinal) : ∃ next, date.addDays days = some next := by
  induction days generalizing date with
  | zero => exact ⟨date, rfl⟩
  | succ days ih =>
    have before : date < last := by
      refine lt_of_le_of_ne (le_last date) ?_
      rintro rfl
      omega
    obtain ⟨between, one⟩ := exists_tomorrow before
    have grown := ordinal_tomorrow one
    obtain ⟨next, rest⟩ := @ih between (by omega)
    exact ⟨next, Option.bind_eq_some_iff.mpr ⟨between, one, rest⟩⟩

theorem room_of_addDays {days : Nat} (found : date.addDays days = some next) : date.ordinal + days ≤ last.ordinal := by
  rw [← ordinal_addDays found]
  exact ordinal_le_iff.mpr (le_last next)

theorem addDays_add (first second : Nat) (date : Day) : date.addDays (first + second) = (date.addDays first).bind (addDays second) := by
  induction first generalizing date with
  | zero => rw [Nat.zero_add]; rfl
  | succ first ih =>
    rw [Nat.add_right_comm, addDays, addDays, Option.bind_assoc]
    exact congrArg _ (funext ih)

/-- Thirty-two days after a month's first day is in the next month. -/
theorem month_after (found : date.firstOfMonth.addDays 32 = some next) :
    next.year * 12 + next.month = date.year * 12 + date.month + 1 := by
  have long := daysInMonth_ge date.year date.month
  have short := daysInMonth_le date.year date.month
  have month := date.monthIn
  have begins : date.firstOfMonth.year = date.year ∧ date.firstOfMonth.month = date.month ∧ date.firstOfMonth.day = 1 := ⟨rfl, rfl, rfl⟩
  have split : 32 = (daysInMonth date.year date.month - 1) + (1 + (32 - daysInMonth date.year date.month)) := by omega
  rw [split, addDays_add, Option.bind_eq_some_iff] at found
  obtain ⟨end_, toEnd, found⟩ := found
  rw [addDays_add, Option.bind_eq_some_iff] at found
  obtain ⟨first, toFirst, found⟩ := found
  obtain ⟨endYear, endMonth, endDay⟩ := addDays_within toEnd (by rw [begins.1, begins.2.1]; omega)
  have lastDay : end_.day = daysInMonth date.year date.month := by omega
  have fullMonth : end_.year = date.year ∧ end_.month = date.month := ⟨endYear, endMonth⟩
  have step : end_.tomorrow = some first := by
    obtain ⟨_, one, same⟩ := Option.bind_eq_some_iff.mp toFirst
    cases same
    exact one
  have begun : first.year * 12 + first.month = date.year * 12 + date.month + 1 ∧ first.day = 1 := by
    rw [tomorrow, fullMonth.1, fullMonth.2, lastDay, if_neg (Nat.lt_irrefl _)] at step
    split at step
    · obtain ⟨year, month, day⟩ := ofFields_eq_some.mp step
      omega
    · obtain ⟨year, month, day⟩ := ofFields_eq_some.mp step
      omega
  have room := daysInMonth_ge first.year first.month
  obtain ⟨year, month, -⟩ := addDays_within found (by omega)
  rw [year, month]
  exact begun.1

theorem eq_of_weekday (sameYear : date.year = other.year) (sameMonth : date.month = other.month) (early : date.day ≤ 7) (its : other.day ≤ 7)
    (weekday : date.isoweekday = other.isoweekday) : date = other := by
  have one := date.dayIn
  have two := other.dayIn
  have days : date.day = other.day := by
    unfold isoweekday ordinal at weekday
    rw [sameYear, sameMonth] at weekday
    omega
  refine place_injective ?_
  rw [place, place, sameYear, sameMonth, days]

end Day

/-- A moment in UTC: its day, and the microsecond of the day. -/
abbrev UtcTime := Day ×ₗ Nat

/-- A calendar period something is done once in. -/
inductive Period where
  | day
  | week
  | month

namespace Period
variable (period : Period) {first second : Day} {before now : UtcTime}

def firstDay : Period → Day → Day
  | day, today => today
  | week, today => today.weekStart
  | month, today => today.firstOfMonth

theorem firstDay_le (date : Day) : period.firstDay date ≤ date := by
  cases period with
  | day => exact le_rfl
  | week => exact date.weekStart_le
  | month => exact date.firstOfMonth_le

theorem firstDay_mono (below : first ≤ second) : period.firstDay first ≤ period.firstDay second := by
  cases period with
  | day => exact below
  | week => exact Day.weekStart_mono below
  | month => exact Day.firstOfMonth_mono below

def start (now : UtcTime) : UtcTime := toLex (period.firstDay (ofLex now).1, 0)

theorem start_le (now : UtcTime) : period.start now ≤ now := by
  rw [Prod.Lex.le_iff]
  rcases lt_or_eq_of_le (period.firstDay_le (ofLex now).1) with earlier | same
  · exact .inl earlier
  · exact .inr ⟨same, Nat.zero_le _⟩

theorem start_mono (below : before ≤ now) : period.start before ≤ period.start now := by
  have days : (ofLex before).1 ≤ (ofLex now).1 := by
    rcases Prod.Lex.le_iff.mp below with earlier | ⟨same, -⟩
    · exact le_of_lt earlier
    · exact le_of_eq same
  rw [Prod.Lex.le_iff]
  rcases lt_or_eq_of_le (period.firstDay_mono days) with earlier | same
  · exact .inl earlier
  · exact .inr ⟨same, le_rfl⟩

theorem start_lt_of_lt (earlier : before < period.start now) : period.start before < period.start now :=
  lt_of_le_of_lt (period.start_le before) earlier

end Period
end Grc.Lib
