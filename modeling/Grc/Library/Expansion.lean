import Grc.Library.Recurrence
import Mathlib.Data.Set.Card

/-! What `expand` answers, given that `python-dateutil` walks a rule as RFC 5545 reads it: the
days the rule falls due in the span, in order, or a refusal when they are more than the cap. -/
namespace Grc.Library

open Grc.Shared Grc.Lib

def carries (text name : String) : Bool := (partsOf text.toList).any (·.1 == name)

/-- `python-dateutil` reads rules as RFC 5545 does, where `falls rule anchor day` says that the
rule falls due on the day when its series is anchored at the anchor. -/
structure Dateutil.Correct {Rule : Type} (dateutil : Dateutil Rule) (falls : Rule → Day → Day → Prop) :
    Prop where
  /-- The anchor is the one given, and any other would have parsed too. -/
  anchored : ∀ {text start parsed}, dateutil.rrulestr text start = some parsed → parsed.dtstart = start
  reanchored : ∀ {text start parsed}, dateutil.rrulestr text start = some parsed →
    ∀ other, dateutil.rrulestr text other = some { parsed with dtstart := other }
  counted : ∀ {text start parsed}, dateutil.rrulestr text start = some parsed →
    carries text "COUNT" = false → parsed.count = none
  bounded : ∀ {text start parsed}, dateutil.rrulestr text start = some parsed →
    carries text "UNTIL" = false → parsed.lastDay = none
  /-- A walk without a count is every day the rule falls due up to its last one, in order. -/
  sorted : ∀ parsed, (dateutil.walk parsed).Pairwise (· < ·)
  walked : ∀ parsed day, parsed.count = none →
    (day ∈ dateutil.walk parsed ↔ falls parsed.rule parsed.dtstart day ∧ parsed.dtstart ≤ day ∧
      ∀ last ∈ parsed.lastDay, day ≤ last)
  /-- A rule reads the calendar and nothing else, the year either side included. -/
  calendar : ∀ {rule anchor day anchorMoved dayMoved shift},
    sameCalendar (max (anchor.year - 1) 1) (min (day.year + 1) 9999) shift = true →
    anchor.later shift = some anchorMoved → day.later shift = some dayMoved → anchor ≤ day →
    (falls rule anchorMoved dayMoved ↔ falls rule anchor day)
  /-- Any day a series falls due on anchors the rest of it. -/
  rephased : ∀ {rule anchor start day}, falls rule anchor start → start ≤ day →
    (falls rule start day ↔ falls rule anchor day)

/-- What the walk of a rule without a count is, and that a rule reads the calendar and nothing else. -/
structure Dateutil.Walks {Rule : Type} (dateutil : Dateutil Rule) (falls : Rule → Day → Day → Prop) : Prop where
  sorted : ∀ parsed, (dateutil.walk parsed).Pairwise (· < ·)
  walked : ∀ parsed day, parsed.count = none →
    (day ∈ dateutil.walk parsed ↔ falls parsed.rule parsed.dtstart day ∧ parsed.dtstart ≤ day ∧
      ∀ last ∈ parsed.lastDay, day ≤ last)
  calendar : ∀ {rule anchor day anchorMoved dayMoved shift},
    sameCalendar (max (anchor.year - 1) 1) (min (day.year + 1) 9999) shift = true →
    min (day.year + 1) 9999 + shift ≤ 9999 →
    anchor.later shift = some anchorMoved → day.later shift = some dayMoved → anchor ≤ day →
    (falls rule anchorMoved dayMoved ↔ falls rule anchor day)

theorem Dateutil.Correct.walks {Rule : Type} {dateutil : Dateutil Rule} {falls : Rule → Day → Day → Prop}
    (correct : dateutil.Correct falls) : dateutil.Walks falls where
  sorted := correct.sorted
  walked := correct.walked
  calendar := fun same _ => correct.calendar same

def Dateutil.fallsOn {Rule : Type} (dateutil : Dateutil Rule) (falls : Rule → Day → Day → Prop)
    (text : String) (anchor day : Day) : Prop :=
  ∃ parsed, dateutil.rrulestr text anchor = some parsed ∧ falls parsed.rule anchor day

theorem allowed_plain {letter : Char} (plain : allowed letter = true) :
    isSpace letter = false ∧ upper letter = [letter] ∧ letter ≠ ':' := by
  have plainAscii : ∀ code < 128, allowed (Char.ofNat code) = true →
      isSpace (Char.ofNat code) = false ∧ upper (Char.ofNat code) = [Char.ofNat code] ∧
        Char.ofNat code ≠ ':' := by decide
  have small : letter.toNat < 128 := by
    unfold allowed at plain
    delta Char.isUpper at plain
    simp only [Char.isDigit, Bool.or_eq_true, Bool.and_eq_true, decide_eq_true_eq,
      List.mem_cons, List.not_mem_nil, or_false] at plain
    rcases plain with (⟨_, below⟩ | ⟨_, below⟩) | rfl | rfl | rfl | rfl | rfl
    · exact Nat.lt_of_le_of_lt below (by decide)
    · exact Nat.lt_of_le_of_lt below (by decide)
    all_goals decide
  have same : Char.ofNat letter.toNat = letter := Char.ofNat_toNat letter
  exact same ▸ plainAscii letter.toNat small (same.symm ▸ plain)

theorem spelled_ofList {text : List Char} (plain : text.all allowed = true) :
    spelled (String.ofList text) = text := by
  rw [List.all_eq_true] at plain
  have noBlanks : (text.dropWhile isSpace).rdropWhile isSpace = text := by
    have front : text.dropWhile isSpace = text := by
      rw [List.dropWhile_eq_self_iff]
      intro nonempty
      simp [(allowed_plain (plain _ (List.getElem_mem nonempty))).1]
    rw [front, List.rdropWhile_eq_self_iff]
    intro nonempty
    simp [(allowed_plain (plain _ (List.getLast_mem nonempty))).1]
  have sameCase : text.flatMap upper = text := by
    have each : text.flatMap upper = text.flatMap fun letter => [letter] := by
      rw [List.flatMap_congr fun letter member => (allowed_plain (plain letter member)).2.1]
    rw [each]
    simp
  have noPrefix : ("RRULE:".toList).isPrefixOf text = false := by
    by_contra found
    simp only [Bool.not_eq_false, List.isPrefixOf_iff_prefix] at found
    have colon : ':' ∈ text := found.subset (by decide)
    exact (allowed_plain (plain _ colon)).2.2 rfl
  simp only [spelled, String.toList_ofList, noBlanks, sameCase, withoutPrefix, noPrefix, Bool.false_eq_true,
    if_false]

theorem normalised_stored {rule text : String} (spelling : normalised rule = .ok text) :
    normalised text = .ok text := by
  simp only [normalised, bind_ok, require_ok] at spelling
  obtain ⟨_, shape, _, named, _, frequency, _, positive, _, oneEnd, stored⟩ := spelling
  cases stored
  have same : spelled (String.ofList (spelled rule)) = spelled rule := spelled_ofList shape.2.2
  simp only [normalised, same, bind_ok, require_ok]
  exact ⟨(), shape, (), named, (), frequency, (), positive, (), oneEnd, trivial⟩

theorem searchShift_same (first last limit : Nat) :
    searchShift first last limit ≤ limit ∧
      (searchShift first last limit = 0 ∨ sameCalendar first last (searchShift first last limit) = true) := by
  induction limit with
  | zero => exact ⟨le_refl _, Or.inl rfl⟩
  | succ shift ih =>
    unfold searchShift
    by_cases same : sameCalendar first last (shift + 1) = true
    · rw [if_pos same]
      exact ⟨le_refl _, Or.inr same⟩
    · rw [if_neg same]
      exact ⟨Nat.le_succ_of_le ih.1, ih.2⟩

theorem sameCalendar_zero (first last : Nat) : sameCalendar first last 0 = true := by
  simp [sameCalendar]

theorem shiftOf_same (first : Nat) {last : Nat} (short : last ≤ 9999) :
    sameCalendar (max (first - 1) 1) (min (last + 1) 9999) (shiftOf first last) = true ∧
      last + shiftOf first last ≤ 9999 := by
  obtain ⟨small, same⟩ := searchShift_same (max (first - 1) 1) (min (last + 1) 9999)
    (9999 - min (last + 1) 9999)
  constructor
  · rcases same with zero | same
    · unfold shiftOf
      simp only [zero]
      exact sameCalendar_zero _ _
    · exact same
  · have bound : shiftOf first last ≤ 9999 - min (last + 1) 9999 := small
    omega

theorem shiftOf_room (first last : Nat) (short : last ≤ 9999) : min (last + 1) 9999 + shiftOf first last ≤ 9999 := by
  have bound : shiftOf first last ≤ 9999 - min (last + 1) 9999 :=
    (searchShift_same (max (first - 1) 1) (min (last + 1) 9999) (9999 - min (last + 1) 9999)).1
  omega

def movedBack (shift : Nat) (due : Day) : Day := (due.earlier shift).getD due

section Collect
variable {cap shift : Nat} {rule : String} {last : Day}

theorem collect_eq {walked days : List Day}
    (back : ∀ due ∈ walked, due.earlier shift = some (movedBack shift due))
    (inTime : ∀ due ∈ walked, due ≤ last) (room : days.length ≤ cap) :
    collect cap rule shift last walked days =
      if days.length + walked.length ≤ cap then .ok (days ++ walked.map (movedBack shift))
      else .error (tooOften rule cap) := by
  induction walked generalizing days with
  | nil => simp [collect, room]
  | cons due rest ih =>
    have notLate : ¬last < due := not_lt.mpr (inTime due List.mem_cons_self)
    rw [collect, if_neg notLate]
    by_cases full : days.length = cap
    · rw [if_pos full, if_neg]
      simp only [List.length_cons]
      omega
    · have more : (days ++ [movedBack shift due]).length = days.length + 1 := by simp
      have further := @ih (days ++ [movedBack shift due])
        (fun due member => back due (List.mem_cons_of_mem _ member))
        (fun due member => inTime due (List.mem_cons_of_mem _ member)) (by omega)
      rw [if_neg full, back due List.mem_cons_self]
      simp only [further, more, List.length_cons, List.map_cons, List.append_assoc, List.singleton_append,
        Nat.add_assoc, Nat.add_comm 1]

end Collect

variable {Rule : Type} {dateutil : Dateutil Rule} {falls : Rule → Day → Day → Prop}

theorem walk_moved (walks : dateutil.Walks falls) (parsed : Rrule Rule)
    {start finish startMoved finishMoved : Day} {shift : Nat} (uncounted : parsed.count = none)
    (same : sameCalendar (max (start.year - 1) 1) (min (finish.year + 1) 9999) shift = true)
    (room : min (finish.year + 1) 9999 + shift ≤ 9999) (startForward : start.later shift = some startMoved)
    (finishForward : finish.later shift = some finishMoved) :
    let walked := dateutil.walk { parsed with dtstart := startMoved, lastDay := some finishMoved }
    (∀ due ∈ walked, due.earlier shift = some (movedBack shift due)) ∧
      ∀ day, day ∈ walked.map (movedBack shift) ↔ falls parsed.rule start day ∧ start ≤ day ∧ day ≤ finish := by
  intro walked
  have member : ∀ due, due ∈ walked ↔
      falls parsed.rule startMoved due ∧ startMoved ≤ due ∧ due ≤ finishMoved := by
    intro due
    simpa using walks.walked { parsed with dtstart := startMoved, lastDay := some finishMoved } due uncounted
  have startYear := (Day.later_eq_some.mp startForward).1
  have finishYear := (Day.later_eq_some.mp finishForward).1
  have startPositive := start.yearIn
  have finishPositive := finish.yearIn
  have back : ∀ due ∈ walked, due.earlier shift = some (movedBack shift due) := by
    intro due due_in
    obtain ⟨_, above, below⟩ := (member due).mp due_in
    have aboveYear := Day.year_le above
    have belowYear := Day.year_le below
    obtain ⟨date, back⟩ := earlier_of_sameCalendar due same (by omega) (by omega) (by omega)
    simp [movedBack, back]
  have sameRule : ∀ day due, day.later shift = some due → start ≤ day → day ≤ finish →
      (falls parsed.rule startMoved due ↔ falls parsed.rule start day) := by
    intro day due forward above below
    have dayYear := Day.year_le below
    exact walks.calendar (sameCalendar_shorter same (by omega)) (by omega) startForward forward above
  refine ⟨back, ?_⟩
  intro day
  rw [List.mem_map]
  constructor
  · rintro ⟨due, due_in, rfl⟩
    have forward := Day.later_of_earlier (back due due_in)
    obtain ⟨due_falls, above, below⟩ := (member due).mp due_in
    have above := (Day.later_le_later startForward forward).mp above
    have below := (Day.later_le_later forward finishForward).mp below
    exact ⟨(sameRule _ due forward above below).mp due_falls, above, below⟩
  · rintro ⟨day_falls, above, below⟩
    have aboveYear := Day.year_le above
    have belowYear := Day.year_le below
    have movedIn := finishMoved.yearIn
    obtain ⟨due, forward⟩ := later_of_sameCalendar day same (by omega) (by omega) (by omega)
    refine ⟨due, (member due).mpr ⟨(sameRule day due forward above below).mpr day_falls, ?_, ?_⟩, ?_⟩
    · exact (Day.later_le_later startForward forward).mpr above
    · exact (Day.later_le_later forward finishForward).mpr below
    · simp [movedBack, Day.earlier_of_later forward]

/-- A rule that nothing ends expands to the days it falls due in the span, in order, unless they
are more than the cap. -/
theorem expand_unending (correct : dateutil.Correct falls) (cap : Nat) {rule text : String}
    {start finish : Day} {parsed : Rrule Rule} (spelling : normalised rule = .ok text)
    (read : dateutil.rrulestr text start = some parsed) (uncounted : parsed.count = none)
    (unbounded : parsed.lastDay = none) (ordered : start ≤ finish) :
    ∃ days : List Day, days.Pairwise (· < ·) ∧
      (∀ day, day ∈ days ↔ falls parsed.rule start day ∧ start ≤ day ∧ day ≤ finish) ∧
      expand dateutil cap rule start finish =
        if days.length ≤ cap then .ok days else .error (tooOften rule cap) := by
  obtain ⟨same, short⟩ := shiftOf_same start.year finish.yearIn.2
  have startPositive := start.yearIn
  have finishPositive := finish.yearIn
  have years := Day.year_le ordered
  obtain ⟨startMoved, startForward⟩ :=
    later_of_sameCalendar start same (by omega) (by omega) (by omega)
  obtain ⟨finishMoved, finishForward⟩ :=
    later_of_sameCalendar finish same (by omega) (by omega) (by omega)
  have anchor : parsed.dtstart = start := correct.anchored read
  obtain ⟨back, member⟩ := walk_moved correct.walks parsed uncounted same
    (shiftOf_room start.year finish.year finish.yearIn.2) startForward finishForward
  have sorted := correct.sorted { parsed with dtstart := startMoved, lastDay := some finishMoved }
  have inTime : ∀ due ∈ dateutil.walk { parsed with dtstart := startMoved, lastDay := some finishMoved },
      due ≤ finishMoved := by
    intro due due_in
    exact ((correct.walked { parsed with dtstart := startMoved, lastDay := some finishMoved } due
      uncounted).mp due_in).2.2 finishMoved rfl
  refine ⟨_, ?_, member, ?_⟩
  · rw [List.pairwise_map]
    refine sorted.imp_of_mem ?_
    intro first second firstIn secondIn before
    exact (Day.later_lt_later (Day.later_of_earlier (back first firstIn))
      (Day.later_of_earlier (back second secondIn))).mp before
  · have notLate : ¬finish < start := not_lt.mpr ordered
    have uncapped : parsed.count.isSome = false := by rw [uncounted, Option.isSome_none]
    simp only [expand, spelling, read, demand, bind, Except.bind, expandParsed, unbounded, lastOf, anchor,
      if_neg notLate, expandShifted, finishForward, startForward, uncapped, Bool.false_eq_true, if_false]
    rw [collect_eq back inTime (Nat.zero_le _)]
    simp

theorem validated_read {cap : Nat} {rule text : String} {start : Day}
    (accepted : validated dateutil cap rule start = .ok text) :
    normalised rule = .ok text ∧ ∃ parsed, dateutil.rrulestr text start = some parsed := by
  simp only [validated, expand, bind_ok, require_ok, demand_ok] at accepted
  obtain ⟨_, _, _, ⟨text', spelling, parsed, read, _⟩, _, _, stored⟩ := accepted
  rw [stored] at spelling
  cases spelling
  exact ⟨stored, parsed, read⟩

end Grc.Library

/-! `python-dateutil` on one rule, the first of every month, and that it is read as RFC 5545 reads it. -/
namespace Grc.Library

open Grc.Lib

def firstOf (place : Nat) : Option Day := Day.ofFields (place / 12) (place % 12 + 1) 1

def walkEnd (parsed : Rrule Unit) : Day := parsed.lastDay.getD .last

/-- `python-dateutil`, on the rule for the first of every month. -/
def monthlyFirsts : Dateutil Unit where
  rrulestr text start :=
    if text = "FREQ=MONTHLY;BYMONTHDAY=1" then some { rule := (), dtstart := start } else none
  walk parsed :=
    let days := ((List.range' (parsed.dtstart.year * 12) ((walkEnd parsed).year * 12 + 12 -
      parsed.dtstart.year * 12)).filterMap firstOf).filter fun day =>
        parsed.dtstart ≤ day ∧ day ≤ walkEnd parsed
    match parsed.count with
    | none => days
    | some count => days.take count

def onTheFirst (_ : Unit) (anchor day : Day) : Prop := anchor ≤ day ∧ day.day = 1

theorem firstOf_eq_some {place : Nat} {day : Day} :
    firstOf place = some day ↔ day.year * 12 + day.month = place + 1 ∧ day.day = 1 := by
  rw [firstOf, Day.ofFields_eq_some]
  have months := day.monthIn
  constructor
  · rintro ⟨year, month, first⟩
    exact ⟨by omega, first⟩
  · rintro ⟨year, first⟩
    exact ⟨by omega, by omega, first⟩

theorem firsts_sorted (first length : Nat) :
    ((List.range' first length).filterMap firstOf).Pairwise (· < ·) := by
  rw [List.pairwise_filterMap]
  refine (List.pairwise_lt_range' (s := first) (n := length)).imp ?_
  intro place other before day named later laterNamed
  obtain ⟨year, date⟩ := firstOf_eq_some.mp named
  obtain ⟨otherYear, otherDate⟩ := firstOf_eq_some.mp laterNamed
  have months := day.monthIn
  have otherMonths := later.monthIn
  rw [Day.lt_iff]
  unfold Day.place
  omega

theorem monthlyFirsts_correct : monthlyFirsts.Correct onTheFirst where
  anchored := by
    intro text start parsed read
    simp only [monthlyFirsts, Option.ite_none_right_eq_some, Option.some.injEq] at read
    rw [← read.2]
  reanchored := by
    intro text start parsed read other
    simp only [monthlyFirsts, Option.ite_none_right_eq_some, Option.some.injEq] at read ⊢
    exact ⟨read.1, by rw [← read.2]⟩
  counted := by
    intro text start parsed read _
    simp only [monthlyFirsts, Option.ite_none_right_eq_some, Option.some.injEq] at read
    rw [← read.2]
  bounded := by
    intro text start parsed read _
    simp only [monthlyFirsts, Option.ite_none_right_eq_some, Option.some.injEq] at read
    rw [← read.2]
  sorted := by
    intro parsed
    have days := (firsts_sorted (parsed.dtstart.year * 12) ((walkEnd parsed).year * 12 + 12 -
      parsed.dtstart.year * 12)).filter fun day =>
        decide (parsed.dtstart ≤ day ∧ day ≤ walkEnd parsed)
    simp only [monthlyFirsts]
    cases parsed.count with
    | none => exact days
    | some count => exact days.sublist (List.take_sublist count _)
  walked := by
    intro parsed day uncounted
    simp only [monthlyFirsts, uncounted, List.mem_filter, List.mem_filterMap, List.mem_range'_1,
      firstOf_eq_some, decide_eq_true_eq, onTheFirst]
    have ended : (∀ last ∈ parsed.lastDay, day ≤ last) ↔ day ≤ walkEnd parsed := by
      unfold walkEnd
      cases parsed.lastDay with
      | none =>
        simp only [Option.mem_def, reduceCtorEq, false_implies, implies_true, Option.getD_none, true_iff]
        exact Day.le_last day
      | some last => simp
    rw [ended]
    constructor
    · rintro ⟨⟨place, _, _, first⟩, above, below⟩
      exact ⟨⟨above, first⟩, above, below⟩
    · rintro ⟨⟨above, first⟩, _, below⟩
      have aboveYear := Day.year_le above
      have belowYear := Day.year_le below
      have months := day.monthIn
      exact ⟨⟨day.year * 12 + day.month - 1, by omega, by omega, first⟩, above, below⟩
  calendar := by
    intro rule anchor day anchorMoved dayMoved shift _ anchorForward dayForward _
    unfold onTheFirst
    rw [Day.later_le_later anchorForward dayForward, (Day.later_eq_some.mp dayForward).2.2]
  rephased := by
    rintro rule anchor start day ⟨before, _⟩ above
    constructor
    · rintro ⟨_, first⟩
      exact ⟨le_trans before above, first⟩
    · rintro ⟨_, first⟩
      exact ⟨above, first⟩

end Grc.Library
