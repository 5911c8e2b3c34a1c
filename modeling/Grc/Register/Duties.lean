import Grc.Library.Expansion

/-! Recurring duties in a bank's calendar: the library's duty and its rule, the bank's dated
occurrences, and completing one, which writes only the next. -/
namespace Grc.Register

open Grc.Shared Grc.Lib Grc.Library

variable {Rule : Type}

/-- A library recurring duty as the register reads it. -/
structure DutyRule where
  id : Id
  obligationId : Id
  title : String := ""
  rule : String
  active : Bool := true
  deriving DecidableEq

inductive DutyStatus where
  | upcoming
  | inProgress
  | done
  | missed
  | notApplicable
  deriving DecidableEq

def DutyStatus.value : DutyStatus → String
  | .upcoming => "upcoming"
  | .inProgress => "in_progress"
  | .done => "done"
  | .missed => "missed"
  | .notApplicable => "not_applicable"

/-- `OPEN`. -/
def DutyStatus.isOpen (status : DutyStatus) : Bool := [DutyStatus.upcoming, .inProgress, .missed].contains status

structure DutyOccurrence where
  id : Id
  recurringDuty : Id
  tenantObligation : Id
  orgUnit : Option Id := none
  dueDate : Day
  status : DutyStatus := .upcoming
  owner : Option Id := none
  ownerTeam : Option Id := none
  completedAt : Option Instant := none
  completedBy : Option Id := none
  note : String := ""
  version : Nat := 1

/-- One bank's calendar of duties. -/
structure DutyTable where
  tenantId : Id
  occurrences : List DutyOccurrence := []
  audit : List AuditEvent := []
  nextId : Id := 0

/-- `next_due`: the first date of a rule whose series is anchored at a day, on that day or
strictly after it. A rule the expansion refuses has none. -/
def nextDue (dateutil : Dateutil Rule) (cap : Nat) (rule : String) (start : Day) (inclusive : Bool) :
    Except Refusal (Option Day) := do
  let finish ← demand (start.addYears horizon) internalError
  match expand dateutil cap rule start finish with
  | .ok days => .ok (days.find? fun due => inclusive || decide (start < due))
  | .error refusal => if refusal = internalError then .error refusal else .ok none

/-- The key of `duty_occurrence_unique`. -/
def DutyOccurrence.onKey (row : DutyOccurrence) (dutyId : Id) (orgUnit : Option Id) (due : Day) : Bool :=
  row.recurringDuty == dutyId && row.orgUnit == orgUnit && row.dueDate == due

/-- What an occurrence is written for: the duty, the entry or the entity's row of it, and who
owns that. -/
structure DutyTarget where
  tenantObligation : Id
  obligationId : Id
  orgUnit : Option Id := none
  owner : Option Id := none
  ownerTeam : Option Id := none

/-- `_occurrence`: the occurrence on a date, written unless it is there already. -/
def occurrenceOn (table : DutyTable) (dutyId : Id) (target : DutyTarget) (due : Day) :
    DutyTable × DutyOccurrence × Bool :=
  match table.occurrences.find? (·.onKey dutyId target.orgUnit due) with
  | some row => (table, row, false)
  | none =>
    let row : DutyOccurrence :=
      { id := table.nextId
        recurringDuty := dutyId
        tenantObligation := target.tenantObligation
        orgUnit := target.orgUnit
        dueDate := due
        owner := if target.ownerTeam = none then target.owner else none
        ownerTeam := target.ownerTeam }
    ({ table with occurrences := table.occurrences ++ [row], nextId := table.nextId + 1 }, row, true)

/-- `date.isoformat`. -/
def isoformat (day : Day) : String :=
  let pad (width number : Nat) : String :=
    String.ofList (List.replicate (width - (Nat.toDigits 10 number).length) '0' ++ Nat.toDigits 10 number)
  pad 4 day.year ++ "-" ++ pad 2 day.month ++ "-" ++ pad 2 day.day

def scheduledEvent (actor : Actor) (tenantId : Id) (duty : DutyRule) (row : DutyOccurrence) : AuditEvent where
  action := "register.duty_scheduled"
  actor := actor
  subjectType := "duty_occurrence"
  subjectId := some row.id
  subjectTitle := duty.title ++ ", " ++ isoformat row.dueDate
  summary := "Duty occurrence scheduled."
  tenantId := some tenantId
  after := [("recurringDutyId", .ref duty.id), ("tenantObligationId", .ref row.tenantObligation),
    ("orgUnitId", .ofId row.orgUnit), ("dueDate", .text (isoformat row.dueDate))]

/-- One duty on one target of `schedule_first`. -/
def scheduleOne (dateutil : Dateutil Rule) (cap : Nat) (actor : Actor) (today : Day) (target : DutyTarget)
    (table : DutyTable) (duty : DutyRule) : Except Refusal DutyTable := do
  let due ← nextDue dateutil cap duty.rule today true
  match due with
  | none => .ok table
  | some due =>
    match occurrenceOn table duty.id target due with
    | (_, _, false) => .ok table
    | (written, row, true) =>
      .ok { written with audit := record written.audit (scheduledEvent actor table.tenantId duty row) }

/-- `RegisterDutyCompletion`. -/
structure DutyCompletion where
  completed : DutyOccurrence
  next : Option DutyOccurrence

def completedEvent (actor : Actor) (tenantId : Id) (duty : DutyRule) (before after : DutyOccurrence)
    (following : Option DutyOccurrence) : AuditEvent where
  action := "register.duty_completed"
  actor := actor
  subjectType := "duty_occurrence"
  subjectId := some after.id
  subjectTitle := duty.title ++ ", " ++ isoformat after.dueDate
  summary := "Duty occurrence completed."
  tenantId := some tenantId
  before := [("status", .text before.status.value)]
  after := [("status", .text DutyStatus.done.value), ("noted", .flag (after.note != "")),
    ("nextOccurrenceId", .ofId (following.map (·.id))),
    ("nextDueDate", .ofText (following.map (isoformat ·.dueDate)))]

/-- The target of the next occurrence: owned as this one is. -/
def DutyOccurrence.target (row : DutyOccurrence) (duty : DutyRule) : DutyTarget where
  tenantObligation := row.tenantObligation
  obligationId := duty.obligationId
  orgUnit := row.orgUnit
  owner := row.owner
  ownerTeam := row.ownerTeam

def followingDate (dateutil : Dateutil Rule) (cap : Nat) (duty : DutyRule) (row : DutyOccurrence) :
    Except Refusal (Option Day) :=
  if duty.active then nextDue dateutil cap duty.rule row.dueDate false else .ok none

/-- The next occurrence, written when there is a date for it. -/
def writeFollowing (duty : DutyRule) (row : DutyOccurrence) (due : Option Day) (table : DutyTable) :
    DutyTable × Option DutyOccurrence :=
  match due with
  | none => (table, none)
  | some due =>
    let written := occurrenceOn table duty.id (row.target duty) due
    (written.1, some written.2.1)

/-- An open occurrence, done: the person, the moment and the note, and the one next occurrence. -/
def finishOccurrence (actor : Actor) (person : Id) (note : String) (now : Instant) (duty : DutyRule)
    (row : DutyOccurrence) (due : Option Day) (table : DutyTable) : DutyTable × DutyCompletion :=
  let done := { row with
    status := .done
    completedAt := some now
    completedBy := some person
    note
    version := row.version + 1 }
  let saved := { table with
    occurrences := table.occurrences.map fun other => if other.id = row.id then done else other }
  let written := writeFollowing duty row due saved
  ({ written.1 with
     audit := record written.1.audit (completedEvent actor table.tenantId duty row done written.2) },
    { completed := done, next := written.2 })

/-- `complete_occurrence`. Completing a done occurrence again writes nothing. -/
def completeOccurrence (dateutil : Dateutil Rule) (cap : Nat) (duties : List DutyRule) (actor : Actor)
    (note : String) (now : Instant) (occurrenceId : Id) (table : DutyTable) :
    Except Refusal (DutyTable × DutyCompletion) := do
  let person ← demand actor.id { code := "permission_denied", detail := "A person must do this." }
  let row ← demand (table.occurrences.find? (·.id == occurrenceId))
    { code := "not_found", detail := "That duty occurrence is not here." }
  let duty ← demand (duties.find? (·.id == row.recurringDuty)) internalError
  let due ← followingDate dateutil cap duty row
  if row.status = .done then
    .ok (table, { completed := row, next := due.bind fun due =>
      table.occurrences.find? (·.onKey duty.id row.orgUnit due) })
  else .ok (finishOccurrence actor person note now duty row due table)

end Grc.Register

/-! When the series of a recurring duty goes on: the date after each date of an accepted rule that
nothing ends, and the occurrence that completing one writes for it. -/
namespace Grc.Register

open Grc.Shared Grc.Lib Grc.Library

def IsNext (falls : Day → Prop) (day next : Day) : Prop :=
  falls next ∧ day < next ∧ ∀ other, falls other → day < other → next ≤ other

variable {Rule : Type} {dateutil : Dateutil Rule} {falls : Rule → Day → Day → Prop}

theorem find_after {days : List Day} (sorted : days.Pairwise (· < ·)) (day next : Day) :
    (days.find? fun due => decide (day < due)) = some next ↔
      next ∈ days ∧ day < next ∧ ∀ other ∈ days, day < other → next ≤ other := by
  induction days with
  | nil => simp
  | cons first rest ih =>
    obtain ⟨before, restSorted⟩ := List.pairwise_cons.mp sorted
    by_cases after : day < first
    · simp only [List.find?_cons, after, decide_true, Option.some.injEq]
      constructor
      · intro same
        subst same
        refine ⟨List.mem_cons_self, after, ?_⟩
        intro other member _
        rcases List.mem_cons.mp member with same | later
        · exact le_of_eq same.symm
        · exact le_of_lt (before other later)
      · rintro ⟨member, _, least⟩
        rcases List.mem_cons.mp member with same | later
        · exact same.symm
        · exact absurd (before next later) (not_lt.mpr (least first List.mem_cons_self after))
    · simp only [List.find?_cons, after, decide_false, ih restSorted]
      constructor
      · rintro ⟨member, later, least⟩
        refine ⟨List.mem_cons_of_mem _ member, later, ?_⟩
        intro other present other_after
        rcases List.mem_cons.mp present with rfl | inRest
        · exact absurd other_after after
        · exact least other inRest other_after
      · rintro ⟨member, later, least⟩
        rcases List.mem_cons.mp member with rfl | inRest
        · exact absurd later after
        · exact ⟨inRest, later, fun other present => least other (List.mem_cons_of_mem _ present)⟩

theorem le_addYears {years : Nat} {day finish : Day} (added : day.addYears years = some finish)
    (positive : 0 < years) : day ≤ finish := by
  obtain ⟨year, month, date⟩ := Day.ofFields_eq_some.mp added
  rw [Day.le_iff]
  unfold Day.place
  have short := Nat.le_trans day.dayIn.2 (Day.daysInMonth_le day.year day.month)
  omega

def dueWithin (falls : Day → Prop) (day finish : Day) : Set Day :=
  {due | falls due ∧ day ≤ due ∧ due ≤ finish}

/-- The series goes on from a day: its next date is the one scheduled, under either spelling of
the rule, and completing an open occurrence due on the day writes the occurrence of that date. -/
def GoesOn (dateutil : Dateutil Rule) (cap : Nat) (spellings : List String) (falls : Day → Prop)
    (day : Day) : Prop :=
  ∃ next, IsNext falls day next ∧
    ∀ rule ∈ spellings, nextDue dateutil cap rule day false = .ok (some next) ∧
      ∀ (duties : List DutyRule) (table : DutyTable) (row : DutyOccurrence) (duty : DutyRule) (person : Id)
        (actor : Actor) (note : String) (now : Instant),
        actor.id = some person → table.occurrences.find? (·.id == row.id) = some row →
        duties.find? (·.id == row.recurringDuty) = some duty → duty.rule = rule → duty.active = true →
        row.dueDate = day → row.status ≠ .done →
        ∃ after completion following,
          completeOccurrence dateutil cap duties actor note now row.id table = .ok (after, completion) ∧
            completion.next = some following ∧ following ∈ after.occurrences ∧
            following.recurringDuty = duty.id ∧ following.orgUnit = row.orgUnit ∧ following.dueDate = next

theorem occurrenceOn_there (table : DutyTable) (dutyId : Id) (target : DutyTarget) (due : Day) :
    (occurrenceOn table dutyId target due).2.1 ∈ (occurrenceOn table dutyId target due).1.occurrences ∧
      (occurrenceOn table dutyId target due).2.1.onKey dutyId target.orgUnit due = true := by
  unfold occurrenceOn
  split
  · rename_i row found
    exact ⟨List.mem_of_find?_eq_some found, by simpa using List.find?_some found⟩
  · simp [DutyOccurrence.onKey]

theorem complete_writesNext {cap : Nat} {duties : List DutyRule} {table : DutyTable} {row : DutyOccurrence}
    {duty : DutyRule} {actor : Actor} {person : Id} {next : Day} (note : String) (now : Instant)
    (byPerson : actor.id = some person) (stored : table.occurrences.find? (·.id == row.id) = some row)
    (known : duties.find? (·.id == row.recurringDuty) = some duty) (active : duty.active = true)
    (is_open : row.status ≠ .done) (due : nextDue dateutil cap duty.rule row.dueDate false = .ok (some next)) :
    ∃ after completion following,
      completeOccurrence dateutil cap duties actor note now row.id table = .ok (after, completion) ∧
        completion.next = some following ∧ following ∈ after.occurrences ∧
        following.recurringDuty = duty.id ∧ following.orgUnit = row.orgUnit ∧ following.dueDate = next := by
  let saved : DutyTable := { table with
    occurrences := table.occurrences.map fun other => if other.id = row.id then
      { row with status := .done, completedAt := some now, completedBy := some person, note
                 version := row.version + 1 } else other }
  obtain ⟨there, onKey⟩ := occurrenceOn_there saved duty.id (row.target duty) next
  simp only [DutyOccurrence.onKey, Bool.and_eq_true, beq_iff_eq] at onKey
  let finished := finishOccurrence actor person note now duty row (some next) table
  refine ⟨finished.1, finished.2, (occurrenceOn saved duty.id (row.target duty) next).2.1, ?_, rfl, there,
    onKey.1.1, onKey.1.2, onKey.2⟩
  simp only [completeOccurrence, byPerson, stored, known, demand, bind, Except.bind, followingDate,
    active, if_true, due, if_neg is_open]
  rfl

theorem isNext_within {series : Day → Prop} {day finish next : Day} (within : next ∈ dueWithin series day finish)
    (after : day < next)
    (least : ∀ other ∈ dueWithin series day finish, day < other → next ≤ other) :
    IsNext series day next := by
  refine ⟨within.1, after, ?_⟩
  intro other other_falls other_after
  by_cases short : other ≤ finish
  · exact least other ⟨other_falls, le_of_lt other_after, short⟩ other_after
  · exact le_trans within.2.2 (le_of_lt (not_le.mp short))

section Scheduled
variable (cap : Nat) {rule text : String} {day finish : Day} {parsed : Rrule Rule}

section
variable (correct : dateutil.Correct falls)
variable (spelling : normalised rule = .ok text)
variable (read : dateutil.rrulestr text day = some parsed)
variable (uncounted : parsed.count = none)
variable (unbounded : parsed.lastDay = none)
variable (added : day.addYears horizon = some finish)
include correct spelling read uncounted unbounded added

theorem nextDue_eq : ∃ days : List Day, days.Pairwise (· < ·) ∧
      (∀ due, due ∈ days ↔ due ∈ dueWithin (falls parsed.rule day) day finish) ∧
      (dueWithin (falls parsed.rule day) day finish).encard = days.length ∧
      nextDue dateutil cap rule day false =
        .ok (if days.length ≤ cap then days.find? (fun due => decide (day < due)) else none) := by
  have ordered : day ≤ finish := le_addYears added (by decide)
  obtain ⟨days, sorted, inDays, expanded⟩ :=
    expand_unending correct cap spelling read uncounted unbounded ordered
  refine ⟨days, sorted, inDays, ?_, ?_⟩
  · have same : dueWithin (falls parsed.rule day) day finish = (days.toFinset : Set Day) := by
      ext due
      rw [List.coe_toFinset]
      exact (inDays due).symm
    rw [same, Set.encard_coe_eq_coe_finsetCard, List.toFinset_card_of_nodup]
    exact sorted.imp fun before => ne_of_lt before
  · by_cases room : days.length ≤ cap
    · simp [nextDue, added, demand, bind, Except.bind, expanded, room]
    · simp [nextDue, added, demand, bind, Except.bind, expanded, room, tooOften, internalError]

theorem nextDue_some_iff (next : Day) : nextDue dateutil cap rule day false = .ok (some next) ↔
      (dueWithin (falls parsed.rule day) day finish).encard ≤ cap ∧
        next ∈ dueWithin (falls parsed.rule day) day finish ∧ IsNext (falls parsed.rule day) day next := by
  obtain ⟨days, sorted, inDays, size, answer⟩ :=
    nextDue_eq cap correct spelling read uncounted unbounded added
  rw [answer, size, Nat.cast_le]
  by_cases room : days.length ≤ cap
  · rw [if_pos room, Except.ok.injEq, find_after sorted]
    constructor
    · rintro ⟨member, after, least⟩
      have within := (inDays next).mp member
      exact ⟨room, within, isNext_within within after fun other other_in =>
        least other ((inDays other).mpr other_in)⟩
    · rintro ⟨_, within, _, after, least⟩
      exact ⟨(inDays next).mpr within, after, fun other other_in =>
        least other ((inDays other).mp other_in).1⟩
  · simp [room]

theorem nextDue_exists (room : (dueWithin (falls parsed.rule day) day finish).encard ≤ cap)
    (again : ∃ due ∈ dueWithin (falls parsed.rule day) day finish, day < due) :
    ∃ next, nextDue dateutil cap rule day false = .ok (some next) := by
  obtain ⟨days, _, inDays, size, answer⟩ :=
    nextDue_eq cap correct spelling read uncounted unbounded added
  rw [size, Nat.cast_le] at room
  rw [answer, if_pos room]
  obtain ⟨due, within, after⟩ := again
  cases found : days.find? fun due => decide (day < due) with
  | some next => exact ⟨next, rfl⟩
  | none =>
    have missed := List.find?_eq_none.mp found due ((inDays due).mpr within)
    exact absurd after (by simpa using missed)

end

end Scheduled

theorem fallsOn_from (correct : dateutil.Correct falls) {text : String} {start anchor day due : Day}
    {parsed : Rrule Rule} (read : dateutil.rrulestr text start = some parsed)
    (occurs : dateutil.fallsOn falls text anchor day) (above : day ≤ due) :
    falls parsed.rule day due ↔ dateutil.fallsOn falls text anchor due := by
  have same := correct.reanchored read anchor
  obtain ⟨other, readOther, otherFalls⟩ := occurs
  rw [same] at readOther
  cases readOther
  rw [correct.rephased otherFalls above]
  constructor
  · intro due_falls
    exact ⟨_, same, due_falls⟩
  · rintro ⟨another, readAnother, due_falls⟩
    rw [same] at readAnother
    cases readAnother
    exact due_falls

/-- An accepted rule that nothing ends goes on from a day exactly when, in the ten years from it,
both ends included, it falls due at most as often as the cap allows, and at least once more. -/
theorem goesOn_iff (correct : dateutil.Correct falls) {cap : Nat} {rule text : String} {start : Day}
    (accepted : validated dateutil cap rule start = .ok text) (noCount : carries text "COUNT" = false)
    (noUntil : carries text "UNTIL" = false) {anchor day : Day}
    (occurs : dateutil.fallsOn falls text anchor day) :
    GoesOn dateutil cap [rule, text] (dateutil.fallsOn falls text anchor) day ↔
      ∃ finish, day.addYears horizon = some finish ∧
        (dueWithin (dateutil.fallsOn falls text anchor) day finish).encard ≤ cap ∧
        ∃ due ∈ dueWithin (dateutil.fallsOn falls text anchor) day finish, day < due := by
  obtain ⟨spelling, first, readFirst⟩ := validated_read accepted
  have read := correct.reanchored readFirst day
  have uncounted := correct.counted read noCount
  have unbounded := correct.bounded read noUntil
  have series : ∀ due, day ≤ due → (falls first.rule day due ↔ dateutil.fallsOn falls text anchor due) :=
    fun due above => fallsOn_from correct readFirst occurs above
  have sameDays : ∀ finish, dueWithin (dateutil.fallsOn falls text anchor) day finish =
      dueWithin (falls first.rule day) day finish := by
    intro finish
    ext due
    constructor
    · rintro ⟨due_falls, above, below⟩
      exact ⟨(series due above).mpr due_falls, above, below⟩
    · rintro ⟨due_falls, above, below⟩
      exact ⟨(series due above).mp due_falls, above, below⟩
  have sameNext : ∀ next, IsNext (dateutil.fallsOn falls text anchor) day next ↔
      IsNext (falls first.rule day) day next := by
    intro next
    constructor
    · rintro ⟨next_falls, after, least⟩
      exact ⟨(series next (le_of_lt after)).mpr next_falls, after, fun other other_falls other_after =>
        least other ((series other (le_of_lt other_after)).mp other_falls) other_after⟩
    · rintro ⟨next_falls, after, least⟩
      exact ⟨(series next (le_of_lt after)).mp next_falls, after, fun other other_falls other_after =>
        least other ((series other (le_of_lt other_after)).mpr other_falls) other_after⟩
  have eachSpelling : ∀ spelled ∈ [rule, text], normalised spelled = .ok text := by
    intro spelled member
    rcases List.mem_pair.mp member with rfl | rfl
    · exact spelling
    · exact normalised_stored spelling
  simp only [sameDays]
  constructor
  · rintro ⟨next, _, each⟩
    have answered := (each rule List.mem_cons_self).1
    cases added : day.addYears horizon with
    | none => simp [nextDue, added, demand, bind, Except.bind] at answered
    | some finish =>
      obtain ⟨room, within, isNext⟩ :=
        (nextDue_some_iff cap correct spelling read uncounted unbounded added next).mp answered
      exact ⟨finish, rfl, room, next, within, isNext.2.1⟩
  · rintro ⟨finish, added, room, again⟩
    obtain ⟨next, answered⟩ := nextDue_exists cap correct spelling read uncounted unbounded added room again
    have scheduled := (nextDue_some_iff cap correct spelling read uncounted unbounded added next).mp answered
    refine ⟨next, (sameNext next).mpr scheduled.2.2, ?_⟩
    intro spelled member
    have due := (nextDue_some_iff cap correct (eachSpelling spelled member) read uncounted unbounded
      added next).mpr scheduled
    refine ⟨due, ?_⟩
    intro duties table row duty person actor note now byPerson stored known sameRule active onDay is_open
    exact complete_writesNext note now byPerson stored known active is_open (by rw [sameRule, onDay]; exact due)

def newYear2026 : Day := .newYear2026

/-- The criterion, for the duty due on the first of every month. -/
theorem monthlyDuty_criterion :
    GoesOn monthlyFirsts 120 ["FREQ=MONTHLY;BYMONTHDAY=1", "FREQ=MONTHLY;BYMONTHDAY=1"]
      (monthlyFirsts.fallsOn onTheFirst "FREQ=MONTHLY;BYMONTHDAY=1" newYear2026) newYear2026 ↔
      ∃ finish, newYear2026.addYears horizon = some finish ∧
        (dueWithin (monthlyFirsts.fallsOn onTheFirst "FREQ=MONTHLY;BYMONTHDAY=1" newYear2026)
          newYear2026 finish).encard ≤ (120 : Nat) ∧
        ∃ due ∈ dueWithin (monthlyFirsts.fallsOn onTheFirst "FREQ=MONTHLY;BYMONTHDAY=1" newYear2026)
          newYear2026 finish, newYear2026 < due := by
  have accepted : validated monthlyFirsts 120 "FREQ=MONTHLY;BYMONTHDAY=1" newYear2026 =
      .ok "FREQ=MONTHLY;BYMONTHDAY=1" := by decide +kernel
  exact goesOn_iff monthlyFirsts_correct accepted (by decide +kernel) (by decide +kernel)
    ⟨{ rule := (), dtstart := newYear2026 }, rfl, le_refl _, rfl⟩

/-- The duty due on the first of every month is accepted with its 120 dates in the ten years from
the start, and has no next date after the first of them: the ten years from a date, with both
ends, hold 121. -/
theorem monthlyDuty_stops :
    monthlyFirsts.Correct onTheFirst ∧
      validated monthlyFirsts 120 "FREQ=MONTHLY;BYMONTHDAY=1" newYear2026 =
        .ok "FREQ=MONTHLY;BYMONTHDAY=1" ∧
      carries "FREQ=MONTHLY;BYMONTHDAY=1" "COUNT" = false ∧
      carries "FREQ=MONTHLY;BYMONTHDAY=1" "UNTIL" = false ∧
      onTheFirst () newYear2026 newYear2026 ∧
      nextDue monthlyFirsts 120 "FREQ=MONTHLY;BYMONTHDAY=1" newYear2026 false = .ok none ∧
      ∃ next, Day.ofFields 2026 2 1 = some next ∧ onTheFirst () newYear2026 next ∧ newYear2026 < next :=
  ⟨monthlyFirsts_correct, by decide +kernel, by decide +kernel, by decide +kernel, ⟨le_refl _, rfl⟩,
    by decide +kernel, ⟨⟨2026, 2, 1, by decide, by decide, by decide⟩, by decide, ⟨by decide, rfl⟩, by decide⟩⟩

end Grc.Register
