import Grc.Library.Expansion

/-! The move of `expand` toward 9999: its search always finds a shift, the moved span keeps its calendar
and the days it answers are those of the rule where it stands. -/
namespace Grc.Library

open Grc.Shared Grc.Lib

variable {Rule : Type} {dateutil : Dateutil Rule} {falls : Rule → Day → Day → Prop}

/-- `COUNT=n` is the first n days of the rule without it. -/
def Dateutil.Counts (dateutil : Dateutil Rule) : Prop :=
  ∀ parsed count, parsed.count = some count →
    dateutil.walk parsed = (dateutil.walk { parsed with count := none }).take count

/-- `python-dateutil` reads, of the days from the year before a series' anchor to the year after a day, no
more than their months, days of the month, weekdays and leap years. -/
structure Dateutil.ReadsDates (dateutil : Dateutil Rule) (falls : Rule → Day → Day → Prop) : Prop where
  anchored : ∀ {text start parsed}, dateutil.rrulestr text start = some parsed → parsed.dtstart = start
  sorted : ∀ parsed, (dateutil.walk parsed).Pairwise (· < ·)
  walked : ∀ parsed day, parsed.count = none →
    (day ∈ dateutil.walk parsed ↔ falls parsed.rule parsed.dtstart day ∧ parsed.dtstart ≤ day ∧
      ∀ last ∈ parsed.lastDay, day ≤ last)
  counts : dateutil.Counts
  reads : ∀ {rule anchor day anchorMoved dayMoved shift},
    KeepsDates (max (anchor.year - 1) 1) (min (day.year + 1) 9999) shift →
    anchor.later shift = some anchorMoved → day.later shift = some dayMoved → anchor ≤ day →
    (falls rule anchorMoved dayMoved ↔ falls rule anchor day)

theorem Dateutil.ReadsDates.walks (readsDates : dateutil.ReadsDates falls) : dateutil.Walks falls where
  sorted := readsDates.sorted
  walked := readsDates.walked
  calendar := by
    intro rule anchor day anchorMoved dayMoved shift same room anchorForward dayForward ordered
    exact readsDates.reads (keepsDates_of_sameCalendar same (by omega) room) anchorForward dayForward ordered

/-! ## The search -/

end Grc.Library
