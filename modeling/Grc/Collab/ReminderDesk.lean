import Grc.Lib.Checks
import Grc.Lib.Locks
import Grc.Lib.Runs
import Grc.Shared.Audit
import Mathlib.Data.List.Dedup
import Mathlib.Data.Fintype.Basic

/-! The daily tasks of a bank that remind and escalate. Each is one transaction that waits for the bank's lock; runs may overlap and be
delivered again, while the records they read are edited. -/
namespace Grc.Collab.Reminders

open Grc.Shared Grc.Lib

/-- A moment, before or after the epoch. -/
abbrev Moment := Int

/-- A time zone: the local date of a moment, as a day number, and the moment of a date's hour (`_at`). Its midnights open its dates, and an hour
of a date is on it: the zone neither skips a date nor turns its clock back over midnight. -/
structure Zone where
  date : Moment → Int
  at_ : Int → Nat → Moment
  opens : ∀ day moment, at_ day 0 ≤ moment ↔ day ≤ date moment
  within : ∀ day hour, hour < 24 → date (at_ day hour) = day

/-- The bank's row, as its tasks read it. -/
structure Bank where
  timezone : String
  reminderDaysBefore : List Nat := [3]
  reviewReminderDaysBefore : List Nat := [30]
  escalateAfterDays : Nat := 5
  /-- `tenant_reminder_days_before_valid`. -/
  ahead : ∀ lead ∈ reminderDaysBefore, 1 ≤ lead := by decide

structure ChangeCase where
  id : Id
  /-- `status == NEW`. -/
  isNew : Bool := true
  triageDueAt : Option Moment := none
  deriving DecidableEq

structure Action where
  id : Id
  doneAt : Option Moment := none
  removedAt : Option Moment := none
  dueDate : Int

/-- A register entry, or one of its rows for a legal entity. -/
structure Review where
  entry : Id
  nextReviewDate : Option Int := none

inductive Template where
  | dueSoon
  | overdue
  | reviewDue
  deriving DecidableEq

/-- The record a reminder is about, with its subject type. -/
inductive Record where
  | changeCase (id : Id)
  | action (id : Id)
  | tenantObligation (id : Id)
  deriving DecidableEq

/-- A template and the record it is about. -/
abbrev Due := Template × Record

/-- The rows one `notify` wrote: one for each of the people told, at one moment. The zone of its run and the dates that run read for its look and
for what was already sent are the desk's own account. -/
structure Notice where
  due : Due
  people : List Id
  createdAt : Moment
  timezone : String
  lookedOn : Int
  checkedOn : Int

/-- `email_message`, as far as a reminder asks for it. -/
structure EmailMessage where
  due : Due
  sentOn : Int

/-! ## What is due -/

section Due
variable (zone : Zone) (hour : Fin 24) (bank : Bank) (today : Int)

def InWindow (due : Moment) : Prop := zone.at_ (today - 1) hour < due ∧ due ≤ zone.at_ today hour

instance (due : Moment) : Decidable (InWindow zone hour today due) := by
  unfold InWindow
  infer_instance

def isCaseDue (case_ : ChangeCase) : Bool :=
  case_.isNew && case_.triageDueAt.any fun due =>
    decide (InWindow zone hour today due) ||
      bank.reminderDaysBefore.any fun lead => zone.at_ (today + lead) 0 ≤ due && due < zone.at_ (today + lead + 1) 0

def caseTemplate (case_ : ChangeCase) : Template :=
  if case_.triageDueAt.any (· ≤ zone.at_ today hour) = true then .overdue else .dueSoon

/-- The cases of `_triage`. -/
def casesDue (cases_ : List ChangeCase) : List Due :=
  (cases_.filter fun case_ => isCaseDue zone hour bank today case_).map fun case_ =>
    (caseTemplate zone hour today case_, .changeCase case_.id)

/-- `done_at__isnull=True, removed_at__isnull=True`. -/
def Action.isOpen (action : Action) : Bool := action.doneAt.isNone && action.removedAt.isNone

/-- The actions of `_actions`. -/
def actionsDue (actions : List Action) : List Due :=
  let days := bank.reminderDaysBefore.map fun lead => today + (lead : Int)
  (actions.filter fun action => action.isOpen && (days ++ [today - 1]).contains action.dueDate).map fun action =>
    (if action.dueDate = today - 1 then .overdue else .dueSoon, .action action.id)

/-- The entries of `_reviews`, each once. -/
def reviewsDue (reviews : List Review) : List Due :=
  let days := bank.reviewReminderDaysBefore.map fun lead => today + (lead : Int)
  let due := reviews.filter fun review => review.nextReviewDate.any days.contains
  ((due.map (·.entry)).dedup.insertionSort (· ≤ ·)).map fun entry => (.reviewDue, .tenantObligation entry)

/-- The actions `escalate` reads: open, past the bank's threshold and without an audit row. -/
def actionsOverdue (escalated : List Id) (actions : List Action) : List Id :=
  let cutoff := today - bank.escalateAfterDays
  (actions.filter fun action => action.isOpen && decide (action.dueDate ≤ cutoff) && !escalated.contains action.id).map (·.id)

end Due

/-! ## The tasks -/

inductive Branch where
  | triage
  | actions
  | reviews
  deriving DecidableEq

/-- Where a run of `send_reminders` stands. -/
inductive Stage where
  /-- For the bank's lock. -/
  | waiting
  /-- The lock is its own, and the branch has read nothing. -/
  | entering (branch : Branch)
  /-- The branch has read the local date. -/
  | looking (branch : Branch) (today : Int)
  /-- It has read what is due. -/
  | found (branch : Branch) (today : Int) (due : List Due)
  /-- `_already` has read the local date. -/
  | checking (branch : Branch) (today : Int) (due : List Due) (checkedOn : Int)
  /-- What was not sent already is told, one record after the other. -/
  | telling (branch : Branch) (today checkedOn : Int) (rest : List Due)
  | finished
  deriving DecidableEq

/-- A run of `send_reminders` under way. The cases its query saw as new, with the date it asked for, and the reminders nobody was told are the
desk's own account. -/
structure Reminding where
  bank : Bank
  stage : Stage := .waiting
  written : List Notice := []
  untriaged : Option (Int × List ChangeCase) := none
  unheard : List Due := []

/-- Where a run of `escalate` stands. -/
inductive EscalationStage where
  | waiting
  | entering
  | looking (today : Int)
  | telling (rest : List Id)
  deriving DecidableEq

/-- A run of `escalate` under way, with the audit rows it has written. -/
structure Escalating where
  bank : Bank
  stage : EscalationStage := .waiting
  written : List Id := []

/-- A run of `send_reminders` that committed, the desk's own account: the zone it read, what its triage looked at, and the reminders nobody was
told. -/
structure Round where
  timezone : String
  untriaged : Option (Int × List ChangeCase)
  unheard : List Due

/-- The subjects of the `action.escalated` audit rows, and the runs of `escalate` under way. -/
structure Escalations where
  escalated : List Id := []
  underway : List (Nat × Escalating) := []

/-- One bank's rows as committed, and the runs under way. -/
structure Desk where
  now : Moment
  bank : Bank
  cases_ : Keyed ChangeCase.id := {}
  actions : Keyed Action.id := {}
  reviews : List Review := []
  notices : List Notice := []
  mails : List EmailMessage := []
  reminding : List (Nat × Reminding) := []
  rounds : List Round := []
  escalations : Escalations := {}

inductive EscalationStep where
  /-- `send_tenant_escalations` is delivered, once more or for the first time. -/
  | begin_ (run : Nat)
  /-- `pg_advisory_xact_lock`. -/
  | lock (run : Nat)
  /-- `today_for`. -/
  | readDate (run : Nat)
  /-- The query of the actions. -/
  | look (run : Nat)
  /-- The next action: its notices and its audit row. -/
  | escalate (run : Nat)
  | commit (run : Nat)
  | abort (run : Nat)

inductive Step where
  /-- The clock goes on; it may be set while no run of `send_reminders` has its lock. -/
  | clock (now : Moment)
  /-- `send_tenant_reminders` is delivered, once more or for the first time. -/
  | begin_ (run : Nat)
  /-- `pg_advisory_xact_lock`. -/
  | lock (run : Nat)
  /-- `today_for`. -/
  | readDate (run : Nat)
  /-- The branch's query. -/
  | look (run : Nat)
  /-- The queries of `_already`. -/
  | check (run : Nat)
  /-- `notify` about the next record, with the people it told. -/
  | tell (run : Nat) (people : List Id)
  | commit (run : Nat)
  /-- The worker dies, or the task fails: what was not committed is gone. -/
  | abort (run : Nat)
  /-- `deliver_mail` of a notice that was committed. -/
  | deliver (due : Due)
  | escalation (step : EscalationStep)
  /-- The bank's cases are edited and new ones come; the limit of a case is set when it is created. -/
  | editCases (cases_ : Keyed ChangeCase.id)
  | editActions (actions : Keyed Action.id)
  | editReviews (reviews : List Review)
  | editBank (bank : Bank)

def notNow : Refusal := { code := "not_now", detail := "" }

def Branch.next : Branch → Stage
  | triage => .entering .actions
  | actions => .entering .reviews
  | reviews => .finished

def toTell (branch : Branch) (today checkedOn : Int) : List Due → Stage
  | [] => branch.next
  | rest => .telling branch today checkedOn rest

def toCheck (branch : Branch) (today : Int) : List Due → Stage
  | [] => branch.next
  | due => .found branch today due

namespace Escalations
variable (zones : String → Zone) (now : Moment) (bank : Bank) (actions : List Action) (escalations : Escalations)

def put (id : Nat) (run : Escalating) : Escalations := { escalations with underway := putBy escalations.underway id run }

def step : EscalationStep → Except Refusal Escalations
  | .begin_ id => do
    require (heldBy escalations.underway id = none) notNow
    .ok { escalations with underway := escalations.underway ++ [(id, { bank })] }
  | .lock id => do
    let run ← demand (heldBy escalations.underway id) notNow
    require (∀ each ∈ escalations.underway, each.2.stage = .waiting) notNow
    .ok (escalations.put id { run with stage := .entering })
  | .readDate id => do
    let run ← demand (heldBy escalations.underway id) notNow
    require (run.stage = .entering) notNow
    .ok (escalations.put id { run with stage := .looking ((zones run.bank.timezone).date now) })
  | .look id => do
    let run ← demand (heldBy escalations.underway id) notNow
    match run.stage with
    | .looking today => .ok (escalations.put id { run with stage := .telling (actionsOverdue run.bank today escalations.escalated actions) })
    | _ => .error notNow
  | .escalate id => do
    let run ← demand (heldBy escalations.underway id) notNow
    match run.stage with
    | .telling (action :: rest) => .ok (escalations.put id { run with stage := .telling rest, written := run.written ++ [action] })
    | _ => .error notNow
  | .commit id => do
    let run ← demand (heldBy escalations.underway id) notNow
    require (run.stage = .telling []) notNow
    .ok { escalated := escalations.escalated ++ run.written, underway := withoutBy escalations.underway id }
  | .abort id => .ok { escalations with underway := withoutBy escalations.underway id }

end Escalations

namespace Desk
variable (zones : String → Zone) (hour : Fin 24) (desk : Desk)

def dueOf (bank : Bank) (today : Int) : Branch → List Due
  | .triage => casesDue (zones bank.timezone) hour bank today desk.cases_.rows
  | .actions => actionsDue bank today desk.actions.rows
  | .reviews => reviewsDue bank today desk.reviews

/-- `_already`: a mail of the day, or a notice since local midnight. -/
def already (run : Reminding) (checkedOn : Int) (due : Due) : Bool :=
  (desk.mails.any fun mail => mail.due == due && mail.sentOn == checkedOn) ||
    (desk.notices ++ run.written).any fun notice =>
      notice.due == due && decide ((zones run.bank.timezone).at_ checkedOn 0 ≤ notice.createdAt)

def putReminding (id : Nat) (run : Reminding) : Desk := { desk with reminding := putBy desk.reminding id run }

def KeepsLimits (cases_ : Keyed ChangeCase.id) : Prop :=
  ∀ row ∈ desk.cases_.rows, ∃ later ∈ cases_.rows, later.id = row.id ∧ later.triageDueAt = row.triageDueAt

instance (cases_ : Keyed ChangeCase.id) : Decidable (desk.KeepsLimits cases_) := by
  unfold KeepsLimits
  infer_instance

def step : Step → Except Refusal Desk
  | .clock now => do
    require (desk.now ≤ now ∨ ∀ each ∈ desk.reminding, each.2.stage = .waiting) notNow
    .ok { desk with now }
  | .begin_ id => do
    require (heldBy desk.reminding id = none) notNow
    .ok { desk with reminding := desk.reminding ++ [(id, { bank := desk.bank })] }
  | .lock id => do
    let run ← demand (heldBy desk.reminding id) notNow
    require (∀ each ∈ desk.reminding, each.2.stage = .waiting) notNow
    .ok (desk.putReminding id { run with stage := .entering .triage })
  | .readDate id => do
    let run ← demand (heldBy desk.reminding id) notNow
    let today := (zones run.bank.timezone).date desk.now
    match run.stage with
    | .entering branch => .ok (desk.putReminding id { run with stage := .looking branch today })
    | .found branch lookedOn due => .ok (desk.putReminding id { run with stage := .checking branch lookedOn due today })
    | _ => .error notNow
  | .look id => do
    let run ← demand (heldBy desk.reminding id) notNow
    match run.stage with
    | .looking branch today =>
      let untriaged := if branch = .triage then some (today, desk.cases_.rows.filter (·.isNew)) else run.untriaged
      .ok (desk.putReminding id { run with stage := toCheck branch today (desk.dueOf zones hour run.bank today branch), untriaged })
    | _ => .error notNow
  | .check id => do
    let run ← demand (heldBy desk.reminding id) notNow
    match run.stage with
    | .checking branch today due checkedOn =>
      let rest := due.filter fun each => !desk.already zones run checkedOn each
      .ok (desk.putReminding id { run with stage := toTell branch today checkedOn rest })
    | _ => .error notNow
  | .tell id people => do
    let run ← demand (heldBy desk.reminding id) notNow
    match run.stage with
    | .telling branch today checkedOn (due :: rest) =>
      let notice : Notice :=
        { due, people, createdAt := desk.now, timezone := run.bank.timezone, lookedOn := today, checkedOn }
      .ok (desk.putReminding id { run with
        stage := toTell branch today checkedOn rest
        written := if people = [] then run.written else run.written ++ [notice]
        unheard := if people = [] then run.unheard ++ [due] else run.unheard })
    | _ => .error notNow
  | .commit id => do
    let run ← demand (heldBy desk.reminding id) notNow
    require (run.stage = .finished) notNow
    .ok { desk with
      notices := desk.notices ++ run.written
      reminding := withoutBy desk.reminding id
      rounds := desk.rounds ++ [{ timezone := run.bank.timezone, untriaged := run.untriaged, unheard := run.unheard }] }
  | .abort id => .ok { desk with reminding := withoutBy desk.reminding id }
  | .deliver due => do
    require (∃ notice ∈ desk.notices, notice.due = due) notNow
    .ok { desk with mails := desk.mails ++ [{ due, sentOn := (zones desk.bank.timezone).date desk.now }] }
  | .escalation step => do
    let escalations ← desk.escalations.step zones desk.now desk.bank desk.actions.rows step
    .ok { desk with escalations }
  | .editCases cases_ => do
    require (desk.KeepsLimits cases_) notNow
    .ok { desk with cases_ }
  | .editActions actions => .ok { desk with actions }
  | .editReviews reviews => .ok { desk with reviews }
  | .editBank bank => .ok { desk with bank }

end Desk
end Grc.Collab.Reminders
