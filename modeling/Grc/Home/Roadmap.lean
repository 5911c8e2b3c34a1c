import Grc.Cases.State
import Grc.Lib.Uuids
import Grc.Register.Duties
import Grc.Register.Gaps

/-! The roadmap: every dated change the bank has open work on beside its own deadlines, read whole for its page and in part for Today's
panel. -/
namespace Grc.Home

open Grc.Lib
open Grc.Cases (CaseStatusCategory)
open Grc.Register (Applicability GapCategory DutyStatus)

inductive DatePrecision where
  | day
  | month
  | quarter
  | year
  deriving DecidableEq

inductive RoadmapItemKind where
  | regulatory
  | internal

inductive RoadmapItemType where
  | changeDate
  | reviewDue
  | gapTarget
  | certificateExpiry
  | certificateAudit
  | dutyDue
  | internalDeadline
  | actionDue

def RoadmapItemType.key : RoadmapItemType → String
  | changeDate => "change_date"
  | reviewDue => "review_due"
  | gapTarget => "gap_target"
  | certificateExpiry => "certificate_expiry"
  | certificateAudit => "certificate_audit"
  | dutyDue => "duty_due"
  | internalDeadline => "internal_deadline"
  | actionDue => "action_due"

inductive FeedFilter where
  | all
  | regulatory
  | internal
  deriving DecidableEq

structure HomeRoadmapQuery where
  kind : FeedFilter := .all
  dateFrom : Option Day := none
  dateTo : Option Day := none

/-! ## What is read -/

structure PersonRef where
  id : Uuid
  name : String

structure LibraryRef where
  key : String
  kind : Option String
  label : String

structure RegulatoryChange where
  id : Uuid
  title : String
  sourceLabel : String
  keyDate : Option Day
  keyDatePrecision : DatePrecision
  keyDateLabel : String

structure ChangeCase where
  id : Uuid
  change : RegulatoryChange
  status : CaseStatusCategory
  footprintMatch : Bool
  urgency : Uuid
  owner : Option PersonRef

structure ImpactAssessment where
  id : Uuid
  case_ : ChangeCase
  internalDeadline : Option Day

structure Action where
  id : Uuid
  case_ : ChangeCase
  title : String
  owner : PersonRef
  dueDate : Day
  done : Bool
  removed : Bool

structure OrgUnit where
  id : Uuid
  name : String

structure Licence where
  id : Uuid
  licenceType : Uuid
  orgUnit : OrgUnit
  ownerUser : Option PersonRef
  ownerTeam : Option Uuid
  withdrawnOn : Option Day
  validUntil : Option Day
  nextAuditOn : Option Day

structure TenantObligation where
  id : Uuid
  obligation : Uuid
  applicability : Applicability
  firstLineOwner : Option PersonRef
  ownerTeam : Option Uuid
  nextReviewDate : Option Day

structure TenantObligationScope where
  id : Uuid
  tenantObligation : TenantObligation
  orgUnit : OrgUnit
  applicability : Applicability
  owner : Option PersonRef
  ownerTeam : Option Uuid
  nextReviewDate : Option Day

structure Gap where
  id : Uuid
  tenantObligation : TenantObligation
  orgUnit : Option OrgUnit
  title : String
  statusKind : GapCategory
  owner : Option PersonRef
  ownerTeam : Option Uuid
  targetDate : Option Day

structure DutyOccurrence where
  id : Uuid
  dutyTitle : String
  tenantObligation : TenantObligation
  orgUnit : Option OrgUnit
  owner : Option PersonRef
  ownerTeam : Option Uuid
  dueDate : Day
  status : DutyStatus

/-- The bank's records, as its own zone shows them. -/
structure Records where
  cases : List ChangeCase := []
  assessments : List ImpactAssessment := []
  actions : List Action := []
  licences : List Licence := []
  entries : List TenantObligation := []
  scopes : List TenantObligationScope := []
  gaps : List Gap := []
  occurrences : List DutyOccurrence := []

structure WatchObligationLink where
  obligationId : Uuid
  title : String
  refLabel : String

/-- The names the library and the bank give to what a row points at, in the reader's languages. -/
structure Names where
  urgency : Uuid → LibraryRef
  links : Uuid → List WatchObligationLink
  heading : Uuid → String
  team : Uuid → LibraryRef
  licenceType : Uuid → String

/-! ## What is on the roadmap -/

def quarterOf (day : Day) : String := toString day.year ++ "-Q" ++ toString ((day.month - 1) / 3 + 1)

def windowStart (query : HomeRoadmapQuery) (today : Day) : Day :=
  match query.dateFrom with
  | none => today
  | some start => max today start

def openGaps : List GapCategory := [.open_, .remediating]

def finished : List CaseStatusCategory := [.closed, .dismissed]

/-- Rows with their date, up to the window's end, the earliest first and those of one day by id; a row without one is left out. -/
def until_ {Row : Type} (field : Row → Option Day) (id : Row → Uuid) (query : HomeRoadmapQuery) (rows : List Row) : List (Day × Row) :=
  inOrder (fun row => toLex (row.1, id row.2)) (rows.filterMap fun row =>
    ((field row).filter fun day => query.dateTo.all fun last => decide (day ≤ last)).map fun day => (day, row))

def dated {Row : Type} (field : Row → Option Day) (id : Row → Uuid) (query : HomeRoadmapQuery) (today : Day) (rows : List Row) :
    List (Day × Row) :=
  until_ field id query (rows.filter fun row => (field row).any fun day => decide (windowStart query today ≤ day))

/-- The first day of a month of a day's year. -/
def monthStart (day : Day) (month : Nat) (monthIn : 1 ≤ month ∧ month ≤ 12) : Day where
  year := day.year
  month := month
  day := 1
  yearIn := day.yearIn
  monthIn := monthIn
  dayIn := ⟨Nat.le_refl 1, Nat.le_trans (by decide) (Day.daysInMonth_ge day.year month)⟩

def periodStart (day : Day) : DatePrecision → Day
  | .month => day.firstOfMonth
  | .quarter => monthStart day ((day.month - 1) / 3 * 3 + 1) (by have := day.monthIn; omega)
  | _ => monthStart day 1 Day.first.monthIn

def openCases (records : Records) : List ChangeCase :=
  records.cases.filter fun case_ => case_.footprintMatch && !finished.contains case_.status

/-- `_cases`: a date stated less exactly than a day is ahead while its period runs. -/
def casesAhead (records : Records) (query : HomeRoadmapQuery) (today : Day) : List (Day × ChangeCase) :=
  let since := windowStart query today
  until_ (·.change.keyDate) (·.id) query ((openCases records).filter fun case_ =>
    case_.change.keyDate.any fun day => decide (since ≤ day) ||
      [DatePrecision.month, .quarter, .year].any fun precision =>
        case_.change.keyDatePrecision = precision && decide (periodStart since precision ≤ day))

structure HomeRoadmapOwner where
  person : Option PersonRef
  team : Option LibraryRef

structure HomeRoadmapSubject where
  obligationId : Option Uuid
  gapId : Option Uuid
  licenceId : Option Uuid
  entity : Option OrgUnit

structure HomeRoadmapItem where
  id : String
  kind : RoadmapItemKind
  itemType : RoadmapItemType
  date : Day
  datePrecision : DatePrecision
  quarter : String
  label : Option String := none
  title : String
  status : Option CaseStatusCategory := none
  urgency : Option LibraryRef := none
  sourceLabel : Option String := none
  changeId : Option Uuid := none
  owner : Option HomeRoadmapOwner := none
  subject : Option HomeRoadmapSubject := none
  obligations : List WatchObligationLink := []

def itemId (itemType : RoadmapItemType) (record : Uuid) : String := itemType.key ++ ":" ++ record.text

/-- `_item`. -/
def caseItem (names : Names) (row : Day × ChangeCase) : HomeRoadmapItem where
  id := itemId .changeDate row.2.id
  kind := .regulatory
  itemType := .changeDate
  date := row.1
  datePrecision := row.2.change.keyDatePrecision
  quarter := quarterOf row.1
  label := some row.2.change.keyDateLabel
  title := row.2.change.title
  status := some row.2.status
  urgency := some (names.urgency row.2.urgency)
  sourceLabel := some row.2.change.sourceLabel
  changeId := some row.2.change.id
  obligations := names.links row.2.change.id

/-- `_Deadline`. -/
structure Deadline where
  itemType : RoadmapItemType
  recordId : Uuid
  date : Day
  person : Option PersonRef
  team : Option Uuid
  entity : Option OrgUnit := none
  obligationId : Option Uuid := none
  gap : Option Gap := none
  licence : Option Licence := none
  title : Option String := none
  changeId : Option Uuid := none

def certificate (itemType : RoadmapItemType) (row : Day × Licence) : Deadline where
  itemType := itemType
  recordId := row.2.id
  date := row.1
  person := row.2.ownerUser
  team := row.2.ownerTeam
  entity := some row.2.orgUnit
  licence := some row.2

section
variable (records : Records) (query : HomeRoadmapQuery) (today : Day)

def caseBranches : List (List Deadline) :=
  let cases := (openCases records).map (·.id)
  let deadlines := records.assessments.filter (·.case_.id ∈ cases)
  let actions := records.actions.filter fun action => decide (action.case_.id ∈ cases) && !action.done && !action.removed
  [(dated (·.internalDeadline) (·.id) query today deadlines).map fun row =>
      { itemType := .internalDeadline, recordId := row.2.id, date := row.1, person := row.2.case_.owner, team := none,
        title := some row.2.case_.change.title, changeId := some row.2.case_.change.id },
    (dated (fun action => some action.dueDate) (·.id) query today actions).map fun row =>
      { itemType := .actionDue, recordId := row.2.id, date := row.1, person := some row.2.owner, team := none,
        title := some row.2.title, changeId := some row.2.case_.change.id }]

/-- The register's branches, of the entries in the bank's scope. -/
def registerBranches (inScope : List Uuid) : List (List Deadline) :=
  let entries := records.entries.filter fun entry => decide (entry.id ∈ inScope) && entry.applicability ≠ .doesNotApply
  let scopes := records.scopes.filter fun scope => decide (scope.tenantObligation.id ∈ inScope) && scope.applicability ≠ .doesNotApply &&
    scope.tenantObligation.applicability ≠ .doesNotApply
  let gaps := records.gaps.filter fun gap => decide (gap.tenantObligation.id ∈ inScope) && openGaps.contains gap.statusKind
  -- An entity that answers "does not apply" takes its occurrences with it.
  let excused (occurrence : DutyOccurrence) := records.scopes.any fun scope =>
    scope.tenantObligation.id == occurrence.tenantObligation.id && occurrence.orgUnit.any (·.id == scope.orgUnit.id) &&
      scope.applicability = .doesNotApply
  let occurrences := records.occurrences.filter fun occurrence => decide (occurrence.tenantObligation.id ∈ inScope) &&
    occurrence.status.isOpen && occurrence.tenantObligation.applicability ≠ .doesNotApply && !excused occurrence
  [(dated (·.nextReviewDate) (·.id) query today entries).map fun row =>
      { itemType := .reviewDue, recordId := row.2.id, date := row.1, person := row.2.firstLineOwner, team := row.2.ownerTeam,
        obligationId := some row.2.obligation },
    (dated (·.nextReviewDate) (·.id) query today scopes).map fun row =>
      { itemType := .reviewDue, recordId := row.2.id, date := row.1, person := row.2.owner, team := row.2.ownerTeam,
        entity := some row.2.orgUnit, obligationId := some row.2.tenantObligation.obligation },
    (dated (·.targetDate) (·.id) query today gaps).map fun row =>
      { itemType := .gapTarget, recordId := row.2.id, date := row.1, person := row.2.owner, team := row.2.ownerTeam,
        entity := row.2.orgUnit, obligationId := some row.2.tenantObligation.obligation, gap := some row.2 },
    (dated (fun occurrence => some occurrence.dueDate) (·.id) query today occurrences).map fun row =>
      { itemType := .dutyDue, recordId := row.2.id, date := row.1, person := row.2.owner, team := row.2.ownerTeam,
        entity := row.2.orgUnit, obligationId := some row.2.tenantObligation.obligation, title := some row.2.dutyTitle }]

def internalBranches (inScope : Option (List Uuid)) (casesReader : Bool) : List (List Deadline) :=
  let live := records.licences.filter (·.withdrawnOn.isNone)
  [(dated (·.validUntil) (·.id) query today live).map (certificate .certificateExpiry),
    (dated (·.nextAuditOn) (·.id) query today live).map (certificate .certificateAudit)] ++
    (if casesReader then caseBranches records query today else []) ++
    match inScope with
    | none => []
    | some entries => registerBranches records query today entries

end

/-- A deadline's own title, or its gap's, its certificate's type or its obligation's heading. -/
def deadlineTitle (names : Names) (deadline : Deadline) : String :=
  match deadline.title, deadline.gap, deadline.licence, deadline.obligationId with
  | some title, _, _, _ => title
  | none, some gap, _, _ => gap.title
  | none, none, some licence, _ => names.licenceType licence.licenceType
  | none, none, none, some obligation => names.heading obligation
  | none, none, none, none => ""

/-- `_deadline_items`, of one deadline. -/
def deadlineItem (names : Names) (deadline : Deadline) : HomeRoadmapItem where
  id := itemId deadline.itemType deadline.recordId
  kind := .internal
  itemType := deadline.itemType
  date := deadline.date
  datePrecision := .day
  quarter := quarterOf deadline.date
  title := deadlineTitle names deadline
  changeId := deadline.changeId
  owner := if deadline.person = none ∧ deadline.team = none then none
    else some { person := deadline.person, team := deadline.team.map names.team }
  subject := if deadline.changeId.isSome then none
    else some { obligationId := deadline.obligationId, gapId := deadline.gap.map (·.id), licenceId := deadline.licence.map (·.id),
                entity := deadline.entity }

/-! ## The reads -/

/-- `(item.date, item.id)`. -/
def HomeRoadmapItem.place (item : HomeRoadmapItem) : Day ×ₗ String := toLex (item.date, item.id)

/-- The branches the filter names, each as its items, in the order the database gives its rows. -/
def branches (records : Records) (names : Names) (query : HomeRoadmapQuery) (today : Day) (inScope : Option (List Uuid))
    (casesReader : Bool) : List (List HomeRoadmapItem) :=
  (if query.kind ≠ .internal then [(casesAhead records query today).map (caseItem names)] else []) ++
    if query.kind ≠ .regulatory then (internalBranches records query today inScope casesReader).map (·.map (deadlineItem names)) else []

/-- `_read`: with a limit each branch reads at most that many rows, and one count over every branch says how many there are. -/
def read (records : Records) (names : Names) (query : HomeRoadmapQuery) (today : Day) (inScope : Option (List Uuid)) (casesReader : Bool)
    (limit : Option Nat) : List HomeRoadmapItem × Nat :=
  let branches := branches records names query today inScope casesReader
  let page (rows : List HomeRoadmapItem) := match limit with
    | none => rows
    | some limit => rows.take limit
  let items := inOrder HomeRoadmapItem.place (branches.map page).flatten
  match limit with
  | none => (items, items.length)
  | some limit => (items.take limit, (branches.map List.length).sum)

structure HomeRoadmap where
  items : List HomeRoadmapItem
  quarters : List String

/-- The bank's records, the names its reader reads, its own today and its regulatory scope, as one request sees them. -/
structure Bank where
  records : Records
  names : Names
  today : Day
  inView : Uuid → Bool

def Bank.inScopeEntries (bank : Bank) : List Uuid := (bank.records.entries.filter fun entry => bank.inView entry.obligation).map (·.id)

def Bank.roadmapItems (bank : Bank) (query : HomeRoadmapQuery) (registerReader casesReader : Bool) : HomeRoadmap :=
  let inScope := if registerReader then some bank.inScopeEntries else none
  let items := (read bank.records bank.names query bank.today inScope casesReader none).1
  { items, quarters := (items.map (·.quarter)).eraseDups }

def Bank.comingUp (bank : Bank) (limit : Nat) (inScope : Option (List Uuid)) (casesReader : Bool) : List HomeRoadmapItem × Nat :=
  read bank.records bank.names {} bank.today inScope casesReader (some limit)

/-! ## The short list is the head of the long one -/

variable {records : Records} {names : Names} {query : HomeRoadmapQuery} {today : Day} {inScope : Option (List Uuid)} {casesReader : Bool}
  {Row : Type} {field : Row → Option Day} {id : Row → Uuid} {rows : List Row}

theorem sorted_until {item : Day × Row → HomeRoadmapItem} (itemType : RoadmapItemType) (date : ∀ row, (item row).date = row.1)
    (named : ∀ row, (item row).id = itemId itemType (id row.2)) :
    ((until_ field id query rows).map item).Pairwise fun item other => item.place ≤ other.place := by
  refine List.pairwise_map.mpr ((inOrder_sorted _ _).imp fun {row other} placed => ?_)
  rw [HomeRoadmapItem.place, HomeRoadmapItem.place, date, date, named, named]
  rcases Prod.Lex.toLex_le_toLex.mp placed with earlier | ⟨same, below⟩
  · exact Prod.Lex.toLex_le_toLex.mpr (.inl earlier)
  · exact Prod.Lex.toLex_le_toLex.mpr (.inr ⟨same, Uuid.labelled_le.mpr below⟩)

theorem sorted_dated {deadline : Day × Row → Deadline} (itemType : RoadmapItemType) (kind : ∀ row, (deadline row).itemType = itemType)
    (date : ∀ row, (deadline row).date = row.1) (record : ∀ row, (deadline row).recordId = id row.2) :
    (((dated field id query today rows).map deadline).map (deadlineItem names)).Pairwise fun item other => item.place ≤ other.place := by
  rw [List.map_map]
  refine sorted_until itemType date fun row => ?_
  rw [← kind row, ← record row]
  rfl

theorem branches_sorted : ∀ items ∈ branches records names query today inScope casesReader,
    items.Pairwise fun item other => item.place ≤ other.place := by
  unfold branches
  refine List.forall_mem_append.mpr ⟨?_, ?_⟩
  · split
    · exact List.forall_mem_singleton.mpr (sorted_until .changeDate (fun _ => rfl) fun _ => rfl)
    · exact List.forall_mem_nil _
  · split
    · refine List.forall_mem_map.mpr ?_
      unfold internalBranches
      refine List.forall_mem_append.mpr ⟨List.forall_mem_append.mpr ⟨?_, ?_⟩, ?_⟩
      · refine List.forall_mem_cons.mpr ⟨?_, List.forall_mem_singleton.mpr ?_⟩
        · exact sorted_dated .certificateExpiry (fun _ => rfl) (fun _ => rfl) fun _ => rfl
        · exact sorted_dated .certificateAudit (fun _ => rfl) (fun _ => rfl) fun _ => rfl
      · split
        · refine List.forall_mem_cons.mpr ⟨?_, List.forall_mem_singleton.mpr ?_⟩
          · exact sorted_dated .internalDeadline (fun _ => rfl) (fun _ => rfl) fun _ => rfl
          · exact sorted_dated .actionDue (fun _ => rfl) (fun _ => rfl) fun _ => rfl
        · exact List.forall_mem_nil _
      · split
        · exact List.forall_mem_nil _
        · refine List.forall_mem_cons.mpr ⟨?_, List.forall_mem_cons.mpr ⟨?_, List.forall_mem_cons.mpr ⟨?_, List.forall_mem_singleton.mpr ?_⟩⟩⟩
          · exact sorted_dated .reviewDue (fun _ => rfl) (fun _ => rfl) fun _ => rfl
          · exact sorted_dated .reviewDue (fun _ => rfl) (fun _ => rfl) fun _ => rfl
          · exact sorted_dated .gapTarget (fun _ => rfl) (fun _ => rfl) fun _ => rfl
          · exact sorted_dated .dutyDue (fun _ => rfl) (fun _ => rfl) fun _ => rfl
    · exact List.forall_mem_nil _

theorem read_limit (limit : Nat) : read records names query today inScope casesReader (some limit) =
    ((read records names query today inScope casesReader none).1.take limit, (read records names query today inScope casesReader none).1.length) := by
  have whole : (branches records names query today inScope casesReader).map (fun rows => rows) =
      branches records names query today inScope casesReader := List.map_id _
  refine Prod.ext ?_ ?_
  · simp only [read, whole]
    exact (take_inOrder_flatten _ limit _ branches_sorted).symm
  · simp only [read, whole]
    rw [inOrder, List.length_insertionSort, List.length_flatten]

/-- Today's panel is the head of the roadmap's page and counts it, for any reader and any limit. -/
theorem comingUp_eq (bank : Bank) (limit : Nat) (registerReader casesReader : Bool) :
    bank.comingUp limit (if registerReader then some bank.inScopeEntries else none) casesReader =
      ((bank.roadmapItems {} registerReader casesReader).items.take limit, (bank.roadmapItems {} registerReader casesReader).items.length) :=
  read_limit limit

end Grc.Home
