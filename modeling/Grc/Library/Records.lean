import Grc.Lib.Calendar
import Grc.Shared.Audit

/-! The tables an approved proposal reads and writes: the library's lists, terms and records, and
the register rows a bank's own control is linked through. -/
namespace Grc.Library

open Grc.Shared Grc.Lib

inductive RecordStatus where
  | active
  | retired
  deriving DecidableEq

/-- Where a record came from, or who confirmed it. -/
inductive OriginType where
  | agent
  | user
  deriving DecidableEq

def OriginType.value : OriginType → String
  | agent => "agent"
  | user => "user"

/-- The provenance `LibraryVocabulary` and `TaxonomyTerm` hold, blank on a seeded row. -/
structure Confirmation where
  verifiedOrigin : Option OriginType := none
  verifiedByAgent : Option Id := none
  appliedByProposal : Option Id := none

/-- A row of a library list, with the list's own columns. -/
structure ListRow where
  id : Id
  list : String
  key : String
  kind : Option String := none
  usageNote : String := ""
  sortOrder : Nat := 0
  active : Bool := true
  isSystem : Bool := false
  isDefault : Bool := false
  version : Nat := 1
  columns : Dict Json := []
  confirmation : Confirmation := {}

/-- A taxonomy term; its dimension is a row of the list `term_dimension`. -/
structure Term where
  id : Id
  dimension : Id
  key : String
  parent : Option Id := none
  jurisdiction : Option Id := none
  usageNote : String := ""
  sortOrder : Nat := 0
  active : Bool := true
  isSystem : Bool := false
  version : Nat := 1
  confirmation : Confirmation := {}

/-- One language of a label, a title, a summary or a verbatim text. -/
structure Translation where
  holder : Id
  language : String
  text : String
  isOriginal : Bool
  isMachine : Bool
  deriving DecidableEq

structure Authority where
  id : Id
  key : String

structure Instrument where
  id : Id
  ownerTenant : Option Id := none
  stableKey : String
  shortName : String
  officialRef : String
  eliUri : String := ""
  sourceUrl : String := ""
  level : Id
  binding : Bool := true
  jurisdiction : Id
  authority : Option Id := none
  regime : Id
  inForceFrom : Option Day := none
  inForceFromPrecision : String := "day"
  inForceTo : Option Day := none
  inForceToPrecision : String := "day"
  implementsNote : String := ""
  status : RecordStatus := .active
  createdOrigin : OriginType := .user
  createdByAgentRun : Option Id := none
  verifiedOrigin : Option OriginType := none
  verifiedByAgent : Option Id := none

structure Obligation where
  id : Id
  ownerTenant : Option Id := none
  stableKey : String
  instrument : Id
  refLabel : String := ""
  dutyType : Id
  status : RecordStatus := .active
  createdOrigin : OriginType := .user
  createdByAgentRun : Option Id := none
  createdModel : String := ""
  sourceUrl : String := ""
  sourceLabel : String := ""
  verifiedOrigin : Option OriginType := none
  verifiedByAgent : Option Id := none

structure ObligationTerm where
  obligation : Id
  term : Id

structure ObligationVersion where
  id : Id
  obligation : Id
  versionNumber : Nat
  effectiveFrom : Option Day
  effectiveFromPrecision : String
  causedByChange : Option Id := none
  appliedByProposal : Option Id := none
  approvedBy : Option Id := none
  approvedAt : Option Instant := none
  verifiedOrigin : Option OriginType := none
  verifiedByAgent : Option Id := none
  deriving DecidableEq

structure Provision where
  id : Id
  stableKey : String
  instrument : Id
  parent : Option Id := none
  kind : Id
  refLabel : String := ""
  heading : String := ""
  path : String := ""
  sortOrder : Int := 0
  status : RecordStatus := .active

structure ProvisionVersion where
  id : Id
  provision : Id
  versionNumber : Nat
  effectiveFrom : Option Day
  effectiveFromPrecision : String
  appliedByProposal : Option Id := none
  deriving DecidableEq

structure RecurringDuty where
  id : Id
  obligation : Id
  title : String
  recurrenceRule : String
  dueRuleNote : String
  recipientAuthority : Option Id
  leadDays : Nat
  appliedByProposal : Option Id
  createdOrigin : OriginType
  createdByAgent : Option Id
  verifiedOrigin : Option OriginType
  verifiedByAgent : Option Id
  approvedBy : Option Id
  approvedAt : Option Instant

/-- A row of a table that only carries a value of a library list: a relation, a watch row, a
tag. `unique` holds the other columns of a unique constraint the value sits in. -/
structure Carrier where
  id : Id
  table : String
  value : Id
  unique : List (Option Id) := []

/-- A bank's register entry on an obligation. -/
structure RegisterEntry where
  id : Id
  tenant : Id
  obligation : Id

/-- A row of a bank's list of link kinds. -/
structure LinkKind where
  id : Id
  tenant : Id
  key : String
  active : Bool := true

structure InternalItem where
  id : Id
  tenant : Id
  kind : Id
  name : String
  reference : String := ""
  active : Bool := true

structure InternalLink where
  id : Id
  tenant : Id
  entry : Id
  item : Id
  label : String
  createdBy : Id
  removedAt : Option Instant := none

/-- The tables, with the search documents written and the audit log. -/
structure Records where
  languages : List String := []
  rows : List ListRow := []
  rowLabels : List Translation := []
  terms : List Term := []
  termLabels : List Translation := []
  authorities : List Authority := []
  instruments : List Instrument := []
  instrumentTitles : List Translation := []
  obligations : List Obligation := []
  obligationTitles : List Translation := []
  obligationTerms : List ObligationTerm := []
  versions : List ObligationVersion := []
  summaries : List Translation := []
  provisions : List Provision := []
  provisionVersions : List ProvisionVersion := []
  provisionTexts : List Translation := []
  duties : List RecurringDuty := []
  carriers : List Carrier := []
  entries : List RegisterEntry := []
  linkKinds : List LinkKind := []
  items : List InternalItem := []
  links : List InternalLink := []
  reindexed : List Id := []
  audit : List AuditEvent := []
  nextId : Id := 0

/-- `date.isoformat`. -/
def isoformat (date : Day) : String :=
  let padded (width number : Nat) : String :=
    let digits := toString number
    String.ofList (List.replicate (width - digits.length) '0') ++ digits
  padded 4 date.year ++ "-" ++ padded 2 date.month ++ "-" ++ padded 2 date.day

end Grc.Library
