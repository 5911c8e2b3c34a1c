import Grc.Library.Recurrence

/-! What a proposal can ask for: its kind, and the payload of each kind as its schema parses it. -/
namespace Grc.Proposals

open Grc.Shared Grc.Lib Grc.Library

inductive ProposalKind where
  | vocabularyCreate
  | vocabularyRelabel
  | vocabularyRetire
  | vocabularyMerge
  | vocabularyRestore
  | termCreate
  | termUpdate
  | newObligationVersion
  | newInstrument
  | newObligation
  | newProvision
  | newProvisionVersion
  | obligationScope
  | newRecurringDuty
  | newControl
  deriving DecidableEq

namespace ProposalKind

def value : ProposalKind → String
  | vocabularyCreate => "vocabulary_create"
  | vocabularyRelabel => "vocabulary_relabel"
  | vocabularyRetire => "vocabulary_retire"
  | vocabularyMerge => "vocabulary_merge"
  | vocabularyRestore => "vocabulary_restore"
  | termCreate => "term_create"
  | termUpdate => "term_update"
  | newObligationVersion => "new_obligation_version"
  | newInstrument => "new_instrument"
  | newObligation => "new_obligation"
  | newProvision => "new_provision"
  | newProvisionVersion => "new_provision_version"
  | obligationScope => "obligation_scope"
  | newRecurringDuty => "new_recurring_duty"
  | newControl => "new_control"

/-- The kinds with a schema in `PAYLOAD_SCHEMAS`, in the order `ProposalKind` lists them. -/
def filed : List ProposalKind :=
  [vocabularyCreate, vocabularyRelabel, vocabularyRetire, vocabularyMerge, vocabularyRestore, termCreate,
    termUpdate, newObligationVersion, newInstrument, newObligation, newProvision, newProvisionVersion,
    newRecurringDuty, newControl]

end ProposalKind

open ProposalKind

def vocabularyKinds : List ProposalKind :=
  [vocabularyCreate, vocabularyRelabel, vocabularyRetire, vocabularyRestore, vocabularyMerge]

def termKinds : List ProposalKind := [termCreate, termUpdate]

def obligationKinds : List ProposalKind := [newObligationVersion]

def newRecordKinds : List ProposalKind := [newInstrument, newObligation, newProvision]

def privateRecordKinds : List ProposalKind := [newInstrument, newObligation, newControl]

def privateOnlyKinds : List ProposalKind := [newControl]

def untargetedKinds : List ProposalKind := newRecordKinds ++ privateOnlyKinds

def agentConfirmableKinds : List ProposalKind :=
  obligationKinds ++ vocabularyKinds ++ termKinds ++ [newInstrument, newObligation, newRecurringDuty]

def obligationTarget : String := "obligation"

def provisionTarget : String := "provision"

/-- `RECORD_TARGETS`: the target type of the kinds that name the record they are for. -/
def recordTarget : ProposalKind → Option String
  | newObligationVersion => some obligationTarget
  | newProvisionVersion => some provisionTarget
  | newRecurringDuty => some obligationTarget
  | _ => none

def correctableKinds : List ProposalKind :=
  [newObligationVersion, newProvisionVersion, newRecurringDuty] ++ newRecordKinds

def validatedKind (kind : String) : Except Refusal ProposalKind :=
  demand (filed.find? (·.value == kind)) {
    code := "unknown_key"
    detail := quoted kind ++ " is not a proposal kind. Valid kinds: " ++ joined (filed.map value) ++ "." }

structure VocabularyCreatePayload where
  list : String
  key : String
  labels : Dict String
  usageNote : String := ""
  kind : Option String := none
  sortOrder : Option Nat := none
  extra : Dict Json := []
  deriving DecidableEq

structure VocabularyRelabelPayload where
  list : String
  key : String
  labels : Dict String := []
  usageNote : Option String := none
  sortOrder : Option Nat := none
  extra : Option (Dict Json) := none
  deriving DecidableEq

/-- The payload of a retirement and of a restoration. -/
structure VocabularyRetirePayload where
  list : String
  key : String
  deriving DecidableEq

structure VocabularyMergePayload where
  list : String
  key : String
  into : String
  deriving DecidableEq

structure TermCreatePayload where
  dimension : String
  key : String
  labels : Dict String
  usageNote : String := ""
  parent : Option String := none
  deriving DecidableEq

structure TermUpdatePayload where
  dimension : String
  key : String
  labels : Dict String := []
  usageNote : Option String := none
  sortOrder : Option Nat := none
  deriving DecidableEq

structure ObligationVersionPayload where
  summaries : Dict String
  originalLanguage : String
  isMachine : Bool := false
  effectiveFrom : Option Day := none
  effectiveFromPrecision : String := "day"
  terms : Option (List String) := none
  deriving DecidableEq

structure InstrumentPayload where
  key : String
  titles : Dict String
  originalLanguage : String
  isMachine : Bool := false
  shortName : String
  officialRef : String
  eliUri : String := ""
  level : String
  binding : Option Bool := none
  jurisdiction : String
  authority : Option String := none
  regime : String
  inForceFrom : Option Day := none
  inForceFromPrecision : String := "day"
  inForceTo : Option Day := none
  inForceToPrecision : String := "day"
  implementsNote : String := ""
  deriving DecidableEq

structure ObligationPayload where
  key : String
  instrument : String
  titles : Dict String
  summaries : Dict String
  originalLanguage : String
  isMachine : Bool := false
  refLabel : String
  dutyType : String
  effectiveFrom : Option Day := none
  effectiveFromPrecision : String := "day"
  terms : Option (List String) := none
  deriving DecidableEq

structure ProvisionPayload where
  key : String
  instrument : String
  parent : Option String := none
  provisionKind : String
  refLabel : String
  heading : String := ""
  sortOrder : Int := 0
  texts : Dict String
  originalLanguage : String
  isMachine : Bool := false
  effectiveFrom : Option Day := none
  effectiveFromPrecision : String := "day"
  deriving DecidableEq

structure ProvisionVersionPayload where
  texts : Dict String
  originalLanguage : String
  isMachine : Bool := false
  effectiveFrom : Option Day := none
  effectiveFromPrecision : String := "day"
  deriving DecidableEq

structure RecurringDutyPayload where
  title : String
  recurrenceRule : String
  dueRuleNote : String := ""
  recipientAuthority : Option String := none
  leadDays : Nat := 0
  deriving DecidableEq

structure ControlPayload where
  obligation : String
  name : String
  reference : String := ""
  deriving DecidableEq

/-- One obligation's part of a re-tag. -/
structure ObligationScopeChange where
  obligationId : Id
  add : List String := []
  remove : List String := []
  source : String

/-- `Field(min_length=1)`: a re-tag changes something. -/
structure ObligationScopePayload where
  changes : List ObligationScopeChange
  filled : changes ≠ []

/-- A payload as a schema of `PAYLOAD_SCHEMAS` parsed it. -/
inductive Payload where
  | vocabularyCreate (payload : VocabularyCreatePayload)
  | vocabularyRelabel (payload : VocabularyRelabelPayload)
  | vocabularyRetire (payload : VocabularyRetirePayload)
  | vocabularyMerge (payload : VocabularyMergePayload)
  | termCreate (payload : TermCreatePayload)
  | termUpdate (payload : TermUpdatePayload)
  | obligationVersion (payload : ObligationVersionPayload)
  | instrument (payload : InstrumentPayload)
  | obligation (payload : ObligationPayload)
  | provision (payload : ProvisionPayload)
  | provisionVersion (payload : ProvisionVersionPayload)
  | recurringDuty (payload : RecurringDutyPayload)
  | control (payload : ControlPayload)
  deriving DecidableEq

/-- `str.strip`. -/
def strip (text : String) : String :=
  String.ofList ((text.toList.dropWhile isSpace).rdropWhile isSpace)

/-- What the platform is deployed with and does not define itself: `pydantic` over the payload
schemas, the screens and formats of other packages, and the settings. -/
structure Platform (Rule : Type) where
  /-- `model_validate` of a kind's schema: the payload, or the places of its faults. -/
  modelValidate : ProposalKind → Dict Json → Except (List String) Payload
  /-- `payload_dict`: `model_dump(mode="json", by_alias=True, exclude_none=True)`. -/
  modelDump : Payload → Dict Json
  /-- The same two of a batch's schema. -/
  scopeValidate : Dict Json → Except (List String) ObligationScopePayload
  scopeDump : ObligationScopePayload → Dict Json
  /-- `is_link`: Django's `URLValidator(schemes=["https"])`. -/
  isLink : String → Bool
  slugify : String → String
  /-- `__iexact`: the spelling the database compares without case. -/
  folded : String → String
  /-- `Field.clean` of a list's own column. -/
  clean : String → Json → Except String Json
  /-- `screen_all`: the flags the injection screen raises. -/
  screenAll : List String → List String
  dateutil : Dateutil Rule
  proposalTextMaxChars : Nat := 50000
  proposalSourceMaxChars : Nat := 2000
  proposalBatchMaxRows : Nat := 100
  watchRunMaxProposals : Nat := 50
  recurrenceMaxOccurrences : Nat := 120

/-- The moment of a call, and whether the search index can be written in it. -/
structure Now where
  moment : Instant
  today : Day
  indexWritable : Bool := true

end Grc.Proposals
