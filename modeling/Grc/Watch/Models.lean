import Grc.Lib.Keyed
import Grc.Lib.Tx
import Grc.Library.Reading

/-! A watched change, the facts curated on it with who suggested and who confirmed each, and who calls. -/
namespace Grc.Watch

open Grc.Shared Grc.Lib Grc.Library

inductive PrincipalKind where
  | user
  | agent
  | enrolment
  deriving DecidableEq

/-- What a request was authenticated as. -/
structure Principal where
  kind : PrincipalKind
  subjectId : Id
  tenantId : Option Id := none
  permissions : List String := []
  scopes : List String := []
  /-- The id of a passkey assertion that is still fresh. -/
  stepUpAssertionId : Option Id := none
  agentId : Option Id := none

namespace Principal

def hasPermission (who : Principal) (permission : String) : Bool := who.kind == .user && who.permissions.contains permission

def hasScope (who : Principal) (scope : String) : Bool := who.kind == .agent && who.scopes.contains scope

end Principal

/-- The three columns that name who suggested a fact. -/
structure Suggester where
  person : Option Id := none
  agent : Option Id := none
  apiKey : Option Id := none

/-- The columns that name who confirmed a fact, and when. -/
structure Confirmer where
  person : Option Id := none
  apiKey : Option Id := none
  agent : Option Id := none
  at_ : Option Instant := none

inductive ChangeStatus where
  | active
  | superseded
  | withdrawn

structure RegulatoryChange where
  id : Id
  stableKey : String
  title : String
  changeType : Id
  changeTypeSuggested : Bool := true
  /-- In thousandths. -/
  changeTypeConfidence : Option Nat := none
  changeTypeSuggester : Suggester := {}
  changeTypeConfirmer : Confirmer := {}
  authority : Option Id := none
  authorityLabel : String := ""
  publishedOn : Option Day := none
  publishedPrecision : String := "day"
  summary : String := ""
  soWhatDraft : String := ""
  suggestedUrgency : Option Id := none
  keyDate : Option Day := none
  keyDatePrecision : String := "day"
  keyDateLabel : String := ""
  recurrenceRule : String := ""
  sourceLabel : String := ""
  sourceUrl : String := ""
  status : ChangeStatus := .active
  supersededBy : Option Id := none
  origin : OriginType := .agent
  agentRun : Option Id := none
  model : String := ""

structure ChangeEvent where
  id : Id
  change : Id
  label : String
  eventDate : Option Day := none
  datePrecision : String := "day"
  occurred : Bool := false
  sortOrder : Nat := 0
  sourceUrl : String := ""

structure ChangeDocument where
  id : Id
  change : Id
  url : String
  title : String := ""
  publisher : String := ""
  fetchedAt : Option Instant := none
  contentHash : String := ""
  isPrimary : Bool := false
  isDuplicate : Bool := false
  riskFlags : List String := []

/-- The two kinds of term link: a scope term, or a flag. -/
inductive TermColumn where
  | term
  | flag
  deriving DecidableEq

/-- A flag or a scope term on a change. -/
structure ChangeTerm where
  id : Id
  change : Id
  column : TermColumn
  value : Id
  confidence : Option Nat := none
  suggested : Bool := true
  suggester : Suggester := {}
  confirmer : Confirmer := {}

/-- An obligation a change affects; it is confirmed once the confirmation has a time. -/
structure ChangeObligation where
  id : Id
  change : Id
  obligation : Id
  origin : OriginType
  confidence : Option Nat := none
  suggester : Suggester := {}
  confirmer : Confirmer := {}

structure AgentRun where
  id : Id
  agent : Option Id := none
  apiKey : Option Id := none
  running : Bool := true
  model : String := ""
  pipelineVersion : String := ""

inductive AiPurpose where
  | soWhat
  | scopeSuggestion
  | agentReview
  deriving DecidableEq

/-- A row of the AI output log, about a change. -/
structure AiGeneration where
  purpose : AiPurpose
  model : String
  modelVersion : String
  output : String
  agentRunId : Option Id
  subjectId : Id

/-- The watch's tables, with the AI output log and the audit log. -/
structure Tables where
  changes : Keyed RegulatoryChange.id := {}
  events : Keyed ChangeEvent.id := {}
  documents : Keyed ChangeDocument.id := {}
  terms : Keyed ChangeTerm.id := {}
  obligations : Keyed ChangeObligation.id := {}
  generations : List AiGeneration := []
  audit : List AuditEvent := []

/-- A write of the watch, on its tables. -/
abbrev Writing := Tx Tables Refusal

/-- What a call reads outside the watch: the library, the runs, the injection screen, the clock and the settings. -/
structure Now where
  records : Records
  /-- The authorities whose jurisdiction is international. -/
  standardsBodies : List Id := []
  runs : List AgentRun := []
  screen : String → List String
  at_ : Instant
  /-- `WATCH_RUN_MAX_CHANGES`. -/
  maxChanges : Nat
  /-- `AI_GENERATION_OUTPUT_MAX_CHARS`. -/
  maxOutput : Nat

/-- `WatchSoWhatInput`. -/
structure SoWhatInput where
  text : String
  model : String
  modelVersion : String
  citations : List String

/-- `WatchChangeEventInput`. -/
structure ChangeEventInput where
  label : String
  eventDate : Option Day := none
  datePrecision : Option String := none
  occurred : Bool := false
  sortOrder : Nat := 0
  sourceUrl : Option String := none

/-- `WatchChangeDocumentInput`. -/
structure ChangeDocumentInput where
  url : String
  title : Option String := none
  publisher : Option String := none
  fetchedAt : Option Instant := none
  contentHash : Option String := none
  isPrimary : Bool := false
  isDuplicate : Bool := false
  riskFlags : List String := []

/-- `WatchObligationLinkInput`. -/
structure ObligationLinkInput where
  obligationId : Id
  confidence : Option Nat := none

/-- `WatchChangeInput`. -/
structure ChangeInput where
  stableKey : String
  agentRunId : Option Id := none
  title : String
  changeType : String
  changeTypeConfidence : Option Nat := none
  authorityCode : Option String := none
  authorityLabel : String := ""
  publishedOn : Option Day := none
  publishedPrecision : Option String := none
  summary : String := ""
  suggestedUrgency : Option String := none
  keyDate : Option Day := none
  keyDatePrecision : Option String := none
  keyDateLabel : Option String := none
  recurrenceRule : Option String := none
  sourceLabel : String := ""
  sourceUrl : String := ""
  model : Option String := none
  flags : List String := []
  termIds : List Id := []
  obligationLinks : List ObligationLinkInput := []
  events : List ChangeEventInput := []
  documents : List ChangeDocumentInput := []
  soWhat : Option SoWhatInput := none

/-- `WatchChangePatch`, a field left out or null as none. -/
structure ChangePatch where
  title : Option String := none
  changeType : Option String := none
  summary : Option String := none
  keyDate : Option Day := none
  keyDatePrecision : Option String := none
  keyDateLabel : Option String := none
  status : Option ChangeStatus := none
  supersededBy : Option Id := none
  flags : Option (List String) := none
  termIds : Option (List Id) := none
  soWhat : Option SoWhatInput := none

/-- The model call behind an agent's decision. -/
structure AgentDecision where
  model : String
  modelVersion : String
  output : String

/-- `WatchCurationConfirmInput`. -/
structure CurationConfirmInput where
  changeType : Option String := none
  flags : List String := []
  termIds : List Id := []
  obligationIds : List Id := []
  decision : Option AgentDecision := none
  agentRunId : Option Id := none

/-! What a caller named, resolved to the rows behind it, and who may call. -/

variable (records : Records)

def changeTypeList : String := "change_type"
def flagList : String := "flag"
def urgencyList : String := "urgency"
def regimeDimension : String := "regime"

def rowBefore (first second : ListRow) : Prop :=
  first.sortOrder < second.sortOrder ∨ (first.sortOrder = second.sortOrder ∧ first.key ≤ second.key)

instance : DecidableRel rowBefore := fun _ _ => inferInstanceAs (Decidable (_ ∨ _))

def activeKeys (list : String) : List String :=
  ((records.rows.filter fun row => row.list == list && row.active).insertionSort rowBefore).map (·.key)

def activeRow (list key : String) : Option ListRow :=
  records.rows.find? fun row => row.list == list && row.key == key && row.active

/-- `resolve_keys`: the rows of a list these keys name, in the order they were sent. -/
def resolveKeys (list : String) (keys : List String) : Except Refusal (List ListRow) := do
  let unknown := keys.eraseDups.filter fun key => (activeRow records list key).isNone
  let valid := activeKeys records list
  require (unknown = []) {
    code := "unknown_key"
    detail := "Not a " ++ list ++ " key: " ++ joined unknown ++ ". Valid keys: " ++ joined valid ++ "."
    extra := [("vocabulary", .text list), ("validKeys", .texts valid)] }
  .ok (keys.filterMap (activeRow records list))

def activeTerm (id : Id) : Option Term :=
  records.terms.find? fun term => term.id == id && term.active && ((records.dimensionOf term).map (·.active)).getD false

/-- `resolve_terms`: the terms with these ids, in the order they were sent, none of them mirrored. -/
def resolveTerms (ids : List Id) : Except Refusal (List Term) := do
  let unknown := ids.eraseDups.filter fun id => (activeTerm records id).isNone
  require (unknown = []) {
    code := "unknown_key"
    detail := "Not a taxonomy term: " ++ joined (unknown.map toString) ++
      ". GET /taxonomy/terms lists the terms of every dimension." }
  let found := ids.filterMap (activeTerm records)
  records.refuseMirrored (found.map (·.dimension))
  .ok found

def dimensionKey (term : Term) : String := ((records.dimensionOf term).map (·.key)).getD ""

def requireRegime (terms : List Term) : Except Refusal Unit :=
  let regimes := (records.terms.filter fun term => dimensionKey records term == regimeDimension &&
    ((records.dimensionOf term).map (·.active)).getD false && term.active).insertionSort (Records.termBefore · ·)
  let valid := regimes.map (·.key)
  require (∃ term ∈ terms, dimensionKey records term = regimeDimension) {
    code := "regime_required"
    detail := "A change needs at least one regime term. Valid regimes: " ++ joined valid ++
      ". GET /taxonomy/terms gives their ids."
    extra := [("dimension", .text regimeDimension), ("validKeys", .texts valid)] }

/-- `require_standards_body`: a standard's term only on a change a standards body issued. -/
def requireStandardsBody (standardsBodies : List Id) (terms : List Term) (authority : Option Id) : Except Refusal Unit :=
  require ((∀ term ∈ terms, (records.dimensionOf term).bind (·.kind) ≠ some "opt_in") ∨
      ∃ named ∈ authority, named ∈ standardsBodies) {
    code := "standard_term_only_on_standards"
    detail := "A standard's term belongs only on a change a standards body issued, named in `authorityCode` with an international jurisdiction. A law or a supervisor's rule that cites a standard carries its regime, never the standard." }

/-- `obligations_for`, read for its refusal. -/
def obligationsFor (ids : List Id) : Except Refusal Unit :=
  let unknown := ids.eraseDups.filter fun id =>
    !records.obligations.any fun obligation => obligation.id == id && obligation.status == .active
  require (unknown = []) {
    code := "unknown_key"
    detail := "Not an obligation of the library: " ++ joined (unknown.map toString) ++
      ". GET /obligations lists the obligations a change may be linked to." }

def authorityNamed (code : String) : Except Refusal (Option Id) :=
  if code = "" then .ok none
  else (demand (records.authorities.find? (·.key == code)) {
    code := "unknown_key"
    detail := "Not an authority of the library: " ++ code ++ ". GET /authorities lists the ones a change may name."
    }).map fun authority => some authority.id

def keyOf (id : Id) : String := ((records.rows.find? (·.id == id)).map (·.key)).getD ""

variable (tables : Tables)

def changeNamed (id : Id) : Except Refusal Id :=
  (demand (tables.changes.rows.find? (·.id == id)) {
    code := "unknown_key"
    detail := "Not a change of the library: " ++ toString id ++ ". Register the replacing change before naming it."
    }).map (·.id)

/-- `change_for_write`, and `change_for_update` under the lock its transaction holds. -/
def changeFor (id : Id) : Except Refusal RegulatoryChange := demand (tables.changes.rows.find? (·.id == id)) notFound

/-- `event_for_write`. -/
def eventFor (change id : Id) : Except Refusal ChangeEvent :=
  demand (tables.events.rows.find? fun event => event.change == change && event.id == id) notFound

def changeWithStableKey (stableKey : String) : Option RegulatoryChange :=
  tables.changes.rows.find? (·.stableKey == stableKey)

def documentWithUrl (change : Id) (url : String) : Option ChangeDocument :=
  tables.documents.rows.find? fun document => document.change == change && document.url == url

def timeline (change : Id) : List ChangeEvent :=
  (tables.events.rows.filter (·.change == change)).insertionSort fun first second =>
    first.sortOrder < second.sortOrder ∨ (first.sortOrder = second.sortOrder ∧ first.id ≤ second.id)

def eventWithLabel (change : Id) (label : String) : Option ChangeEvent := (timeline tables change).find? (·.label == label)

def scopeChangesWrite : String := "changes:write"
def scopeProposalsReview : String := "proposals:review"
def permissionProposalsReview : String := "proposals.review"

def deny (permission : String) : Refusal where
  code := "permission_denied"
  detail := "You do not have access to this."
  extra := [("requiredPermission", .text permission)]

def refuseTenantKey (who : Principal) : Except Refusal Unit :=
  require (who.tenantId = none) {
    code := "tenant_agents_not_available"
    detail := "Agent runs and what they file belong to the platform. The agents that feed the shared library are part of the base package, and agents of your own arrive later." }

def enforceStepUp (who : Principal) : Except Refusal Id :=
  if who.kind = .user then
    demand who.stepUpAssertionId { code := "step_up_required", detail := "Confirm this action with your passkey." }
  else .error { code := "step_up_required", detail := "A person must confirm this with a passkey." }

def freshStepUp (who : Principal) : Option Id := (enforceStepUp who).toOption

def requireChangeWriter (who : Principal) : Except Refusal Unit :=
  if who.kind = .agent then do
    refuseTenantKey who
    require (who.hasScope scopeChangesWrite = true) (deny scopeChangesWrite)
  else require (who.hasPermission permissionProposalsReview = true) (deny permissionProposalsReview)

/-- `require_curation_confirmer`: an agent's key bound to an agent, or a person with a fresh passkey. -/
def requireCurationConfirmer (who : Principal) : Except Refusal (Option Id) :=
  if who.kind = .agent then do
    require (who.tenantId = none ∧ who.hasScope scopeProposalsReview = true) (deny scopeProposalsReview)
    require (who.agentId ≠ none) {
      code := "agent_not_bound"
      detail := "This key is bound to no agent definition, so its confirmation could not be told apart from the suggestion." }
    .ok none
  else do
    require (who.hasPermission permissionProposalsReview = true) (deny permissionProposalsReview)
    (enforceStepUp who).map some

/-- `require_open_run`: an open run of the caller's own key. -/
def requireOpenRun (runs : List AgentRun) (who : Principal) (run : Option Id) : Except Refusal AgentRun := do
  refuseTenantKey who
  let named ← demand run {
    code := "run_not_open"
    detail := "Name the open run this is filed under in agentRunId. Open one with POST /agent-runs first." }
  let own ← demand (runs.find? fun run => run.id == named && run.apiKey == some who.subjectId) notFound
  require (own.running = true) {
    code := "run_not_open"
    detail := "That run is closed. Open a run before filing anything against it." }
  .ok own

end Grc.Watch
