import Grc.Lib.Tx
import Grc.Proposals.Validation

/-! A proposal, its batch rows, who makes and who decides one, and the desk they lie on: the
proposals with the library an approval writes. -/
namespace Grc.Proposals

open Grc.Shared Grc.Lib Grc.Library

inductive ProposalStatus where
  | open_
  | approved
  | rejected
  | superseded
  deriving DecidableEq

structure Proposal where
  id : Id
  kind : ProposalKind
  targetType : String := ""
  targetId : Option Id := none
  changeId : Option Id := none
  title : String
  payload : Dict Json
  fieldSources : Dict String := []
  sourceLabel : String := ""
  sourceUrl : String := ""
  riskFlags : List String := []
  effectiveFrom : Option Day := none
  origin : OriginType
  agentRunId : Option Id := none
  model : String := ""
  proposedByUser : Option Id := none
  proposedByApiKey : Option Id := none
  proposedByAgent : Option Id := none
  idempotencyKey : Option String := none
  proposedInTenant : Bool := false
  status : ProposalStatus := .open_
  reviewedBy : Option Id := none
  reviewedByApiKey : Option Id := none
  reviewedByAgent : Option Id := none
  reviewedAt : Option Instant := none
  rejectionCode : String := ""
  reviewNote : String := ""
  correctedPayload : Option (Dict Json) := none
  correctedBy : Option Id := none
  correctedAt : Option Instant := none
  appliedAt : Option Instant := none
  isBatch : Bool := false
  rowCount : Nat := 0
  ownerTenant : Option Id := none
  deriving DecidableEq

inductive BatchRowDecision where
  | pending
  | approved
  | rejected
  deriving DecidableEq

/-- One record a batch would change, with its scope before and after. -/
structure BatchRow where
  id : Id
  proposal : Id
  subjectId : Id
  before : List String
  after : List String
  decision : BatchRowDecision := .pending
  rejectionReason : Option String := none
  decidedBy : Option Id := none
  decidedAt : Option Instant := none

/-- `proposal_tenant`: the bank a proposal was made in. -/
structure ProposalTenant where
  tenant : Id
  proposal : Id
  deriving DecidableEq

structure AgentRun where
  id : Id
  apiKey : Option Id := none
  running : Bool := true
  requestedBy : Option Id := none

/-- One model call behind an agent's decision, as the AI output log keeps it. -/
structure AiGeneration where
  model : String
  modelVersion : String
  output : String
  agentRunId : Id
  subjectId : Id

/-- Who proposes. -/
structure Proposer where
  actor : Actor
  user : Option Id := none
  apiKeyId : Option Id := none
  agentId : Option Id := none

def Proposer.origin (proposer : Proposer) : OriginType :=
  if proposer.user.isSome then .user else .agent

/-- Who decides. -/
structure Reviewer where
  actor : Actor
  user : Option Id := none
  apiKeyId : Option Id := none
  agentId : Option Id := none
  apiKeyPrefix : String := ""

/-- One run of the apply step: the proposal it was for, and the rows of a batch it wrote. -/
structure Application where
  proposal : Id
  rows : List Id := []

/-- The proposals in the order they were made, and what a decision on one reads and writes. -/
structure Desk where
  proposals : List Proposal := []
  tenants : List ProposalTenant := []
  batchRows : List BatchRow := []
  runs : List AgentRun := []
  generations : List AiGeneration := []
  records : Records := {}
  /-- Every run of the apply step that was committed, in order: the model's own account. -/
  applied : List Application := []
  nextId : Id := 0

/-- What a desk holds of the proposals themselves, the library and the runs aside. -/
structure Queue where
  proposals : List Proposal := []
  tenants : List ProposalTenant := []
  batchRows : List BatchRow := []
  applied : List Application := []
  nextId : Id := 0

def Desk.queue (desk : Desk) : Queue where
  proposals := desk.proposals
  tenants := desk.tenants
  batchRows := desk.batchRows
  applied := desk.applied
  nextId := desk.nextId

/-- The columns of a proposal its apply step reads, with the payload it applies. -/
structure Filed where
  id : Id
  kind : ProposalKind
  targetId : Option Id
  changeId : Option Id
  payload : Dict Json
  fieldSources : Dict String
  sourceLabel : String
  sourceUrl : String
  origin : OriginType
  agentRunId : Option Id
  model : String
  proposedByAgent : Option Id
  ownerTenant : Option Id

/-- `corrected_payload or payload`, beside the columns it is applied with. -/
def Proposal.filed (proposal : Proposal) : Filed where
  id := proposal.id
  kind := proposal.kind
  targetId := proposal.targetId
  changeId := proposal.changeId
  payload := match proposal.correctedPayload with
    | some (first :: rest) => first :: rest
    | _ => proposal.payload
  fieldSources := proposal.fieldSources
  sourceLabel := proposal.sourceLabel
  sourceUrl := proposal.sourceUrl
  origin := proposal.origin
  agentRunId := proposal.agentRunId
  model := proposal.model
  proposedByAgent := proposal.proposedByAgent
  ownerTenant := proposal.ownerTenant

/-! Where each value a proposal changes was read, and what may be said about a standard: its text
is licensed, so the library holds its public facts and one conformance obligation. -/

variable {Rule : Type} (platform : Platform Rule) (records : Records) (zone : Option Id)

def field (name : String) (isSet : Bool) : List String := if isSet then [name] else []

def fieldsPerLanguage (name : String) (texts : Dict String) : List String :=
  (sorted texts.keys).map fun language => name ++ "." ++ language

/-- `sourced_fields`: the fields a source has to be given for. -/
def sourcedFields : Payload → List String
  | .instrument payload =>
    fieldsPerLanguage "titles" payload.titles ++ ["shortName", "officialRef"] ++
      field "eliUri" (payload.eliUri != "") ++ ["level"] ++ field "binding" payload.binding.isSome ++
      ["jurisdiction"] ++ field "authority" payload.authority.isSome ++ ["regime"] ++
      field "inForceFrom" payload.inForceFrom.isSome ++ field "inForceTo" payload.inForceTo.isSome ++
      field "implementsNote" (payload.implementsNote != "")
  | .obligation payload =>
    ["instrument"] ++ fieldsPerLanguage "titles" payload.titles ++
      fieldsPerLanguage "summaries" payload.summaries ++ ["refLabel", "dutyType"] ++
      field "effectiveFrom" payload.effectiveFrom.isSome ++ field "terms" payload.terms.isSome
  | .provision payload =>
    ["instrument"] ++ field "parent" payload.parent.isSome ++ ["provisionKind", "refLabel"] ++
      field "heading" (payload.heading != "") ++ fieldsPerLanguage "texts" payload.texts ++
      field "effectiveFrom" payload.effectiveFrom.isSome
  | .recurringDuty payload =>
    ["title", "recurrenceRule"] ++ field "dueRuleNote" (payload.dueRuleNote != "") ++
      field "recipientAuthority" payload.recipientAuthority.isSome ++ field "leadDays" (payload.leadDays != 0)
  | .control payload => ["name"] ++ field "reference" (payload.reference != "")
  | .provisionVersion payload =>
    fieldsPerLanguage "texts" payload.texts ++ field "effectiveFrom" payload.effectiveFrom.isSome
  | .obligationVersion payload =>
    fieldsPerLanguage "summaries" payload.summaries ++ field "effectiveFrom" payload.effectiveFrom.isSome ++
      field "terms" payload.terms.isSome
  | _ => []

/-- `sourceable_fields`: the fields a source may be named for. -/
def sourceableFields (payload : Payload) : List String :=
  match payload with
  | .vocabularyCreate _ | .vocabularyRelabel _ | .vocabularyRetire _ | .vocabularyMerge _ | .termCreate _
  | .termUpdate _ => sorted (platform.modelDump payload).keys
  | _ => sourcedFields payload

/-- `LINK_SOURCED_PAYLOADS`. -/
def linkSourced : Payload → Bool
  | .instrument _ | .obligation _ | .provision _ | .control _ => true
  | _ => false

def unlinked (sources : Dict String) : List String :=
  sorted ((sources.filter fun source => !platform.isLink source.2).map Prod.fst)

/-- The last rule of `check_field_sources`: what a source may be. -/
def checkFollowable (payload : Payload) (sources : Dict String) : Except Refusal Unit :=
  if linkSourced payload = true then
    require (unlinked platform sources = [])
      (validationError ("A new record's sources are https links to the authority's page. Not a link: " ++
        joined (unlinked platform sources) ++ "."))
  else
    let refs := sources.filter fun source => !platform.isLink source.2
    let unknown := records.unknownProvisionKeys (refs.map Prod.snd)
    let unfollowable := sorted ((refs.filter fun source => unknown.contains source.2).map Prod.fst)
    require (unfollowable = [])
      (validationError ("A source is an https link or the stable key of a provision in the library. Not a source: "
        ++ joined unfollowable ++ "."))

def sourceMissing (detail : String) : Refusal := { code := "source_missing", detail }

def checkFieldSources (payload : Payload) (sources : Dict String) : Except Refusal Unit := do
  let missing := (sourcedFields payload).filter fun name => strip ((sources.get name).getD "") == ""
  require (missing = [])
    (sourceMissing ("Give the source of every changed field. Missing: " ++ joined missing ++ "."))
  let allowed := sourceableFields platform payload
  let stray := sorted (sources.keys.filter fun name => !allowed.contains name)
  require (stray = []) (validationError (joined stray ++ ": this proposal changes no such field. " ++
    "Fields a source belongs to: " ++ (if allowed = [] then "none" else joined allowed) ++ "."))
  let long := (sources.filter fun source => platform.proposalSourceMaxChars < source.2.length).map Prod.fst
  require (long = []) (validationError ("A source is at most " ++ toString platform.proposalSourceMaxChars ++
    " characters. Too long: " ++ joined long ++ "."))
  checkFollowable platform records payload sources

def licensedText (detail : String) : Refusal := { code := "licensed_text", detail }

def standardTermRefusal : Refusal where
  code := "standard_term_only_on_standards"
  detail := "A standard's term sits only on a standard's own obligation: on a law's obligation it would hide the law from every bank that follows no standard. Leave the term out."

def oneConformanceRefusal : Refusal where
  code := "one_conformance_obligation"
  detail := "A standard holds exactly one conformance obligation, and this one already has it. Propose a new version of that obligation instead."

/-- What `check` asks of a record under a standard. -/
def checkStandard (kind : ProposalKind) (instrument : Instrument) (terms : Option (List Id)) (optIn : Nat)
    (sources : Dict String) (refLabel : Option String) (sourceLabel : String) : Except Refusal Unit := do
  require (kind ∉ [.newProvision, .newProvisionVersion])
    (licensedText ("A standard's text is licensed, so the library holds no provision of it. Propose its public " ++
      "facts and its one conformance obligation instead."))
  require (unlinked platform sources = [])
    (licensedText ("A standard's records are sourced by https links to public pages only, never by quoted text " ++
      "or a provision. Not a link: " ++ joined (unlinked platform sources) ++ "."))
  require (∀ label ∈ refLabel, strip label = instrument.officialRef)
    (licensedText ("A standard's obligation is labelled by the standard's official reference, " ++
      instrument.officialRef ++ ", and never by a clause or a control."))
  require (¬(kind = .newObligation ∧ ∃ obligation ∈ records.visibleObligations zone,
      obligation.instrument = instrument.id ∧ obligation.status = .active)) oneConformanceRefusal
  require (¬(kind ∈ [.newObligation, .newObligationVersion, .obligationScope] ∧ terms ≠ none ∧ optIn ≠ 1)) {
    code := "standard_term_required"
    detail := "A standard's obligation carries exactly one standard term, the standard it is for. It carries " ++
      toString optIn ++ "." }
  require (strip sourceLabel = "" ∨ strip sourceLabel = instrument.officialRef)
    (licensedText ("A standard's source is named by its official reference, " ++ instrument.officialRef ++
      ", and never by a clause, a control or quoted text. Give that reference as sourceLabel, or leave it out."))

def standardsCheck (kind : ProposalKind) (instrument : Instrument) (terms : Option (List Id))
    (sources : Dict String) (refLabel : Option String) (sourceLabel : String) : Except Refusal Unit :=
  let optIn := (records.optInTerms (terms.getD []).eraseDups).length
  if records.levelKind instrument = some "standard" then
    checkStandard platform records zone kind instrument terms optIn sources refLabel sourceLabel
  else require (optIn = 0) standardTermRefusal

/-- The ids of the scope a payload asks for, none when it leaves the scope alone. -/
def scopeIds : Option (List String) → Except Refusal (Option (List Id))
  | none => .ok none
  | some [] => .ok (some [])
  | some refs => (records.termsOf refs).map fun terms => some (terms.map (·.id))

/-- `standards.check_payload`. -/
def checkPayload (kind : ProposalKind) (targetId : Option Id) (payload : Payload) (sources : Dict String)
    (sourceLabel : String) : Except Refusal Unit :=
  match payload, targetId with
  | .obligationVersion payload, some target => do
    let obligation ← records.activeObligation target
    let instrument ← demand (records.instrumentOf obligation.instrument) internalError
    let terms ← scopeIds records payload.terms
    standardsCheck platform records zone kind instrument terms sources none sourceLabel
  | .obligation payload, _ => do
    let instrument ← records.activeInstrument zone payload.instrument
    let terms ← scopeIds records (some (payload.terms.getD []))
    standardsCheck platform records zone kind instrument terms sources (some payload.refLabel) sourceLabel
  | .provision payload, _ => do
    let instrument ← records.activeInstrument zone payload.instrument
    standardsCheck platform records zone kind instrument none sources none sourceLabel
  | .provisionVersion _, some target => do
    let found ← records.activeProvision target
    standardsCheck platform records zone kind found.2 none sources none sourceLabel
  | _, _ => .ok ()

/-- The date a payload puts in force, for the kinds whose row repeats it. -/
def payloadDate : Payload → Option (Option Day)
  | .obligationVersion payload => some payload.effectiveFrom
  | .obligation payload => some payload.effectiveFrom
  | .provision payload => some payload.effectiveFrom
  | .provisionVersion payload => some payload.effectiveFrom
  | _ => none

def agreedEffectiveFrom (payload : Payload) (effectiveFrom : Option Day) : Except Refusal (Option Day) :=
  match payloadDate payload with
  | none => .ok effectiveFrom
  | some inPayload => do
    require (effectiveFrom = none ∨ effectiveFrom = inPayload)
      (validationError "The proposal's effective date is not the date in its payload: give one date.")
    .ok inPayload

end Grc.Proposals

/-! The writes an approval is made of: rows created under a fresh id, translations, the search
documents and the audit rows. -/
namespace Grc.Proposals

open Grc.Shared Grc.Lib Grc.Library

/-- A write of an approved proposal, on the tables. -/
abbrev Writing := Tx Records Refusal

/-- `objects.create` under a fresh primary key. -/
def created (make : Id → Records → Records) : Writing Id := fun records =>
  (.ok records.nextId, { make records.nextId records with nextId := records.nextId + 1 })

/-- `record()`. -/
def audited (event : AuditEvent) : Writing Unit :=
  Tx.write fun records => { records with audit := record records.audit event }

/-- `reindex`: the search document of a record, written in this transaction. -/
def reindex (now : Now) (id : Id) : Writing Unit := do
  Tx.check fun _ => require (now.indexWritable = true) internalError
  Tx.write fun records => { records with reindexed := records.reindexed ++ [id] }

def verifiedOrigin (reviewer : Reviewer) : OriginType := if reviewer.agentId.isSome then .agent else .user

/-- `_texts`: the translation rows of a text, the original unlabelled and the others machine-made
when the payload says so or no person approved. -/
def translations (holder : Id) (texts : Dict String) (original : String) (isMachine : Bool)
    (reviewer : Reviewer) : List Translation :=
  texts.map fun text =>
    { holder, language := text.1, text := text.2, isOriginal := text.1 == original,
      isMachine := text.1 != original && (isMachine || reviewer.user.isNone) }

def highest : List Nat → Option Nat
  | [] => none
  | number :: rest => some (rest.foldl max number)

def dateValue (date : Option Day) : AuditValue := AuditValue.ofText (date.map isoformat)

def labelsValue (labels : Dict String) : AuditValue :=
  .records [labels.map fun label => (label.1, .inr label.2)]

def named (id : Id) : String := " (proposal " ++ toString id ++ ")."

end Grc.Proposals
