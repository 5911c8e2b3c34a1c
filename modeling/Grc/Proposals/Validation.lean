import Grc.Library.Reading
import Grc.Proposals.Kinds

/-! The library lists a proposal can change, and the checks a change to one of their rows passes:
its labels, its key, its kind, its own columns and the pair a merge joins. -/
namespace Grc.Proposals

open Grc.Shared Grc.Lib Grc.Library

variable {Rule : Type} (platform : Platform Rule) (records : Records)

/-- A column of a library or watch table that holds a value of a list. -/
inductive Link where
  | instrumentLevel
  | provisionKind
  | obligationDutyType
  /-- A table whose rows carry the value, and whether a unique constraint holds it. -/
  | carried (table : String) (unique : Bool)
  deriving DecidableEq

def Link.table : Link → String
  | instrumentLevel => "instrument"
  | provisionKind => "provision"
  | obligationDutyType => "obligation"
  | carried table _ => table

/-- An entry of the registry, for a list of the library. -/
structure VocabularyList where
  name : String
  kindName : String := ""
  kinds : List String := []
  kindRequired : Bool := false
  /-- The list's own columns, each with its camel-cased name. -/
  extraFields : List (String × String) := []
  fixedKeys : Bool := false
  /-- The columns that name a row of another list. -/
  references : List (String × String) := []
  links : List Link := []
  /-- A use counted some other way than by links: a dimension's terms. -/
  countsTerms : Bool := false

/-- `REGISTRY`, the lists of the library. -/
def registry : List VocabularyList :=
  [{ name := "term_dimension", kindName := "term_dimension_kind", kinds := ["scope", "classification", "opt_in"],
     kindRequired := true, extraFields := [("restricts_footprint", "restrictsFootprint")], countsTerms := true },
   { name := "instrument_level", kindName := "instrument_level_kind", kinds := ["standard"],
     extraFields := [("binding_default", "bindingDefault"), ("rank", "rank")], links := [.instrumentLevel] },
   { name := "provision_kind", kindName := "provision_structural_kind", kinds := ["division", "unit", "annex"],
     kindRequired := true, extraFields := [("jurisdiction", "jurisdiction")],
     references := [("jurisdiction", "jurisdiction")], links := [.provisionKind] },
   { name := "change_type", kindName := "change_lifecycle_kind",
     kinds := ["pre_adoption", "adopted", "in_force", "supervisory", "recurring"], kindRequired := true,
     links := [.carried "regulatory_change.change_type" false] },
   { name := "duty_type", links := [.obligationDutyType] },
   { name := "relation_type",
     links := [.carried "instrument_relation" true, .carried "obligation_relation" false] },
   { name := "source_kind", links := [.carried "source" false] },
   { name := "urgency", kindName := "pill_tone",
     kinds := ["information", "notice", "positive", "warning", "negative", "brand"], kindRequired := true,
     extraFields := [("ordinal", "ordinal"), ("sla_days", "slaDays")],
     links := [.carried "regulatory_change.suggested_urgency" false] },
   { name := "library_tag", links := [.carried "obligation_tag" true] },
   { name := "flag", links := [.carried "change_term" true] },
   { name := "rejection_reason" },
   { name := "jurisdiction", kindName := "jurisdiction_kind", kinds := ["supranational", "country", "international"],
     kindRequired := true, fixedKeys := true }]

def proposable (name : String) : Except Refusal VocabularyList :=
  demand (registry.find? (·.name == name))
    (unknownKey (quoted name ++ " is not a library list a proposal can change. Valid lists: " ++
      joined (sorted (registry.map (·.name))) ++ "."))

def refuseMirroredRow (entry : VocabularyList) (keys : List String) : Except Refusal Unit :=
  if entry.name = "term_dimension" then
    records.refuseMirrored
      ((records.rows.filter fun row => row.list == "term_dimension" && keys.contains row.key).map (·.id))
  else .ok ()

def refuseVocabularyChange (entry : VocabularyList) (kind : ProposalKind) (keys : List String) :
    Except Refusal Unit := do
  require (¬(entry.fixedKeys = true ∧ kind ∈ [.vocabularyCreate, .vocabularyMerge]))
    (validationError ("The keys of " ++ quoted entry.name ++ " are fixed: a proposal relabels, retires or " ++
      "restores a value, and never adds one or merges one away."))
  refuseMirroredRow records entry keys

def labelMaxChars : Nat := 200

def keyMaxChars : Nat := 80

def cleanedLabels (labels : Dict String) : Dict String :=
  (labels.filter fun label => strip label.2 != "").map fun label => (label.1, strip label.2)

def longLabels (maxChars : Option Nat) (labels : Dict String) : List String :=
  match maxChars with
  | none => []
  | some most => sorted ((labels.filter fun label => most < label.2.length).map Prod.fst)

def validatedLabels (labels : Dict String) (maxChars : Option Nat) : Except Refusal (Dict String) := do
  let cleaned := cleanedLabels labels
  require (cleaned ≠ []) (validationError "Give the value a label in at least one language.")
  let tooLong := longLabels maxChars cleaned
  require (tooLong = []) (validationError ("labels." ++ tooLong.headD "" ++ ": a label is at most " ++
    toString (maxChars.getD 0) ++ " characters; shorten it."))
  let unknown := sorted (cleaned.keys.filter fun language => !records.languages.contains language)
  require (unknown = []) (unknownKey (joined unknown ++ " is not a content language. Valid languages: " ++
    joined (sorted records.languages) ++ "."))
  .ok cleaned

/-- `validated_kind` of a list. -/
def validatedListKind (entry : VocabularyList) (kind : Option String) : Except Refusal Unit :=
  let valid := " Valid values: " ++ joined entry.kinds ++ "."
  if entry.kinds = [] then .ok ()
  else if kind = none ∨ kind = some "" then
    require (entry.kindRequired = false) (unknownKey ("Choose a " ++ entry.kindName ++ "." ++ valid))
  else
    require (kind.getD "" ∈ entry.kinds)
      (unknownKey (quoted (kind.getD "") ++ " is not a " ++ entry.kindName ++ "." ++ valid))

/-- `_referenced`: the key of the active row another list holds under it. -/
def referenced (list : String) : Json → Except Refusal Json
  | .text key => do
    let _ ← demand (records.rows.find? fun row => row.list == list && row.key == key && row.active)
      (unknownKey (quoted key ++ " is not a " ++ list ++ ". Valid values: " ++ joined (((records.rows.filter
        fun row => row.list == list && row.active).insertionSort fun first second =>
          first.sortOrder < second.sortOrder ∨ (first.sortOrder = second.sortOrder ∧ first.key ≤ second.key)).map
            (·.key)) ++ "."))
    .ok (.text key)
  | _ => .error (unknownKey ("That is not a " ++ list ++ "."))

/-- One value of a write's `extra`, cleaned for its column. -/
def extraColumn (entry : VocabularyList) (name camel : String) (value : Json) : Except Refusal Json :=
  match entry.references.find? (·.1 == name) with
  | some related => if value = .null then .ok .null else referenced records related.2 value
  | none =>
    match platform.clean (entry.name ++ "." ++ name) value with
    | .ok cleaned => .ok cleaned
    | .error why => .error (validationError (camel ++ ": " ++ why))

/-- `extra_columns`: a write's `extra` by column, a name that is no column of the list left out. -/
def extraColumns (entry : VocabularyList) : Dict Json → Dict Json → Except Refusal (Dict Json)
  | columns, [] => .ok columns
  | columns, (key, value) :: rest =>
    match entry.extraFields.find? fun field => field.2 == key || field.1 == key with
    | none => extraColumns entry columns rest
    | some field => do
      let cleaned ← extraColumn platform records entry field.1 field.2 value
      extraColumns entry (columns.set field.1 cleaned) rest

/-- `to_camel` of a list's column. -/
def camelOf (entry : VocabularyList) (name : String) : String :=
  ((entry.extraFields.find? (·.1 == name)).map Prod.snd).getD name

def extraPayload (entry : VocabularyList) (extra : Dict Json) : Except Refusal (Dict Json) := do
  let columns ← extraColumns platform records entry [] extra
  .ok (Dict.ofList (columns.map fun column => (camelOf entry column.1, column.2)))

/-- An `extra` that holds only the list's own columns, cleaned; an empty one is left as it is. -/
def checkedExtra (entry : VocabularyList) (extra : Dict Json) : Except Refusal (Dict Json) :=
  if extra = [] then .ok extra
  else do
    let unknown := sorted (extra.keys.filter fun key =>
      !entry.extraFields.any fun field => field.2 == key || field.1 == key)
    let named := if entry.extraFields = [] then "none" else joined (entry.extraFields.map Prod.snd)
    require (unknown = []) (validationError (joined unknown ++ " is not a column of " ++ quoted entry.name ++
      ". Valid columns: " ++ named ++ "."))
    extraPayload platform records entry extra

/-- `key_for` of a key that is given. -/
def keyFor (key : String) : Except Refusal String := do
  let candidate := (platform.slugify key).map fun letter => if letter = '-' then '_' else letter
  require (candidate.length ≤ keyMaxChars)
    (validationError ("key: a key is at most " ++ toString keyMaxChars ++ " characters; shorten it."))
  require (candidate ≠ "") (validationError "That label makes no key; give the value a key.")
  .ok candidate

def notAKey (key : String) : Refusal :=
  validationError (quoted key ++ " is not a key: use lowercase letters, digits and underscores.")

/-- A named payload's key is its own slug. -/
def checkedKey (key : String) : Except Refusal Unit :=
  if key = "" then .error (notAKey key)
  else do
    let slug ← keyFor platform key
    require (slug = key) (notAKey key)

/-- The ids of the rows a link's column holds a value in. -/
def holding (value : Id) : Link → List Id
  | .instrumentLevel => (records.instruments.filter (·.level == value)).map (·.id)
  | .provisionKind => (records.provisions.filter (·.kind == value)).map (·.id)
  | .obligationDutyType => (records.obligations.filter (·.dutyType == value)).map (·.id)
  | .carried table _ => (records.carriers.filter fun row => row.table == table && row.value == value).map (·.id)

/-- `usage`: how many records hold a value of a list. -/
def usage (entry : VocabularyList) (value : Id) : Nat :=
  if entry.countsTerms then (records.terms.filter (·.dimension == value)).length
  else (entry.links.map fun link => (holding records value link).length).sum

/-- `merge_pair`: the two rows a merge joins, as the list is now. -/
def mergePair (entry : VocabularyList) (key into : String) : Except Refusal (ListRow × ListRow) := do
  let source ← demand (records.row entry.name key)
    { code := "not_found", detail := quoted key ++ " is not a row of " ++ quoted entry.name ++ "." }
  let target ← demand (records.row entry.name into)
    { code := "not_found", detail := quoted into ++ " is not a row of " ++ quoted entry.name ++ "." }
  require (source.id ≠ target.id) (validationError "Choose a different value to merge into.")
  require (target.active = true)
    { code := "invalid_transition", detail := into ++ " is retired: restore it before merging into it." }
  require (source.kind.getD "" = target.kind.getD "")
    { code := "invalid_transition", detail := key ++ " and " ++ into ++ " are values of different kinds, so " ++
        "the records carrying " ++ key ++ " cannot take " ++ into ++ "." }
  require (usage records entry source.id = 0 ∨ entry.links ≠ [])
    { code := "invalid_transition", detail := key ++ " is in use and a merge on " ++ quoted entry.name ++
        " moves none of what uses it: move or retire those first." }
  .ok (source, target)

end Grc.Proposals

/-! A payload checked against the library as it is, when a proposal is made, when a reviewer
corrects it and again when it is applied. What a check stores is the payload in its one spelling. -/
namespace Grc.Proposals

open Grc.Shared Grc.Lib Grc.Library

variable {Rule : Type} (platform : Platform Rule) (records : Records) (zone : Option Id)

def duplicateKey (detail : String) : Refusal := { code := "duplicate_key", detail }

def capped (texts : Dict String) (what : String) : Except Refusal Unit :=
  let long := sorted ((texts.filter fun text => platform.proposalTextMaxChars < text.2.length).map Prod.fst)
  require (long = []) (validationError ("A " ++ what ++ " is at most " ++
    toString platform.proposalTextMaxChars ++ " characters. Too long: " ++ joined long ++ "."))

def writtenIn (language : String) (texts : Dict String) (what : String) : Except Refusal Unit :=
  require (texts.has language = true) (validationError (quoted language ++ " is not one of the languages the " ++
    what ++ " is written in: " ++ joined (sorted texts.keys) ++ "."))

def precisions : List String := ["day", "month", "quarter", "year"]

def validatedPrecision (precision : String) : Except Refusal Unit :=
  require (precision ∈ precisions) (unknownKey (quoted precision ++ " is not a date precision. Valid values: " ++
    joined precisions ++ "."))

/-- The scope a payload asks for, each term once and none of them mirrored. -/
def validatedScope : Option (List String) → Except Refusal (Option (List String) × List Term)
  | none => .ok (none, [])
  | some [] => .ok (some [], [])
  | some refs => do
    let terms ← records.termsOf refs.eraseDups
    records.refuseMirrored (terms.map (·.dimension))
    .ok (some refs.eraseDups, terms)

/-- `_validate_obligation_payload`, of a version: the payload as stored and its scope's terms. -/
def validatedVersion (payload : ObligationVersionPayload) :
    Except Refusal (ObligationVersionPayload × List Term) := do
  let summaries ← validatedLabels records payload.summaries none
  capped platform summaries "summary"
  writtenIn payload.originalLanguage summaries "summary"
  validatedPrecision payload.effectiveFromPrecision
  let scope ← validatedScope records payload.terms
  .ok ({ payload with summaries, terms := scope.1 }, scope.2)

/-- `stable_key_taken`, among the keys a zone can see. -/
def stableKeyTaken (held : List String) (key : String) : Bool :=
  held.any fun other => platform.folded other == platform.folded key

def regimeDimension : String := "regime"

def regimeTerm (ref : String) : Except Refusal Term := do
  let terms ← records.termsOf [ref]
  let term ← demand terms.head? internalError
  require ((records.dimensionOf term).map (·.key) = some regimeDimension) {
    code := "not_a_regime"
    detail := quoted ref ++ " is not a regime: an instrument's regime is a term of the " ++
      quoted regimeDimension ++ " dimension, written " ++ regimeDimension ++
      ":<key>. GET /taxonomy/terms lists them." }
  .ok term

/-- `InstrumentRefs`. -/
structure InstrumentRefs where
  level : ListRow
  jurisdiction : ListRow
  authority : Option Authority

def instrumentRefs (level jurisdiction : String) (authority : Option String) : Except Refusal InstrumentRefs := do
  let authority ← optionally records.authorityOf (authority.filter (· != ""))
  let level ← records.liveRow "instrument_level" level "an instrument level"
  let jurisdiction ← records.liveRow "jurisdiction" jurisdiction "a jurisdiction"
  .ok { level, jurisdiction, authority }

def endsAfterStart : Option Day → Option Day → Prop
  | some start, some finish => start < finish
  | _, _ => True

instance (start finish : Option Day) : Decidable (endsAfterStart start finish) := by
  unfold endsAfterStart
  split <;> infer_instance

def validatedInstrument (payload : InstrumentPayload) :
    Except Refusal (InstrumentPayload × InstrumentRefs × Term) := do
  let titles ← validatedLabels records payload.titles none
  writtenIn payload.originalLanguage titles "title"
  validatedPrecision payload.inForceFromPrecision
  validatedPrecision payload.inForceToPrecision
  require (endsAfterStart payload.inForceFrom payload.inForceTo)
    (validationError "An instrument stops being in force after it starts: fix inForceTo.")
  require (payload.eliUri = "" ∨ platform.isLink payload.eliUri = true)
    (validationError "eliUri is the instrument's ELI as an https link.")
  require (stableKeyTaken platform ((records.visibleInstruments zone).map (·.stableKey)) payload.key = false)
    (duplicateKey (quoted payload.key ++ " is already an instrument's key."))
  let refs ← instrumentRefs records payload.level payload.jurisdiction payload.authority
  let regime ← regimeTerm records payload.regime
  .ok ({ payload with titles }, refs, regime)

def instrumentInZone (key : String) (owner : Option Id) : Except Refusal Instrument := do
  let instrument ← records.activeInstrument zone key
  require (¬(instrument.ownerTenant ≠ none ∧ owner = none))
    (validationError (quoted key ++
      " is your organisation's own instrument, and the shared library holds nothing under it."))
  require (instrument.ownerTenant = owner)
    (validationError (quoted key ++
      " is the shared library's: a record of your organisation's own sits under an instrument of its own."))
  .ok instrument

/-- The obligation payload's summaries and scope, as a version's are checked. -/
def versionOf (payload : ObligationPayload) : ObligationVersionPayload where
  summaries := payload.summaries
  originalLanguage := payload.originalLanguage
  isMachine := payload.isMachine
  effectiveFrom := payload.effectiveFrom
  effectiveFromPrecision := payload.effectiveFromPrecision
  terms := payload.terms

def validatedObligation (payload : ObligationPayload) (owner : Option Id) :
    Except Refusal (ObligationPayload × Instrument × List Term) := do
  let titles ← validatedLabels records payload.titles none
  writtenIn payload.originalLanguage titles "title"
  let version ← validatedVersion platform records (versionOf payload)
  require (stableKeyTaken platform ((records.visibleObligations zone).map (·.stableKey)) payload.key = false)
    (duplicateKey (quoted payload.key ++ " is already an obligation's key."))
  let instrument ← instrumentInZone records zone payload.instrument owner
  let _ ← records.liveDutyType payload.dutyType
  .ok ({ payload with titles, summaries := version.1.summaries, terms := version.1.terms }, instrument, version.2)

/-- `_validate_text_payload`. -/
def validatedTexts (texts : Dict String) (originalLanguage precision : String) : Except Refusal (Dict String) := do
  let texts ← validatedLabels records texts none
  capped platform texts "text"
  writtenIn originalLanguage texts "text"
  validatedPrecision precision
  .ok texts

def privateProvisions : Refusal where
  code := "private_provisions_not_supported"
  detail := "An instrument of your organisation's own holds no provisions: propose its duties as obligations."

/-- `validated_provision`: the payload as stored, with its instrument, its parent and its kind. -/
def validatedProvision (payload : ProvisionPayload) :
    Except Refusal (ProvisionPayload × Instrument × Option Provision × ListRow) := do
  let texts ← validatedTexts platform records payload.texts payload.originalLanguage payload.effectiveFromPrecision
  require (stableKeyTaken platform (records.provisions.map (·.stableKey)) payload.key = false)
    (duplicateKey (quoted payload.key ++ " is already a provision's key."))
  let instrument ← records.activeInstrument zone payload.instrument
  require (instrument.ownerTenant = none) privateProvisions
  let parent ← optionally (records.parentProvision instrument) (payload.parent.filter (· != ""))
  let kind ← records.liveProvisionKind payload.provisionKind
  .ok ({ payload with texts }, instrument, parent, kind)

def validatedRecurringDuty (today : Day) (payload : RecurringDutyPayload) :
    Except Refusal (RecurringDutyPayload × Option Authority) := do
  let title := strip payload.title
  require (title ≠ "") (validationError "Give the duty a title.")
  let recurrenceRule ← validated platform.dateutil platform.recurrenceMaxOccurrences payload.recurrenceRule today
  let authority ← optionally records.authorityOf (payload.recipientAuthority.filter (· != ""))
  .ok ({ payload with title, recurrenceRule }, authority)

def ownOnly : Refusal := validationError "A control is only ever a record of your organisation's own."

def validatedControl (payload : ControlPayload) (owner : Option Id) : Except Refusal ControlPayload := do
  let payload := { payload with name := strip payload.name, reference := strip payload.reference }
  require (payload.name ≠ "") (validationError "Give the control a name.")
  let tenant ← demand owner ownOnly
  let _ ← records.ownObligation tenant payload.obligation
  .ok payload

def relabelled (labels : Dict String) : Except Refusal (Dict String) :=
  if labels = [] then .ok labels else validatedLabels records labels (some labelMaxChars)

/-- `_validate_target`, of a new value of a list. -/
def checkedCreate (payload : VocabularyCreatePayload) : Except Refusal VocabularyCreatePayload := do
  let entry ← proposable payload.list
  refuseVocabularyChange records entry .vocabularyCreate [payload.key, ""]
  validatedListKind entry payload.kind
  let extra ← checkedExtra platform records entry payload.extra
  let labels ← validatedLabels records payload.labels (some labelMaxChars)
  checkedKey platform payload.key
  .ok { payload with extra, labels }

/-- The `extra` of a relabel, which may be left out. -/
def checkedOptionalExtra (entry : VocabularyList) : Option (Dict Json) → Except Refusal (Option (Dict Json))
  | none => .ok none
  | some extra => (checkedExtra platform records entry extra).map some

/-- `_validate_target`, of a relabel. -/
def checkedRelabel (payload : VocabularyRelabelPayload) : Except Refusal VocabularyRelabelPayload := do
  let entry ← proposable payload.list
  refuseVocabularyChange records entry .vocabularyRelabel [payload.key, ""]
  let extra ← checkedOptionalExtra platform records entry payload.extra
  let labels ← relabelled records payload.labels
  checkedKey platform payload.key
  .ok { payload with extra, labels }

/-- `_validate_target`, of a retirement or a restoration. -/
def checkedRetire (kind : ProposalKind) (payload : VocabularyRetirePayload) :
    Except Refusal VocabularyRetirePayload := do
  let entry ← proposable payload.list
  refuseVocabularyChange records entry kind [payload.key, ""]
  .ok payload

/-- `_validate_target`, of a merge. -/
def checkedMerge (payload : VocabularyMergePayload) : Except Refusal VocabularyMergePayload := do
  let entry ← proposable payload.list
  refuseVocabularyChange records entry .vocabularyMerge [payload.key, payload.into]
  let _ ← mergePair records entry payload.key payload.into
  .ok payload

/-- `_validate_target`, of a new term. -/
def checkedTermCreate (payload : TermCreatePayload) : Except Refusal TermCreatePayload := do
  let dimension ← records.dimensionByKey payload.dimension
  records.refuseMirrored [dimension.id]
  let labels ← validatedLabels records payload.labels (some labelMaxChars)
  checkedKey platform payload.key
  .ok { payload with labels }

/-- `_validate_target`, of a change to a term. -/
def checkedTermUpdate (payload : TermUpdatePayload) : Except Refusal TermUpdatePayload := do
  let dimension ← records.dimensionByKey payload.dimension
  records.refuseMirrored [dimension.id]
  let labels ← relabelled records payload.labels
  checkedKey platform payload.key
  .ok { payload with labels }

/-- `_validate_target`, of a provision's new text. -/
def checkedProvisionVersion (payload : ProvisionVersionPayload) : Except Refusal ProvisionVersionPayload := do
  let texts ← validatedTexts platform records payload.texts payload.originalLanguage payload.effectiveFromPrecision
  .ok { payload with texts }

/-- `_validate_target`: the payload as it is stored. -/
def validateTarget (today : Day) (kind : ProposalKind) (owner : Option Id) : Payload → Except Refusal Payload
  | .vocabularyCreate payload => (checkedCreate platform records payload).map .vocabularyCreate
  | .vocabularyRelabel payload => (checkedRelabel platform records payload).map .vocabularyRelabel
  | .vocabularyRetire payload => (checkedRetire records kind payload).map .vocabularyRetire
  | .vocabularyMerge payload => (checkedMerge records payload).map .vocabularyMerge
  | .termCreate payload => (checkedTermCreate platform records payload).map .termCreate
  | .termUpdate payload => (checkedTermUpdate platform records payload).map .termUpdate
  | .obligationVersion payload => (validatedVersion platform records payload).map fun found =>
      .obligationVersion found.1
  | .instrument payload => (validatedInstrument platform records zone payload).map fun found => .instrument found.1
  | .obligation payload => (validatedObligation platform records zone payload owner).map fun found =>
      .obligation found.1
  | .provision payload => (validatedProvision platform records zone payload).map fun found => .provision found.1
  | .provisionVersion payload => (checkedProvisionVersion platform records payload).map .provisionVersion
  | .recurringDuty payload => (validatedRecurringDuty platform records today payload).map fun found =>
      .recurringDuty found.1
  | .control payload => (validatedControl records payload owner).map .control

def parsedPayload (kind : ProposalKind) (payload : Dict Json) : Except Refusal Payload :=
  match platform.modelValidate kind payload with
  | .ok parsed => .ok parsed
  | .error places => .error (validationError ("Fix these payload fields: " ++ joined places ++ "."))

def validatedPayload (today : Day) (kind : ProposalKind) (payload : Dict Json) (owner : Option Id) :
    Except Refusal Payload := do
  let parsed ← parsedPayload platform kind payload
  validateTarget platform records zone today kind owner parsed

def validateObligationTarget (kind : ProposalKind) (targetType : String) (targetId : Option Id) :
    Except Refusal Unit := do
  require (¬(kind ∈ untargetedKinds ∧ (targetType ≠ "" ∨ targetId ≠ none)))
    (validationError "A new record names no target: leave targetType and targetId out.")
  match recordTarget kind with
  | none => .ok ()
  | some expected => do
    let target ← demand (if targetType = expected then targetId else none)
      (validationError ("Say which " ++ expected ++ " this proposal is for: targetType " ++ quoted expected ++
        " and its id."))
    if expected = obligationTarget then (records.activeObligation target).map fun _ => ()
    else (records.activeProvision target).map fun _ => ()

/-- `owner_of`: the bank a proposal belongs to, or the shared library. -/
def ownerOf (kind : ProposalKind) (isPrivate : Bool) (tenant : Option Id) : Except Refusal (Option Id) :=
  if isPrivate = false then do
    require (kind ∉ privateOnlyKinds) (validationError
      "A control is only ever a record of an organisation's own, filed by its own agent.")
    .ok none
  else do
    require (¬(tenant ≠ none ∧ kind = .newProvision)) privateProvisions
    require (tenant ≠ none ∧ kind ∈ privateRecordKinds) (validationError
      ("Only a new instrument, a new obligation or a control filed inside an organisation can be its own " ++
        "record."))
    .ok tenant

end Grc.Proposals
