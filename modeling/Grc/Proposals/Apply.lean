import Grc.Proposals.ApplyLists

/-! Applying a proposal of a record: instruments, obligations and their versions, recurring
duties, provisions and their versions. Each is checked again against the library as it is now. -/
namespace Grc.Proposals

open Grc.Shared Grc.Lib Grc.Library

variable {Rule : Type} (platform : Platform Rule) (now : Now) (zone : Option Id)

/-- `_key_free_in_every_zone`: the unique index answers for the records no zone sees. -/
def keyFreeInEveryZone (subject : String) (held : List String) (key : String) : Except Refusal Unit :=
  require (key ∉ held) (duplicateKey ("That key is already " ++ subject ++ " key."))

/-- `refs.level.binding_default`. -/
def bindingDefault (level : ListRow) : Bool := level.columns.get "binding_default" == some (.bool true)

def newInstrument (payload : InstrumentPayload) (filed : Filed) (actor : Actor) (reviewer : Reviewer)
    (stepUp : Option Id) : Writing Unit := do
  let (payload, refs, regime) ← Tx.check fun records => validatedInstrument platform records zone payload
  Tx.check fun records =>
    keyFreeInEveryZone "an instrument's" (records.instruments.map (·.stableKey)) payload.key
  let instrument ← created fun id records => { records with instruments := records.instruments ++ [{
    id, ownerTenant := filed.ownerTenant, stableKey := payload.key, shortName := payload.shortName,
    officialRef := payload.officialRef, eliUri := payload.eliUri, sourceUrl := filed.sourceUrl,
    level := refs.level.id, binding := payload.binding.getD (bindingDefault refs.level),
    jurisdiction := refs.jurisdiction.id, authority := refs.authority.map (·.id), regime := regime.id,
    inForceFrom := payload.inForceFrom, inForceFromPrecision := payload.inForceFromPrecision,
    inForceTo := payload.inForceTo, inForceToPrecision := payload.inForceToPrecision,
    implementsNote := payload.implementsNote, createdOrigin := filed.origin,
    createdByAgentRun := filed.agentRunId, verifiedOrigin := some (verifiedOrigin reviewer),
    verifiedByAgent := reviewer.agentId }] }
  Tx.write fun records => { records with
    instrumentTitles := records.instrumentTitles ++
      translations instrument payload.titles payload.originalLanguage payload.isMachine reviewer }
  audited {
    action := "instrument.created", actor, subjectType := "instrument", subjectId := some instrument
    subjectTitle := payload.key
    summary := "Added the instrument " ++ payload.key ++ named filed.id
    tenantId := filed.ownerTenant
    after := [("stableKey", .text payload.key), ("regime", .text payload.regime), ("level", .text payload.level),
      ("verifiedOrigin", .text (verifiedOrigin reviewer).value), ("proposal", .ref filed.id)]
    stepUpAssertionId := stepUp }

/-- `proposal.source_label or f"{instrument.official_ref}, {payload.ref_label}"`. -/
def sourceLabelOf (filed : Filed) (instrument : Instrument) (refLabel : String) : String :=
  if filed.sourceLabel = "" then instrument.officialRef ++ ", " ++ refLabel else filed.sourceLabel

/-- The writes of `_new_obligation`. -/
def writeObligation (filed : Filed) (actor : Actor) (reviewer : Reviewer) (stepUp : Option Id)
    (payload : ObligationPayload) (instrument : Instrument) (terms : List Term) (dutyType : ListRow) : Writing Unit := do
  let owner := filed.ownerTenant
  let obligation ← created fun id records => { records with obligations := records.obligations ++ [{
    id, ownerTenant := owner, stableKey := payload.key, instrument := instrument.id,
    refLabel := payload.refLabel, dutyType := dutyType.id, createdOrigin := filed.origin,
    createdByAgentRun := filed.agentRunId, createdModel := filed.model, sourceUrl := filed.sourceUrl,
    sourceLabel := sourceLabelOf filed instrument payload.refLabel,
    verifiedOrigin := some (verifiedOrigin reviewer), verifiedByAgent := reviewer.agentId }] }
  Tx.write fun records => { records with
    obligationTitles := records.obligationTitles ++
      translations obligation payload.titles payload.originalLanguage payload.isMachine reviewer
    obligationTerms := records.obligationTerms ++ terms.map fun term => { obligation, term := term.id } }
  let version ← created fun id records => { records with versions := records.versions ++ [{
    id, obligation, versionNumber := 1, effectiveFrom := payload.effectiveFrom,
    effectiveFromPrecision := payload.effectiveFromPrecision, causedByChange := filed.changeId,
    appliedByProposal := some filed.id, approvedBy := reviewer.user, approvedAt := some now.moment,
    verifiedOrigin := some (verifiedOrigin reviewer), verifiedByAgent := reviewer.agentId }] }
  Tx.write fun records => { records with
    summaries := records.summaries ++
      translations version payload.summaries payload.originalLanguage payload.isMachine reviewer }
  if owner = none then reindex now obligation
  audited {
    action := "obligation.created", actor, subjectType := "obligation", subjectId := some obligation
    subjectTitle := payload.key
    summary := "Added the obligation " ++ payload.key ++ " under " ++ instrument.stableKey ++ named filed.id
    tenantId := owner
    after := [("stableKey", .text payload.key), ("instrument", .text instrument.stableKey),
      ("versionNumber", .number 1), ("versionId", .ref version),
      ("effectiveFrom", dateValue payload.effectiveFrom),
      ("effectiveFromPrecision", .text payload.effectiveFromPrecision),
      ("languages", .texts (sorted payload.summaries.keys)), ("terms", .texts (payload.terms.getD [])),
      ("verifiedOrigin", .text (verifiedOrigin reviewer).value), ("proposal", .ref filed.id)]
    stepUpAssertionId := stepUp }

def newObligation (payload : ObligationPayload) (filed : Filed) (actor : Actor) (reviewer : Reviewer)
    (stepUp : Option Id) : Writing Unit := do
  let (payload, instrument, terms) ← Tx.check fun records =>
    validatedObligation platform records zone payload filed.ownerTenant
  Tx.check fun records => standardsCheck platform records zone filed.kind instrument (some (terms.map (·.id)))
    filed.fieldSources (some payload.refLabel) filed.sourceLabel
  Tx.check fun records =>
    keyFreeInEveryZone "an obligation's" (records.obligations.map (·.stableKey)) payload.key
  let dutyType ← Tx.check fun records => records.liveDutyType payload.dutyType
  writeObligation now filed actor reviewer stepUp payload instrument terms dutyType

/-- The CHECK constraints of a recurring duty's provenance. -/
def dutyProvenance (duty : RecurringDuty) : Prop :=
  (duty.createdOrigin = .agent → duty.createdByAgent ≠ none) ∧
    (duty.verifiedOrigin = some .agent → duty.verifiedByAgent ≠ none) ∧
    (duty.verifiedOrigin = some .user → duty.approvedBy ≠ none) ∧
    (duty.verifiedByAgent = none ∨ duty.createdByAgent = none ∨ duty.verifiedByAgent ≠ duty.createdByAgent)

instance (duty : RecurringDuty) : Decidable (dutyProvenance duty) := by
  unfold dutyProvenance
  infer_instance

def newRecurringDuty (payload : RecurringDutyPayload) (filed : Filed) (actor : Actor) (reviewer : Reviewer)
    (stepUp : Option Id) : Writing Unit := do
  let target ← Tx.check fun _ => demand filed.targetId internalError
  let obligation ← Tx.check fun records => records.activeObligation target
  let (payload, authority) ← Tx.check fun records => validatedRecurringDuty platform records now.today payload
  let duty (id : Id) : RecurringDuty := {
    id, obligation := obligation.id, title := payload.title, recurrenceRule := payload.recurrenceRule,
    dueRuleNote := payload.dueRuleNote, recipientAuthority := authority.map (·.id), leadDays := payload.leadDays,
    appliedByProposal := some filed.id, createdOrigin := filed.origin, createdByAgent := filed.proposedByAgent,
    verifiedOrigin := some (verifiedOrigin reviewer), verifiedByAgent := reviewer.agentId,
    approvedBy := reviewer.user, approvedAt := some now.moment }
  Tx.check fun records => require (dutyProvenance (duty records.nextId)) internalError
  let row ← created fun id records => { records with duties := records.duties ++ [duty id] }
  reindex now obligation.id
  audited {
    action := "recurring_duty.created", actor, subjectType := "recurring_duty", subjectId := some row
    subjectTitle := payload.title
    summary := "Added a recurring duty to " ++ obligation.stableKey ++ named filed.id
    tenantId := none
    after := [("obligation", .text obligation.stableKey), ("recurrenceRule", .text payload.recurrenceRule),
      ("recipientAuthority", AuditValue.ofText payload.recipientAuthority), ("leadDays", .number payload.leadDays),
      ("verifiedOrigin", .text (verifiedOrigin reviewer).value), ("proposal", .ref filed.id)]
    stepUpAssertionId := stepUp }

/-- `_scope`: the scope of an obligation as a payload writes it. -/
def scopeRefs (records : Records) (obligation : Id) : List String := (records.scopeLinks obligation).map Prod.fst

/-- The scope a version asks for, resolved and none of it mirrored. -/
def versionScope (records : Records) : Option (List String) → Except Refusal (List Term)
  | none | some [] => .ok []
  | some refs => do
    let terms ← records.termsOf refs
    records.refuseMirrored (terms.map (·.dimension))
    .ok terms

/-- The links of an obligation's scope, replaced by a payload's when it carries a scope. -/
def rescope (records : Records) (obligation : Id) (terms : List Term) : Option (List String) → List ObligationTerm
  | none => records.obligationTerms
  | some _ => records.obligationTerms.filter (·.obligation != obligation) ++
      terms.map fun term => { obligation, term := term.id }

/-- The writes of `_obligation_version`, with the highest number it read. -/
def writeObligationVersion (filed : Filed) (actor : Actor) (reviewer : Reviewer) (stepUp : Option Id)
    (payload : ObligationVersionPayload) (obligation : Obligation) (terms : List Term) (last : Option Nat) :
    Writing Unit := do
  let before ← Tx.check fun records => .ok records
  let version ← created fun id records => { records with versions := records.versions ++ [{
    id, obligation := obligation.id, versionNumber := last.getD 0 + 1, effectiveFrom := payload.effectiveFrom,
    effectiveFromPrecision := payload.effectiveFromPrecision, causedByChange := filed.changeId,
    appliedByProposal := some filed.id, approvedBy := reviewer.user, approvedAt := some now.moment,
    verifiedOrigin := some (verifiedOrigin reviewer), verifiedByAgent := reviewer.agentId }] }
  Tx.write fun records => { records with
    summaries := records.summaries ++
      translations version payload.summaries payload.originalLanguage payload.isMachine reviewer
    obligationTerms := rescope records obligation.id terms payload.terms }
  reindex now obligation.id
  let after ← Tx.check fun records => .ok records
  let scopeValue (records : Records) : AuditValue :=
    match payload.terms with
    | none => .absent
    | some _ => .texts (scopeRefs records obligation.id)
  audited {
    action := "obligation.version_applied", actor, subjectType := "obligation", subjectId := some obligation.id
    subjectTitle := obligation.stableKey
    summary := "Filed version " ++ toString (last.getD 0 + 1) ++ " of " ++ obligation.stableKey ++ named filed.id
    tenantId := none
    before := [("versionNumber", (last.map AuditValue.number).getD .absent), ("terms", scopeValue before)]
    after := [("versionNumber", .number (last.getD 0 + 1)), ("versionId", .ref version),
      ("effectiveFrom", dateValue payload.effectiveFrom),
      ("effectiveFromPrecision", .text payload.effectiveFromPrecision),
      ("languages", .texts (sorted payload.summaries.keys)), ("terms", scopeValue after),
      ("proposal", .ref filed.id)]
    stepUpAssertionId := stepUp }

def obligationVersion (payload : ObligationVersionPayload) (filed : Filed) (actor : Actor) (reviewer : Reviewer)
    (stepUp : Option Id) : Writing Unit := do
  let target ← Tx.check fun _ => demand filed.targetId internalError
  let obligation ← Tx.check fun records => records.activeObligation target
  let terms ← Tx.check fun records => versionScope records payload.terms
  let instrument ← Tx.check fun records => demand (records.instrumentOf obligation.instrument) internalError
  Tx.check fun records => standardsCheck platform records zone filed.kind instrument
    (payload.terms.map fun _ => terms.map (·.id)) filed.fieldSources none filed.sourceLabel
  let last ← Tx.check fun records => .ok (highest ((records.versions.filter (·.obligation == obligation.id)).map (·.versionNumber)))
  writeObligationVersion now filed actor reviewer stepUp payload obligation terms last

/-- A provision's version with its verbatim texts, and its search document. -/
def fileProvisionVersion (provision : Id) (number : Nat) (payload : ProvisionVersionPayload) (filed : Filed)
    (reviewer : Reviewer) : Writing Id := do
  let version ← created fun id records => { records with provisionVersions := records.provisionVersions ++ [{
    id, provision, versionNumber := number, effectiveFrom := payload.effectiveFrom,
    effectiveFromPrecision := payload.effectiveFromPrecision, appliedByProposal := some filed.id }] }
  Tx.write fun records => { records with
    provisionTexts := records.provisionTexts ++
      translations version payload.texts payload.originalLanguage payload.isMachine reviewer }
  reindex now provision
  pure version

def textsOf (payload : ProvisionPayload) : ProvisionVersionPayload where
  texts := payload.texts
  originalLanguage := payload.originalLanguage
  isMachine := payload.isMachine
  effectiveFrom := payload.effectiveFrom
  effectiveFromPrecision := payload.effectiveFromPrecision

/-- The writes of `_new_provision`. -/
def writeProvision (filed : Filed) (actor : Actor) (reviewer : Reviewer) (stepUp : Option Id)
    (payload : ProvisionPayload) (instrument : Instrument) (parent : Option Provision) (kind : ListRow) : Writing Unit := do
  let provision ← created fun id records => { records with provisions := records.provisions ++ [{
    id, stableKey := payload.key, instrument := instrument.id, parent := parent.map (·.id), kind := kind.id,
    refLabel := payload.refLabel, heading := payload.heading,
    path := (parent.map (·.path)).getD instrument.shortName ++ " > " ++ payload.refLabel,
    sortOrder := payload.sortOrder }] }
  let version ← fileProvisionVersion now provision 1 (textsOf payload) filed reviewer
  audited {
    action := "provision.created", actor, subjectType := "provision", subjectId := some provision
    subjectTitle := payload.key
    summary := "Added the provision " ++ payload.key ++ " under " ++ instrument.stableKey ++ named filed.id
    tenantId := none
    after := [("stableKey", .text payload.key), ("instrument", .text instrument.stableKey),
      ("versionNumber", .number 1), ("versionId", .ref version),
      ("languages", .texts (sorted payload.texts.keys)), ("proposal", .ref filed.id)]
    stepUpAssertionId := stepUp }

def newProvision (payload : ProvisionPayload) (filed : Filed) (actor : Actor) (reviewer : Reviewer)
    (stepUp : Option Id) : Writing Unit := do
  let (payload, instrument, parent, kind) ← Tx.check fun records =>
    validatedProvision platform records zone payload
  Tx.check fun records => standardsCheck platform records zone filed.kind instrument none filed.fieldSources none
    filed.sourceLabel
  Tx.check fun records => require (payload.key ∉ records.provisions.map (·.stableKey)) internalError
  writeProvision now filed actor reviewer stepUp payload instrument parent kind

/-- The writes of `_provision_version`, with the highest number it read. -/
def writeProvisionVersion (filed : Filed) (actor : Actor) (reviewer : Reviewer) (stepUp : Option Id)
    (payload : ProvisionVersionPayload) (provision : Provision) (last : Option Nat) : Writing Unit := do
  let version ← fileProvisionVersion now provision.id (last.getD 0 + 1) payload filed reviewer
  audited {
    action := "provision.version_applied", actor, subjectType := "provision", subjectId := some provision.id
    subjectTitle := provision.stableKey
    summary := "Filed version " ++ toString (last.getD 0 + 1) ++ " of " ++ provision.stableKey ++ named filed.id
    tenantId := none
    before := [("versionNumber", (last.map AuditValue.number).getD .absent)]
    after := [("versionNumber", .number (last.getD 0 + 1)), ("versionId", .ref version),
      ("effectiveFrom", dateValue payload.effectiveFrom),
      ("effectiveFromPrecision", .text payload.effectiveFromPrecision),
      ("languages", .texts (sorted payload.texts.keys)), ("proposal", .ref filed.id)]
    stepUpAssertionId := stepUp }

def provisionVersion (payload : ProvisionVersionPayload) (filed : Filed) (actor : Actor) (reviewer : Reviewer)
    (stepUp : Option Id) : Writing Unit := do
  let target ← Tx.check fun _ => demand filed.targetId internalError
  let (provision, instrument) ← Tx.check fun records => records.activeProvision target
  Tx.check fun records => standardsCheck platform records zone filed.kind instrument none filed.fieldSources none
    filed.sourceLabel
  let last ← Tx.check fun records => .ok (highest ((records.provisionVersions.filter (·.provision == provision.id)).map (·.versionNumber)))
  writeProvisionVersion now filed actor reviewer stepUp payload provision last

end Grc.Proposals

/-! Applying an approved proposal: the one door into the library, with a branch for each kind, and
the re-tag a batch's approved rows make. -/
namespace Grc.Proposals

open Grc.Shared Grc.Lib Grc.Library

variable {Rule : Type} (platform : Platform Rule) (now : Now) (zone : Option Id)

def controlKind : String := "control"

def ensureRegisterEntry (tenant obligation : Id) (actor : Actor) : Writing RegisterEntry := do
  let existing ← Tx.check fun records => .ok (records.entries.find? fun entry =>
    entry.tenant == tenant && entry.obligation == obligation)
  match existing with
  | some entry => pure entry
  | none => do
    let id ← created fun id records => { records with entries := records.entries ++ [{ id, tenant, obligation }] }
    audited {
      action := "register.entry_created", actor, subjectType := "tenant_obligation", subjectId := some id,
      summary := "Register entry created.", tenantId := some tenant, after := [("obligationId", .ref obligation)] }
    pure { id, tenant, obligation }

/-- The bank's live item of a control's name, reused, or a new one. -/
def controlItem (tenant : Id) (kind : LinkKind) (entry : RegisterEntry) (payload : ControlPayload) (filed : Filed)
    (actor : Actor) (stepUp : Option Id) : Writing Id := do
  let held ← Tx.check fun records => .ok (records.items.find? fun item =>
    item.tenant == tenant && item.kind == kind.id && item.name == payload.name)
  match held with
  | some item => do
    Tx.check fun _ => require (item.active = true)
      (validationError "A control of that name was retired: restore it or reject this proposal.")
    Tx.check fun records => require (¬∃ link ∈ records.links,
        link.entry = entry.id ∧ link.item = item.id ∧ link.removedAt = none)
      { code := "already_linked", detail := "That control is already linked to this obligation." }
    pure item.id
  | none => do
    let id ← created fun id records => { records with items := records.items ++ [{
      id, tenant, kind := kind.id, name := payload.name, reference := payload.reference }] }
    audited {
      action := "register.internal_item_created", actor, subjectType := "internal_item", subjectId := some id,
      subjectTitle := payload.name, summary := "Internal item created.", tenantId := some tenant,
      after := [("kind", .text kind.key), ("proposal", .ref filed.id)], stepUpAssertionId := stepUp }
    pure id

def applyControl (payload : ControlPayload) (filed : Filed) (actor : Actor) (reviewer : Id) (stepUp : Option Id) :
    Writing Unit := do
  let owner ← Tx.check fun _ => demand filed.ownerTenant ownOnly
  let payload ← Tx.check fun records => validatedControl records payload (some owner)
  let obligation ← Tx.check fun records => records.ownObligation owner payload.obligation
  let kind ← Tx.check fun records => demand (records.linkKinds.find? fun kind =>
    kind.tenant == owner && kind.key == controlKind && kind.active)
    (unknownKey "Controls are not on your list of link kinds.")
  let entry ← ensureRegisterEntry owner obligation.id actor
  let item ← controlItem owner kind entry payload filed actor stepUp
  let link ← created fun id records => { records with links := records.links ++ [{
    id, tenant := owner, entry := entry.id, item, label := payload.name, createdBy := reviewer }] }
  audited {
    action := "register.internal_link_added", actor, subjectType := "internal_link", subjectId := some link,
    subjectTitle := payload.name, summary := "Internal item linked.", tenantId := some owner,
    after := [("obligationId", .ref obligation.id), ("internalItemId", .ref item), ("kind", .text kind.key),
      ("proposal", .ref filed.id)], stepUpAssertionId := stepUp }

def staleWrite (detail : String) : Refusal := { code := "stale_write", detail }

/-- The terms some rows of a batch add, as the library holds them now. -/
def addedTerms (records : Records) (rows : List BatchRow) : Except Refusal (List Term) := do
  let wanted := sorted ((rows.flatMap fun row =>
    row.after.filter fun ref => !(records.scopeTerms row.subjectId).has ref).eraseDups)
  let terms ← if wanted = [] then .ok [] else records.termsOf wanted
  records.refuseMirrored (terms.map (·.dimension))
  .ok terms

/-- The scope one row of a batch asks for, as term ids. -/
def rowScope (records : Records) (added : List Term) (row : BatchRow) : Except Refusal (List Id) := do
  let obligation ← demand (records.activeSharedObligation row.subjectId)
    (staleWrite "A record in this batch was retired after it was filed: reject its row.")
  let before := records.scopeTerms obligation.id
  require (sorted before.keys = row.before) (staleWrite ("The scope of " ++ obligation.stableKey ++
    " changed after the batch was filed: reject its row and file it again."))
  row.after.mapM fun ref => demand ((before.get ref).or
    ((added.find? fun term => records.refOf term == ref).map (·.id))) internalError

/-- The standards check of one row, with the source its change names. -/
def checkRow (records : Records) (payload : ObligationScopePayload) (filed : Filed) (row : BatchRow)
    (scope : List Id) : Except Refusal Unit := do
  let obligation ← demand (records.activeSharedObligation row.subjectId) internalError
  let instrument ← demand (records.instrumentOf obligation.instrument) internalError
  let change ← demand (payload.changes.find? (·.obligationId == obligation.id)) internalError
  standardsCheck platform records zone filed.kind instrument (some scope) [("terms", change.source)] none
    filed.sourceLabel

/-- One row's links: the ones its record no longer carries dropped, the added ones linked. -/
def relink (added : List Term) (row : BatchRow) (records : Records) : Records :=
  let before := records.scopeTerms row.subjectId
  let gone := (before.filter fun entry => !row.after.contains entry.1).map Prod.snd
  let fresh := (row.after.filter fun ref => !before.has ref).filterMap fun ref =>
    added.find? fun term => records.refOf term == ref
  { records with obligationTerms := (records.obligationTerms.filter fun link =>
      !(link.obligation == row.subjectId && gone.contains link.term)) ++
        fresh.map fun term => { obligation := row.subjectId, term := term.id } }

/-- `_obligation_scope`: every check before any write. -/
def obligationScope (payload : ObligationScopePayload) (rows : List BatchRow) (filed : Filed) (actor : Actor)
    (stepUp : Option Id) : Writing Unit := do
  let added ← Tx.check fun records => addedTerms records rows
  let scopes ← Tx.check fun records => rows.mapM (rowScope records added)
  Tx.each (rows.zip scopes) fun pair =>
    Tx.check fun records => checkRow platform zone records payload filed pair.1 pair.2
  let before ← Tx.check fun records => .ok records
  Tx.each rows fun row => do
    audited {
      action := "obligation.scope_changed", actor, subjectType := "obligation", subjectId := some row.subjectId,
      subjectTitle := ((before.activeSharedObligation row.subjectId).map (·.stableKey)).getD "",
      tenantId := none, before := [("terms", .texts row.before)],
      after := [("terms", .texts row.after), ("proposal", .ref filed.id), ("batchRow", .ref row.id),
        ("decision", .text "approved")], stepUpAssertionId := stepUp }
    Tx.write (relink added row)
  Tx.each rows fun row => reindex now row.subjectId

/-- `ObligationScopePayload.model_validate`, of a stored payload. -/
def parsedScope (payload : Dict Json) : Except Refusal ObligationScopePayload :=
  match platform.scopeValidate payload with
  | .ok parsed => .ok parsed
  | .error _ => .error internalError

/-- `assert reviewer.user`, for a control. -/
def applyControlBy (payload : ControlPayload) (filed : Filed) (actor : Actor) (reviewer : Reviewer)
    (stepUp : Option Id) : Writing Unit :=
  match reviewer.user with
  | none => Tx.refuse
      { code := "person_review_required", detail := "A control is approved by a person, never by an agent." }
  | some user => applyControl payload filed actor user stepUp

/-- The branch of `apply` for a kind, on the payload its schema parsed. -/
def applyKind (filed : Filed) (actor : Actor) (reviewer : Reviewer) (stepUp : Option Id) :
    ProposalKind → Payload → Writing Unit
  | .vocabularyCreate, .vocabularyCreate payload => vocabularyCreate platform payload filed actor reviewer stepUp
  | .vocabularyRelabel, .vocabularyRelabel payload => vocabularyRelabel platform payload filed actor reviewer stepUp
  | .vocabularyRetire, .vocabularyRetire payload => vocabularyActive payload filed actor stepUp false
  | .vocabularyRestore, .vocabularyRetire payload => vocabularyActive payload filed actor stepUp true
  | .vocabularyMerge, .vocabularyMerge payload => vocabularyMerge payload filed actor stepUp
  | .termCreate, .termCreate payload => termCreate platform payload filed actor reviewer stepUp
  | .termUpdate, .termUpdate payload => termUpdate payload filed actor reviewer stepUp
  | .newObligationVersion, .obligationVersion payload =>
    obligationVersion platform now zone payload filed actor reviewer stepUp
  | .newInstrument, .instrument payload => newInstrument platform zone payload filed actor reviewer stepUp
  | .newObligation, .obligation payload => newObligation platform now zone payload filed actor reviewer stepUp
  | .newProvision, .provision payload => newProvision platform now zone payload filed actor reviewer stepUp
  | .newProvisionVersion, .provisionVersion payload =>
    provisionVersion platform now zone payload filed actor reviewer stepUp
  | .newRecurringDuty, .recurringDuty payload =>
    newRecurringDuty platform now payload filed actor reviewer stepUp
  | .newControl, .control payload => applyControlBy payload filed actor reviewer stepUp
  | _, _ => Tx.refuse internalError

/-- What `apply` asks of a record of a bank's own, once its payload is parsed. -/
def ownKind (filed : Filed) : Except Refusal Unit :=
  require (¬(filed.ownerTenant ≠ none ∧ filed.kind ∉ privateRecordKinds))
    (validationError (quoted filed.kind.value ++ " is never a record of an organisation's own."))

def apply (filed : Filed) (actor : Actor) (reviewer : Reviewer) (stepUp : Option Id) (rows : List BatchRow) :
    Writing Unit :=
  if filed.kind = .obligationScope then do
    let payload ← Tx.check fun _ => parsedScope platform filed.payload
    Tx.check fun _ => ownKind filed
    obligationScope platform now zone payload rows filed actor stepUp
  else do
    let payload ← Tx.check fun _ => parsedPayload platform filed.kind filed.payload
    Tx.check fun _ => ownKind filed
    applyKind platform now zone filed actor reviewer stepUp filed.kind payload

end Grc.Proposals
