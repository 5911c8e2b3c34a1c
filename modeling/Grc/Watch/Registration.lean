import Grc.Watch.Curation

/-! Registering a change a run sighted, or sighting it again; its pages and its timeline; and the move of what
holds a merged-away value of a library list. -/
namespace Grc.Watch

open Grc.Shared Grc.Lib Grc.Library

variable (now : Now)

def screened (texts : List String) : List String := sorted (texts.flatMap now.screen).dedup

def atMostOnePrimary (documents : List ChangeDocumentInput) : Except Refusal Unit :=
  require ((documents.filter (·.isPrimary)).length ≤ 1) (validationError "Only one page of a change is the primary one. Mark the page the reform is chiefly about and attach the rest beside it.")

/-- `_add_event`. -/
def addEventRow (change : Id) (entry : ChangeEventInput) : Writing PUnit :=
  let make (id : Id) : ChangeEvent := {
    id, change, label := entry.label, eventDate := entry.eventDate, datePrecision := entry.datePrecision.getD "day"
    occurred := entry.occurred, sortOrder := entry.sortOrder, sourceUrl := entry.sourceUrl.getD "" }
  Tx.write fun tables => { tables with events := tables.events.create make fun _ => rfl }

/-- `_add_document`, under the table's unique constraint. -/
def addDocumentRow (change : Id) (page : ChangeDocumentInput) (riskFlags : List String) (duplicate : Bool) : Writing Unit := do
  let make (id : Id) : ChangeDocument := {
    id, change, url := page.url, title := page.title.getD "", publisher := page.publisher.getD ""
    fetchedAt := page.fetchedAt, contentHash := page.contentHash.getD "", isPrimary := page.isPrimary && !duplicate
    isDuplicate := duplicate
    riskFlags := sorted (riskFlags ++ page.riskFlags ++ now.screen (page.title.getD "")).dedup }
  Tx.check fun tables => require ((documentWithUrl tables change page.url).isNone = true) internalError
  Tx.write fun tables => { tables with documents := tables.documents.create make fun _ => rfl }

/-- `runs.spend`. -/
def spend (run : AgentRun) : Writing Unit :=
  Tx.check fun tables => do
    require (∃ held ∈ now.runs, held.id = run.id ∧ held.running = true) {
      code := "run_not_open"
      detail := "That run is closed. Open a run before filing anything against it." }
    require ((tables.changes.rows.filter (·.agentRun == some run.id)).length < now.maxChanges) {
      code := "run_budget_exhausted"
      detail := "This run has filed its " ++ toString now.maxChanges ++ " " ++
        (if now.maxChanges = 1 then "change" else "changes") ++
        ", the most one run may file. Close it, and a new run files the rest." }

/-- `_merge`: a second sighting adds what the change does not carry, and leaves every field of it. -/
def mergeSighting (actor : Actor) (change : RegulatoryChange) (body : ChangeInput) (riskFlags : List String)
    (run : Option AgentRun) : Writing Unit := do
  let events ← Tx.check fun tables =>
    .ok ((body.events.map (·.label)).filter fun label => (eventWithLabel tables change.id label).isNone).eraseDups
  Tx.each body.events fun entry => do
    let held ← Tx.check fun tables => .ok (eventWithLabel tables change.id entry.label)
    Tx.when (held = none) (addEventRow change.id entry)
  let documents ← Tx.check fun tables =>
    .ok ((body.documents.map (·.url)).filter fun url => (documentWithUrl tables change.id url).isNone).eraseDups
  Tx.each body.documents fun page => do
    let held ← Tx.check fun tables => .ok (documentWithUrl tables change.id page.url)
    Tx.when (held = none) (addDocumentRow now change.id page riskFlags true)
  Tx.given body.soWhat fun report =>
    Tx.when (change.soWhatDraft = "") (storeSoWhat now actor change report (run.map (·.id)))
  audited (changeEvent "change.updated" actor change " sighted a registered change again." []
    [("stableKey", .text change.stableKey), ("documents", .texts documents), ("events", .texts events)] none)

/-- The change row a registration files. -/
def newChange (body : ChangeInput) (changeType : Id) (urgency authority : Option Id) (origin : OriginType)
    (run : Option AgentRun) (suggester : Suggester) (id : Id) : RegulatoryChange where
  id := id
  stableKey := body.stableKey
  title := body.title
  changeType := changeType
  changeTypeConfidence := body.changeTypeConfidence
  changeTypeSuggester := suggester
  authority := authority
  authorityLabel := body.authorityLabel
  publishedOn := body.publishedOn
  publishedPrecision := body.publishedPrecision.getD "day"
  summary := body.summary
  suggestedUrgency := urgency
  keyDate := body.keyDate
  keyDatePrecision := body.keyDatePrecision.getD "day"
  keyDateLabel := body.keyDateLabel.getD ""
  recurrenceRule := body.recurrenceRule.getD ""
  sourceLabel := body.sourceLabel
  sourceUrl := body.sourceUrl
  origin := origin
  agentRun := run.map (·.id)
  model := body.model.getD ""

def logSuggestedClassification (change : Id) (body : ChangeInput) (run : AgentRun) (parts : List String) : Writing Unit :=
  let (model, modelVersion) := match body.soWhat with
    | none => (run.model, run.pipelineVersion)
    | some report => (report.model, report.modelVersion)
  logGeneration now {
    purpose := .scopeSuggestion, model, modelVersion, output := "\n".intercalate parts, agentRunId := some run.id
    subjectId := change }

/-- The rows a call's names stand for. -/
structure Resolved where
  changeType : ListRow
  flags : List ListRow
  terms : List Term
  urgency : Option ListRow
  authority : Option Id

/-- `resolve_keys(…)[0]`. -/
def resolveKey (list key : String) : Except Refusal ListRow := do
  let rows ← resolveKeys now.records list [key]
  demand rows.head? internalError

/-- Every refusal of a registration that comes before its write. -/
def resolveChange (body : ChangeInput) : Except Refusal Resolved := do
  let changeType ← resolveKey now changeTypeList body.changeType
  let flags ← resolveKeys now.records flagList body.flags
  let terms ← resolveTerms now.records body.termIds
  let urgency ← optionally (resolveKey now urgencyList) body.suggestedUrgency
  let authority ← authorityNamed now.records (body.authorityCode.getD "")
  oneLinkPerObligation body.obligationLinks
  obligationsFor now.records (body.obligationLinks.map (·.obligationId))
  atMostOnePrimary body.documents
  .ok { changeType, flags, terms, urgency, authority }

/-- What a registration writes of a change nobody sighted before. -/
def fileChange (who : Principal) (actor : Actor) (body : ChangeInput) (resolved : Resolved) (riskFlags : List String)
    (run : Option AgentRun) : Writing Unit := do
  let suggester : Suggester := {
    person := if who.kind = .user then some who.subjectId else none
    agent := run.bind (·.agent)
    apiKey := run.bind (·.apiKey) }
  Tx.given run (spend now)
  let id ← Tx.check fun tables => .ok tables.changes.fresh
  let make := newChange body resolved.changeType.id (resolved.urgency.map (·.id)) resolved.authority (originOf who) run suggester
  Tx.write fun tables => { tables with changes := tables.changes.create make fun _ => rfl }
  Tx.each body.events (addEventRow id)
  Tx.each body.documents fun page => addDocumentRow now id page riskFlags page.isDuplicate
  Tx.each (resolved.flags.map (·.id)) (createTerm id .flag suggester)
  Tx.each (resolved.terms.map fun term => term.id) (createTerm id .term suggester)
  Tx.each body.obligationLinks (createLink id (originOf who) suggester)
  Tx.given body.soWhat fun report => storeSoWhat now actor (make id) report (run.map (·.id))
  let parts := ["change_type:" ++ resolved.changeType.key] ++ resolved.flags.map (fun flag => "flag:" ++ flag.key) ++
    resolved.terms.map (fun term => dimensionKey now.records term ++ ":" ++ term.key) ++
    resolved.urgency.elim [] fun urgency => ["urgency:" ++ urgency.key]
  Tx.given run fun run => logSuggestedClassification now id body run parts
  audited (changeEvent "change.registered" actor (make id) " registered a regulatory change." []
    [("stableKey", .text body.stableKey), ("title", .text body.title), ("authorityLabel", .text body.authorityLabel),
      ("keyDate", AuditValue.ofText (body.keyDate.map isoformat)), ("sourceUrl", .text body.sourceUrl),
      ("riskFlags", .texts riskFlags)] none)

/-- `register_change`: files a reform, or answers the one under this stable key. -/
def registerChange (who : Principal) (actor : Actor) (body : ChangeInput) : Writing Unit := do
  let run ← Tx.check fun _ =>
    if who.kind = .agent ∨ body.agentRunId ≠ none then (requireOpenRun now.runs who body.agentRunId).map some else .ok none
  let resolved ← Tx.check fun _ => resolveChange now body
  let riskFlags := screened now [body.title, body.summary]
  let existing ← Tx.check fun tables => .ok (changeWithStableKey tables body.stableKey)
  match existing with
  | some change => mergeSighting now actor change body riskFlags run
  | none => do
    Tx.check fun _ => requireRegime now.records resolved.terms
    Tx.check fun _ => requireStandardsBody now.records now.standardsBodies resolved.terms resolved.authority
    fileChange now who actor body resolved riskFlags run

def addDocument (who : Principal) (actor : Actor) (id : Id) (body : ChangeDocumentInput) : Writing Unit := do
  Tx.check fun _ => refuseTenantKey who
  let change ← Tx.check fun tables => changeFor tables id
  let existing ← Tx.check fun tables => .ok (documentWithUrl tables change.id body.url)
  match existing with
  | some _ => audited (changeEvent "regulatory_change.document_replayed" actor change
      " retried a page the change already carried." [] [("url", .text body.url)] none)
  | none => do
    Tx.check fun tables => require (body.isPrimary = true → ∀ document ∈ tables.documents.rows,
        document.change = change.id → document.isPrimary = false) (validationError "This change already has a primary page. Attach the new one as a further page, or correct the one that is already there.")
    let riskFlags := screened now [change.title, change.summary]
    addDocumentRow now change.id body riskFlags body.isDuplicate
    let stored := sorted (riskFlags ++ body.riskFlags ++ now.screen (body.title.getD "")).dedup
    audited (changeEvent "regulatory_change.document_added" actor change " attached a page a change was found on." []
      [("url", .text body.url), ("riskFlags", .texts stored)] none)

/-- `_event_values`, of an entry and of one that was posted. -/
def eventValues (label : String) (eventDate : Option Day) (datePrecision : String) (occurred : Bool) (sortOrder : Nat)
    (sourceUrl : String) : List (String × AuditValue) :=
  [("label", .text label), ("eventDate", AuditValue.ofText (eventDate.map isoformat)), ("datePrecision", .text datePrecision),
    ("occurred", .flag occurred), ("sortOrder", .number sortOrder),
    ("sourceUrl", if sourceUrl = "" then .absent else .text sourceUrl)]

def valuesOf (event : ChangeEvent) : List (String × AuditValue) :=
  eventValues event.label event.eventDate event.datePrecision event.occurred event.sortOrder event.sourceUrl

def postedValues (body : ChangeEventInput) : List (String × AuditValue) :=
  eventValues body.label body.eventDate (body.datePrecision.getD "day") body.occurred body.sortOrder (body.sourceUrl.getD "")

/-- `add_event`: a milestone, or the answer to one posted again. -/
def addEvent (actor : Actor) (id : Id) (body : ChangeEventInput) : Writing Unit := do
  let change ← Tx.check fun tables => changeFor tables id
  let existing ← Tx.check fun tables => .ok (eventWithLabel tables change.id body.label)
  match existing with
  | some event => do
    Tx.check fun _ => require (valuesOf event = postedValues body) {
      code := "duplicate_key"
      detail := "This change already has a milestone called " ++ quoted event.label ++
        " with other dates. Correct that entry instead of adding a second one with the same label." }
    audited (changeEvent "regulatory_change.event_replayed" actor change " retried a milestone the timeline already had." []
      (valuesOf event) none)
  | none => do
    addEventRow change.id body
    audited (changeEvent "regulatory_change.event_added" actor change " added a milestone to a change's timeline." []
      (postedValues body) none)

def updateEvent (actor : Actor) (id event : Id) (body : ChangeEventInput) : Writing Unit := do
  let change ← Tx.check fun tables => changeFor tables id
  let held ← Tx.check fun tables => eventFor tables change.id event
  let restated (entry : ChangeEvent) : ChangeEvent := { entry with
    label := body.label, eventDate := body.eventDate, datePrecision := body.datePrecision.getD "day"
    occurred := body.occurred, sortOrder := body.sortOrder, sourceUrl := body.sourceUrl.getD "" }
  Tx.write fun tables => { tables with events := tables.events.update (·.id == held.id) restated fun _ => rfl }
  audited (changeEvent "regulatory_change.event_updated" actor change " corrected a milestone on a change's timeline."
    (valuesOf held) (postedValues body) none)

/-- The columns of the watch that hold a value a merge moves: a change's type, and a flag on it. -/
inductive WatchLink where
  | changeType
  | flag

def retyped (source target : Id) (changes : Keyed RegulatoryChange.id) : Keyed RegulatoryChange.id :=
  changes.update (·.changeType == source) (fun change => { change with changeType := target }) fun _ => rfl

/-- `repoint`, for an approved merge: the twins are dropped and the other rows moved. -/
def repoint (source target : Id) : WatchLink → Writing PUnit
  | .changeType =>
    Tx.write fun tables => { tables with changes := retyped source target tables.changes }
  | .flag => do
    let twin (tables : Tables) (link : ChangeTerm) : Bool := link.column == .flag && link.value == source &&
      (storedTerms tables link.change .flag).any (·.value == target)
    Tx.write fun tables => { tables with terms := tables.terms.delete (twin tables) }
    writeTerms (·.update (fun link => link.column == .flag && link.value == source) (fun link => { link with value := target })
      fun _ => rfl)

end Grc.Watch

/-! The calls on the watch, each one transaction behind its own gate, in whatever order they come. -/
namespace Grc.Watch

open Grc.Shared Grc.Lib Grc.Library

/-- What a caller asks for. -/
inductive Call where
  | register (body : ChangeInput)
  | addDocument (change : Id) (body : ChangeDocumentInput)
  | addEvent (change : Id) (body : ChangeEventInput)
  | updateEvent (change event : Id) (body : ChangeEventInput)
  | update (change : Id) (body : ChangePatch)
  | setObligations (change : Id) (body : List ObligationLinkInput)
  | confirm (change : Id) (body : CurationConfirmInput)
  /-- The approval of a merge of two values of a library list the watch holds. -/
  | approveMerge (link : WatchLink) (source target : Id)

/-- A call, who makes it and what it finds outside the watch. -/
structure Request where
  who : Principal
  actor : Actor
  now : Now
  call : Call

/-- `@requires_scope`. -/
def requiresScope (who : Principal) (scope : String) : Except Refusal Unit :=
  require (who.hasScope scope = true) {
    code := "permission_denied"
    detail := "This key does not have the scope for that."
    extra := [("requiredPermission", .text scope)] }

/-- A call behind its gate. -/
def route (request : Request) : Writing Unit :=
  let who := request.who
  match request.call with
  | .register body => do
    Tx.check fun _ => requireChangeWriter who
    registerChange request.now who request.actor body
  | .addDocument change body => do
    Tx.check fun _ => requiresScope who scopeChangesWrite
    addDocument request.now who request.actor change body
  | .addEvent change body => do
    Tx.check fun _ => requireChangeWriter who
    addEvent request.actor change body
  | .updateEvent change event body => do
    Tx.check fun _ => requireChangeWriter who
    updateEvent request.actor change event body
  | .update change body => do
    Tx.check fun _ => requireChangeWriter who
    updateChangeFacts request.now who request.actor change body (freshStepUp who)
  | .setObligations change body => do
    Tx.check fun _ => requireChangeWriter who
    setObligationLinks request.now who request.actor change body (freshStepUp who)
  | .confirm change body => do
    let stepUp ← Tx.check fun _ => requireCurationConfirmer who
    confirmCuration request.now who request.actor change body stepUp
  | .approveMerge link source target => do
    -- the approval's gate is the same: an agent's own key, or a person with a fresh passkey
    let _ ← Tx.check fun _ => requireCurationConfirmer who
    repoint source target link

def serve (request : Request) : Writing Unit := Tx.atomic (route request)

/-- What is left of the three tables of facts when none of them was written. -/
structure SameFacts (before after : Tables) : Prop where
  changes : after.changes = before.changes
  terms : after.terms = before.terms
  obligations : after.obligations = before.obligations

instance : Std.Refl SameFacts := ⟨fun _ => ⟨rfl, rfl, rfl⟩⟩

instance : IsTrans Tables SameFacts :=
  ⟨fun _ _ _ first second => ⟨second.changes.trans first.changes, second.terms.trans first.terms,
    second.obligations.trans first.obligations⟩⟩

variable (now : Now)

theorem audited_same (event : AuditEvent) : (audited event).Keeps SameFacts := .write fun _ => ⟨rfl, rfl, rfl⟩

theorem logGeneration_same (generation : AiGeneration) : (logGeneration now generation).Keeps SameFacts :=
  .bind (.check _) fun _ => .write fun _ => ⟨rfl, rfl, rfl⟩

theorem flagDocuments_same (change : Id) (found : List String) : (flagDocuments change found).Keeps SameFacts :=
  .write fun _ => ⟨rfl, rfl, rfl⟩

theorem addEventRow_same (change : Id) (entry : ChangeEventInput) : (addEventRow change entry).Keeps SameFacts :=
  .write fun _ => ⟨rfl, rfl, rfl⟩

theorem addDocumentRow_same (change : Id) (page : ChangeDocumentInput) (riskFlags : List String) (duplicate : Bool) :
    (addDocumentRow now change page riskFlags duplicate).Keeps SameFacts :=
  .bind (.check _) fun _ => .write fun _ => ⟨rfl, rfl, rfl⟩

theorem addDocument_same (who : Principal) (actor : Actor) (change : Id) (body : ChangeDocumentInput) :
    (addDocument now who actor change body).Keeps SameFacts := by
  refine .bind (.check _) fun _ => .bind (.check _) fun _ => .bind (.check _) fun existing => ?_
  cases existing with
  | some held => exact audited_same _
  | none => exact .bind (.check _) fun _ => .bind (addDocumentRow_same now _ _ _ _) fun _ => audited_same _

theorem addEvent_same (actor : Actor) (change : Id) (body : ChangeEventInput) :
    (addEvent actor change body).Keeps SameFacts := by
  refine .bind (.check _) fun _ => .bind (.check _) fun existing => ?_
  cases existing with
  | some held => exact .bind (.check _) fun _ => audited_same _
  | none => exact .bind (addEventRow_same _ _) fun _ => audited_same _

theorem updateEvent_same (actor : Actor) (change event : Id) (body : ChangeEventInput) :
    (updateEvent actor change event body).Keeps SameFacts :=
  .bind (.check _) fun _ => .bind (.check _) fun _ => .bind (.write fun _ => ⟨rfl, rfl, rfl⟩) fun _ => audited_same _

/-- A relation that holds across whatever suggestions are filed, and whatever is written beside the facts. -/
structure Filing (related : Tables → Tables → Prop) : Prop where
  same : ∀ before after, SameFacts before after → related before after
  draft : ∀ id text, (updateChange id (fun held => { held with soWhatDraft := text }) fun _ => rfl).Keeps related
  change : ∀ (make : Id → RegulatoryChange) (named : ∀ id, (make id).id = id),
    (∀ id, (make id).changeTypeSuggested = true ∧ (make id).changeTypeConfirmer = {}) →
      (Tx.write fun tables => { tables with changes := tables.changes.create make named } : Writing PUnit).Keeps related
  term : ∀ change column suggester value, (createTerm change column suggester value).Keeps related
  link : ∀ change origin suggester link, (createLink change origin suggester link).Keeps related

section Filing

variable {related : Tables → Tables → Prop} [Std.Refl related] [IsTrans Tables related] (filing : Filing related)

include filing

theorem storeSoWhat_keeps (actor : Actor) (change : RegulatoryChange) (report : SoWhatInput) (run : Option Id) :
    (storeSoWhat now actor change report run).Keeps related :=
  .bind (filing.draft change.id report.text) fun _ =>
    .bind ((logGeneration_same now _).mono filing.same) fun _ => (audited_same _).mono filing.same

theorem mergeSighting_keeps (actor : Actor) (change : RegulatoryChange) (body : ChangeInput) (riskFlags : List String)
    (run : Option AgentRun) : (mergeSighting now actor change body riskFlags run).Keeps related := by
  refine .bind (.check _) fun events => .bind (.each (fun entry => ?_) _) fun _ => ?_
  · exact .bind (.check _) fun held => .when fun _ => (addEventRow_same _ _).mono filing.same
  refine .bind (.check _) fun documents => .bind (.each (fun page => ?_) _) fun _ => ?_
  · exact .bind (.check _) fun held => .when fun _ => (addDocumentRow_same now _ _ _ _).mono filing.same
  refine .bind (.given (fun report => .when fun _ => ?_) _) fun _ => (audited_same _).mono filing.same
  exact storeSoWhat_keeps now filing actor change report _

theorem fileChange_keeps (who : Principal) (actor : Actor) (body : ChangeInput) (resolved : Resolved)
    (riskFlags : List String) (run : Option AgentRun) :
    (fileChange now who actor body resolved riskFlags run).Keeps related := by
  refine .bind (.given (fun run => .check _) _) fun _ => .bind (.check _) fun id => ?_
  refine .bind (filing.change _ _ fun _ => ⟨rfl, rfl⟩) fun _ => ?_
  refine .bind (.each (fun entry => (addEventRow_same _ _).mono filing.same) _) fun _ => ?_
  refine .bind (.each (fun page => (addDocumentRow_same now _ _ _ _).mono filing.same) _) fun _ => ?_
  refine .bind (.each (filing.term _ _ _) _) fun _ => .bind (.each (filing.term _ _ _) _) fun _ => ?_
  refine .bind (.each (filing.link _ _ _) _) fun _ => ?_
  refine .bind (.given (fun report => storeSoWhat_keeps now filing actor _ report _) _) fun _ => ?_
  exact .bind (.given (fun run => (logGeneration_same now _).mono filing.same) _) fun _ => (audited_same _).mono filing.same

theorem registerChange_keeps (who : Principal) (actor : Actor) (body : ChangeInput) :
    (registerChange now who actor body).Keeps related := by
  refine .bind (.check _) fun run => .bind (.check _) fun resolved => .bind (.check _) fun existing => ?_
  cases existing with
  | some change => exact mergeSighting_keeps now filing actor change body _ run
  | none => exact .bind (.check _) fun _ => .bind (.check _) fun _ => fileChange_keeps now filing who actor body resolved _ run

end Filing

end Grc.Watch
