import Grc.Register.Entries

/-! Three writes of a bank's register, statement by statement: the reading of a rule, a link to an internal item and the status of a legal
entity. The entry they hang under is made in the middle of each. -/
namespace Grc.Register.Desk

open Grc.Shared Grc.Lib Grc.Register

/-- A stretch of one of the writes. -/
abbrev Step := View Bank Refusal

/-- `raise ValidationError`. -/
def invalid (code detail : String) (extra : List (String × AuditValue) := []) : Raised Refusal := .validation { code, detail, extra }

def query {α : Type} (read : Bank → α) : Step α := View.ask fun bank => .ok (read bank)

def fetch {α : Type} (read : Bank → Option α) (raised : Raised Refusal) : Step α := View.ask fun bank => demand (read bank) raised

/-- `record()`. -/
def audit (event : Bank → AuditEvent) : Step Unit :=
  View.write fun bank => .ok [fun rows => { rows with audit := record rows.audit (event bank) }]

section Reads
variable (bank : Bank)

/-- `obligation_headings([obligation_id], []).get(obligation_id)`. -/
def headingOf (obligation : Id) : Option RecordHeading := (bank.headings.find? (·.1 == obligation)).map (·.2)

def titleOf (heading : RecordHeading) : String := heading.instrumentShortName ++ ", " ++ heading.referenceLabel

def entryOn (obligation : Id) : Option TenantObligation := bank.entries.find? (·.obligation == obligation)

/-- `ComplianceStatus.objects.get(is_default=True, active=True)`. -/
def defaultStatus : Option ComplianceStatus :=
  match bank.statuses.filter fun status => status.isDefault && status.active with
  | [status] => some status
  | _ => none

def personRef (person : Id) : Option PersonRef := bank.people.find? (·.id == person)

/-- A row's `{key, kind, label}`. -/
def rowRef (order : List String) (row : ListRow) : VocabRef (Option String) :=
  vocabRef row.key row.kind (labelRows bank.labels row.id) order

def statusRow (id : Id) : Option ComplianceStatus := bank.statuses.find? (·.id == id)

def activeMember (person : Id) : Bool := bank.members.any fun member => member.user == person && member.deactivatedAt == none

def interpretationOut (obligation : Id) : RegisterInterpretation :=
  let entries := (bank.entries.filter (·.obligation == obligation)).map (·.id)
  let rows := (inOrder Interpretation.versionNumber (bank.interpretations.filter fun row => entries.contains row.tenantObligation)).reverse
  let versions : List InterpretationVersion := rows.map fun row =>
    { versionNo := row.versionNumber, text := row.body, author := personRef bank row.author, writtenAt := row.createdAt }
  { obligation, current := versions.head?, earlier := versions.tail }

def linkOut (order : List String) (link : InternalLink) (item : InternalItem) : Option RegisterInternalLink :=
  (bank.linkKinds.find? (·.id == item.kind)).map fun kind => {
    id := link.id
    kind := rowRef bank order kind
    label := link.label
    url := if link.url = "" then none else some link.url
    externalRef := if link.externalRef = "" then none else some link.externalRef
    externalSystem := if item.externalSystem = "" then none else some item.externalSystem
    internalItem := item.id
    createdBy := personRef bank link.createdBy
    createdAt := link.createdAt }

/-- `_entity`. -/
def entityOut (order : List String) (scope : TenantObligationScope) : Option RegisterEntityStatus := do
  let unit ← bank.orgUnits.find? (·.id == scope.orgUnit)
  let status ← statusRow bank scope.complianceStatus
  let orNone (text : String) : Option String := if text = "" then none else some text
  some {
    orgUnit := unit.id
    orgUnitName := unit.name
    applicability := scope.decision.applicability.out
    decision := scope.decision
    complianceStatus := vocabRef status.key status.kind (labelRows bank.labels status.id) order
    riskRating := (scope.details.riskRating.bind fun id => bank.ratings.find? (·.id == id)).map (rowRef bank order)
    statusNote := orNone scope.details.statusNote
    process := orNone scope.details.process
    system := orNone scope.details.system
    evidenceLocation := orNone scope.details.evidenceLocation
    nextReviewDate := scope.details.nextReviewDate
    owner := scope.owner.bind (personRef bank)
    ownerTeam := (scope.ownerTeam.bind fun id => bank.teams.find? (·.id == id)).map (rowRef bank order)
    version := scope.version }

end Reads

section Entry
variable (drawn : Drawn) (tenant : Id) (actor : Actor)

def noObligation : Raised Refusal := invalid "not_found" "That obligation is not here."

/-- `ensure_register_entries`, of one obligation. -/
def ensureRegisterEntries (obligation : Id) (heading : RecordHeading) (status : ComplianceStatus) : Step TenantObligation := do
  let made : TenantObligation := { id := drawn.entry, tenant, obligation, complianceStatus := status.id }
  View.insertMissing (fun bank => (entryOn bank obligation).isSome) fun bank => { bank with entries := bank.entries ++ [made] }
  let entry ← fetch (entryOn · obligation) .unforeseen
  Tx.when (entry.id = made.id) <| audit fun _ => {
    action := "register.entry_created", actor, subjectType := "tenant_obligation", subjectId := some entry.id
    subjectTitle := titleOf heading, summary := "Register entry created.", tenantId := some tenant
    after := [("obligationId", .ref obligation), ("applicability", .text "not_assessed")] }
  pure entry

def ensureRegisterEntry (obligation : Id) : Step TenantObligation := do
  match ← query (entryOn · obligation) with
  | some entry => pure entry
  | none =>
    let heading ← fetch (headingOf · obligation) noObligation
    let status ← fetch defaultStatus .unforeseen
    ensureRegisterEntries drawn tenant actor obligation heading status

def personId : Step Id :=
  match actor.id with
  | some id => pure id
  | none => View.raise (.problem { code := "permission_denied", detail := "A person must do this." })

def saveInterpretation (obligation : Id) (body : InterpretationBody) (expectedVersion : Option Int) : Step RegisterInterpretation := do
  let entry ← ensureRegisterEntry drawn tenant actor obligation
  -- The lock: the row itself is not read again.
  let _ ← query fun bank => bank.entries.find? (·.id == entry.id)
  let current ← query fun bank => (inOrder Interpretation.versionNumber (bank.interpretations.filter fun row =>
    row.tenantObligation == entry.id && row.supersededAt == none)).head?
  let currentNo : Nat := (current.map (·.versionNumber)).getD 0
  View.check (∀ expected ∈ expectedVersion, expected = (currentNo : Int)) <|
    invalid "stale_write" "Somebody wrote a newer reading in between. Reload it first."
  Tx.given current fun row => View.update fun bank => { bank with interpretations := bank.interpretations.map fun other =>
    if other.id = row.id then { other with supersededAt := some drawn.now } else other }
  let author ← personId actor
  let version : Interpretation := {
    id := drawn.interpretation, tenant, tenantObligation := entry.id, versionNumber := currentNo + 1, body := body.text, author
    createdAt := drawn.now }
  View.insert (fun bank => bank.interpretations.any fun row =>
      row.tenantObligation == entry.id && row.versionNumber == version.versionNumber)
    fun bank => { bank with interpretations := bank.interpretations ++ [version] }
  let heading ← query (headingOf · obligation)
  audit fun _ => {
    action := "register.interpretation_saved", actor, subjectType := "interpretation", subjectId := some version.id
    subjectTitle := (heading.map titleOf).getD ""
    summary := "How we read this rule, version " ++ toString version.versionNumber ++ "."
    tenantId := some tenant
    before := [("versionNo", .number currentNo)]
    after := [("obligationId", .ref obligation), ("versionNo", .number version.versionNumber)] }
  query (interpretationOut · obligation)

end Entry

section Links
variable (drawn : Drawn) (tenant : Id) (actor : Actor)

/-- `_already_linked`, raised. -/
def alreadyLinked {α : Type} : Step α := do
  View.setRollback
  View.raise (.problem { code := "already_linked", detail := "That item is already linked to this obligation." })

def pickedItem (itemId : Id) (body : InternalLinkBody) (kind : ListRow) : Step InternalItem := do
  View.check (body.describesItem = false) (invalid "validation_error" "Pick an item or describe a new one, not both.")
  let item ← fetch (fun bank => bank.items.find? fun item => item.id == itemId && item.active)
    (invalid "not_found" "That item is not here.")
  View.check (item.kind = kind.id) (invalid "validation_error" "That item is of another kind.")
  pure item

/-- One of the checks of a new item: the row its body names, where it names one. -/
def checkNamed (named : Option Id) (there : Bank → Id → Bool) (detail : String) : Step Unit :=
  Tx.given named fun id => do
    let found ← query (there · id)
    View.check (found = true) (invalid "validation_error" detail)

def createItem (kind : ListRow) (body : InternalLinkBody) : Step InternalItem := do
  View.check (body.ownerId = none ∨ body.ownerTeamId = none)
    (invalid "validation_error" "An item is owned by a person or a team, not both.")
  checkNamed body.ownerId activeMember "The owner is not a member of your bank."
  checkNamed body.ownerTeamId (fun bank id => bank.teams.any fun team => team.id == id && team.active)
    "That team is not one of your bank's teams."
  checkNamed body.orgUnitId (fun bank id => bank.orgUnits.any (·.id == id)) "That part of the organisation is not here."
  let taken ← query fun bank => bank.items.any fun item => item.kind == kind.id && item.name == body.label
  View.check (taken = false) (invalid "duplicate_key" "An item of that kind and name exists already; pick it instead.")
  let item : InternalItem := {
    id := drawn.item, tenant, kind := kind.id, name := body.label
    reference := body.reference.getD "", url := body.url.getD "", ownerUser := body.ownerId, ownerTeam := body.ownerTeamId
    orgUnit := body.orgUnitId, externalSystem := body.externalSystem.getD "", externalRef := body.externalRef.getD ""
    lastReviewedOn := body.lastReviewedOn, nextReviewOn := body.nextReviewOn }
  View.insert (fun bank => bank.items.any fun other => other.kind == item.kind && other.name == item.name)
    fun bank => { bank with items := bank.items ++ [item] }
  audit fun _ => {
    action := "register.internal_item_created", actor, subjectType := "internal_item", subjectId := some item.id
    subjectTitle := item.name, summary := "Internal item created.", tenantId := some tenant
    after := [("kind", .text kind.key), ("orgUnitId", .ofId body.orgUnitId), ("ownerId", .ofId body.ownerId),
      ("ownerTeamId", .ofId body.ownerTeamId)] }
  pure item

def linked (entry item : Id) (bank : Bank) : Bool :=
  bank.links.any fun link => link.tenantObligation == entry && link.internalItem == item && link.removedAt == none

/-- The item an `add_link` links: the one it picks, unless it is linked already, or a new one. -/
def itemToLink (entry : TenantObligation) (kind : ListRow) (body : InternalLinkBody) : Step InternalItem :=
  match body.internalItemId with
  | none => createItem drawn tenant actor kind body
  | some itemId => do
    let item ← pickedItem itemId body kind
    if ← query (linked entry.id item.id) then alreadyLinked else pure item

/-- `add_link`, with the validator of web addresses. -/
def addLink (webUrl : String → Bool) (order : List String) (obligation : Id) (body : InternalLinkBody) : Step RegisterInternalLink := do
  View.check (∀ url ∈ body.url, webUrl url = true)
    (invalid "validation_error" "A link must be a web address starting with https:// or http://.")
  let kind ← fetch (fun bank => bank.linkKinds.find? fun row => row.key == body.kind && row.active)
    (invalid "unknown_key" "That kind is not on your list of link kinds.")
  let entry ← ensureRegisterEntry drawn tenant actor obligation
  let item ← itemToLink drawn tenant actor entry kind body
  let link ← View.atomicExcept (do
      let createdBy ← personId actor
      let link : InternalLink := {
        id := drawn.link, tenant, tenantObligation := entry.id, internalItem := item.id, label := body.label
        url := body.url.getD item.url, externalRef := body.externalRef.getD item.externalRef, createdBy, createdAt := drawn.now }
      View.insert (linked entry.id item.id) fun bank => { bank with links := bank.links ++ [link] }
      pure link)
    alreadyLinked
  audit fun _ => {
    action := "register.internal_link_added", actor, subjectType := "internal_link", subjectId := some link.id
    subjectTitle := link.label, summary := "Internal item linked.", tenantId := some tenant
    after := [("obligationId", .ref obligation), ("internalItemId", .ref item.id), ("kind", .text kind.key)] }
  fetch (linkOut · order link item) .unforeseen

end Links

/-- What `_resolve` makes of a patch: the fields sent, with the rows and people they name. -/
structure Changes where
  statusNote : Option String := none
  process : Option String := none
  system : Option String := none
  evidenceLocation : Option String := none
  nextReviewDate : Option Day := none
  complianceStatus : Option ComplianceStatus := none
  riskRating : Option ListRow := none
  ownerTeam : Option (Option Id) := none
  ownerId : Option (Option Id) := none

section Resolve

/-- One list field of `_resolve`: the active row of a key. -/
def resolveKey {Row : Type} (rows : Bank → List Row) (key : Row → String) (wanted : Option String) : Step (Option Row) :=
  match wanted with
  | none => pure none
  | some wanted => do
    let active ← query rows
    match active.find? (key · == wanted) with
    | some row => pure (some row)
    | none =>
      let valid := inOrder id (active.map key)
      View.raise <| invalid "unknown_key"
        (quoted wanted ++ " is not one of this bank's values. Valid keys: " ++ ", ".intercalate valid ++ ".") [("validKeys", .texts valid)]

/-- `_resolve`, of an entity's patch. -/
def resolve (body : EntityPatch) : Step Changes := do
  let complianceStatus ← resolveKey (fun bank => bank.statuses.filter (·.active)) (·.key) body.complianceStatus
  let riskRating ← resolveKey (fun bank => bank.ratings.filter (·.active)) (·.key) body.riskRating
  let ownerTeam ← resolveKey (fun bank => bank.teams.filter (·.active)) (·.key) body.ownerTeam
  Tx.given body.ownerId fun person => do
    let member ← query (activeMember · person)
    View.check (member = true) (invalid "unknown_member" "That person is not an active member of this bank.")
  pure {
    statusNote := body.statusNote, process := body.process, system := body.system, evidenceLocation := body.evidenceLocation
    nextReviewDate := body.nextReviewDate, complianceStatus, riskRating, ownerTeam := ownerTeam.map fun team => some team.id
    ownerId := body.ownerId.map some }

def Changes.oneOwner (changes : Changes) : Changes :=
  if changes.ownerId.isSome then { changes with ownerTeam := some none }
  else if changes.ownerTeam.isSome then { changes with ownerId := some none }
  else changes

def refuseStatusUnlessApplies (changes : Changes) (applicability : Applicability) : Step Unit :=
  View.check (∀ status ∈ changes.complianceStatus, status.kind = .notAssessed ∨ applicability = .applies)
    (invalid "invalid_transition" "Set the obligation to Applies before recording how you comply.")

/-- `_apply`: the row with the fields set. -/
def Changes.apply (changes : Changes) (scope : TenantObligationScope) : TenantObligationScope :=
  { scope with
    complianceStatus := (changes.complianceStatus.map (·.id)).getD scope.complianceStatus
    details := {
      riskRating := (changes.riskRating.map (·.id)).or scope.details.riskRating
      statusNote := changes.statusNote.getD scope.details.statusNote
      process := changes.process.getD scope.details.process
      system := changes.system.getD scope.details.system
      evidenceLocation := changes.evidenceLocation.getD scope.details.evidenceLocation
      nextReviewDate := changes.nextReviewDate.or scope.details.nextReviewDate }
    owner := changes.ownerId.getD scope.owner
    ownerTeam := changes.ownerTeam.getD scope.ownerTeam }

/-- `_apply`: the names of the fields whose value moved, in order. -/
def moved (before after : TenantObligationScope) : List String :=
  [("complianceStatus", decide (before.complianceStatus ≠ after.complianceStatus)),
    ("evidenceLocation", decide (before.details.evidenceLocation ≠ after.details.evidenceLocation)),
    ("nextReviewDate", decide (before.details.nextReviewDate ≠ after.details.nextReviewDate)),
    ("ownerId", decide (before.owner ≠ after.owner)),
    ("ownerTeam", decide (before.ownerTeam ≠ after.ownerTeam)),
    ("process", decide (before.details.process ≠ after.details.process)),
    ("riskRating", decide (before.details.riskRating ≠ after.details.riskRating)),
    ("statusNote", decide (before.details.statusNote ≠ after.details.statusNote)),
    ("system", decide (before.details.system ≠ after.details.system))].filterMap fun field => if field.2 then some field.1 else none

end Resolve

section Status
variable (drawn : Drawn) (tenant : Id) (actor : Actor)

/-- `_snapshot`, of an entity's row. -/
def snapshot (bank : Bank) (scope : TenantObligationScope) : List (String × AuditValue) :=
  [("complianceStatus", .ofText ((statusRow bank scope.complianceStatus).map (·.key))),
    ("riskRating", .ofText (scope.details.riskRating.bind fun id => (bank.ratings.find? (·.id == id)).map (·.key))),
    ("ownerTeam", .ofText (scope.ownerTeam.bind fun id => (bank.teams.find? (·.id == id)).map (·.key))),
    ("nextReviewDate", .ofText (scope.details.nextReviewDate.map isoformat)),
    ("version", .number scope.version),
    ("ownerId", .ofId scope.owner)]

def assessor : Step Id :=
  match actor.id with
  | some id => pure id
  | none => View.raise .unforeseen

/-- `_assess`, of an entity's row. -/
def assess (entry : TenantObligation) (scope : TenantObligationScope) (changed : List String) (rationale : Option String) : Step Unit :=
  Tx.when ("complianceStatus" ∈ changed) do
    let assessedBy ← assessor actor
    let assessment : ComplianceAssessment := {
      id := drawn.assessment, tenant := entry.tenant, tenantObligation := entry.id, scope := some scope.id
      status := scope.complianceStatus, riskRating := scope.details.riskRating, rationale := rationale.getD ""
      nextReviewDate := scope.details.nextReviewDate, assessedBy }
    View.update fun bank => { bank with assessments := bank.assessments ++ [assessment] }

/-- `scope.save()`: the first write of a row inserts it. -/
def saveScope (first : Bool) (scope : TenantObligationScope) : Step Unit :=
  if first then
    View.insert (fun bank => bank.scopes.any fun other =>
        other.tenantObligation == scope.tenantObligation && other.orgUnit == scope.orgUnit && other.product == scope.product)
      fun bank => { bank with scopes := bank.scopes ++ [scope] }
  else View.update fun bank => { bank with scopes := bank.scopes.map fun other => if other.id = scope.id then scope else other }

def staleWrite : Raised Refusal := invalid "stale_write" "Someone changed this first. Reload and try again."

def required (expectedVersion : Option Int) : Step Int :=
  match expectedVersion with
  | some expected => pure expected
  | none => View.raise (invalid "validation_error" "Send If-Match with the version you last read.")

/-- The entity's row under an entry, if there is an entry. -/
def lockedScope (locked : Option TenantObligation) (entity : OrgUnit) : Step (Option TenantObligationScope) :=
  match locked with
  | none => pure none
  | some entry => query fun bank => bank.scopes.find? fun scope =>
    scope.tenantObligation == entry.id && scope.orgUnit == entity.id && scope.product == none

def entryOrFirst (locked : Option TenantObligation) (obligation : Id) : Step TenantObligation :=
  match locked with
  | some entry => pure entry
  | none => ensureRegisterEntry drawn tenant actor obligation

/-- The row that was read, or the one the first write saves. -/
def scopeOrFirst (found : Option TenantObligationScope) (entry : TenantObligation) (entity : OrgUnit) : Step TenantObligationScope :=
  match found with
  | some scope => pure scope
  | none => do
    let status ← fetch defaultStatus .unforeseen
    pure { id := drawn.scope, tenant, tenantObligation := entry.id, orgUnit := entity.id, complianceStatus := status.id, version := 0 }

def updateEntityStatus (order : List String) (obligation orgUnit : Id) (body : EntityPatch) (expectedVersion : Option Int) :
    Step RegisterEntityStatus := do
  let entity ← fetch (fun bank => bank.orgUnits.find? fun unit => unit.id == orgUnit && unit.isLegalEntity && unit.active)
    (invalid "not_found" "That legal entity is not here.")
  let heading ← fetch (headingOf · obligation) noObligation
  let expected ← required expectedVersion
  let locked ← query (entryOn · obligation)
  let found ← lockedScope locked entity
  View.check (expected = (((found.map (·.version)).getD 0 : Nat) : Int)) staleWrite
  let changes ← resolve body
  refuseStatusUnlessApplies changes ((found.map (·.decision.applicability)).getD .notAssessed)
  let entry ← entryOrFirst drawn tenant actor locked obligation
  let scope ← scopeOrFirst drawn tenant found entry entity
  let before ← query fun bank => if scope.version = 0 then [] else snapshot bank scope
  let applied := changes.oneOwner.apply scope
  let changed := moved scope applied
  let saved := { applied with version := scope.version + 1 }
  View.atomicExcept (saveScope found.isNone saved) (View.raise staleWrite)
  assess drawn actor entry saved changed body.rationale
  audit fun bank => {
    action := "register.entity_status_updated", actor, subjectType := "tenant_obligation_scope", subjectId := some saved.id
    subjectTitle := titleOf heading ++ ", " ++ entity.name
    summary := "Compliance status and details updated for one legal entity.", tenantId := some tenant
    before
    after := snapshot bank saved ++ [("orgUnitId", .ref entity.id), ("changed", .texts changed)] }
  fetch (entityOut · order saved) .unforeseen

end Status

end Grc.Register.Desk
