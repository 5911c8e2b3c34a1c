import Grc.Proposals.Kinds
import Grc.Watch.Models

/-! A change's library facts and their confirmation: what a call files is a suggestion, and somebody else confirms it. -/
namespace Grc.Watch

open Grc.Shared Grc.Lib Grc.Library
open Grc.Proposals (strip)

variable (now : Now)

def given {α : Type} (sent : Option α) (checked : α → Except Refusal Unit) : Except Refusal Unit :=
  match sent with
  | none => .ok ()
  | some value => checked value

/-- An audit row about a change. -/
def changeEvent (action : String) (actor : Actor) (change : RegulatoryChange) (summary : String)
    (before after : List (String × AuditValue)) (stepUp : Option Id) : AuditEvent where
  action := action
  actor := actor
  subjectType := "regulatory_change"
  subjectId := some change.id
  subjectTitle := change.title
  summary := actor.label ++ summary
  tenantId := none
  before := before
  after := after
  stepUpAssertionId := stepUp

def audited (event : AuditEvent) : Writing Unit := Tx.write fun tables => { tables with audit := record tables.audit event }

def logGeneration (generation : AiGeneration) : Writing Unit := do
  Tx.check fun _ => require (strip generation.model ≠ "" ∧ strip generation.modelVersion ≠ "")
    (validationError "A model call is logged with the model and the model version behind it.")
  Tx.write fun tables => { tables with generations := tables.generations ++
    [{ generation with output := String.ofList (generation.output.toList.take now.maxOutput) }] }

def updateChange (id : Id) (change : RegulatoryChange → RegulatoryChange) (named : ∀ row, (change row).id = row.id) :
    Writing PUnit :=
  Tx.write fun tables => { tables with changes := tables.changes.update (·.id == id) change named }

def writeTerms (change : Keyed ChangeTerm.id → Keyed ChangeTerm.id) : Writing PUnit :=
  Tx.write fun tables => { tables with terms := change tables.terms }

def writeLinks (change : Keyed ChangeObligation.id → Keyed ChangeObligation.id) : Writing PUnit :=
  Tx.write fun tables => { tables with obligations := change tables.obligations }

/-- `so_what_draft.store`. -/
def storeSoWhat (actor : Actor) (change : RegulatoryChange) (report : SoWhatInput) (run : Option Id) : Writing Unit := do
  updateChange change.id (fun held => { held with soWhatDraft := report.text }) fun _ => rfl
  logGeneration now {
    purpose := .soWhat, model := report.model, modelVersion := report.modelVersion, output := report.text
    agentRunId := run, subjectId := change.id }
  audited (changeEvent "regulatory_change.so_what_drafted" actor change " filed a drafted “So what?” for a change." []
    [("model", .text report.model), ("modelVersion", .text report.modelVersion),
      ("modelMetadataReportedByAgent", .flag true), ("citations", .texts report.citations)] none)

/-- `_suggester`: who what this call files is suggested by. -/
def suggesterOf (who : Principal) : Suggester :=
  let bound := who.kind = .agent ∧ who.agentId ≠ none
  { person := if who.kind = .user then some who.subjectId else none
    agent := if bound then who.agentId else none
    apiKey := if bound then some who.subjectId else none }

/-- `_may_overturn`: only a person with a fresh passkey deletes a confirmed row. -/
def mayOverturn (who : Principal) (stepUp : Option Id) : Bool := who.kind == .user && stepUp.isSome

def capitalize (text : String) : String :=
  match text.toList with
  | [] => ""
  | first :: rest => String.ofList (first.toUpper :: rest.map Char.toLower)

/-- `_refuse_confirmed`: an agent's key never unmakes a confirmation, and a person does with a fresh passkey. -/
def refuseConfirmed (who : Principal) (what : String) (stepUp : Option Id) : Except Refusal Unit := do
  require (who.kind ≠ .agent) {
    code := "confirmed_fact"
    detail := capitalize what ++ " on this change has been confirmed, so it is not an agent's to remove. File what you found as a new suggestion instead." }
  require (stepUp ≠ none) {
    code := "step_up_required"
    detail := capitalize what ++ " on this change has been confirmed. Confirm with your passkey to change it." }

def refuseEditorOnly (body : ChangePatch) : Except Refusal Unit :=
  let named := (if body.status.isSome then ["status"] else []) ++ if body.supersededBy.isSome then ["supersededBy"] else []
  require (named = []) {
    code := "editor_only_field"
    detail := joined named ++ " is a library editor's to set, not an agent's. Register the replacing change and leave the supersession to review." }

def superseding (tables : Tables) (change named : Id) : Except Refusal Id := do
  require (named ≠ change) (validationError "A change cannot supersede itself.")
  changeNamed tables named

def storedTerms (tables : Tables) (change : Id) (column : TermColumn) : List ChangeTerm :=
  tables.terms.rows.filter fun link => link.change == change && link.column == column

def confirmedTermIds (tables : Tables) (change : Id) (column : TermColumn) : List Id :=
  ((storedTerms tables change column).filter (!·.suggested)).map (·.value)

def refuseDroppingConfirmed (who : Principal) (tables : Tables) (change : Id) (column : TermColumn) (wanted : List Id)
    (what : String) (stepUp : Option Id) : Except Refusal Unit :=
  if ∃ value ∈ confirmedTermIds tables change column, value ∉ wanted then refuseConfirmed who what stepUp else .ok ()

def factsOf (tables : Tables) (change : RegulatoryChange) : List (String × AuditValue) :=
  let keys (column : TermColumn) (key : Id → String) := sorted ((storedTerms tables change.id column).map fun link => key link.value)
  [("title", .text change.title), ("changeType", .text (keyOf now.records change.changeType)),
    ("status", .text (match change.status with
      | .active => "active"
      | .superseded => "superseded"
      | .withdrawn => "withdrawn")),
    ("keyDate", AuditValue.ofText (change.keyDate.map isoformat)), ("flags", .texts (keys .flag (keyOf now.records))),
    ("terms", .texts (keys .term fun id => ((now.records.terms.find? (·.id == id)).map (·.key)).getD ""))]

/-- `_screen_corrected_text`: what the screen finds goes onto every page of the change. -/
def screenCorrectedText (body : ChangePatch) : List String :=
  sorted ((body.title.elim [] now.screen ++ body.summary.elim [] now.screen).dedup)

def flagDocuments (change : Id) (found : List String) : Writing PUnit :=
  let flagged (document : ChangeDocument) := { document with riskFlags := sorted (document.riskFlags ++ found).dedup }
  Tx.write fun tables => { tables with documents := tables.documents.update (·.change == change) flagged fun _ => rfl }

/-- `_apply_columns`: a new type is a new suggestion, and the confirmation of the type it replaces goes with it. -/
def applyColumns (body : ChangePatch) (changeType supersededBy : Option Id) (suggester : Suggester)
    (change : RegulatoryChange) : RegulatoryChange :=
  let plain := { change with
    title := body.title.getD change.title
    summary := body.summary.getD change.summary
    keyDate := body.keyDate <|> change.keyDate
    keyDatePrecision := body.keyDatePrecision.getD change.keyDatePrecision
    keyDateLabel := body.keyDateLabel.getD change.keyDateLabel
    status := body.status.getD change.status
    supersededBy := supersededBy <|> change.supersededBy }
  match changeType.filter (· != change.changeType) with
  | none => plain
  | some named => { plain with
      changeType := named, changeTypeSuggested := true, changeTypeConfidence := none
      changeTypeSuggester := suggester, changeTypeConfirmer := {} }

theorem applyColumns_id (body : ChangePatch) (changeType supersededBy : Option Id) (suggester : Suggester)
    (change : RegulatoryChange) : (applyColumns body changeType supersededBy suggester change).id = change.id := by
  unfold applyColumns
  split
  · rfl
  · rfl

/-- `term_links.create(…)`, under the table's unique constraints. -/
def createTerm (change : Id) (column : TermColumn) (suggester : Suggester) (value : Id) : Writing Unit := do
  Tx.check fun tables => require (∀ link ∈ storedTerms tables change column, link.value ≠ value) internalError
  writeTerms (·.create (fun id => { id, change, column, value, suggester }) fun _ => rfl)

/-- `_replace_term_links`: one kind of link replaced by the set the caller sent. -/
def replaceTermLinks (change : Id) (column : TermColumn) (wanted : List Id) (suggester : Suggester) (overturn : Bool) :
    Writing Unit := do
  let stored (link : ChangeTerm) : Bool := link.change == change && link.column == column
  writeTerms (·.delete fun link => stored link && link.suggested)
  Tx.when (overturn = true) (writeTerms (·.delete fun link => stored link && !wanted.contains link.value))
  let confirmed ← Tx.check fun tables => .ok ((storedTerms tables change column).map (·.value))
  Tx.each wanted fun value => Tx.when (value ∉ confirmed) (createTerm change column suggester value)

def updateChangeFacts (who : Principal) (actor : Actor) (id : Id) (body : ChangePatch) (stepUp : Option Id) : Writing Unit := do
  let suggester := suggesterOf who
  let overturn := mayOverturn who stepUp
  let change ← Tx.check fun tables => changeFor tables id
  Tx.check fun _ => if who.kind = .agent then refuseEditorOnly body else .ok ()
  let changeType ← Tx.check fun _ => optionally
    (fun key => (resolveKeys now.records changeTypeList [key]).map (·.map (·.id))) body.changeType
  let changeType := changeType.bind List.head?
  let flags ← Tx.check fun _ => optionally
    (fun keys => (resolveKeys now.records flagList keys).map (·.map (·.id))) body.flags
  let terms ← Tx.check fun _ => optionally (resolveTerms now.records) body.termIds
  Tx.check fun _ => given terms fun terms => do
    requireRegime now.records terms
    requireStandardsBody now.records now.standardsBodies terms change.authority
  let terms := terms.map fun terms => terms.map fun term => term.id
  let supersededBy ← Tx.check fun tables => optionally (superseding tables change.id) body.supersededBy
  Tx.check fun _ => if (∃ named ∈ changeType, named ≠ change.changeType) ∧ change.changeTypeSuggested = false
    then refuseConfirmed who "the type" stepUp else .ok ()
  Tx.check fun tables => given flags fun flags =>
    refuseDroppingConfirmed who tables change.id .flag flags "a flag" stepUp
  Tx.check fun tables => given terms fun terms =>
    refuseDroppingConfirmed who tables change.id .term terms "a scope term" stepUp
  let before ← Tx.check fun tables => .ok (factsOf now tables change)
  let riskFlags := screenCorrectedText now body
  Tx.when (riskFlags ≠ []) (flagDocuments change.id riskFlags)
  updateChange change.id (applyColumns body changeType supersededBy suggester)
    (applyColumns_id body changeType supersededBy suggester)
  Tx.given flags fun flags => replaceTermLinks change.id .flag flags suggester overturn
  Tx.given terms fun terms => replaceTermLinks change.id .term terms suggester overturn
  let changed := applyColumns body changeType supersededBy suggester change
  Tx.given body.soWhat fun report => storeSoWhat now actor changed report none
  let after ← Tx.check fun tables => .ok (factsOf now tables changed)
  audited (changeEvent "regulatory_change.facts_updated" actor changed " corrected the facts of a registered change." before
    (after ++ if riskFlags = [] then [] else [("riskFlags", .texts riskFlags)]) stepUp)

def oneLinkPerObligation : List ObligationLinkInput → Except Refusal Unit
  | [] => .ok ()
  | link :: rest => do
    require (∀ other ∈ rest, other.obligationId ≠ link.obligationId)
      (validationError ("The obligation " ++ toString link.obligationId ++ " is named twice in one set of links."))
    oneLinkPerObligation rest

def storedLinks (tables : Tables) (change : Id) : List ChangeObligation :=
  tables.obligations.rows.filter (·.change == change)

def confirmedObligations (tables : Tables) (change : Id) : List Id :=
  ((storedLinks tables change).filter (·.confirmer.at_.isSome)).map (·.obligation)

/-- `obligation_links.create(…)`, under the table's unique constraint. -/
def createLink (change : Id) (origin : OriginType) (suggester : Suggester) (link : ObligationLinkInput) : Writing Unit := do
  Tx.check fun tables => require (∀ held ∈ storedLinks tables change, held.obligation ≠ link.obligationId) internalError
  writeLinks (·.create (fun id =>
    { id, change, obligation := link.obligationId, origin, confidence := link.confidence, suggester }) fun _ => rfl)

def originOf (who : Principal) : OriginType := if who.kind = .agent then .agent else .user

def idTexts (ids : List Id) : AuditValue := .texts (sorted (ids.map toString))

/-- `set_obligation_links`: the whole set of obligations a change affects. -/
def setObligationLinks (who : Principal) (actor : Actor) (id : Id) (body : List ObligationLinkInput) (stepUp : Option Id) :
    Writing Unit := do
  let change ← Tx.check fun tables => changeFor tables id
  Tx.check fun _ => oneLinkPerObligation body
  let wanted := body.map (·.obligationId)
  Tx.check fun _ => obligationsFor now.records wanted
  let confirmed ← Tx.check fun tables => .ok (confirmedObligations tables change.id)
  Tx.check fun _ => if ∃ obligation ∈ confirmed, obligation ∉ wanted
    then refuseConfirmed who "an obligation link" stepUp else .ok ()
  let before ← Tx.check fun tables => .ok ((storedLinks tables change.id).map (·.obligation))
  writeLinks (·.delete fun link => link.change == change.id && link.confirmer.at_.isNone)
  Tx.when (mayOverturn who stepUp = true)
    (writeLinks (·.delete fun link => link.change == change.id && !wanted.contains link.obligation))
  Tx.each body fun link => Tx.when (link.obligationId ∉ confirmed) (createLink change.id (originOf who) (suggesterOf who) link)
  audited (changeEvent "regulatory_change.obligations_replaced" actor change " set the obligations a registered change affects."
    [("obligations", idTexts before)] [("obligations", idTexts wanted)] stepUp)

/-- The facts a confirmation names: whether the type, which term links and which obligation links. -/
structure NamedFacts where
  typeNamed : Bool
  terms : List ChangeTerm
  obligations : List ChangeObligation

/-- `_named_facts`: each must be on the change as it stands. -/
def namedFacts (tables : Tables) (change : RegulatoryChange) (body : CurationConfirmInput) : Except Refusal NamedFacts := do
  let flags := (storedTerms tables change.id .flag).filter fun link => body.flags.contains (keyOf now.records link.value)
  let terms := (storedTerms tables change.id .term).filter fun link => body.termIds.contains link.value
  let obligations := (storedLinks tables change.id).filter fun link => body.obligationIds.contains link.obligation
  let missing :=
    (match body.changeType with
      | none => []
      | some key => if key ≠ keyOf now.records change.changeType then ["the type " ++ key] else []) ++
    ((body.flags.filter fun key => !flags.any fun link => keyOf now.records link.value == key).map ("the flag " ++ ·)) ++
    ((body.termIds.filter fun id => !terms.any (·.value == id)).map fun id => "the term " ++ toString id) ++
    (body.obligationIds.filter fun id => !obligations.any (·.obligation == id)).map fun id => "the obligation " ++ toString id
  require (missing = []) (validationError ("This change does not carry " ++ joined missing ++
    ". Confirm only what the change carries now; read it again, and a type, a link or a term is corrected through the curation routes first."))
  require (body.changeType ≠ none ∨ flags ++ terms ≠ [] ∨ obligations ≠ [])
    (validationError "Name at least one fact to confirm: the type, a flag, a scope term or a linked obligation.")
  .ok { typeNamed := body.changeType.isSome, terms := flags ++ terms, obligations }

/-- `_refuse_own_suggestion`: nobody confirms what they, or another key of their agent, suggested. -/
def refuseOwnSuggestion (who : Principal) : List Suggester → Except Refusal Unit
  | [] => .ok ()
  | suggester :: rest => do
    require (some who.subjectId ≠ suggester.person ∧ some who.subjectId ≠ suggester.apiKey) {
      code := "own_suggestion"
      detail := if who.kind = .user then
          "You filed that fact yourself. A confirmation comes from somebody else: an agent of another definition, or another person."
        else "This key suggested that fact itself. A confirmation comes from an agent of another definition and key." }
    require (suggester.agent = none ∨ suggester.agent ≠ who.agentId) {
      code := "same_agent"
      detail := "Another key of the same agent suggested that fact. A confirmation comes from an agent of another definition." }
    refuseOwnSuggestion who rest

/-- `_names`: the named facts nobody has confirmed yet. -/
def unconfirmedNames (change : RegulatoryChange) (named : NamedFacts) : List String :=
  (if named.typeNamed && change.changeTypeSuggested then ["changeType:" ++ keyOf now.records change.changeType] else []) ++
  ((named.terms.filter (·.suggested)).map fun link => match link.column with
    | .flag => "flag:" ++ keyOf now.records link.value
    | .term => "term:" ++ toString link.value) ++
  (named.obligations.filter (·.confirmer.at_.isNone)).map fun link => "obligation:" ++ toString link.obligation

/-- `_decision_run`: the open run an agent's decision was made in, or none for a person. -/
def decisionRun (who : Principal) (body : CurationConfirmInput) : Except Refusal (Option AgentRun) :=
  if who.kind = .agent then do
    require (body.decision ≠ none) (validationError "An agent confirms with the model call behind its decision: send decision with the model, its version, what it concluded and the pages it rests on.")
    (requireOpenRun now.runs who body.agentRunId).map some
  else do
    require (body.decision = none ∧ body.agentRunId = none) (validationError "A person's confirmation carries no model decision and no agent run. Leave out decision and agentRunId.")
    .ok none

def decidedIn (tables : Tables) (run : AgentRun) (change : Id) : Bool :=
  tables.generations.any fun row => row.agentRunId == some run.id && row.purpose == .agentReview && row.subjectId == change

/-- Who confirms, as the columns of a fact name them. -/
def confirmerOf (who : Principal) (at_ : Instant) : Confirmer where
  person := if who.kind = .user then some who.subjectId else none
  apiKey := if who.kind = .agent then some who.subjectId else none
  agent := if who.kind = .agent then who.agentId else none
  at_ := some at_

section
variable (confirmer : Confirmer)

def confirmType (change : RegulatoryChange) : RegulatoryChange :=
  { change with changeTypeSuggested := false, changeTypeConfirmer := confirmer }

def confirmTerm (link : ChangeTerm) : ChangeTerm := { link with suggested := false, confirmer }
def confirmLink (link : ChangeObligation) : ChangeObligation := { link with confirmer }
theorem confirmType_id (change : RegulatoryChange) : (confirmType confirmer change).id = change.id := rfl
theorem confirmTerm_id (link : ChangeTerm) : (confirmTerm confirmer link).id = link.id := rfl
theorem confirmLink_id (link : ChangeObligation) : (confirmLink confirmer link).id = link.id := rfl

end

/-- The writes of a confirmation: the named facts nobody has confirmed yet. -/
def writeConfirmation (change : RegulatoryChange) (named : NamedFacts) (confirmer : Confirmer) : Writing PUnit := do
  Tx.when ((named.typeNamed && change.changeTypeSuggested) = true) (updateChange change.id (confirmType confirmer) (confirmType_id confirmer))
  writeTerms (·.update (fun link => link.change == change.id && (named.terms.map (·.id)).contains link.id && link.suggested)
    (confirmTerm confirmer) (confirmTerm_id confirmer))
  writeLinks (·.update (fun link =>
    link.change == change.id && (named.obligations.map (·.id)).contains link.id && link.confirmer.at_.isNone)
    (confirmLink confirmer) (confirmLink_id confirmer))

def confirmCuration (who : Principal) (actor : Actor) (id : Id) (body : CurationConfirmInput) (stepUp : Option Id) :
    Writing Unit := do
  let change ← Tx.check fun tables => changeFor tables id
  let run ← Tx.check fun _ => decisionRun now who body
  Tx.check fun tables => require (run = none ∨ ∀ document ∈ tables.documents.rows, document.change = change.id → document.riskFlags = []) {
    code := "risk_flagged"
    detail := "A page of this change carries a flag from the injection screen, so an agent cannot confirm its facts: a person reads the flag and decides." }
  let named ← Tx.check fun tables => namedFacts now tables change body
  Tx.check fun _ => refuseOwnSuggestion who (named.terms.map (·.suggester) ++ named.obligations.map (·.suggester) ++
    if named.typeNamed then [change.changeTypeSuggester] else [])
  let confirmed := unconfirmedNames now change named
  let decided ← Tx.check fun tables => .ok (run.all (decidedIn tables · change.id))
  -- nothing left to confirm and no new decision to log is a retry
  Tx.when (¬(confirmed = [] ∧ decided = true)) do
    writeConfirmation change named (confirmerOf who now.at_)
    Tx.given run fun run => Tx.given body.decision fun decision => logGeneration now {
      purpose := .agentReview, model := decision.model, modelVersion := decision.modelVersion, output := decision.output
      agentRunId := some run.id, subjectId := change.id }
    audited (changeEvent "regulatory_change.curation_confirmed" actor change
      " confirmed facts of a registered change for the shared library." [("suggested", .texts confirmed)]
      ([("confirmed", .texts confirmed),
        ("confirmedOrigin", .text (if who.kind = .agent ∧ who.agentId ≠ none then OriginType.agent.value else OriginType.user.value))] ++
        run.elim [] fun run => [("agentRunId", .ref run.id)]) stepUp)

end Grc.Watch
