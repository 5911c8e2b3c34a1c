import Grc.Lib.Runs
import Grc.Taxonomy.Footprint

/-! The writes that change a bank's regulatory scope. Each switch leaves a history row and an
audit event when it turned something, and nothing at all when it did not. -/
namespace Grc.Taxonomy

open Grc.Shared Grc.Lib

/-- What a switch is recorded under: who made it, the request it came with and the step-up
that authorised it. -/
structure SwitchContext where
  actor : Actor
  request : Option Id := none
  changedBy : Option Id := none
  stepUpAssertionId : Option Id := none
  now : Instant

def historyRow (context : SwitchContext) (subject : HistorySubject) (action : FootprintAction) :
    FootprintHistory where
  subject := subject
  action := action
  request := context.request
  changedBy := context.changedBy
  changedAt := context.now
  stepUpAssertionId := context.stepUpAssertionId

def termRef (term : TaxonomyTerm) : String := term.dimension.key ++ ":" ++ term.key

def requestPart (request : Option Id) : List (String × (Id ⊕ String)) :=
  request.toList.map fun id => ("request", .inl id)

def termState (term : TaxonomyTerm) (request : Option Id) : List (String × (Id ⊕ String)) :=
  [("dimension", .inr term.dimension.key), ("term", .inr term.key)] ++ requestPart request

def termEvent (context : SwitchContext) (tenantId rowId : Id) (term : TaxonomyTerm)
    (action : FootprintAction) : AuditEvent where
  action := "footprint.term_" ++ action.value
  actor := context.actor
  subjectType := "footprint"
  subjectId := some rowId
  subjectTitle := termRef term
  summary := match action with
    | .added => "Added " ++ termRef term ++ " to the regulatory scope."
    | .removed => "Removed " ++ termRef term ++ " from the regulatory scope."
  tenantId := some tenantId
  before := if action = .removed then recordValues (termState term context.request) else []
  after := if action = .added then recordValues (termState term context.request) else []
  stepUpAssertionId := context.stepUpAssertionId

/-- One turn of `_switch_on`: `get_or_create`, then the history row and the event of a term
that was not there. -/
def switchOnTerm (context : SwitchContext) (state : FootprintState) (term : TaxonomyTerm) :
    FootprintState :=
  if there : term.id ∈ state.followed then state
  else
    { state with
      footprintTerms := state.footprintTerms ++
        [{ id := state.nextId, term := term.id, addedBy := context.changedBy, addedAt := context.now }]
      nextId := state.nextId + 1
      history := state.history ++ [historyRow context (.term term.id) .added]
      audit := record state.audit (termEvent context state.tenantId state.nextId term .added)
      termsOnce := by
        rw [List.map_append]
        exact List.concat_eq_append ▸ state.termsOnce.concat there }

def switchOn (context : SwitchContext) (terms : List TaxonomyTerm) (state : FootprintState) :
    FootprintState :=
  terms.foldl (switchOnTerm context) state

/-- One turn of `_switch_off`: the term's row goes, if there is one. -/
def switchOffTerm (context : SwitchContext) (state : FootprintState) (term : TaxonomyTerm) :
    FootprintState :=
  match state.footprintTerms.find? (·.term == term.id) with
  | none => state
  | some row =>
    { state with
      footprintTerms := state.footprintTerms.filter fun other => other.term != term.id
      history := state.history ++ [historyRow context (.term term.id) .removed]
      audit := record state.audit (termEvent context state.tenantId row.id term .removed)
      termsOnce := state.termsOnce.sublist (List.filter_sublist.map _) }

def switchOff (context : SwitchContext) (terms : List TaxonomyTerm) (state : FootprintState) :
    FootprintState :=
  terms.foldl (switchOffTerm context) state

def entityState (line : EntityLine) (request : Option Id) : List (String × (Id ⊕ String)) :=
  [("orgUnitId", .inl line.1.id), ("dimension", .inr line.2.dimension.key),
    ("term", .inr line.2.key)] ++ requestPart request

def entityEvent (context : SwitchContext) (tenantId : Id) (line : EntityLine)
    (action : FootprintAction) : AuditEvent where
  action := match action with
    | .removed => "footprint.entity_term_excluded"
    | .added => "footprint.entity_term_included"
  actor := context.actor
  subjectType := "org_unit"
  subjectId := some line.1.id
  subjectTitle := line.1.name
  summary := match action with
    | .removed => "Took " ++ termRef line.2 ++ " out of " ++ line.1.name ++ "'s own scope."
    | .added => "Put " ++ termRef line.2 ++ " back into " ++ line.1.name ++ "'s own scope."
  tenantId := some tenantId
  before := if action = .removed then recordValues (entityState line context.request) else []
  after := if action = .added then recordValues (entityState line context.request) else []
  stepUpAssertionId := context.stepUpAssertionId

/-- One turn of `_switch_entities`: an exclusion row written (`removed`) or deleted (`added`),
with its history row naming the company. -/
def switchEntity (context : SwitchContext) (action : FootprintAction) (state : FootprintState)
    (line : EntityLine) : FootprintState :=
  let history := state.history ++ [historyRow context (.entityTerm line.1.id line.2.id) action]
  let audit := record state.audit (entityEvent context state.tenantId line action)
  match action with
  | .removed =>
    if there : line.ids ∈ state.excluded then state
    else
      { state with
        exclusions := state.exclusions ++
          [{ orgUnit := line.1.id, term := line.2.id, request := context.request,
             addedBy := context.changedBy, addedAt := context.now }]
        history
        audit
        exclusionsOnce := by
          rw [List.map_append]
          exact List.concat_eq_append ▸ state.exclusionsOnce.concat there }
  | .added =>
    if line.ids ∈ state.excluded then
      { state with
        exclusions := state.exclusions.filter fun row => row.line != line.ids
        history
        audit
        exclusionsOnce := state.exclusionsOnce.sublist (List.filter_sublist.map _) }
    else state

def switchEntities (context : SwitchContext) (action : FootprintAction) (lines : List EntityLine)
    (state : FootprintState) : FootprintState :=
  lines.foldl (switchEntity context action) state

/-- `_item_state`: ids and keys only. -/
def itemState (reads : FootprintReads) (item : ScopeItem) (request : Option Id) :
    List (String × (Id ⊕ String)) :=
  [("scopeItemId", .inl item.id), ("key", .inr item.key),
    ("jurisdiction", .inr (((reads.jurisdictions.find? (·.id == item.jurisdiction)).map (·.key)).getD "")),
    ("regimeTerm", .inr (((reads.table.terms.find? (·.id == item.regimeTerm)).map (·.key)).getD ""))] ++
    requestPart request

def itemEvent (context : SwitchContext) (reads : FootprintReads) (tenantId : Id) (item : ScopeItem)
    (action : FootprintAction) : AuditEvent where
  action := "scope_item." ++ action.value
  actor := context.actor
  subjectType := "scope_item"
  subjectId := some item.id
  subjectTitle := item.key
  summary := match action with
    | .added => "Added scope item " ++ item.key ++ " to the regulatory scope."
    | .removed => "Removed scope item " ++ item.key ++ " from the regulatory scope."
  tenantId := some tenantId
  before := if action = .removed then recordValues (itemState reads item context.request) else []
  after := if action = .added then recordValues (itemState reads item context.request) else []
  stepUpAssertionId := context.stepUpAssertionId
  payload := recordValues (itemState reads item context.request ++ [("tenantId", .inl tenantId)])

def FootprintAction.itemStatus : FootprintAction → ScopeItemStatus
  | .added => .inScope
  | .removed => .removed

def setItemStatus (itemId : Id) (status : ScopeItemStatus) (items : List ScopeItem) : List ScopeItem :=
  items.map fun item => if item.id = itemId then { item with status } else item

/-- One turn of `_switch_items`: the status is written whatever it was. -/
def switchItem (context : SwitchContext) (reads : FootprintReads) (action : FootprintAction)
    (state : FootprintState) (item : ScopeItem) : FootprintState :=
  { state with
    scopeItems := setItemStatus item.id action.itemStatus state.scopeItems
    history := state.history ++ [historyRow context (.scopeItem item.id) action]
    audit := record state.audit (itemEvent context reads state.tenantId item action) }

def switchItems (context : SwitchContext) (reads : FootprintReads) (action : FootprintAction)
    (items : List ScopeItem) (state : FootprintState) : FootprintState :=
  items.foldl (switchItem context reads action) state

/-- `seed_terms`: the writes an approval makes, with a system actor and no step-up. -/
def seedTerms (actor : Actor) (now : Instant) (terms : List TaxonomyTerm) (state : FootprintState) :
    FootprintState :=
  switchOn { actor, now } terms state

def unseedTerms (actor : Actor) (now : Instant) (terms : List TaxonomyTerm) (state : FootprintState) :
    FootprintState :=
  switchOff { actor, now } terms state

/-! The change requests of the regulatory scope: asking, the second person's decision, taking
it back, and the seed's own way in. -/

/-- `_after`: the footprint a change would leave behind. -/
def footprintAfter (now : String → List String) (adds removes : List TaxonomyTerm) (dimension : String) :
    List String :=
  (now dimension ++ keysIn adds dimension).filter fun key => key ∉ keysIn removes dimension

def previewCount (restricting : Restricting) (now after : String → List String) (scopes : List Scope) :
    FootprintPreviewCount where
  hidden := (scopes.filter fun scope =>
    inFootprint scope now restricting && !inFootprint scope after restricting).length
  revealed := (scopes.filter fun scope =>
    inFootprint scope after restricting && !inFootprint scope now restricting).length
  available := true

def previewOf (reads : FootprintReads) (state : FootprintState) (adds removes : List TaxonomyTerm) :
    FootprintPreview :=
  let now := reads.table.footprintOf state.followed
  let after := footprintAfter now adds removes
  let restricting := reads.table.restrictingDimensions
  { obligations := previewCount restricting now after reads.obligationScopes
    cases := previewCount restricting now after reads.openCaseScopes }

/-- A change as it was asked for. -/
structure ScopeChange where
  adds : List TaxonomyTerm
  removes : List TaxonomyTerm
  itemAdds : List ScopeItemDraft
  itemRemoves : List ScopeItem
  entityExcludes : List EntityLine
  entityIncludes : List EntityLine

def validateChange (change : ScopeChange) : Except Refusal Unit := do
  require (¬(change.adds = [] ∧ change.removes = [] ∧ change.itemAdds = [] ∧ change.itemRemoves = [] ∧
      change.entityExcludes = [] ∧ change.entityIncludes = []))
    (validationError "Choose at least one term, scope item or company line to change.")
  require ((change.adds.map (·.id)).Nodup ∧ (change.removes.map (·.id)).Nodup)
    (validationError "Name each term once in a change.")
  require (∀ term ∈ change.adds, term.id ∉ change.removes.map (·.id))
    (validationError "A term cannot be added and removed in the same change.")

structure FootprintRequestBody where
  adds : List TermSelector := []
  removes : List TermSelector := []
  scopeItemAdds : List ScopeItemInput := []
  scopeItemRemoves : List String := []
  entityExclusions : List FootprintEntityTermSelector := []
  entityInclusions : List FootprintEntityTermSelector := []

/-- The body of a request, as the rows it names. -/
def resolveChange (reads : FootprintReads) (state : FootprintState) (body : FootprintRequestBody) :
    Except Refusal ScopeChange := do
  let adds ← termsBySelectors reads body.adds
  let removes ← termsBySelectors reads body.removes
  let itemAdds ← scopeItemDrafts reads state body.scopeItemAdds
  let itemRemoves ← scopeItemsInScope state body.scopeItemRemoves
  let entityExcludes ← entityLines reads state true body.entityExclusions
  let entityIncludes ← entityLines reads state false body.entityInclusions
  .ok { adds, removes, itemAdds, itemRemoves, entityExcludes, entityIncludes }

def requestPending : Refusal where
  code := "request_pending"
  detail := "A regulatory scope change is already waiting for a decision."

def numberItems (first : Id) : List ScopeItemDraft → List ScopeItem
  | [] => []
  | draft :: rest => { toScopeItemDraft := draft, id := first } :: numberItems (first + 1) rest

def requestedEvent (actor : Actor) (reads : FootprintReads) (tenantId requestId : Id)
    (change : ScopeChange) (items : List ScopeItem) : AuditEvent where
  action := "footprint.change_requested"
  actor := actor
  subjectType := "footprint_change_request"
  subjectId := some requestId
  subjectTitle := toString (change.adds.length + items.length) ++ " added, " ++
    toString (change.removes.length + change.itemRemoves.length) ++ " removed"
  summary := "Requested a regulatory scope change."
  tenantId := some tenantId
  after :=
    [("adds", .texts (change.adds.map termRef)), ("removes", .texts (change.removes.map termRef)),
      ("scopeItemAdds", .records (items.map (itemState reads · none))),
      ("scopeItemRemoves", .records (change.itemRemoves.map (itemState reads · none))),
      ("entityExclusions", .records (change.entityExcludes.map (entityState · none))),
      ("entityInclusions", .records (change.entityIncludes.map (entityState · none)))]

/-- `create_request`: one pending request at a time, its items stored as `requested`. -/
def createRequest (reads : FootprintReads) (requester : Id) (actor : Actor) (change : ScopeChange)
    (state : FootprintState) : Except Refusal FootprintState := do
  validateChange change
  require (∀ request ∈ state.requests, request.status ≠ .pending) requestPending
  let items := numberItems (state.nextId + 1) change.itemAdds
  -- `scope_item_key_unique`
  require (∀ item ∈ items, item.key ∉ state.scopeItems.map (·.key)) internalError
  .ok { state with
    requests := state.requests ++
      [{ id := state.nextId
         requestedBy := requester
         requestedAt := reads.now
         adds := change.adds.map (·.id)
         removes := change.removes.map (·.id)
         itemAdds := items.map (·.id)
         itemRemoves := change.itemRemoves.map (·.id)
         entityExcludes := change.entityExcludes.map EntityLine.ids
         entityIncludes := change.entityIncludes.map EntityLine.ids
         preview := previewOf reads state change.adds change.removes }]
    scopeItems := state.scopeItems ++ items
    nextId := state.nextId + 1 + items.length
    audit := record state.audit (requestedEvent actor reads state.tenantId state.nextId change items) }

/-- `_decidable`, under the row's lock. -/
def decidable (request : FootprintChangeRequest) (expectedVersion : Option Nat) : Except Refusal Unit := do
  require (request.status = .pending)
    { code := "invalid_transition", detail := "This regulatory scope change has already been decided." }
  require (∀ version ∈ expectedVersion, version = request.version)
    { code := "stale_write", detail := "Someone changed this first. Reload and try again." }

/-- A decision on a request. -/
structure Decision where
  actor : Actor
  decider : Option Id
  note : String := ""
  status : ApprovalStatus
  action : String
  stepUpAssertionId : Option Id := none

def previewValues (preview : FootprintPreview) : List (String × AuditValue) :=
  [("preview.obligations.hidden", .number preview.obligations.hidden),
    ("preview.obligations.revealed", .number preview.obligations.revealed),
    ("preview.obligations.available", .flag preview.obligations.available),
    ("preview.cases.hidden", .number preview.cases.hidden),
    ("preview.cases.revealed", .number preview.cases.revealed),
    ("preview.cases.available", .flag preview.cases.available)]

def declinedItems (request : FootprintChangeRequest) (status : ApprovalStatus) (state : FootprintState) :
    List ScopeItem :=
  if status = .approved then []
  else state.scopeItems.filter fun item => item.id ∈ request.itemAdds ∧ item.status = .requested

def decidedEvent (decision : Decision) (request : FootprintChangeRequest) (preview : FootprintPreview)
    (declined : List ScopeItem) (tenantId : Id) : AuditEvent where
  action := decision.action
  actor := decision.actor
  subjectType := "footprint_change_request"
  subjectId := some request.id
  subjectTitle := toString request.id
  summary := "Regulatory scope change " ++ decision.status.value ++ "."
  tenantId := some tenantId
  before := [("status", .text request.status.value), ("version", .number request.version)]
  after := [("status", .text decision.status.value), ("version", .number (request.version + 1))] ++
    previewValues preview ++
    (if declined = [] then []
     else [("scopeItemsDeclined", .records (declined.map fun item =>
       [("scopeItemId", .inl item.id), ("key", .inr item.key)]))])
  stepUpAssertionId := decision.stepUpAssertionId

/-- `_decide`: the status, the decision's facts and the counts it was taken against. -/
def decideRequest (now : Instant) (decision : Decision) (request : FootprintChangeRequest)
    (preview : FootprintPreview) (state : FootprintState) : FootprintState :=
  let declined := declinedItems request decision.status state
  let decided := { request with
    status := decision.status
    decidedBy := decision.decider
    decidedAt := some now
    decisionNote := decision.note
    version := request.version + 1
    preview }
  { state with
    requests := state.requests.map fun other => if other.id = request.id then decided else other
    scopeItems := state.scopeItems.map fun item =>
      if item ∈ declined then { item with status := .declined } else item
    audit := record state.audit (decidedEvent decision request preview declined state.tenantId) }

def inPickerOrder (term other : TaxonomyTerm) : Prop :=
  term.dimension.sortOrder < other.dimension.sortOrder ∨
    (term.dimension.sortOrder = other.dimension.sortOrder ∧
      (term.sortOrder < other.sortOrder ∨ (term.sortOrder = other.sortOrder ∧ term.key ≤ other.key)))

instance : DecidableRel inPickerOrder := fun _ _ => inferInstanceAs (Decidable (_ ∨ _))

/-- `_changes_of`, one side of it. -/
def termsNamed (reads : FootprintReads) (ids : List Id) : List TaxonomyTerm :=
  (reads.table.named ids).insertionSort inPickerOrder

/-- `_scope_item_changes_of`, one side of it, in the order asked for. -/
def itemsNamed (state : FootprintState) (ids : List Id) : List ScopeItem :=
  ids.filterMap fun id => state.scopeItems.find? (·.id == id)

def lineNamed (reads : FootprintReads) (ids : Id × Id) : Option EntityLine := do
  let unit ← reads.orgUnits.find? (·.id == ids.1)
  let term ← reads.table.terms.find? (·.id == ids.2)
  some (unit, term)

/-- `_entity_changes_of`, one side of it: by the company's name, then the picker's order. -/
def linesNamed (reads : FootprintReads) (ids : List (Id × Id)) : List EntityLine :=
  (ids.filterMap (lineNamed reads)).insertionSort fun line other =>
    line.1.name < other.1.name ∨ (line.1.name = other.1.name ∧ inPickerOrder line.2 other.2)

/-- Whether everything an approval would switch on is still the library's and the bank's. -/
def stillThere (reads : FootprintReads) (adds : List TaxonomyTerm) (itemAdds : List ScopeItem)
    (lines : List EntityLine) : Bool :=
  adds.all (fun term => term.active && term.dimension.active) &&
    itemAdds.all (fun item =>
      (reads.jurisdictions.any fun row => row.id == item.jurisdiction && row.active) &&
        reads.table.terms.any fun term => term.id == item.regimeTerm && term.active) &&
    lines.all fun line => line.1.active && line.2.active

def requestNamed (state : FootprintState) (requestId : Id) : Except Refusal FootprintChangeRequest :=
  demand (state.requests.find? (·.id == requestId))
    { code := "not_found", detail := "That regulatory scope change is not here." }

def retiredSince : Refusal where
  code := "stale_write"
  detail := "A term in this change was retired after it was asked for. " ++
    "Reject the change so it can be asked for again."

/-- The switches of an approved request, in the order the approval makes them. -/
def switchAll (context : SwitchContext) (reads : FootprintReads) (request : FootprintChangeRequest)
    (state : FootprintState) : FootprintState :=
  switchEntities context .added (linesNamed reads request.entityIncludes) <|
  switchEntities context .removed (linesNamed reads request.entityExcludes) <|
  switchItems context reads .removed (itemsNamed state request.itemRemoves) <|
  switchItems context reads .added (itemsNamed state request.itemAdds) <|
  switchOff context (termsNamed reads request.removes) <|
  switchOn context (termsNamed reads request.adds) state

/-- `approve`: the second person's decision. -/
def approve (reads : FootprintReads) (requestId decider : Id) (actor : Actor) (note : String)
    (stepUpAssertionId : Id) (expectedVersion : Option Nat) (state : FootprintState) :
    Except Refusal FootprintState := do
  let request ← requestNamed state requestId
  decidable request expectedVersion
  require (request.requestedBy ≠ decider)
    { code := "four_eyes_violation"
      detail := "A regulatory scope change is approved by someone other than the person who asked for it." }
  let adds := termsNamed reads request.adds
  require (stillThere reads adds (itemsNamed state request.itemAdds)
    (linesNamed reads request.entityExcludes ++ linesNamed reads request.entityIncludes) = true) retiredSince
  let counted := previewOf reads state adds (termsNamed reads request.removes)
  let context : SwitchContext :=
    { actor, request := some request.id, changedBy := some decider
      stepUpAssertionId := some stepUpAssertionId, now := reads.now }
  let decision : Decision :=
    { actor, decider := some decider, note, status := .approved, action := "footprint.change_approved"
      stepUpAssertionId := some stepUpAssertionId }
  .ok (decideRequest reads.now decision request counted (switchAll context reads request state))

def reject (reads : FootprintReads) (requestId decider : Id) (actor : Actor) (note : String)
    (expectedVersion : Option Nat) (state : FootprintState) : Except Refusal FootprintState := do
  let request ← requestNamed state requestId
  decidable request expectedVersion
  require (request.requestedBy ≠ decider)
    { code := "four_eyes_violation"
      detail := "A regulatory scope change is decided by someone other than the person who asked for it." }
  let counted := previewOf reads state (termsNamed reads request.adds) (termsNamed reads request.removes)
  let decision : Decision :=
    { actor, decider := some decider, note, status := .rejected, action := "footprint.change_rejected" }
  .ok (decideRequest reads.now decision request counted state)

/-- `withdraw`, which the route leaves to the person who asked. -/
def withdraw (reads : FootprintReads) (requestId requester : Id) (actor : Actor)
    (expectedVersion : Option Nat) (state : FootprintState) : Except Refusal FootprintState := do
  let request ← requestNamed state requestId
  require (request.requestedBy = requester)
    { code := "permission_denied", detail := "You do not have access to this." }
  decidable request expectedVersion
  let counted := previewOf reads state (termsNamed reads request.adds) (termsNamed reads request.removes)
  let decision : Decision :=
    { actor, decider := none, status := .withdrawn, action := "footprint.change_withdrawn" }
  .ok (decideRequest reads.now decision request counted state)

/-- One operation on a bank's footprint. -/
inductive FootprintCall where
  | request (requester : Id) (actor : Actor) (body : FootprintRequestBody)
  | approve (requestId decider : Id) (actor : Actor) (note : String) (stepUpAssertionId : Id)
      (expectedVersion : Option Nat)
  | reject (requestId decider : Id) (actor : Actor) (note : String) (expectedVersion : Option Nat)
  | withdraw (requestId requester : Id) (actor : Actor) (expectedVersion : Option Nat)
  | seed (actor : Actor) (terms : List TaxonomyTerm)
  | unseed (actor : Actor) (terms : List TaxonomyTerm)

/-- An operation, made while the library and the bank's lists read as they do. -/
def footprintStep (state : FootprintState) : FootprintReads × FootprintCall → Except Refusal FootprintState
  | (reads, .request requester actor body) => do
    let change ← resolveChange reads state body
    createRequest reads requester actor change state
  | (reads, .approve requestId decider actor note stepUpAssertionId expectedVersion) =>
    Taxonomy.approve reads requestId decider actor note stepUpAssertionId expectedVersion state
  | (reads, .reject requestId decider actor note expectedVersion) =>
    Taxonomy.reject reads requestId decider actor note expectedVersion state
  | (reads, .withdraw requestId requester actor expectedVersion) =>
    Taxonomy.withdraw reads requestId requester actor expectedVersion state
  | (reads, .seed actor terms) => .ok (seedTerms actor reads.now terms state)
  | (reads, .unseed actor terms) => .ok (unseedTerms actor reads.now terms state)

end Grc.Taxonomy
