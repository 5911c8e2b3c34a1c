import Grc.Register.EntryWrites

/-! A refused write of a bank's register writes nothing, wherever in it the refusal comes and whatever others commit meanwhile. -/
namespace Grc.Register.Desk

open Grc.Shared Grc.Lib Grc.Register

/-- The principal of a session: the person, the bank they are in and what they may do there. -/
structure Caller where
  user : PersonRef
  tenant : Option Id
  permissions : List String

/-- The `If-Match` header, read as a version. -/
inductive IfMatch where
  | absent
  | version (number : Int)
  | unreadable

inductive WriteCall where
  | saveInterpretation (obligation : Id) (body : InterpretationBody) (header : IfMatch)
  | addLink (obligation : Id) (body : InternalLinkBody)
  | updateEntityStatus (obligation orgUnit : Id) (body : EntityPatch) (header : IfMatch)

inductive WriteAnswer where
  | interpretation (saved : RegisterInterpretation)
  | link (added : RegisterInternalLink)
  | entity (updated : RegisterEntityStatus)

def ifMatch : IfMatch → Step (Option Int)
  | .absent => pure none
  | .version number => pure (some number)
  | .unreadable => View.raise (.problem { code := "validation_error", detail := "If-Match must be the version you last read." })

def callerTenant (caller : Caller) : Step Id :=
  match caller.tenant with
  | some tenant => pure tenant
  | none => View.raise (.problem { code := "not_found", detail := "Sign in to a company to see this." })

/-- `actor_for`, of a person's session. -/
def actorFor (caller : Caller) : Actor := { kind := .user, id := some caller.user.id, label := caller.user.name }

section Routes
variable (webUrl : String → Bool) (order : List String) (drawn : Drawn) (caller : Caller)

/-- The routes, inside the decorator that answers their refusals. -/
def route (call : WriteCall) : Step WriteAnswer := do
  View.check ("register.edit" ∈ caller.permissions)
    (.problem { code := "permission_denied", detail := "You do not have access to this." })
  let tenant ← callerTenant caller
  match call with
  | .saveInterpretation obligation body header => do
    let expected ← ifMatch header
    let saved ← saveInterpretation drawn tenant (actorFor caller) obligation body expected
    pure (.interpretation saved)
  | .addLink obligation body => do
    let added ← addLink drawn tenant (actorFor caller) webUrl order obligation body
    pure (.link added)
  | .updateEntityStatus obligation orgUnit body header => do
    let expected ← ifMatch header
    let updated ← updateEntityStatus drawn tenant (actorFor caller) order obligation orgUnit body expected
    pure (.entity updated)

def serve (call : WriteCall) (bank : Bank) (arriving : List (Bank → Bank)) : Except Refusal WriteAnswer × Bank :=
  View.request internalError (View.answersProblems (route webUrl order drawn caller call)) bank arriving

end Routes

section Steps
variable {α : Type} {drawn : Drawn} {tenant : Id} {actor : Actor} {obligation : Id} {code detail : String} {extra : List (String × AuditValue)}

theorem invalid_ne (refused : Refusal) : invalid code detail extra ≠ .problem refused := nofun

theorem query_marks (read : Bank → α) : (query read).Marks := .ask fun _ _ found => nomatch found

theorem query_steady (read : Bank → α) : (query read).Steady := View.Steady.ask _

theorem fetch_marks (read : Bank → Option α) {raised : Raised Refusal} (other : ∀ refused, raised ≠ .problem refused) :
    (fetch read raised).Marks := by
  refine .ask fun bank refused => ?_
  unfold demand
  cases read bank with
  | none => exact fun same => other refused (Except.error.inj same)
  | some => exact nofun

theorem fetch_steady (read : Bank → Option α) (raised : Raised Refusal) : (fetch read raised).Steady := View.Steady.ask _

theorem audit_marks (event : Bank → AuditEvent) : (audit event).Marks := .write fun _ _ found => nomatch found

theorem audit_steady (event : Bank → AuditEvent) : (audit event).Steady := View.Steady.write _

theorem personId_steady : (personId actor).Steady := by
  unfold personId
  split
  · exact .pure _
  · exact .refuse _

theorem personId_marks (named : actor.id ≠ none) : (personId actor).Marks := by
  unfold personId
  split
  · exact .pure _
  · exact absurd ‹_› named

theorem ensureRegisterEntry_marks : (ensureRegisterEntry drawn tenant actor obligation).Marks := by
  refine .bind (query_marks _) fun existing => ?_
  cases existing with
  | some entry => exact .pure _
  | none =>
    refine .bind (fetch_marks _ invalid_ne) fun heading => .bind (fetch_marks _ nofun) fun status => ?_
    exact .bind (.insertMissing _ _) fun _ => .bind (fetch_marks _ nofun) fun entry =>
      .bind (.when (audit_marks _)) fun _ => .pure _

theorem ensureRegisterEntry_steady : (ensureRegisterEntry drawn tenant actor obligation).Steady := by
  refine .bind (query_steady _) fun existing => ?_
  cases existing with
  | some entry => exact .pure _
  | none =>
    refine .bind (fetch_steady _ _) fun heading => .bind (fetch_steady _ _) fun status => ?_
    exact .bind (View.Steady.insertMissing _ _) fun _ => .bind (fetch_steady _ _) fun entry =>
      .bind (.when fun _ => audit_steady _) fun _ => .pure _

section Save
variable {body : InterpretationBody} {expectedVersion : Option Int}

theorem saveInterpretation_marks (named : actor.id ≠ none) :
    (saveInterpretation drawn tenant actor obligation body expectedVersion).Marks := by
  refine .bind ensureRegisterEntry_marks fun entry => .bind (query_marks _) fun _ => .bind (query_marks _) fun current => ?_
  refine .bind (.check invalid_ne) fun _ => .bind (.given fun row => .update _) fun _ => ?_
  refine .bind (personId_marks named) fun author => .bind (.insert _ _) fun _ => ?_
  exact .bind (query_marks _) fun heading => .bind (audit_marks _) fun _ => query_marks _

theorem saveInterpretation_steady : (saveInterpretation drawn tenant actor obligation body expectedVersion).Steady := by
  refine .bind ensureRegisterEntry_steady fun entry => .bind (query_steady _) fun _ => .bind (query_steady _) fun current => ?_
  refine .bind (View.Steady.check _) fun _ => .bind (.given (fun row => View.Steady.update _) _) fun _ => ?_
  refine .bind personId_steady fun author => .bind (View.Steady.insert _ _) fun _ => ?_
  exact .bind (query_steady _) fun heading => .bind (audit_steady _) fun _ => query_steady _

end Save

section Link
variable {body : InternalLinkBody} {kind : ListRow} {webUrl : String → Bool} {order : List String}

theorem alreadyLinked_marks : (alreadyLinked : Step α).Marks := .setRollback_raise _

theorem alreadyLinked_steady : (alreadyLinked : Step α).Steady := .bind View.Steady.setRollback fun _ => .refuse _

theorem pickedItem_marks {itemId : Id} : (pickedItem itemId body kind).Marks :=
  .bind (.check invalid_ne) fun _ => .bind (fetch_marks _ invalid_ne) fun item => .bind (.check invalid_ne) fun _ => .pure _

theorem pickedItem_steady {itemId : Id} : (pickedItem itemId body kind).Steady :=
  .bind (View.Steady.check _) fun _ => .bind (fetch_steady _ _) fun item => .bind (View.Steady.check _) fun _ => .pure _

theorem checkNamed_marks {named : Option Id} {there : Bank → Id → Bool} : (checkNamed named there detail).Marks :=
  .given fun id => .bind (query_marks _) fun found => .check invalid_ne

theorem checkNamed_steady {named : Option Id} {there : Bank → Id → Bool} : (checkNamed named there detail).Steady :=
  .given (fun id => .bind (query_steady _) fun found => View.Steady.check _) _

theorem createItem_marks : (createItem drawn tenant actor kind body).Marks := by
  refine .bind (.check invalid_ne) fun _ => .bind checkNamed_marks fun _ => .bind checkNamed_marks fun _ => ?_
  refine .bind checkNamed_marks fun _ => .bind (query_marks _) fun taken => .bind (.check invalid_ne) fun _ => ?_
  exact .bind (.insert _ _) fun _ => .bind (audit_marks _) fun _ => .pure _

theorem createItem_steady : (createItem drawn tenant actor kind body).Steady := by
  refine .bind (View.Steady.check _) fun _ => .bind checkNamed_steady fun _ => .bind checkNamed_steady fun _ => ?_
  refine .bind checkNamed_steady fun _ => .bind (query_steady _) fun taken => .bind (View.Steady.check _) fun _ => ?_
  exact .bind (View.Steady.insert _ _) fun _ => .bind (audit_steady _) fun _ => .pure _

theorem itemToLink_marks {entry : TenantObligation} : (itemToLink drawn tenant actor entry kind body).Marks := by
  unfold itemToLink
  split
  · exact createItem_marks
  · refine .bind pickedItem_marks fun item => .bind (query_marks _) fun there => ?_
    split
    · exact alreadyLinked_marks
    · exact .pure _

theorem itemToLink_steady {entry : TenantObligation} : (itemToLink drawn tenant actor entry kind body).Steady := by
  unfold itemToLink
  split
  · exact createItem_steady
  · refine .bind pickedItem_steady fun item => .bind (query_steady _) fun there => ?_
    split
    · exact alreadyLinked_steady
    · exact .pure _

theorem addLink_marks (named : actor.id ≠ none) : (addLink drawn tenant actor webUrl order obligation body).Marks := by
  refine .bind (.check invalid_ne) fun _ => .bind (fetch_marks _ invalid_ne) fun kind => .bind ensureRegisterEntry_marks fun entry => ?_
  refine .bind itemToLink_marks fun item => .bind (.atomicExcept ?_ alreadyLinked_marks) fun link => ?_
  · exact .bind (personId_marks named) fun createdBy => .bind (.insert _ _) fun _ => .pure _
  · exact .bind (audit_marks _) fun _ => fetch_marks _ fun _ => nofun

theorem addLink_steady : (addLink drawn tenant actor webUrl order obligation body).Steady := by
  refine .bind (View.Steady.check _) fun _ => .bind (fetch_steady _ _) fun kind => .bind ensureRegisterEntry_steady fun entry => ?_
  refine .bind itemToLink_steady fun item => .bind (View.Steady.atomicExcept ?_ alreadyLinked_steady) fun link => ?_
  · exact .bind personId_steady fun createdBy => .bind (View.Steady.insert _ _) fun _ => .pure _
  · exact .bind (audit_steady _) fun _ => fetch_steady _ _

end Link

section Status
variable {body : EntityPatch} {order : List String} {orgUnit : Id} {expectedVersion : Option Int}

theorem resolveKey_marks {Row : Type} {rows : Bank → List Row} {key : Row → String} {wanted : Option String} :
    (resolveKey rows key wanted).Marks := by
  cases wanted with
  | none => exact .pure _
  | some wanted =>
    refine .bind (query_marks _) fun active => ?_
    split
    · exact .pure _
    · exact .raise invalid_ne

theorem resolveKey_steady {Row : Type} {rows : Bank → List Row} {key : Row → String} {wanted : Option String} :
    (resolveKey rows key wanted).Steady := by
  cases wanted with
  | none => exact .pure _
  | some wanted =>
    refine .bind (query_steady _) fun active => ?_
    split
    · exact .pure _
    · exact .refuse _

theorem resolve_marks : (resolve body).Marks := by
  refine .bind resolveKey_marks fun status => .bind resolveKey_marks fun rating => .bind resolveKey_marks fun team => ?_
  exact .bind (.given fun person => .bind (query_marks _) fun member => .check invalid_ne) fun _ => .pure _

theorem resolve_steady : (resolve body).Steady := by
  refine .bind resolveKey_steady fun status => .bind resolveKey_steady fun rating => .bind resolveKey_steady fun team => ?_
  exact .bind (.given (fun person => .bind (query_steady _) fun member => View.Steady.check _) _) fun _ => .pure _

variable {scope : TenantObligationScope}

theorem assess_marks {entry : TenantObligation} {changed : List String} {rationale : Option String} :
    (assess drawn actor entry scope changed rationale).Marks := by
  refine .when (.bind ?_ fun assessedBy => .update _)
  unfold assessor
  split
  · exact .pure _
  · exact .raise fun _ => nofun

theorem assess_steady {entry : TenantObligation} {changed : List String} {rationale : Option String} :
    (assess drawn actor entry scope changed rationale).Steady := by
  refine .when fun _ => .bind ?_ fun assessedBy => View.Steady.update _
  unfold assessor
  split
  · exact .pure _
  · exact .refuse _

theorem saveScope_marks {first : Bool} : (saveScope first scope).Marks := by
  unfold saveScope
  split
  · exact .insert _ _
  · exact .update _

theorem saveScope_steady {first : Bool} : (saveScope first scope).Steady := by
  unfold saveScope
  split
  · exact View.Steady.insert _ _
  · exact View.Steady.update _

section Rows
variable {locked : Option TenantObligation} {found : Option TenantObligationScope} {entry : TenantObligation} {entity : OrgUnit}

theorem required_marks : (required expectedVersion).Marks := by
  cases expectedVersion with
  | some expected => exact .pure _
  | none => exact .raise invalid_ne

theorem required_steady : (required expectedVersion).Steady := by
  cases expectedVersion with
  | some expected => exact .pure _
  | none => exact .refuse _

theorem lockedScope_marks : (lockedScope locked entity).Marks := by
  cases locked with
  | none => exact .pure _
  | some entry => exact query_marks _

theorem lockedScope_steady : (lockedScope locked entity).Steady := by
  cases locked with
  | none => exact .pure _
  | some entry => exact query_steady _

theorem entryOrFirst_marks : (entryOrFirst drawn tenant actor locked obligation).Marks := by
  cases locked with
  | some entry => exact .pure _
  | none => exact ensureRegisterEntry_marks

theorem entryOrFirst_steady : (entryOrFirst drawn tenant actor locked obligation).Steady := by
  cases locked with
  | some entry => exact .pure _
  | none => exact ensureRegisterEntry_steady

theorem scopeOrFirst_marks : (scopeOrFirst drawn tenant found entry entity).Marks := by
  cases found with
  | some scope => exact .pure _
  | none => exact .bind (fetch_marks _ fun _ => nofun) fun status => .pure _

theorem scopeOrFirst_steady : (scopeOrFirst drawn tenant found entry entity).Steady := by
  cases found with
  | some scope => exact .pure _
  | none => exact .bind (fetch_steady _ _) fun status => .pure _

end Rows

theorem updateEntityStatus_marks :
    (updateEntityStatus drawn tenant actor order obligation orgUnit body expectedVersion).Marks := by
  refine .bind (fetch_marks _ invalid_ne) fun entity => .bind (fetch_marks _ invalid_ne) fun heading => .bind required_marks fun expected => ?_
  refine .bind (query_marks _) fun locked => .bind lockedScope_marks fun found => .bind (.check invalid_ne) fun _ => ?_
  refine .bind resolve_marks fun changes => .bind (.check invalid_ne) fun _ => ?_
  refine .bind entryOrFirst_marks fun entry => .bind scopeOrFirst_marks fun scope => .bind (query_marks _) fun before => ?_
  refine .bind (.atomicExcept saveScope_marks (.raise invalid_ne)) fun _ => .bind assess_marks fun _ => ?_
  exact .bind (audit_marks _) fun _ => fetch_marks _ fun _ => nofun

theorem updateEntityStatus_steady :
    (updateEntityStatus drawn tenant actor order obligation orgUnit body expectedVersion).Steady := by
  refine .bind (fetch_steady _ _) fun entity => .bind (fetch_steady _ _) fun heading => .bind required_steady fun expected => ?_
  refine .bind (query_steady _) fun locked => .bind lockedScope_steady fun found => .bind (View.Steady.check _) fun _ => ?_
  refine .bind resolve_steady fun changes => .bind (View.Steady.check _) fun _ => ?_
  refine .bind entryOrFirst_steady fun entry => .bind scopeOrFirst_steady fun scope => .bind (query_steady _) fun before => ?_
  refine .bind (View.Steady.atomicExcept saveScope_steady (.refuse _)) fun _ => .bind assess_steady fun _ => ?_
  exact .bind (audit_steady _) fun _ => fetch_steady _ _

end Status

end Steps

section Served
variable {webUrl : String → Bool} {order : List String} {drawn : Drawn} {caller : Caller} {call : WriteCall}

theorem actorFor_named : (actorFor caller).id ≠ none := nofun

theorem ifMatch_readsOnly {header : IfMatch} : (ifMatch header).ReadsOnly := by
  cases header with
  | absent | version => exact .pure _
  | unreadable => exact .refuse _

theorem callerTenant_readsOnly : (callerTenant caller).ReadsOnly := by
  unfold callerTenant
  split
  · exact .pure _
  · exact .refuse _

theorem ifMatch_steady {header : IfMatch} : (ifMatch header).Steady := by
  cases header with
  | absent | version => exact .pure _
  | unreadable => exact .refuse _

theorem callerTenant_steady : (callerTenant caller).Steady := by
  unfold callerTenant
  split
  · exact .pure _
  · exact .refuse _

theorem route_careful : (route webUrl order drawn caller call).Careful := by
  refine .bind (View.ReadsOnly.check _) fun _ => .bind callerTenant_readsOnly fun tenant => ?_
  cases call with
  | saveInterpretation obligation body header =>
    exact .bind ifMatch_readsOnly fun expected =>
      .of_marks (.bind (saveInterpretation_marks actorFor_named) fun saved => .pure _)
  | addLink obligation body => exact .of_marks (.bind (addLink_marks actorFor_named) fun added => .pure _)
  | updateEntityStatus obligation orgUnit body header =>
    exact .bind ifMatch_readsOnly fun expected => .of_marks (.bind updateEntityStatus_marks fun updated => .pure _)

theorem route_steady : (route webUrl order drawn caller call).Steady := by
  refine .bind (View.Steady.check _) fun _ => .bind callerTenant_steady fun tenant => ?_
  cases call with
  | saveInterpretation obligation body header =>
    exact .bind ifMatch_steady fun expected => .bind saveInterpretation_steady fun saved => .pure _
  | addLink obligation body => exact .bind addLink_steady fun added => .pure _
  | updateEntityStatus obligation orgUnit body header =>
    exact .bind ifMatch_steady fun expected => .bind updateEntityStatus_steady fun updated => .pure _

/-- A refused write leaves a bank as the others left it. -/
theorem serve_refused {bank : Bank} {arriving : List (Bank → Bank)} {refused : Refusal}
    (answered : (serve webUrl order drawn caller call bank arriving).1 = .error refused) :
    (serve webUrl order drawn caller call bank arriving).2 = arriving.foldl (fun bank commit => commit bank) bank :=
  View.request_refused route_steady route_careful answered

end Served

section Raced

/-- A bank with one policy, and an entry it is not linked to yet. -/
def unlinked : Bank where
  headings := [(20, { referenceLabel := "4.2", instrumentShortName := "LVM" })]
  linkKinds := [{ id := 30, key := "policy" }]
  people := [{ id := 1, name := "Ada" }]
  entries := [{ id := 40, tenant := 5, obligation := 20, complianceStatus := 60 }]
  items := [{ id := 50, tenant := 5, kind := 30, name := "Client asset policy" }]

def ada : Caller := { user := { id := 1, name := "Ada" }, tenant := some 5, permissions := ["register.edit"] }

def drawnKeys : Drawn := { entry := 70, scope := 71, interpretation := 72, item := 73, link := 74, assessment := 75, now := 9 }

def linkTheirs (bank : Bank) : Bank :=
  { bank with links := bank.links ++ [{
      id := 80, tenant := 5, tenantObligation := 40, internalItem := 50, label := "Policy", url := "", externalRef := "", createdBy := 2
      createdAt := 8 }] }

def linkAmid (arriving : List (Bank → Bank)) : Except Refusal WriteAnswer × Bank :=
  serve (fun _ => true) [] drawnKeys ada (.addLink 20 { kind := "policy", label := "Policy", internalItemId := some 50 }) unlinked arriving

/-- Two links of one item at once: the second meets the first on the unique key, after it found the item free. -/
theorem secondLink_refused :
    (linkAmid [id, id, id, id, linkTheirs]).1 =
      .error { code := "already_linked", detail := "That item is already linked to this obligation." } ∧
    (linkAmid [id, id, id, id, linkTheirs]).2 = linkTheirs unlinked :=
  have refused : (linkAmid [id, id, id, id, linkTheirs]).1 =
      .error { code := "already_linked", detail := "That item is already linked to this obligation." } := rfl
  ⟨refused, serve_refused refused⟩

/-- Met alone, the same link is made. -/
example : (linkAmid []).2.links.map (·.id) = [74] := by decide +kernel

end Raced

end Grc.Register.Desk
