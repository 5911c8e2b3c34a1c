import Grc.Lib.Checks
import Grc.Lib.Ranked
import Grc.Shared.Audit
import Mathlib.Data.List.Find
import Mathlib.Data.String.Basic

/-! The compliance status a bank is shown on an obligation, read in two places: on the obligation's
own page, folded over the rows of its entities, and beside it in the inventory, off one query over
the bank's entries. -/
namespace Grc.Register

open Grc.Shared Grc.Lib

inductive Applicability where
  | applies
  | doesNotApply
  | notAssessed
  deriving DecidableEq

/-- `ApplicabilityAnswer`: the same in the contract's words. -/
inductive ApplicabilityAnswer where
  | applies
  | notApplicable
  | underAssessment
  deriving DecidableEq

/-- `_APPLICABILITY_OUT`. -/
def Applicability.out : Applicability → ApplicabilityAnswer
  | applies => .applies
  | doesNotApply => .notApplicable
  | notAssessed => .underAssessment

inductive ComplianceCategory where
  | compliant
  | partly
  | gap
  | notAssessed
  deriving DecidableEq

namespace ComplianceCategory

def worstFirst : List ComplianceCategory := [gap, partly, notAssessed, compliant]

def rank (category : ComplianceCategory) : Nat := worstFirst.idxOf category

end ComplianceCategory

/-- A row of the bank's compliance scale. -/
structure ComplianceStatus where
  id : Id
  key : String
  kind : ComplianceCategory
  active : Bool := true
  isDefault : Bool := false
  deriving DecidableEq

structure Team where
  id : Id
  key : String
  kind : Option String := none

/-- A label of a row of one of the bank's lists. -/
structure ListLabel where
  vocabulary : Id
  language : String
  text : String
  isOriginal : Bool := false

structure PersonRef where
  id : Id
  name : String

/-- A unit of the bank; names are ordered as the database collates them. -/
structure OrgUnit (Name : Type) where
  id : Id
  name : Name

/-- Who answered whether a rule applies, when and why. -/
structure ApplicabilityDecision where
  applicability : Applicability := .notAssessed
  reason : String := ""
  decidedAt : Option Instant := none
  decidedBy : Option PersonRef := none

/-- One bank's register entry on one obligation. -/
structure TenantObligation where
  id : Id
  tenant : Id
  obligation : Id
  decision : ApplicabilityDecision := {}
  complianceStatus : ComplianceStatus
  firstLineOwner : Option PersonRef := none
  ownerTeam : Option Team := none
  version : Nat := 1

/-- The entry's answer and status for one legal entity, or for one product of it. -/
structure TenantObligationScope (Name : Type) where
  id : Id
  tenantObligation : Id
  orgUnit : OrgUnit Name
  product : Option Id := none
  decision : ApplicabilityDecision := {}
  complianceStatus : ComplianceStatus
  owner : Option PersonRef := none
  ownerTeam : Option Team := none
  version : Nat := 1

/-- A bank's register, as row-level security shows it: primary keys are unique, a bank has one
entry on an obligation, and every status a row names is one of the bank's. -/
structure RegisterTables (Name : Type) where
  tenant : Id
  obligations : List Id
  statuses : List ComplianceStatus
  statusLabels : List ListLabel
  teamLabels : List ListLabel
  entries : List TenantObligation
  scopes : List (TenantObligationScope Name)
  own : ∀ entry ∈ entries, entry.tenant = tenant
  oneStatus : ∀ status ∈ statuses, ∀ other ∈ statuses, status.id = other.id → status = other
  oneEntry : ∀ entry ∈ entries, ∀ other ∈ entries, entry.obligation = other.obligation → entry = other
  oneScope : ∀ scope ∈ scopes, ∀ other ∈ scopes, scope.id = other.id → scope = other
  entryStatus : ∀ entry ∈ entries, entry.complianceStatus ∈ statuses
  scopeStatus : ∀ scope ∈ scopes, scope.complianceStatus ∈ statuses

/-- `{key, kind, label}` of a row of one of the bank's lists. -/
structure VocabRef (Kind : Type) where
  key : String
  kind : Kind
  label : String
  deriving DecidableEq

/-- `label_of`: the label in the first language of an order that has one, the original, any at all,
or the key. -/
def labelOf (labels : Dict String) (order : List String) (original : Option String) (key : String) : String :=
  let texts := labels.filter fun label => label.2 != ""
  let found := (order.findSome? (Dict.get texts)).orElse fun _ => original.bind (Dict.get texts)
  (found.orElse fun _ => texts.head?.map Prod.snd).getD key

def labelRows (labels : List ListLabel) (vocabulary : Id) : List ListLabel :=
  inOrder ListLabel.language (labels.filter (·.vocabulary == vocabulary))

/-- A row's reference, from its labels. -/
def vocabRef {Kind : Type} (key : String) (kind : Kind) (labels : List ListLabel) (order : List String) :
    VocabRef Kind where
  key := key
  kind := kind
  label := labelOf (Dict.ofList (labels.map fun label => (label.language, label.text))) order
    ((labels.find? (·.isOriginal)).map (·.language)) key

def teamRef (labels : List ListLabel) (order : List String) (team : Team) : VocabRef (Option String) :=
  vocabRef team.key team.kind (labelRows labels team.id) order

/-- The entry's row of one legal entity, as its page shows it. -/
structure RegisterEntityStatus (Name : Type) where
  orgUnit : OrgUnit Name
  applicability : ApplicabilityAnswer
  decision : ApplicabilityDecision
  complianceStatus : VocabRef ComplianceCategory
  owner : Option PersonRef
  ownerTeam : Option (VocabRef (Option String))
  version : Nat

/-- `GET /obligations/{obligationId}/register`. -/
structure RegisterEntry (Name : Type) where
  obligation : Id
  applicability : ApplicabilityAnswer
  decision : ApplicabilityDecision
  complianceStatus : VocabRef ComplianceCategory
  firstLineOwner : Option PersonRef := none
  ownerTeam : Option (VocabRef (Option String)) := none
  entities : List (RegisterEntityStatus Name) := []
  version : Nat := 0

/-- The bank's judgement on one obligation, as a row of the inventory carries it. -/
structure Overlay where
  applicability : ApplicabilityAnswer
  complianceStatus : Option (VocabRef ComplianceCategory)
  firstLineOwner : Option PersonRef
  ownerTeam : Option (VocabRef (Option String))

/-- `EMPTY`: an obligation nobody in the bank has worked on. -/
def Overlay.empty : Overlay where
  applicability := .underAssessment
  complianceStatus := none
  firstLineOwner := none
  ownerTeam := none

/-- `worst_of`: the worst of these statuses by category, the first of equals. -/
def worstOf (statuses : List ComplianceStatus) : Option ComplianceStatus :=
  statuses.argmin fun status => status.kind.rank

namespace RegisterTables

variable {Name : Type} [LinearOrder Name] (register : RegisterTables Name)

def entityScopes (entry : Id) : List (TenantObligationScope Name) :=
  register.scopes.filter fun scope => scope.tenantObligation == entry && scope.product == none

def place (scope : TenantObligationScope Name) : Name ×ₗ Id := toLex (scope.orgUnit.name, scope.id)

def shown (entry : TenantObligation) : ComplianceStatus :=
  let scopes := inOrder place (register.entityScopes entry.id)
  let applying := (scopes.filter (·.decision.applicability == .applies)).map (·.complianceStatus)
  (worstOf applying).getD entry.complianceStatus

def statusRef (order : List String) (status : ComplianceStatus) : VocabRef ComplianceCategory :=
  vocabRef status.key status.kind (labelRows register.statusLabels status.id) order

def entity (order : List String) (scope : TenantObligationScope Name) : RegisterEntityStatus Name where
  orgUnit := scope.orgUnit
  applicability := scope.decision.applicability.out
  decision := scope.decision
  complianceStatus := register.statusRef order scope.complianceStatus
  owner := scope.owner
  ownerTeam := scope.ownerTeam.map (teamRef register.teamLabels order)
  version := scope.version

/-- `_defaults`: the one active default status, on an obligation nobody has worked on. -/
def defaults (obligation : Id) (order : List String) : Except Refusal (RegisterEntry Name) := do
  let status ← match register.statuses.filter fun status => status.isDefault && status.active with
    | [status] => .ok status
    | _ => .error internalError
  .ok { obligation, applicability := .underAssessment, decision := {}
        complianceStatus := register.statusRef order status }

def readRegister (order : List String) (obligation : Id) : Except Refusal (RegisterEntry Name) := do
  require (obligation ∈ register.obligations) { code := "not_found", detail := "That obligation is not here." }
  match register.entries.find? (·.obligation == obligation) with
  | none => register.defaults obligation order
  | some entry => .ok {
      obligation
      applicability := entry.decision.applicability.out
      decision := entry.decision
      complianceStatus := register.statusRef order (register.shown entry)
      firstLineOwner := entry.firstLineOwner
      ownerTeam := entry.ownerTeam.map (teamRef register.teamLabels order)
      entities := (inOrder place (register.entityScopes entry.id)).map (register.entity order)
      version := entry.version }

def applying (entry : Id) : List (TenantObligationScope Name) :=
  register.scopes.filter fun scope =>
    scope.tenantObligation == entry && scope.product == none && scope.decision.applicability == .applies

/-- `answer`, of an entry. -/
def answer (entry : TenantObligation) : ApplicabilityAnswer :=
  if entry.decision.applicability = .applies ∨ register.applying entry.id ≠ [] then .applies
  else if entry.decision.applicability = .doesNotApply then .notApplicable
  else .underAssessment

def worst (entry : Id) : Option (TenantObligationScope Name) :=
  (byRank (fun scope => scope.complianceStatus.kind.rank) place (register.applying entry)).head?

/-- `shown_status_id`, of an entry. -/
def shownStatusId (entry : TenantObligation) : Id :=
  ((register.worst entry.id).map (·.complianceStatus.id)).getD entry.complianceStatus.id

/-- The overlay of one entry. -/
def overlayOf (order : List String) (entry : TenantObligation) : Overlay where
  applicability := register.answer entry
  complianceStatus := if register.answer entry = .applies then
      (register.statuses.find? (·.id == register.shownStatusId entry)).map fun status =>
        vocabRef status.key status.kind (labelRows register.statusLabels status.id) order
    else none
  firstLineOwner := entry.firstLineOwner
  ownerTeam := entry.ownerTeam.map fun team =>
    vocabRef team.key team.kind (labelRows register.teamLabels team.id) order

/-- `overlay`: the bank's overlay on each of these obligations that has an entry. -/
def overlay (tenant : Id) (obligations : List Id) (order : List String) : List (Id × Overlay) :=
  (register.entries.filter fun entry => entry.tenant == tenant && obligations.contains entry.obligation).map
    fun entry => (entry.obligation, register.overlayOf order entry)

def overlayOn (obligations : List Id) (order : List String) (obligation : Id) : Overlay :=
  (((register.overlay register.tenant obligations order).find? (·.1 == obligation)).map Prod.snd).getD .empty

variable {register : RegisterTables Name}

theorem place_apart {entry : Id} : ∀ scope ∈ register.applying entry, ∀ other ∈ register.applying entry,
    place scope = place other → scope = other := by
  intro scope member other among same
  have ids : scope.id = other.id := (Prod.mk.inj (toLex.injective same)).2
  exact register.oneScope scope (List.mem_of_mem_filter member) other (List.mem_of_mem_filter among) ids

theorem shown_eq (entry : TenantObligation) :
    register.shown entry = ((register.worst entry.id).map (·.complianceStatus)).getD entry.complianceStatus := by
  have sorted : ((inOrder place (register.entityScopes entry.id)).filter
      (·.decision.applicability == .applies)).Pairwise fun scope other => place scope ≤ place other :=
    (inOrder_sorted place _).filter _
  have same : ∀ scope, scope ∈ (inOrder place (register.entityScopes entry.id)).filter
      (·.decision.applicability == .applies) ↔ scope ∈ register.applying entry.id := by
    intro scope
    rw [List.mem_filter, mem_inOrder, entityScopes, applying, List.mem_filter, List.mem_filter, Bool.and_eq_true,
      Bool.and_eq_true, Bool.and_eq_true]
    tauto
  unfold shown worstOf worst
  rw [head_byRank sorted same place_apart]
  dsimp only
  rw [argmin_map]
  rfl

theorem shown_id (entry : TenantObligation) : (register.shown entry).id = register.shownStatusId entry := by
  rw [shown_eq]
  unfold shownStatusId
  cases register.worst entry.id with
  | none | some scope => rfl

section
variable {entry : TenantObligation} (held : entry ∈ register.entries)
include held

theorem shown_held : register.shown entry ∈ register.statuses := by
  rw [shown_eq]
  cases found : register.worst entry.id with
  | none => exact register.entryStatus entry held
  | some scope =>
    have member : scope ∈ register.applying entry.id := mem_inOrder.mp (List.mem_of_mem_head? found)
    exact register.scopeStatus scope (List.mem_of_mem_filter member)

theorem find_shown : register.statuses.find? (·.id == register.shownStatusId entry) = some (register.shown entry) := by
  rw [← shown_id]
  cases found : register.statuses.find? (·.id == (register.shown entry).id) with
  | none =>
    have absent := List.find?_eq_none.mp found _ (shown_held held)
    simp at absent
  | some status =>
    have named := List.find?_some found
    have same : status.id = (register.shown entry).id := beq_iff_eq.mp named
    rw [register.oneStatus status (List.mem_of_find?_eq_some found) _ (shown_held held) same]

theorem overlayOf_status (order : List String) : (register.overlayOf order entry).complianceStatus =
      if register.answer entry = .applies then some (register.statusRef order (register.shown entry)) else none := by
  unfold overlayOf
  dsimp only
  rw [find_shown held]
  rfl

end

theorem overlayOn_eq {obligations : List Id} {obligation : Id} (listed : obligation ∈ obligations)
    (order : List String) : register.overlayOn obligations order obligation =
      ((register.entries.find? (·.obligation == obligation)).map (register.overlayOf order)).getD .empty := by
  have search : ∀ entry ∈ register.entries, decide ((entry.tenant == register.tenant &&
      obligations.contains entry.obligation) = true ∧ (entry.obligation == obligation) = true) =
        (entry.obligation == obligation) := by
    intro entry member
    by_cases same : entry.obligation = obligation
    · simp [same, listed, register.own entry member]
    · simp [same]
  unfold overlayOn overlay
  rw [List.find?_map, Option.map_map, List.find?_filter]
  exact congrArg (fun found : Option TenantObligation => (found.map (register.overlayOf order)).getD .empty)
    (List.find?_congr search)

/-- The overlay looks up the status the obligation's own page folds, whatever the entities answered;
and on every obligation of a page it shows that status where the obligation applies, and none where it
does not. -/
theorem overlay_agrees (register : RegisterTables Name) :
    (∀ entry ∈ register.entries,
      register.statuses.find? (·.id == register.shownStatusId entry) = some (register.shown entry)) ∧
    ∀ order obligations obligation, obligation ∈ obligations → ∀ read,
      register.readRegister order obligation = .ok read →
      let row := register.overlayOn obligations order obligation
      row.complianceStatus = if row.applicability = .applies then some read.complianceStatus else none := by
  refine ⟨fun entry held => find_shown held, ?_⟩
  intro order obligations obligation listed read found row
  simp only [readRegister, bind_ok, require_ok] at found
  obtain ⟨-, -, found⟩ := found
  have overlaid : row = _ := overlayOn_eq listed order
  cases held : register.entries.find? (·.obligation == obligation) with
  | none =>
    rw [overlaid, held]
    rfl
  | some entry =>
    rw [held] at found
    obtain rfl := Except.ok.inj found
    rw [overlaid, held]
    exact overlayOf_status (List.mem_of_find?_eq_some held) order

end RegisterTables

def compliant : ComplianceStatus := { id := 1, key := "compliant", kind := .compliant, isDefault := true }

def gap : ComplianceStatus := { id := 2, key := "gap", kind := .gap }

/-- A bank with one entry, and an entity that applies beside one that was not asked. -/
def oneEntry (answer entity : Applicability) : RegisterTables String where
  tenant := 10
  obligations := [20]
  statuses := [compliant, gap]
  statusLabels := []
  teamLabels := []
  entries := [{ id := 30, tenant := 10, obligation := 20, decision := { applicability := answer }
                complianceStatus := compliant }]
  scopes := [{ id := 40, tenantObligation := 30, orgUnit := { id := 50, name := "Fund company" }
               decision := { applicability := entity }, complianceStatus := gap },
    { id := 41, tenantObligation := 30, orgUnit := { id := 51, name := "Bank" }, complianceStatus := compliant }]
  own := by simp
  oneStatus := by decide
  oneEntry := by simp
  oneScope := by simp
  entryStatus := by simp
  scopeStatus := by simp

def gapRef : VocabRef ComplianceCategory := { key := "gap", kind := .gap, label := "gap" }

/-- The gap of the entity that applies is shown in both places. -/
theorem gap_shown : ((oneEntry .notAssessed .applies).overlayOn [20] [] 20).complianceStatus = some gapRef := by
  obtain ⟨-, agrees⟩ := RegisterTables.overlay_agrees (oneEntry .notAssessed .applies)
  exact (agrees [] [20] 20 (by decide) _ rfl).trans (by decide +kernel)

/-- Where the obligation does not apply, its page goes on showing the entry's status, and the overlay
shows none. -/
theorem hidden_status :
    ((oneEntry .doesNotApply .notAssessed).readRegister [] 20).map (·.complianceStatus.key) = .ok "compliant" ∧
      ((oneEntry .doesNotApply .notAssessed).overlayOn [20] [] 20).complianceStatus = none :=
  ⟨by decide +kernel, by decide +kernel⟩

end Grc.Register
