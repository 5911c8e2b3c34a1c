import Grc.Lib.Numbering
import Grc.Proposals.ProvenanceRuns

/-! The versions of obligations and of provisions, and the approvals that file them: what each reads under its lock, what it writes, and the
overlap of approvals in which one reads before another has written. -/
namespace Grc.Proposals

open Grc.Shared Grc.Lib Grc.Library

variable {Rule : Type}

/-- A record that versions are filed under. -/
inductive Versioned where
  | obligation (id : Id)
  | provision (id : Id)
  deriving DecidableEq

def Versioned.id : Versioned → Id
  | obligation id | provision id => id

/-- A version of a record, with its texts. -/
structure Version where
  id : Id
  number : Nat
  effectiveFrom : Option Day
  effectiveFromPrecision : String
  texts : List Translation

def obligationView (texts : List Translation) (row : ObligationVersion) : Version where
  id := row.id
  number := row.versionNumber
  effectiveFrom := row.effectiveFrom
  effectiveFromPrecision := row.effectiveFromPrecision
  texts := texts.filter (·.holder == row.id)

def provisionView (texts : List Translation) (row : ProvisionVersion) : Version where
  id := row.id
  number := row.versionNumber
  effectiveFrom := row.effectiveFrom
  effectiveFromPrecision := row.effectiveFromPrecision
  texts := texts.filter (·.holder == row.id)

def history (records : Records) : Versioned → List Version
  | .obligation id => (records.versions.filter (·.obligation == id)).map (obligationView records.summaries)
  | .provision id => (records.provisionVersions.filter (·.provision == id)).map (provisionView records.provisionTexts)

def numberedKinds : List ProposalKind := [.newObligation, .newObligationVersion, .newProvision, .newProvisionVersion]

/-- The record an approval locks before it reads the highest number. -/
def Approved.locks (approved : Approved) : Option Versioned :=
  match approved.filed.kind with
  | .newObligationVersion => approved.filed.targetId.map .obligation
  | .newProvisionVersion => approved.filed.targetId.map .provision
  | _ => none

section Plan
variable (platform : Platform Rule) (approved : Approved) (records : Records)

def keyFree (held : Records → List String) (key : String) (refused : Refusal) : Writing Unit :=
  Tx.check fun records => require (key ∉ held records) refused

/-- `_new_obligation`, up to its first write. -/
def plannedObligation (payload : ObligationPayload) : Except Refusal (Writing Unit) := do
  let filed := approved.filed
  let (payload, instrument, terms) ← validatedObligation platform records approved.zone payload filed.ownerTenant
  standardsCheck platform records approved.zone filed.kind instrument (some (terms.map (·.id))) filed.fieldSources (some payload.refLabel)
    filed.sourceLabel
  let dutyType ← records.liveDutyType payload.dutyType
  .ok (keyFree (·.obligations.map (·.stableKey)) payload.key (duplicateKey "That key is already an obligation's key.") >>= fun _ =>
    writeObligation approved.now filed approved.actor approved.reviewer approved.stepUp payload instrument terms dutyType)

/-- `_obligation_version`, up to its first write: the highest number is read under the obligation's lock. -/
def plannedObligationVersion (payload : ObligationVersionPayload) : Except Refusal (Writing Unit) := do
  let filed := approved.filed
  let target ← demand filed.targetId internalError
  let obligation ← records.activeObligation target
  let terms ← versionScope records payload.terms
  let instrument ← demand (records.instrumentOf obligation.instrument) internalError
  standardsCheck platform records approved.zone filed.kind instrument (payload.terms.map fun _ => terms.map (·.id)) filed.fieldSources none
    filed.sourceLabel
  let last := highest ((records.versions.filter (·.obligation == obligation.id)).map (·.versionNumber))
  .ok (writeObligationVersion approved.now filed approved.actor approved.reviewer approved.stepUp payload obligation terms last)

/-- `_new_provision`, up to its first write. -/
def plannedProvision (payload : ProvisionPayload) : Except Refusal (Writing Unit) := do
  let filed := approved.filed
  let (payload, instrument, parent, kind) ← validatedProvision platform records approved.zone payload
  standardsCheck platform records approved.zone filed.kind instrument none filed.fieldSources none filed.sourceLabel
  .ok (keyFree (·.provisions.map (·.stableKey)) payload.key internalError >>= fun _ =>
    writeProvision approved.now filed approved.actor approved.reviewer approved.stepUp payload instrument parent kind)

/-- `_provision_version`, up to its first write. -/
def plannedProvisionVersion (payload : ProvisionVersionPayload) : Except Refusal (Writing Unit) := do
  let filed := approved.filed
  let target ← demand filed.targetId internalError
  let (provision, instrument) ← records.activeProvision target
  standardsCheck platform records approved.zone filed.kind instrument none filed.fieldSources none filed.sourceLabel
  let last := highest ((records.provisionVersions.filter (·.provision == provision.id)).map (·.versionNumber))
  .ok (writeProvisionVersion approved.now filed approved.actor approved.reviewer approved.stepUp payload provision last)

/-- The branch of a kind that files a version. -/
def plannedKind : ProposalKind → Payload → Except Refusal (Writing Unit)
  | .newObligation, .obligation payload => plannedObligation platform approved records payload
  | .newObligationVersion, .obligationVersion payload => plannedObligationVersion platform approved records payload
  | .newProvision, .provision payload => plannedProvision platform approved records payload
  | .newProvisionVersion, .provisionVersion payload => plannedProvisionVersion platform approved records payload
  | _, _ => .error internalError

/-- What an approval that files a version reads and checks, and the writes it goes on to. -/
def planned : Except Refusal (Writing Unit) := do
  let payload ← parsedPayload platform approved.filed.kind approved.filed.payload
  ownKind approved.filed
  plannedKind platform approved records approved.filed.kind payload

end Plan

section Decomposed
variable {platform : Platform Rule} {approved : Approved} {records after : Records} {answer : Unit}

end Decomposed

end Grc.Proposals

/-! What an approval that files no version leaves of the versions: every one of them, with its texts. -/
namespace Grc.Proposals

open Grc.Shared Grc.Lib Grc.Library

variable {Rule : Type} {platform : Platform Rule} {now : Now} {zone : Option Id}

/-- The versions with their texts, and the records they are filed under. -/
structure Shelf where
  versions : List ObligationVersion
  summaries : List Translation
  provisionVersions : List ProvisionVersion
  provisionTexts : List Translation
  obligations : List Id
  provisions : List Id
  deriving DecidableEq

def shelf (records : Records) : Shelf where
  versions := records.versions
  summaries := records.summaries
  provisionVersions := records.provisionVersions
  provisionTexts := records.provisionTexts
  obligations := records.obligations.map (·.id)
  provisions := records.provisions.map (·.id)

/-- The shelf stays, and no primary key comes back. -/
structure Sealed (before after : Records) : Prop where
  shelf : shelf after = shelf before
  nextId : before.nextId ≤ after.nextId

instance {before after : Records} : Decidable (Sealed before after) :=
  decidable_of_iff (Proposals.shelf after = Proposals.shelf before ∧ before.nextId ≤ after.nextId)
    ⟨fun both => ⟨both.1, both.2⟩, fun kept => ⟨kept.shelf, kept.nextId⟩⟩

instance : IsPreorder Records Sealed where
  refl _ := ⟨rfl, Nat.le_refl _⟩
  trans _ _ _ first second := ⟨second.shelf.trans first.shelf, Nat.le_trans first.nextId second.nextId⟩

theorem created_sealed {make : Id → Records → Records} (kept : ∀ id records, shelf (make id records) = shelf records) :
    (created make).Keeps Sealed :=
  fun records => ⟨kept records.nextId records, Nat.le_succ _⟩

theorem write_sealed {change : Records → Records} (kept : ∀ records, shelf (change records) = shelf records)
    (drawn : ∀ records, (change records).nextId = records.nextId) : (Tx.write change : Writing PUnit).Keeps Sealed :=
  .write fun records => ⟨kept records, (drawn records).ge⟩

theorem audited_sealed (event : AuditEvent) : (audited event).Keeps Sealed := write_sealed (fun _ => rfl) fun _ => rfl

theorem reindex_sealed (id : Id) : (reindex now id).Keeps Sealed := .bind (.check _) fun _ => write_sealed (fun _ => rfl) fun _ => rfl

variable {filed : Filed} {actor : Actor} {reviewer : Reviewer} {stepUp : Option Id}

theorem newInstrument_sealed (payload : InstrumentPayload) :
    (newInstrument platform zone payload filed actor reviewer stepUp).Keeps Sealed := by
  refine .bind (.check _) ?_
  rintro ⟨payload, refs, regime⟩
  refine .bind (.check _) fun _ => .bind (created_sealed fun _ _ => rfl) fun instrument => ?_
  exact .bind (write_sealed (fun _ => rfl) fun _ => rfl) fun _ => audited_sealed _

theorem newRecurringDuty_sealed (payload : RecurringDutyPayload) :
    (newRecurringDuty platform now payload filed actor reviewer stepUp).Keeps Sealed := by
  refine .bind (.check _) fun target => .bind (.check _) fun obligation => .bind (.check _) ?_
  rintro ⟨payload, authority⟩
  refine .bind (.check _) fun _ => .bind (created_sealed fun _ _ => rfl) fun row => ?_
  exact .bind (reindex_sealed _) fun _ => audited_sealed _

theorem ensureRegisterEntry_sealed (tenant obligation : Id) : (ensureRegisterEntry tenant obligation actor).Keeps Sealed := by
  refine .bind (.check _) fun existing => ?_
  cases existing with
  | some entry => exact .pure _
  | none => exact .bind (created_sealed fun _ _ => rfl) fun id => .bind (audited_sealed _) fun _ => .pure _

theorem controlItem_sealed (tenant : Id) (kind : LinkKind) (entry : RegisterEntry) (payload : ControlPayload) :
    (controlItem tenant kind entry payload filed actor stepUp).Keeps Sealed := by
  refine .bind (.check _) fun held => ?_
  cases held with
  | some item => exact .bind (.check _) fun _ => .bind (.check _) fun _ => .pure _
  | none => exact .bind (created_sealed fun _ _ => rfl) fun id => .bind (audited_sealed _) fun _ => .pure _

theorem applyControlBy_sealed (payload : ControlPayload) : (applyControlBy payload filed actor reviewer stepUp).Keeps Sealed := by
  unfold applyControlBy
  split
  · exact .refuse _
  · refine .bind (.check _) fun owner => .bind (.check _) fun payload => .bind (.check _) fun obligation => ?_
    refine .bind (.check _) fun kind => .bind (ensureRegisterEntry_sealed _ _) fun entry => ?_
    exact .bind (controlItem_sealed _ _ _ _) fun item => .bind (created_sealed fun _ _ => rfl) fun link => audited_sealed _

theorem obligationScope_sealed (payload : ObligationScopePayload) (rows : List BatchRow) :
    (obligationScope platform now zone payload rows filed actor stepUp).Keeps Sealed := by
  refine .bind (.check _) fun added => .bind (.check _) fun scopes => ?_
  refine .bind (.each (fun _ => .check _) _) fun _ => .bind (.check _) fun before => ?_
  refine .bind (.each (fun row => ?_) _) fun _ => .each (fun row => reindex_sealed _) _
  exact .bind (audited_sealed _) fun _ => write_sealed (fun _ => rfl) fun _ => rfl

section Lists

theorem mirroredTermFollows_sealed (jurisdiction : ListRow) (labels : Dict String) (sortOrder : Option Nat) (by_ : Option Reviewer)
    (term : Term) : (mirroredTermFollows jurisdiction labels sortOrder filed actor by_ stepUp term).Keeps Sealed := by
  refine .bind (.check _) fun before => ?_
  dsimp only
  split
  · refine .bind (write_sealed (fun records => ?_) fun records => ?_) fun _ => ?_
    · cases if labels = [] then none else by_ <;> rfl
    · cases if labels = [] then none else by_ <;> rfl
    · exact .bind (write_sealed (fun _ => rfl) fun _ => rfl) fun _ => audited_sealed _
  · exact .pure _

theorem vocabularyCreate_sealed (payload : VocabularyCreatePayload) :
    (vocabularyCreate platform payload filed actor reviewer stepUp).Keeps Sealed := by
  refine .bind (.check _) fun entry => .bind (.check _) fun _ => .bind (.check _) fun columns => ?_
  refine .bind (created_sealed fun _ _ => rfl) fun row => ?_
  exact .bind (write_sealed (fun _ => rfl) fun _ => rfl) fun _ => audited_sealed _

theorem vocabularyRelabel_sealed (payload : VocabularyRelabelPayload) :
    (vocabularyRelabel platform payload filed actor reviewer stepUp).Keeps Sealed := by
  refine .bind (.check _) fun entry => .bind (.check _) fun row => .bind (.check _) fun before => .bind (.check _) fun columns => ?_
  refine .bind (write_sealed (fun _ => rfl) fun _ => rfl) fun _ => .bind (write_sealed (fun _ => rfl) fun _ => rfl) fun _ => ?_
  refine .bind (.check _) fun mirrors => .bind (.each (fun term => ?_) _) fun _ => audited_sealed _
  exact mirroredTermFollows_sealed _ _ _ _ _

theorem vocabularyActive_sealed (payload : VocabularyRetirePayload) (active : Bool) :
    (vocabularyActive payload filed actor stepUp active).Keeps Sealed := by
  refine .bind (.check _) fun entry => .bind (.check _) fun row => .bind (.check _) fun _ => .bind (.check _) fun _ => ?_
  refine .bind (write_sealed (fun _ => rfl) fun _ => rfl) fun _ => .bind (.check _) fun mirrors => ?_
  exact .bind (.each (mirroredTermFollows_sealed _ _ _ _) _) fun _ => audited_sealed _

theorem moveLink_sealed (source target : Id) (link : Link) (records : Records) : Sealed records (moveLink source target link records) := by
  have same : ∀ {Row : Type} (key : Row → Id) (moves : Row → Prop) [DecidablePred moves] (move : Row → Row) (rows : List Row),
      (∀ row, key (move row) = key row) → (rows.map fun row => if moves row then move row else row).map key = rows.map key := by
    intro Row key moves _ move rows kept
    rw [List.map_map]
    refine List.map_congr_left fun row _ => ?_
    rw [Function.comp_apply]
    split
    · exact kept row
    · rfl
  cases link with
  | instrumentLevel => exact ⟨rfl, Nat.le_refl _⟩
  | provisionKind =>
    refine ⟨?_, Nat.le_refl _⟩
    simp only [shelf, moveLink, Shelf.mk.injEq, true_and]
    exact same _ _ _ _ fun _ => rfl
  | obligationDutyType =>
    refine ⟨?_, Nat.le_refl _⟩
    simp only [shelf, moveLink, Shelf.mk.injEq, true_and, and_true]
    exact same _ _ _ _ fun _ => rfl
  | carried table unique => exact ⟨rfl, Nat.le_refl _⟩

theorem moveAll_sealed (source target : ListRow) (payload : VocabularyMergePayload) (links : List Link) :
    (moveAll source target payload links).Keeps Sealed := by
  induction links with
  | nil => exact .pure _
  | cons link rest ih =>
    refine .bind ?_ fun _ => .bind ih fun _ => .pure _
    exact .bind (.check _) fun _ => .bind (.check _) fun _ => .bind (.write fun records => moveLink_sealed _ _ link records)
      fun _ => .pure _

theorem vocabularyMerge_sealed (payload : VocabularyMergePayload) : (vocabularyMerge payload filed actor stepUp).Keeps Sealed := by
  refine .bind (.check _) fun entry => .bind (.check _) ?_
  rintro ⟨source, target⟩
  refine .bind (.check _) fun _ => .bind (.atomic (moveAll_sealed _ _ _ _)) fun moves => ?_
  exact .bind (write_sealed (fun _ => rfl) fun _ => rfl) fun _ => audited_sealed _

theorem termCreate_sealed (payload : TermCreatePayload) : (termCreate platform payload filed actor reviewer stepUp).Keeps Sealed := by
  refine .bind (.check _) fun dimension => .bind (.check _) fun _ => .bind (.check _) fun parent => ?_
  refine .bind (created_sealed fun _ _ => rfl) fun term => ?_
  exact .bind (write_sealed (fun _ => rfl) fun _ => rfl) fun _ => audited_sealed _

theorem termUpdate_sealed (payload : TermUpdatePayload) : (termUpdate payload filed actor reviewer stepUp).Keeps Sealed := by
  refine .bind (.check _) fun dimension => .bind (.check _) fun term => .bind (.check _) fun before => ?_
  refine .bind (write_sealed (fun _ => rfl) fun _ => rfl) fun _ => .bind (write_sealed (fun _ => rfl) fun _ => rfl) fun _ => ?_
  exact audited_sealed _

end Lists

theorem apply_sealed {rows : List BatchRow} (other : filed.kind ∉ numberedKinds) :
    (apply platform now zone filed actor reviewer stepUp rows).Keeps Sealed := by
  unfold apply
  split
  · exact .bind (.check _) fun payload => .bind (.check _) fun _ => obligationScope_sealed payload rows
  · refine .bind (.check _) fun payload => .bind (.check _) fun _ => ?_
    generalize filed.kind = kind at other
    unfold applyKind
    split
    · exact vocabularyCreate_sealed _
    · exact vocabularyRelabel_sealed _
    · exact vocabularyActive_sealed _ _
    · exact vocabularyActive_sealed _ _
    · exact vocabularyMerge_sealed _
    · exact termCreate_sealed _
    · exact termUpdate_sealed _
    · exact absurd (by decide) other
    · exact newInstrument_sealed _
    · exact absurd (by decide) other
    · exact absurd (by decide) other
    · exact absurd (by decide) other
    · exact newRecurringDuty_sealed _
    · exact applyControlBy_sealed _
    · exact .refuse _

end Grc.Proposals
