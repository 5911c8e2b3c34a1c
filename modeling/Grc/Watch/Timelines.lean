import Grc.Lib.Locks
import Grc.Lib.Runs
import Grc.Watch.Sightings

/-! The timelines of changes while several calls write to them. A label is looked up and written in two
statements with no lock between them, a correction looks no label up, and a first registration writes its
list as it came; nothing in the database keeps two milestones of a change apart. -/
namespace Grc.Watch

open Grc.Shared Grc.Lib Grc.Library

/-- A call under way, with what it has found. -/
inductive TimelineWork where
  /-- A second sighting: the entries it has yet to look up, and those it has added. -/
  | sighting (change : Id) (left added : List ChangeEventInput)
  /-- An `add_event` that found no milestone of its label. -/
  | adding (change : Id) (entry : ChangeEventInput)
  /-- An `update_event` that has found its milestone. -/
  | correcting (change event : Id) (entry : ChangeEventInput)
  /-- An `add_document` that found neither its page nor, for a primary one, a primary page. -/
  | attaching (now : Now) (change : Id) (page : ChangeDocumentInput) (flags : List String)

structure TimelineDesk where
  tables : Tables := {}
  underway : List (Id × TimelineWork) := []

inductive TimelineStep where
  /-- A registration under a key the library does not hold. Nobody sees its change before it commits. -/
  | register (who : Principal) (actor : Actor) (now : Now) (body : ChangeInput)
  | sight (call change : Id) (entries : List ChangeEventInput)
  | look (call : Id)
  | add (call change : Id) (entry : ChangeEventInput)
  | correct (call change event : Id) (entry : ChangeEventInput)
  | attach (call change : Id) (now : Now) (page : ChangeDocumentInput)
  | commit (call : Id)
  | abort (call : Id)

def ChangeEvent.restated (entry : ChangeEventInput) (event : ChangeEvent) : ChangeEvent := entry.row event.change event.id

namespace TimelineDesk

def begins (desk : TimelineDesk) (call : Id) (work : TimelineWork) : Except Refusal TimelineDesk := do
  require (∀ each ∈ desk.underway, each.1 ≠ call) internalError
  .ok { desk with underway := desk.underway ++ [(call, work)] }

/-- What a call that commits leaves of the tables. -/
def committed (tables : Tables) : TimelineWork → Except Refusal Tables
  | .sighting change [] added => .ok (tables.addEvents change added)
  | .sighting _ (_ :: _) _ => .error internalError
  | .adding change entry => .ok (tables.addEvents change [entry])
  | .correcting _ event entry => .ok { tables with
      events := tables.events.update (·.id == event) (ChangeEvent.restated entry) fun _ => rfl }
  | .attaching now change page flags =>
    match (addDocumentRow now change page flags page.isDuplicate).execute tables with
    | (.ok _, after) => .ok after
    | (.error refusal, _) => .error refusal

def step (desk : TimelineDesk) : TimelineStep → Except Refusal TimelineDesk
  | .register who actor now body => do
    require (changeWithStableKey desk.tables body.stableKey = none) internalError
    match (serve { who, actor, now, call := .register body }).execute desk.tables with
    | (.ok _, tables) => .ok { desk with tables }
    | (.error refusal, _) => .error refusal
  | .sight call change entries => do
    let change ← changeFor desk.tables change
    desk.begins call (.sighting change.id entries [])
  | .look call =>
    match heldBy desk.underway call with
    | some (.sighting change (entry :: rest) added) =>
      let known := eventWithLabel desk.tables change entry.label ≠ none ∨ entry.label ∈ added.map (·.label)
      let added := if known then added else added ++ [entry]
      .ok { desk with underway := putBy desk.underway call (.sighting change rest added) }
    | _ => .error internalError
  | .add call change entry => do
    let change ← changeFor desk.tables change
    match eventWithLabel desk.tables change.id entry.label with
    | some event => do
      require (valuesOf event = postedValues entry) { code := "duplicate_key", detail := "" }
      .ok desk
    | none => desk.begins call (.adding change.id entry)
  | .correct call change event entry => do
    let change ← changeFor desk.tables change
    let event ← eventFor desk.tables change.id event
    desk.begins call (.correcting change.id event.id entry)
  | .attach call change now page => do
    let change ← changeFor desk.tables change
    require (documentWithUrl desk.tables change.id page.url = none) internalError
    require (page.isPrimary = true → primaryPages desk.tables change.id = []) (validationError "This change already has a primary page. Attach the new one as a further page, or correct the one that is already there.")
    desk.begins call (.attaching now change.id page (screened now [change.title, change.summary]))
  | .commit call => do
    let work ← demand (heldBy desk.underway call) internalError
    let tables ← committed desk.tables work
    .ok { tables, underway := withoutBy desk.underway call }
  | .abort call => .ok { desk with underway := withoutBy desk.underway call }

end TimelineDesk

/-- What is promised of the timelines: the labels of each are apart, and a label finds one milestone at most. -/
structure LabelsApart (tables : Tables) : Prop where
  distinct : ∀ change, (labelsOf tables change).Nodup
  one : ∀ change label, (tables.events.rows.filter fun event => event.change == change && event.label == label).length ≤ 1

def LabelsKept (desk : TimelineDesk) (steps : List TimelineStep) : Prop :=
  ∀ first, first <+: steps → LabelsApart (run TimelineDesk.step desk first).tables

/-- What a committing call writes is new: none of the labels it adds was committed on the change since it
looked, and no other milestone of the change has the label a correction gives. -/
def TimelineWork.New (tables : Tables) : TimelineWork → Prop
  | sighting change _ added => ∀ entry ∈ added, entry.label ∉ labelsOf tables change
  | adding change entry => entry.label ∉ labelsOf tables change
  | correcting change event entry => ∀ other ∈ tables.events.rows, other.change = change → other.id ≠ event → other.label ≠ entry.label
  | attaching _ _ _ _ => True

instance (tables : Tables) (work : TimelineWork) : Decidable (work.New tables) := by
  unfold TimelineWork.New
  split <;> infer_instance

/-- A first registration's own list repeats no label, and a call that commits writes new labels. -/
def TimelineDesk.LabelsNew (desk : TimelineDesk) : TimelineStep → Prop
  | .register _ _ _ body => (body.events.map (·.label)).Nodup
  | .commit call => ∀ work ∈ heldBy desk.underway call, work.New desk.tables
  | _ => True

instance (desk : TimelineDesk) (step : TimelineStep) : Decidable (desk.LabelsNew step) := by
  unfold TimelineDesk.LabelsNew
  split <;> infer_instance

/-- Two pages attached at a time: each call finds no primary page, and both attach one. -/
def twoPrimaries : List TimelineStep :=
  [.register (reviewer 8) { kind := .user } twoFlags (sighting []),
    .attach 1 0 twoFlags { url := "one", isPrimary := true }, .attach 2 0 twoFlags { url := "two", isPrimary := true }, .commit 1, .commit 2]

/-- Sighted again, the change they were attached to keeps both. -/
theorem twoPrimaries_remain : ∃ change, changeWithStableKey (run TimelineDesk.step {} twoPrimaries).tables (sighting []).stableKey = some change ∧
    ¬Additive (run TimelineDesk.step {} twoPrimaries).tables change (sightingRequest []) (sighting []) := by
  have held : (changeWithStableKey (run TimelineDesk.step {} twoPrimaries).tables "reform").isSome = true := by decide +kernel
  obtain ⟨change, known⟩ := Option.isSome_iff_exists.mp held
  refine ⟨change, known, fun additive => ?_⟩
  have named : change.id = 0 := by
    have same : (changeWithStableKey (run TimelineDesk.step {} twoPrimaries).tables "reform").map (·.id) = some 0 := by decide +kernel
    rw [known] at same
    exact Option.some.inj same
  have both : (primaryPages ((serve (sightingRequest [])).left (run TimelineDesk.step {} twoPrimaries).tables) 0).length = 2 := by decide +kernel
  have one := additive.primary
  rw [named, both] at one
  exact absurd one (by decide)

end Grc.Watch
