import Grc.Lib.Runs
import Grc.Lib.Texts
import Grc.Watch.Models

/-! The source registry: what a run may check, registered and changed by calls that read a row, decide, and write the columns sent. -/
namespace Grc.Watch

open Grc.Shared Grc.Lib Grc.Library

def standardsBody : String := "standards_body"

def sourceKindList : String := "source_kind"

inductive CheckFrequency where
  | daily
  | weekly
  | monthly

/-- An address the schema has read: its host is decoded. -/
structure PageUrl where
  text : String
  decoded : '%' ∉ hostText text.toList

/-- `STANDARDS_PUBLISHER_HOSTS`, as the environment lists it. -/
structure PublisherHosts where
  listed : List String
  named : ∀ host ∈ listed, host.toList ≠ []

def PublisherHosts.lowered (hosts : PublisherHosts) : List (List Char) := hosts.listed.map fun host => lowerName host.toList

structure Source where
  id : Id
  name : String
  url : Option PageUrl := none
  kind : String
  authority : Option Id := none
  checkFrequency : CheckFrequency := .daily
  active : Bool := true

structure SourceInput where
  name : String
  url : Option PageUrl := none
  kind : String
  authorityId : Option Id := none
  checkFrequency : CheckFrequency := .daily

/-- A field left out, and one sent as null, is left alone. -/
structure SourcePatch where
  url : Option PageUrl := none
  checkFrequency : Option CheckFrequency := none
  active : Option Bool := none

/-- The columns sent, written over a row. -/
def SourcePatch.apply (patch : SourcePatch) (row : Source) : Source :=
  { row with
    url := patch.url <|> row.url
    checkFrequency := patch.checkFrequency.getD row.checkFrequency
    active := patch.active.getD row.active }

/-- `fields`: some column was sent. -/
def SourcePatch.writes (patch : SourcePatch) : Bool := patch.url.isSome || patch.checkFrequency.isSome || patch.active.isSome

/-- A call that has read its row and not written it yet. -/
structure SourceUpdate where
  read : Source
  patch : SourcePatch

/-- The registry as committed, and the updates under way. -/
structure Registry where
  sources : Keyed Source.id := {}
  updates : List (Id × SourceUpdate) := []
  audit : List AuditEvent := []

def addressText (url : Option PageUrl) : List Char := (url.map fun page => page.text.toList).getD []

def onAPublisherHost (hosts : PublisherHosts) (url : Option PageUrl) : Bool :=
  let host := rootless (hostname (addressText url))
  hosts.lowered.any fun listed => host == listed || ('.' :: listed).isSuffixOf host

def frequencyText : CheckFrequency → String
  | .daily => "daily"
  | .weekly => "weekly"
  | .monthly => "monthly"

/-- `_values_of`. -/
def Source.values (source : Source) : List (String × AuditValue) :=
  [("name", .text source.name), ("url", .ofText (source.url.map (·.text))),
    ("checkFrequency", .text (frequencyText source.checkFrequency)), ("active", .flag source.active)]

def sourceEvent (actor : Actor) (action summary : String) (source : Source) (before after : List (String × AuditValue)) : AuditEvent where
  action := action
  actor := actor
  subjectType := "source"
  subjectId := some source.id
  subjectTitle := source.name
  summary := actor.label ++ summary
  tenantId := none
  before := before
  after := after

def authorityWithId (records : Records) (id : Id) : Except Refusal Id :=
  (demand (records.authorities.find? (·.id == id)) {
    code := "unknown_key"
    detail := "Not an authority of the library: " ++ toString id ++ ". GET /authorities lists them." }).map (·.id)

variable (records : Records) (hosts : PublisherHosts) (registry : Registry)

def createSource (actor : Actor) (body : SourceInput) : Except Refusal Registry := do
  let _ ← resolveKeys records sourceKindList [body.kind]
  let authority ← optionally (authorityWithId records) body.authorityId
  require (∀ source ∈ registry.sources.rows, source.name ≠ body.name) {
    code := "duplicate_key"
    detail := "A source called " ++ quoted body.name ++ " is already registered. The registry is shared, so " ++
      "one name names one place; change the one that exists instead." }
  let make (id : Id) : Source := {
    id, name := body.name, url := body.url, kind := body.kind, authority, checkFrequency := body.checkFrequency
    active := !(body.kind == standardsBody || onAPublisherHost hosts body.url) }
  .ok { registry with
    sources := registry.sources.create make fun _ => rfl
    audit := record registry.audit (sourceEvent actor "source.registered" " registered a source for the agents to check."
      (make registry.sources.fresh) [] (make registry.sources.fresh).values) }

def sourceForWrite (id : Id) : Except Refusal Source := demand (registry.sources.rows.find? (·.id == id)) notFound

def publisherAddress : Refusal where
  code := "validation_error"
  detail := "This address is a standards publisher's, which no run reads until a lawyer has cleared its terms. Its checks stay off; the host leaves STANDARDS_PUBLISHER_HOSTS when they are cleared."

/-- `update_source`, up to its write. -/
def beginUpdate (call source : Id) (patch : SourcePatch) : Except Refusal Registry := do
  require (∀ each ∈ registry.updates, each.1 ≠ call) internalError
  let row ← sourceForWrite registry source
  let edited := patch.apply row
  require (¬(edited.active = true ∧ onAPublisherHost hosts edited.url = true)) publisherAddress
  .ok { registry with updates := registry.updates ++ [(call, { read := row, patch })] }

/-- `save(update_fields=…)`, of the columns sent. -/
def writeSource (update : SourceUpdate) : Registry :=
  if update.patch.writes = true then
    { registry with sources := registry.sources.update (·.id == update.read.id) update.patch.apply fun _ => rfl }
  else registry

/-- `update_source`, from its write to its commit. -/
def saveUpdate (call : Id) (actor : Actor) : Except Refusal Registry := do
  let (_, update) ← demand (registry.updates.find? (·.1 == call)) internalError
  .ok { writeSource registry update with
    updates := registry.updates.filter (·.1 ≠ call)
    audit := record registry.audit (sourceEvent actor "source.updated" " changed a registered source." update.read
      update.read.values (update.patch.apply update.read).values) }

/-- What may happen next to the registry. -/
inductive RegistryStep where
  | create (actor : Actor) (body : SourceInput)
  | beginUpdate (call source : Id) (patch : SourcePatch)
  | saveUpdate (call : Id) (actor : Actor)
  /-- A call fails and is rolled back. -/
  | abort (call : Id)

def Registry.step : RegistryStep → Except Refusal Registry
  | .create actor body => createSource records hosts registry actor body
  | .beginUpdate call source patch => Watch.beginUpdate hosts registry call source patch
  | .saveUpdate call actor => Watch.saveUpdate registry call actor
  | .abort call => .ok { registry with updates := registry.updates.filter (·.1 ≠ call) }

end Grc.Watch

/-! Runs of the registry: no source is active on a standards publisher's host while every update is saved over a row it leaves so. -/
namespace Grc.Watch

open Grc.Shared Grc.Lib Grc.Library

/-- An address is on a publisher's host or below one, whatever its case and with or without the root's dots. -/
def OnPublisherHost (hosts : PublisherHosts) (url : Option PageUrl) : Prop :=
  ∃ page ∈ url, ∃ listed ∈ hosts.lowered, InDomain listed (rootless (lowerName (hostText page.text.toList)))

def Registry.NoneRead (hosts : PublisherHosts) (registry : Registry) : Prop :=
  ∀ source ∈ registry.sources.rows, source.active = true → ¬OnPublisherHost hosts source.url

/-- An update is saved over a row that the columns it was sent do not make active on a publisher's host. -/
def LeavesOff (hosts : PublisherHosts) (registry : Registry) : RegistryStep → Prop
  | .saveUpdate call _ => ∀ each ∈ registry.updates.find? (·.1 == call), ∀ row ∈ registry.sources.rows, row.id = each.2.read.id →
    ¬((each.2.patch.apply row).active = true ∧ onAPublisherHost hosts (each.2.patch.apply row).url = true)
  | _ => True

instance (hosts : PublisherHosts) (registry : Registry) (step : RegistryStep) : Decidable (LeavesOff hosts registry step) := by
  cases step <;> unfold LeavesOff <;> infer_instance

variable {records : Records} {hosts : PublisherHosts} {registry next : Registry} {update : SourceUpdate}

theorem lowered_ne_nil {listed : List Char} (there : listed ∈ hosts.lowered) : listed ≠ [] := by
  obtain ⟨host, member, rfl⟩ := List.mem_map.mp there
  rw [lowerName, ne_eq, List.map_eq_nil_iff]
  exact hosts.named host member

theorem onAPublisherHost_iff {url : Option PageUrl} : onAPublisherHost hosts url = true ↔ OnPublisherHost hosts url := by
  unfold onAPublisherHost OnPublisherHost
  simp only [List.any_eq_true, Bool.or_eq_true, beq_iff_eq, List.isSuffixOf_iff_suffix]
  cases url with
  | none =>
    have empty : rootless (hostname (addressText none)) = [] := rfl
    rw [empty]
    constructor
    · rintro ⟨listed, there, rfl | below⟩
      · exact absurd rfl (lowered_ne_nil there)
      · exact absurd (List.suffix_nil.mp below) (List.cons_ne_nil _ _)
    · rintro ⟨page, there, -⟩
      cases there
  | some page =>
    have host : hostname (addressText (some page)) = lowerName (hostText page.text.toList) := hostname_eq page.decoded
    simp only [Option.mem_def, Option.some.injEq, exists_eq_left', host, inDomain_iff]

theorem createSource_noneRead {actor : Actor} {body : SourceInput} (none_ : registry.NoneRead hosts)
    (done : createSource records hosts registry actor body = .ok next) : next.NoneRead hosts := by
  simp only [createSource, bind_ok, require_ok, Except.ok.injEq] at done
  obtain ⟨_, _, authority, _, _, _, rfl⟩ := done
  intro source there active
  rcases (Keyed.mem_create _).mp there with old | rfl
  · exact none_ source old active
  · simp only [Bool.not_eq_true', Bool.or_eq_false_iff] at active
    intro publisher
    rw [onAPublisherHost_iff.mpr publisher] at active
    cases active.2

theorem apply_unsent {row : Source} (nothing : update.patch.writes = false) : update.patch.apply row = row := by
  simp only [SourcePatch.writes, Bool.or_eq_false_iff, Option.isSome_eq_false_iff, Option.isNone_iff_eq_none] at nothing
  obtain ⟨⟨url, frequency⟩, active⟩ := nothing
  simp [SourcePatch.apply, url, frequency, active]

theorem mem_writeSource {source : Source} :
    source ∈ (writeSource registry update).sources.rows ↔
      ∃ row ∈ registry.sources.rows, source = if row.id = update.read.id then update.patch.apply row else row := by
  unfold writeSource
  split
  · simp only [Keyed.update, List.mem_map, beq_iff_eq]
    exact exists_congr fun _ => and_congr_right fun _ => eq_comm
  · rename_i nothing
    simp only [apply_unsent (Bool.eq_false_iff.mpr nothing), ite_self, exists_eq_right']

theorem writeSource_noneRead_iff (none_ : registry.NoneRead hosts) : (writeSource registry update).NoneRead hosts ↔
    ∀ row ∈ registry.sources.rows, row.id = update.read.id →
      ¬((update.patch.apply row).active = true ∧ onAPublisherHost hosts (update.patch.apply row).url = true) := by
  constructor
  · rintro left row there its ⟨active, publisher⟩
    exact left _ (mem_writeSource.mpr ⟨row, there, (if_pos its).symm⟩) active (onAPublisherHost_iff.mp publisher)
  · intro off source there active publisher
    obtain ⟨row, here, rfl⟩ := mem_writeSource.mp there
    by_cases its : row.id = update.read.id
    · rw [if_pos its] at active publisher
      exact off row here its ⟨active, onAPublisherHost_iff.mpr publisher⟩
    · rw [if_neg its] at active publisher
      exact none_ row here active publisher

theorem step_noneRead_iff {step : RegistryStep} (none_ : registry.NoneRead hosts)
    (done : Registry.step records hosts registry step = .ok next) : next.NoneRead hosts ↔ LeavesOff hosts registry step := by
  cases step with
  | create actor body => exact iff_of_true (createSource_noneRead none_ done) trivial
  | beginUpdate call source patch =>
    simp only [Registry.step, beginUpdate, bind_ok, require_ok, Except.ok.injEq] at done
    obtain ⟨_, _, row, _, _, _, rfl⟩ := done
    exact iff_of_true none_ trivial
  | saveUpdate call actor =>
    simp only [Registry.step, saveUpdate, bind_ok, demand_ok, Except.ok.injEq] at done
    obtain ⟨⟨_, update⟩, found, rfl⟩ := done
    simp only [LeavesOff, found, Option.mem_def, Option.some.injEq, forall_eq']
    exact writeSource_noneRead_iff none_
  | abort call =>
    cases done
    exact iff_of_true none_ trivial

/-- From a registry that has no source active on a publisher's host, a run of calls has none throughout exactly when every update is saved
over a row that it leaves so. -/
theorem run_noneRead_iff (records : Records) (hosts : PublisherHosts) (start : Registry) (clear : start.NoneRead hosts)
    (steps : List RegistryStep) :
    (∀ first, first <+: steps → (run (Registry.step records hosts) start first).NoneRead hosts) ↔
      Meets (Registry.step records hosts) (LeavesOff hosts) start steps :=
  holds_throughout_iff_meets clear (fun _ _ _ none_ done => step_noneRead_iff none_ done) steps

def isoOrg : PublisherHosts where
  listed := ["iso.org"]
  named := by decide

def authorityPage : PageUrl where
  text := "https://www.fi.se/en/published/news/"
  decoded := by decide

def standardPage : PageUrl where
  text := "https://www.ISO.org.:443/standard/27001"
  decoded := by decide

def authoritySource : Registry where
  sources := { rows := [{ id := 0, name := "News", url := some authorityPage, kind := "authority_site", active := false }], keyed := by decide }

theorem authoritySource_clear : authoritySource.NoneRead isoOrg := by
  intro source there active
  obtain rfl := List.mem_singleton.mp there
  cases active

/-- One editor switches the source on while another moves its address to a standards publisher's. -/
def switchedOnAndMoved : List RegistryStep :=
  [.beginUpdate 1 0 { active := some true }, .beginUpdate 2 0 { url := some standardPage },
    .saveUpdate 1 { kind := .user, id := some 7 }, .saveUpdate 2 { kind := .user, id := some 8 }]

theorem switchedOnAndMoved_read : ¬∀ steps, ∀ first, first <+: steps →
    (run (Registry.step {} isoOrg) authoritySource first).NoneRead isoOrg := by
  intro claim
  have none_ := claim switchedOnAndMoved _ (List.prefix_refl _)
  have read : ((run (Registry.step {} isoOrg) authoritySource switchedOnAndMoved).sources.rows.any
      fun source => source.active && onAPublisherHost isoOrg source.url) = true := by
    decide +kernel
  obtain ⟨source, there, its⟩ := List.any_eq_true.mp read
  obtain ⟨active, publisher⟩ := Bool.and_eq_true_iff.mp its
  exact none_ source there active (onAPublisherHost_iff.mp publisher)

def switchedOnThenMoved : List RegistryStep :=
  [.beginUpdate 1 0 { active := some true }, .saveUpdate 1 { kind := .user, id := some 7 },
    .beginUpdate 2 0 { url := some standardPage }, .saveUpdate 2 { kind := .user, id := some 8 }]

theorem switchedOnThenMoved_noneRead : Meets (Registry.step {} isoOrg) (LeavesOff isoOrg) authoritySource switchedOnThenMoved ∧
    ∀ first, first <+: switchedOnThenMoved → (run (Registry.step {} isoOrg) authoritySource first).NoneRead isoOrg := by
  have met : Meets (Registry.step {} isoOrg) (LeavesOff isoOrg) authoritySource switchedOnThenMoved := by
    decide +kernel
  exact ⟨met, (run_noneRead_iff {} isoOrg authoritySource authoritySource_clear switchedOnThenMoved).mpr met⟩

end Grc.Watch
