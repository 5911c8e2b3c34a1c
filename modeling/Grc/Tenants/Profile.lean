import Grc.Proposals.Kinds

/-! The edit of a bank's profile: four parts, checked and stored in turn. A refusal is answered inside the request's transaction, which then
commits what was stored before it. -/
namespace Grc.Tenants.Profile

open Grc.Shared Grc.Lib
open Grc.Proposals (strip)

/-- A row of the library's languages. -/
structure Language where
  id : Id
  key : String
  active : Bool := true

/-- A content language of the bank. -/
structure TenantContentLanguage where
  language : Id
  sortOrder : Nat
  deriving DecidableEq

structure Tenant where
  id : Id
  name : String
  timezone : String
  defaultLanguage : Option Id := none
  deriving DecidableEq

/-- A bank, beside the library's languages. -/
structure Bank where
  languages : List Language
  tenant : Tenant
  contentLanguages : List TenantContentLanguage := []
  audit : List AuditEvent := []

structure TenantPatch where
  name : Option String := none
  timezone : Option String := none
  defaultLanguage : Option String := none
  contentLanguages : Option (List String) := none

/-- What `zoneinfo.ZoneInfo` makes of a name: a zone, an error that is caught, or another. -/
inductive ZoneInfo where
  | zone
  | notFound
  | raises

section Parts
variable (zoneInfo : String → ZoneInfo) (bank : Bank) (patch : TenantPatch)

def Bank.languageKey (language : Id) : Option String := (bank.languages.find? (·.id == language)).map (·.key)

/-- `content_languages`, by their keys. -/
def Bank.contentKeys : List String :=
  (bank.contentLanguages.mergeSort fun first second => decide (first.sortOrder ≤ second.sortOrder)).filterMap
    fun link => bank.languageKey link.language

/-- What an audit row holds of the profile. -/
def Bank.snapshot : List (String × AuditValue) :=
  [("name", .text bank.tenant.name), ("timezone", .text bank.tenant.timezone),
    ("defaultLanguage", ((bank.tenant.defaultLanguage.bind bank.languageKey).map AuditValue.text).getD .absent),
    ("contentLanguages", .texts bank.contentKeys)]

/-- What a text column or a query takes. -/
def holds (text : String) : Bool := '\x00' ∉ text.toList

def cleanName (name : String) : Except Refusal String :=
  if strip name = "" then .error { code := "name_required", detail := "Give the organisation a name." } else .ok (strip name)

/-- `_validate_timezone`. -/
def validateTimezone (name : String) : Except Refusal String :=
  match zoneInfo (strip name) with
  | .zone => .ok (strip name)
  | .notFound => .error { code := "unknown_key", detail := "Unknown timezone." }
  | .raises => .error internalError

/-- The language a key names: an active one. -/
def Bank.languageOf (key : String) : Option Language := bank.languages.find? fun language => language.key == key && language.active

/-- `_languages_by_keys`. -/
def languagesByKeys (keys : List String) : Except Refusal (List Language) := do
  let wanted := keys.eraseDups
  require (wanted ≠ []) { code := "languages_required", detail := "Pick at least one content language." }
  require (∀ key ∈ wanted, holds key = true) internalError
  let unknown := wanted.filter fun key => (bank.languageOf key).isNone
  require (unknown = []) { code := "unknown_key", detail := "Unknown language: " ++ ", ".intercalate unknown ++ "." }
  .ok (wanted.filterMap bank.languageOf)

/-- What `tenant.save` takes: texts that fit their columns. -/
def Tenant.fits (tenant : Tenant) : Prop :=
  tenant.name.length ≤ 200 ∧ tenant.timezone.length ≤ 64 ∧ holds tenant.name = true ∧ holds tenant.timezone = true

instance (tenant : Tenant) : Decidable tenant.fits := inferInstanceAs (Decidable (_ ∧ _))

/-- The tenant as `update_tenant` saves it, before it comes to the content languages. -/
def sentTenant : Except Refusal Tenant := do
  let name ← optionally cleanName patch.name
  let timezone ← optionally (validateTimezone zoneInfo) patch.timezone
  let language ← optionally (fun key => languagesByKeys bank [key]) patch.defaultLanguage
  let tenant : Tenant := { bank.tenant with
    name := name.getD bank.tenant.name
    timezone := timezone.getD bank.tenant.timezone
    defaultLanguage := language.elim bank.tenant.defaultLanguage fun found => found.head?.map (·.id) }
  require tenant.fits internalError
  .ok tenant

/-- `set_content_languages`. -/
def Bank.setContentLanguages (languages : List Language) : Bank :=
  { bank with contentLanguages := languages.zipIdx.map fun (language, sortOrder) => { language := language.id, sortOrder } }

def Bank.updated (actor : Actor) (before : List (String × AuditValue)) : AuditEvent where
  action := "tenant.updated"
  actor := actor
  subjectType := "tenant"
  subjectId := some bank.tenant.id
  subjectTitle := bank.tenant.name
  summary := "Organisation profile updated."
  tenantId := some bank.tenant.id
  before := before
  after := bank.snapshot

/-- `update_tenant`: what it answers, and what it has written by then. -/
def updateTenant (actor : Actor) : Except Refusal Unit × Bank :=
  match sentTenant zoneInfo bank patch with
  | .error refusal => (.error refusal, bank)
  | .ok tenant =>
    let saved := { bank with tenant }
    match optionally (languagesByKeys bank) patch.contentLanguages with
    | .error refusal => (.error refusal, saved)
    | .ok languages =>
      let left := languages.elim saved saved.setContentLanguages
      (.ok (), { left with audit := record left.audit (left.updated actor bank.snapshot) })

/-- The request: a `ValidationError` is answered and the transaction commits, and any other error rolls it back. -/
def request (actor : Actor) : Except Refusal Unit × Bank :=
  match updateTenant zoneInfo bank patch actor with
  | (.ok (), left) => (.ok (), left)
  | (.error refusal, left) => (.error refusal, if refusal = internalError then bank else left)

end Parts

/-- All or nothing: a refused edit leaves the profile and the audit log as they were, and an accepted one leaves one audit row more, with
the profile before and after. -/
structure AllOrNothing (bank : Bank) (done : Except Refusal Unit × Bank) : Prop where
  refused : ∀ refusal, done.1 = .error refusal →
    done.2.tenant = bank.tenant ∧ done.2.contentLanguages = bank.contentLanguages ∧ done.2.audit = bank.audit
  accepted : done.1 = .ok () → ∃ event, done.2.audit = bank.audit ++ [event] ∧ event.before = bank.snapshot ∧ event.after = done.2.snapshot

section Sent
variable (zoneInfo : String → ZoneInfo) (bank : Bank) (patch : TenantPatch)

/-- The tenant with the parts that are sent in their places. -/
def TenantPatch.sent : Tenant := { bank.tenant with
  name := patch.name.elim bank.tenant.name strip
  timezone := patch.timezone.elim bank.tenant.timezone strip
  defaultLanguage := patch.defaultLanguage.elim bank.tenant.defaultLanguage fun key => (bank.languageOf key).map (·.id) }

/-- What is sent beside the content languages can be stored. -/
structure TenantPatch.Stands : Prop where
  name : ∀ name ∈ patch.name, strip name ≠ ""
  timezone : ∀ name ∈ patch.timezone, zoneInfo (strip name) = .zone
  language : ∀ key ∈ patch.defaultLanguage, holds key = true ∧ (bank.languageOf key).isSome = true
  fits : (patch.sent bank).fits

/-- Content languages no edit can store: none, or one that is unknown or inactive. -/
def Bank.refuses (keys : List String) : Prop :=
  (∀ key ∈ keys, holds key = true) ∧ (keys = [] ∨ ∃ key ∈ keys, bank.languageOf key = none)

/-- Content languages that are refused come with no other part that can be stored and is not what is stored already. -/
def NothingBeforeLanguages : Prop :=
  ∀ keys ∈ patch.contentLanguages, bank.refuses keys → patch.Stands zoneInfo bank → patch.sent bank = bank.tenant

end Sent

section Edits
variable {zoneInfo : String → ZoneInfo} {bank : Bank} {patch : TenantPatch} {actor : Actor} {tenant : Tenant} {refusal : Refusal}

theorem cleanName_ok {name found : String} : cleanName name = .ok found ↔ strip name ≠ "" ∧ found = strip name := by
  unfold cleanName
  split
  · next blank => simp [blank]
  · next named => simp [named, eq_comm]

theorem validateTimezone_ok {name found : String} :
    validateTimezone zoneInfo name = .ok found ↔ zoneInfo (strip name) = .zone ∧ found = strip name := by
  unfold validateTimezone
  split
  · next zone => simp [zone, eq_comm]
  · next unknown => simp [unknown]
  · next raises => simp [raises]

theorem unknown_eq_nil {keys : List String} :
    keys.eraseDups.filter (fun key => (bank.languageOf key).isNone) = [] ↔ ∀ key ∈ keys, (bank.languageOf key).isSome = true := by
  simp only [List.filter_eq_nil_iff, List.mem_eraseDups, Bool.not_eq_true, Option.isNone_eq_false_iff]

theorem eraseDups_ne_nil {keys : List String} : keys.eraseDups ≠ [] ↔ keys ≠ [] := by
  cases keys with
  | nil => simp
  | cons key rest => simp [List.eraseDups_cons]

theorem languagesByKeys_ok {keys : List String} {found : List Language} : languagesByKeys bank keys = .ok found ↔
    keys ≠ [] ∧ (∀ key ∈ keys, holds key = true) ∧ (∀ key ∈ keys, (bank.languageOf key).isSome = true) ∧
      found = keys.eraseDups.filterMap bank.languageOf := by
  simp only [languagesByKeys, bind_ok, require_ok, exists_const, eraseDups_ne_nil, List.mem_eraseDups, unknown_eq_nil, Except.ok.injEq,
    eq_comm (a := found)]

/-- The keys a `ValidationError` is answered for. -/
theorem refuses_iff {keys : List String} :
    bank.refuses keys ↔ ∃ refusal, languagesByKeys bank keys = .error refusal ∧ refusal ≠ internalError := by
  by_cases some_ : keys = []
  · subst some_
    exact iff_of_true ⟨List.forall_mem_nil _, .inl rfl⟩ ⟨_, rfl, by decide⟩
  · by_cases plain : ∀ key ∈ keys, holds key = true
    · have asked : languagesByKeys bank keys =
          (require (keys.eraseDups.filter (fun key => (bank.languageOf key).isNone) = []) {
            code := "unknown_key"
            detail := "Unknown language: " ++ ", ".intercalate (keys.eraseDups.filter fun key => (bank.languageOf key).isNone) ++ "." } >>=
          fun _ => .ok (keys.eraseDups.filterMap bank.languageOf)) := by
        rw [languagesByKeys, require, if_pos (eraseDups_ne_nil.mpr some_), require, if_pos (by simpa only [List.mem_eraseDups] using plain)]
        rfl
      rw [asked, require]
      split
      · next known =>
        refine iff_of_false (fun refuses => ?_) fun ⟨_, refused, _⟩ => nomatch refused
        obtain none_ | ⟨key, there, unknown⟩ := refuses.2
        · exact some_ none_
        · have found := unknown_eq_nil.mp known key there
          rw [unknown] at found
          cases found
      · next unknown =>
        refine iff_of_true ⟨plain, .inr ?_⟩ ⟨_, rfl, fun same => ?_⟩
        · rw [unknown_eq_nil, not_forall] at unknown
          obtain ⟨key, missing⟩ := unknown
          obtain ⟨there, missing⟩ := Classical.not_imp.mp missing
          exact ⟨key, there, Option.not_isSome_iff_eq_none.mp missing⟩
        · have codes : "unknown_key" = "internal_error" := congrArg Refusal.code same
          exact absurd codes (by decide)
    · refine iff_of_false (fun refuses => plain refuses.1) ?_
      rintro ⟨refusal, refused, apart⟩
      rw [languagesByKeys, require, if_pos (eraseDups_ne_nil.mpr some_), require, if_neg (by simpa only [List.mem_eraseDups] using plain)] at refused
      exact apart (Except.error.inj refused).symm

theorem oneLanguage_ok {key : String} {found : List Language} : languagesByKeys bank [key] = .ok found ↔
    (holds key = true ∧ (bank.languageOf key).isSome = true) ∧ found = (bank.languageOf key).toList := by
  rw [languagesByKeys_ok]
  simp only [ne_eq, List.cons_ne_nil, not_false_eq_true, List.forall_mem_singleton, true_and, and_assoc]
  refine and_congr_right fun _ => and_congr_right fun _ => ?_
  cases named : bank.languageOf key <;> simp [List.eraseDups_cons, named]

theorem optionally_iff {Value : Type} {lookup : String → Except Refusal Value} {stands : String → Prop} {value : String → Value}
    (each : ∀ key found, lookup key = .ok found ↔ stands key ∧ found = value key) {wanted : Option String} {answer : Option Value} :
    optionally lookup wanted = .ok answer ↔ (∀ key ∈ wanted, stands key) ∧ answer = wanted.map value := by
  cases wanted with
  | none => simp [optionally, eq_comm]
  | some key => simp [optionally_ok, each, and_comm]

/-- What is saved before the content languages: the parts sent, when each of them stands. -/
theorem sentTenant_ok : sentTenant zoneInfo bank patch = .ok tenant ↔ patch.Stands zoneInfo bank ∧ tenant = patch.sent bank := by
  have same : ∀ name timezone language, name = patch.name.map strip → timezone = patch.timezone.map strip →
      language = patch.defaultLanguage.map (fun key => (bank.languageOf key).toList) →
      ({ bank.tenant with
        name := name.getD bank.tenant.name
        timezone := timezone.getD bank.tenant.timezone
        defaultLanguage := language.elim bank.tenant.defaultLanguage fun found => found.head?.map (·.id) } : Tenant) = patch.sent bank := by
    rintro _ _ _ rfl rfl rfl
    unfold TenantPatch.sent
    cases patch.name <;> cases patch.timezone <;> cases patch.defaultLanguage <;> simp
  simp only [sentTenant, bind_ok, require_ok, optionally_iff fun _ _ => cleanName_ok, optionally_iff fun _ _ => validateTimezone_ok,
    optionally_iff fun _ _ => oneLanguage_ok, Except.ok.injEq]
  constructor
  · rintro ⟨name, ⟨named, its⟩, timezone, ⟨zoned, zone⟩, language, ⟨spoken, tongue⟩, _, fits, rfl⟩
    rw [same name timezone language its zone tongue] at fits ⊢
    exact ⟨⟨named, zoned, spoken, fits⟩, rfl⟩
  · rintro ⟨stands, rfl⟩
    have sent := same _ _ _ rfl rfl rfl
    exact ⟨_, ⟨stands.name, rfl⟩, _, ⟨stands.timezone, rfl⟩, _, ⟨stands.language, rfl⟩, (), sent ▸ stands.fits, sent⟩

theorem updateTenant_refused (refused : sentTenant zoneInfo bank patch = .error refusal) :
    request zoneInfo bank patch actor = (.error refusal, bank) := by
  rw [request, updateTenant, refused]
  simp only [ite_self]

theorem updateTenant_saved (sent : sentTenant zoneInfo bank patch = .ok tenant)
    (refused : optionally (languagesByKeys bank) patch.contentLanguages = .error refusal) :
    request zoneInfo bank patch actor = (.error refusal, if refusal = internalError then bank else { bank with tenant }) := by
  rw [request, updateTenant, sent]
  simp only [refused]

theorem updateTenant_accepted {languages : Option (List Language)} (sent : sentTenant zoneInfo bank patch = .ok tenant)
    (found : optionally (languagesByKeys bank) patch.contentLanguages = .ok languages) :
    AllOrNothing bank (request zoneInfo bank patch actor) := by
  rw [request, updateTenant, sent]
  simp only [found]
  constructor
  · intro _ refused
    cases refused
  · intro _
    cases languages with
    | none => exact ⟨_, rfl, rfl, rfl⟩
    | some => exact ⟨_, rfl, rfl, rfl⟩

theorem optionally_error {Found : Type} {lookup : List String → Except Refusal Found} {wanted : Option (List String)} :
    optionally lookup wanted = .error refusal ↔ ∃ keys, wanted = some keys ∧ lookup keys = .error refusal := by
  cases wanted with
  | none => exact ⟨nofun, fun ⟨_, none_, _⟩ => nomatch none_⟩
  | some keys => cases found : lookup keys <;> simp [optionally, found, Except.map]

end Edits

/-- An edit is all or nothing exactly when the content languages it sends can be stored, or the rest of it cannot or changes nothing. -/
theorem profile_allOrNothing_iff (zoneInfo : String → ZoneInfo) (bank : Bank) (patch : TenantPatch) (actor : Actor) :
    AllOrNothing bank (request zoneInfo bank patch actor) ↔ NothingBeforeLanguages zoneInfo bank patch := by
  cases sent : sentTenant zoneInfo bank patch with
  | error refusal =>
    rw [updateTenant_refused sent]
    refine iff_of_true ⟨fun _ _ => ⟨rfl, rfl, rfl⟩, nofun⟩ fun _ _ _ stands => ?_
    rw [sentTenant_ok.mpr ⟨stands, rfl⟩] at sent
    cases sent
  | ok tenant =>
    obtain ⟨stands, rfl⟩ := sentTenant_ok.mp sent
    cases found : optionally (languagesByKeys bank) patch.contentLanguages with
    | ok languages =>
      refine iff_of_true (updateTenant_accepted sent found) fun keys named refuses _ => ?_
      obtain ⟨refusal, refused, -⟩ := refuses_iff.mp refuses
      rw [optionally_error.mpr ⟨keys, named, refused⟩] at found
      cases found
    | error refusal =>
      obtain ⟨keys, named, refused⟩ := optionally_error.mp found
      rw [updateTenant_saved sent found]
      constructor
      · intro kept other same refuses _
        obtain rfl := Option.some.inj (named.symm.trans same)
        obtain ⟨_, again, apart⟩ := refuses_iff.mp refuses
        obtain rfl := Except.error.inj (refused.symm.trans again)
        have left := (kept.refused _ rfl).1
        rwa [if_neg apart] at left
      · intro nothing
        refine ⟨fun _ _ => ?_, nofun⟩
        by_cases rolled : refusal = internalError
        · rw [if_pos rolled]
          exact ⟨rfl, rfl, rfl⟩
        · rw [if_neg rolled, nothing keys named (refuses_iff.mpr ⟨refusal, refused, rolled⟩) stands]
          exact ⟨rfl, rfl, rfl⟩

/-- A bank with Swedish and English to choose from. -/
def twoLanguages : Bank where
  languages := [{ id := 1, key := "sv" }, { id := 2, key := "en" }]
  tenant := { id := 7, name := "Bank", timezone := "Europe/Stockholm", defaultLanguage := some 1 }
  contentLanguages := [{ language := 1, sortOrder := 0 }]

/-- A new name comes with a language the library does not have: the edit is refused, and the name is stored without an audit row. -/
theorem renamed_unaudited : ¬∀ (zoneInfo : String → ZoneInfo) (bank : Bank) (patch : TenantPatch) (actor : Actor),
    AllOrNothing bank (request zoneInfo bank patch actor) := by
  intro claim
  have kept := claim (fun _ => .zone) twoLanguages { name := some "Banken", contentLanguages := some ["xx"] } { kind := .user, id := some 3 }
  have refused : (request (fun _ => .zone) twoLanguages { name := some "Banken", contentLanguages := some ["xx"] }
      { kind := .user, id := some 3 }).1 = .error { code := "unknown_key", detail := "Unknown language: xx." } := by
    decide +kernel
  have renamed : (request (fun _ => .zone) twoLanguages { name := some "Banken", contentLanguages := some ["xx"] }
      { kind := .user, id := some 3 }).2.tenant.name = "Banken" := by
    decide +kernel
  rw [(kept.refused _ refused).1] at renamed
  exact absurd renamed (by decide)

end Grc.Tenants.Profile
