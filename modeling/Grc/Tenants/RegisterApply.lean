import Grc.Taxonomy.Suggestions
import Grc.Tenants.Organisation

/-! A lookup in the public registers: the companies under the one looked up, breadth first, each with what its country's register
says of it. Every company is found once, and under one found before it. -/
namespace Grc.Tenants

open Grc.Shared Grc.Lib
open Grc.Taxonomy (RegisterFacts)

inductive JobStatus where
  | queued
  | running
  | succeeded
  | failed
  deriving DecidableEq

/-- A company as GLEIF records it, of the shape `_company` reads. -/
structure LeiCompany where
  lei : String
  name : String
  registrationNumber : String
  country : String
  parentLei : Option String
  leiRead : isLei lei = true
  countryRead : country = "" ∨ isCountry country = true

/-- What a register says of a company, as it is stored. -/
structure CompanyFacts extends RegisterFacts where
  name : String
  registrationNumber : String
  deriving DecidableEq

structure RegisterLookupCompany extends LeiCompany where
  authority : Option String := none
  facts : Option CompanyFacts := none
  sourceUrl : Option String := none

def isAsciiAlnum (c : Char) : Bool := isUpperAscii c || isAsciiDigit c || ('a' ≤ c && c ≤ 'z')

/-- `REGISTRATION_NUMBER.fullmatch`. -/
def isRegistrationNumber (text : String) : Bool :=
  match text.toList with
  | [] => false
  | first :: rest => isAsciiAlnum first && 3 ≤ rest.length && rest.length ≤ 30 &&
      rest.all fun c => isAsciiAlnum c || c == '-' || c == ' '

/-- The public registers and who reads them, none where one is unavailable: the companies directly under an LEI, the authority
whose register covers a country, and its word on a company with the address it was read from. -/
structure Registers where
  children : String → Option (List LeiCompany)
  under : ∀ lei companies, children lei = some companies → ∀ company ∈ companies, company.parentLei = some lei
  authorityForCountry : String → Option String
  licenceFacts : String → String → Option (Option (CompanyFacts × String))

/-- One turn of the inner loop of `_group`, whose `seen` holds the companies' LEIs. -/
def addChild (most : Nat) (companies : List LeiCompany) (child : LeiCompany) : List LeiCompany :=
  if child.lei ∉ companies.map (·.lei) ∧ companies.length < most then companies ++ [child] else companies

/-- The outer loop of `_group`. -/
def groupFrom (registers : Registers) (most index : Nat) (companies : List LeiCompany) : Option (List LeiCompany) :=
  if further : index < companies.length ∧ companies.length < most then do
    let children ← registers.children (companies.get ⟨index, further.1⟩).lei
    groupFrom registers most (index + 1) (children.foldl (addChild most) companies)
  else some companies
termination_by most - index

def group (registers : Registers) (most : Nat) (root : LeiCompany) : Option (List LeiCompany) :=
  groupFrom registers most 0 [root]

def withFacts (registers : Registers) (company : LeiCompany) : Option RegisterLookupCompany :=
  let authority := registers.authorityForCountry company.country
  match authority with
  | none => some { toLeiCompany := company }
  | some key =>
    if isRegistrationNumber company.registrationNumber then
      (registers.licenceFacts key company.registrationNumber).map fun read =>
        { toLeiCompany := company, authority, facts := read.map Prod.fst, sourceUrl := read.map Prod.snd }
    else some { toLeiCompany := company, authority }

/-- Companies found once each, none under itself and none under a later one. -/
structure ParentsFirst (companies : List LeiCompany) : Prop where
  once : (companies.map (·.lei)).Nodup
  first : companies.Pairwise fun earlier later => earlier.parentLei ≠ some later.lei
  other : ∀ company ∈ companies, company.parentLei ≠ some company.lei

/-- What a finished lookup stores. -/
structure RegisterLookupResult where
  entities : List RegisterLookupCompany := []
  ordered : ParentsFirst (entities.map (·.toLeiCompany))

variable {registers : Registers} {most index : Nat} {companies found : List LeiCompany} {company root : LeiCompany}

/-- What `_group` keeps while it walks: each company has its parent among those found, or none. -/
structure Walked (companies : List LeiCompany) : Prop extends ParentsFirst companies where
  inside : ∀ company ∈ companies, ∀ parent ∈ company.parentLei, ∃ above ∈ companies, above.lei = parent

theorem addChild_walked {child : LeiCompany} (walked : Walked companies)
    (parent : ∃ above ∈ companies, child.parentLei = some above.lei) : Walked (addChild most companies child) := by
  obtain ⟨above, there, its⟩ := parent
  obtain ⟨⟨once, first, other⟩, inside⟩ := walked
  unfold addChild
  split
  · next added =>
    have unseen : ∀ company ∈ companies, company.lei ≠ child.lei := by grind
    -- none found before is under the new one: its parent is among those found
    have above_ : ∀ company ∈ companies, company.parentLei ≠ some child.lei := by
      intro company here under
      obtain ⟨told, listed, same⟩ := inside company here _ under
      exact unseen told listed same
    refine ⟨⟨?_, List.pairwise_append.mpr ⟨first, by simp, ?_⟩, ?_⟩, ?_⟩ <;> grind
  · exact ⟨⟨once, first, other⟩, inside⟩

/-- What the inner loop makes of the companies found so far. -/
structure Grown (most : Nat) (companies children after : List LeiCompany) : Prop where
  walked : Walked after
  kept : companies <+: after
  few : after.length ≤ max most companies.length
  listed : after.length < most → ∀ child ∈ children, child.lei ∈ after.map (·.lei)

theorem addChild_grown {child : LeiCompany} (walked : Walked companies)
    (parent : ∃ above ∈ companies, child.parentLei = some above.lei) : Grown most companies [child] (addChild most companies child) := by
  refine ⟨addChild_walked walked parent, ?_, ?_, ?_⟩ <;> unfold addChild <;> split <;> grind

theorem foldl_addChild_grown {children : List LeiCompany} (walked : Walked companies)
    (parent : ∃ above ∈ companies, ∀ child ∈ children, child.parentLei = some above.lei) :
    Grown most companies children (children.foldl (addChild most) companies) := by
  obtain ⟨above, there, its⟩ := parent
  induction children generalizing companies with
  | nil => exact ⟨walked, List.prefix_refl _, le_max_right _ _, fun _ => List.forall_mem_nil _⟩
  | cons child rest ih =>
    obtain ⟨first, others⟩ := List.forall_mem_cons.mp its
    have one : Grown most companies [child] (addChild most companies child) := addChild_grown walked ⟨above, there, first⟩
    have later := ih one.walked (one.kept.subset there) others
    refine ⟨later.walked, one.kept.trans later.kept, later.few.trans (max_le (le_max_left _ _) one.few), fun room => ?_⟩
    have held := one.listed (later.kept.length_le.trans_lt room) child (List.mem_singleton_self _)
    exact List.forall_mem_cons.mpr ⟨(later.kept.map _).subset held, later.listed room⟩

/-- What a walk has found, and read as far as `index`: its root first, no more than there may be, and where there is room for more, all that
the registers list under those read. -/
structure Spans (registers : Registers) (most : Nat) (root : LeiCompany) (index : Nat) (companies : List LeiCompany) : Prop
    extends Walked companies where
  head : [root] <+: companies
  few : companies.length ≤ max most 1
  whole : companies.length < most → ∀ company ∈ companies.take index, ∃ children, registers.children company.lei = some children ∧
    ∀ child ∈ children, child.lei ∈ companies.map (·.lei)

theorem Spans.turn {children : List LeiCompany} (spans : Spans registers most root index companies)
    (there : index < companies.length) (read : registers.children (companies.get ⟨index, there⟩).lei = some children) :
    Spans registers most root (index + 1) (children.foldl (addChild most) companies) := by
  have grown : Grown most companies children (children.foldl (addChild most) companies) :=
    foldl_addChild_grown spans.toWalked ⟨_, List.get_mem _ _, registers.under _ children read⟩
  refine ⟨grown.walked, spans.head.trans grown.kept, grown.few.trans (max_le (le_max_left _ _) spans.few), fun room => ?_⟩
  obtain ⟨new, same⟩ := grown.kept
  have taken : (children.foldl (addChild most) companies).take (index + 1) = companies.take index ++ [companies.get ⟨index, there⟩] := by
    rw [← same, List.take_append_of_le_length there, List.take_succ_eq_append_getElem there]
    rfl
  rw [taken]
  refine List.forall_mem_append.mpr ⟨fun company before => ?_, List.forall_mem_singleton.mpr ⟨children, read, grown.listed room⟩⟩
  obtain ⟨under, told, all⟩ := spans.whole (grown.kept.length_le.trans_lt room) company before
  exact ⟨under, told, fun child its => (grown.kept.map _).subset (all child its)⟩

theorem groupFrom_spans {index : Nat} {companies : List LeiCompany} (spans : Spans registers most root index companies)
    (done : groupFrom registers most index companies = some found) : Spans registers most root found.length found := by
  unfold groupFrom at done
  split at done
  · next further =>
    obtain ⟨children, read, later⟩ := Option.bind_eq_some_iff.mp done
    exact groupFrom_spans (spans.turn further.1 read) later
  · next ended =>
    obtain rfl := Option.some.inj done
    refine ⟨spans.toWalked, spans.head, spans.few, fun room => ?_⟩
    have all : companies.length ≤ index := not_lt.mp fun left => ended ⟨left, room⟩
    simpa only [List.take_length, List.take_of_length_le all] using spans.whole room
termination_by most - index

theorem group_spanned (top : root.parentLei = none) (done : group registers most root = some found) :
    Spans registers most root found.length found := by
  refine groupFrom_spans ⟨⟨⟨?_, ?_, ?_⟩, ?_⟩, List.prefix_refl _, le_max_right _ _, ?_⟩ done
  all_goals simp [top]

theorem group_parentsFirst (top : root.parentLei = none) (done : group registers most root = some found) :
    ParentsFirst found := (group_spanned top done).toParentsFirst

theorem withFacts_company {read : RegisterLookupCompany} (done : withFacts registers company = some read) : read.toLeiCompany = company := by
  unfold withFacts at done
  dsimp only at done
  split at done
  · exact Option.some.inj done ▸ rfl
  · split at done
    · obtain ⟨_, -, rfl⟩ := Option.map_eq_some_iff.mp done
      rfl
    · exact Option.some.inj done ▸ rfl

theorem withFacts_companies {read : List RegisterLookupCompany} (done : companies.mapM (withFacts registers) = some read) :
    read.map (·.toLeiCompany) = companies := by
  replace done := mapM_eq_some.mp done
  induction companies generalizing read with
  | nil => cases read <;> grind
  | cons company rest ih =>
    cases read with
    | nil => cases done
    | cons first others =>
      obtain ⟨itself, later⟩ := List.cons.inj done
      rw [List.map_cons, withFacts_company itself, ih later]

/-- `run_lookup`, once the company is found: what the job stores, nothing where a register is unavailable. -/
def runLookup (registers : Registers) (most : Nat) (root : { root : LeiCompany // root.parentLei = none }) : Option RegisterLookupResult :=
  match walked : group registers most root.1 with
  | none => none
  | some companies =>
    match read : companies.mapM (withFacts registers) with
    | none => none
    | some entities => some { entities, ordered := withFacts_companies read ▸ group_parentsFirst root.2 walked }

end Grc.Tenants

/-! Applying a lookup: the chosen companies are linked to the bank's units or added as new ones, parents first, and their register
facts stored. A refusal is answered inside the request, whose transaction then commits what was written before it. -/
namespace Grc.Tenants

open Grc.Shared Grc.Lib
open Grc.Proposals (strip)
open Grc.Taxonomy (FootprintReads RegisterTerms termByRef)

/-- What one authority's register says of one of the bank's legal entities. -/
structure RegisterEntry where
  id : Id
  orgUnit : Id
  authority : Id
  facts : CompanyFacts
  sourceUrl : String
  readAt : Instant
  changedAt : Instant
  version : Nat := 1

structure RegisterLookup where
  id : Id
  query : String
  status : JobStatus
  result : RegisterLookupResult
  completedAt : Option Instant

/-- A bank's organisation, its register entries and its audit trail, as committed. -/
structure RegisterBook where
  tenantId : Id
  units : Keyed OrgUnit.id := {}
  entries : Keyed RegisterEntry.id := {}
  audit : List AuditEvent := []

/-- `str.upper` and `str.isdigit`: an upper-case letter or a digit is its own upper case. -/
structure Strings where
  upper : String → String
  isDigit : Char → Bool
  upper_ascii : ∀ text : String, (∀ c ∈ text.toList, isUpperAscii c = true ∨ isAsciiDigit c = true) → upper text = text

/-- What an application reads beside the bank's rows: the registers' mappings and authorities, the library when it starts, and the
library when it adds each company. -/
structure ApplyReads where
  strings : Strings
  terms : RegisterTerms
  authorities : List (String × Id) := []
  library : FootprintReads
  adding : String → FootprintReads

def ApplyReads.org (reads : ApplyReads) (lei : String) : OrgReads where
  library := reads.adding lei
  upper := reads.strings.upper

/-- The application under way: the rows as written so far, the events held back until it ends, and `placed`. -/
structure Applying where
  units : Keyed OrgUnit.id
  entries : Keyed RegisterEntry.id
  pending : List AuditEvent := []
  placed : List (String × Id) := []
  created : Nat := 0

def legalEntities (units : Keyed OrgUnit.id) : List OrgUnit :=
  (units.rows.filter fun unit => unit.kind = .legalEntity && unit.active).insertionSort fun unit other =>
    unit.name < other.name ∨ (unit.name = other.name ∧ unit.id ≤ other.id)

def groupUnit (units : Keyed OrgUnit.id) : Option OrgUnit :=
  ((units.rows.filter fun unit => unit.kind = .group && unit.active).insertionSort fun unit other =>
    unit.name < other.name ∨ (unit.name = other.name ∧ unit.id ≤ other.id)).head?

def Strings.digits (strings : Strings) (value : String) : List Char := value.toList.filter strings.isDigit

/-- `_match`. -/
def matchUnit (strings : Strings) (units : List OrgUnit) (company : LeiCompany) : Option OrgUnit :=
  let number := strings.digits company.registrationNumber
  (units.find? fun unit => unit.lei ≠ "" ∧ unit.lei = company.lei) <|>
    units.find? fun unit => number ≠ [] ∧ strings.digits unit.orgNumber = number ∧
      (unit.countryCode = "" ∨ unit.countryCode = company.country)

/-- `_entity_type`: the first type the main business maps to. -/
def entityType (terms : RegisterTerms) (company : RegisterLookupCompany) : Option String := do
  let facts ← company.facts
  let authority ← company.authority
  (((terms.mapping authority).categoryTerms facts.mainBusiness).find? (·.1 == "legal_entity")).map Prod.snd

/-- The type a new unit carries: one that was a live term when the application started. -/
def ApplyReads.entityTerm (reads : ApplyReads) (company : RegisterLookupCompany) : Option String :=
  (entityType reads.terms company).filter fun key =>
    reads.library.table.terms.any fun term => term.dimension.key == "legal_entity" && term.key == key && term.active

/-- `placed.get`. -/
def unitPlaced (placed : List (String × Id)) (lei : String) : Option Id := (placed.find? (·.1 == lei)).map Prod.snd

/-- The loop of `_placed_ancestor`, up to the company where it stops. -/
def climb (companies : List RegisterLookupCompany) (placed : List (String × Id)) : Nat → List String → Option String → Option String
  | 0, _, parent => parent
  | _ + 1, _, none => none
  | turns + 1, seen, some parent =>
    match companies.find? (·.lei == parent) with
    | some above =>
      if unitPlaced placed parent = none ∧ parent ∉ seen then climb companies placed turns (parent :: seen) above.parentLei
      else some parent
    | none => some parent

def placedAncestor (companies : List RegisterLookupCompany) (placed : List (String × Id)) (company : LeiCompany) : Option Id :=
  (climb companies placed (companies.length + 1) [] company.parentLei).bind (unitPlaced placed)

/-- The body of a company's new unit. -/
def unitFields (company : LeiCompany) (parentId : Option Id) (entityTerm : Option String) : UnitFields where
  name := some company.name
  parentId := parentId
  orgNumber := some company.registrationNumber
  lei := some company.lei
  countryCode := some company.country
  entityTerm := entityTerm

theorem setFields_id (reads : OrgReads) (fields : UnitFields) (entityTerm : Option Id) (kind : OrgUnitKind) (name : String) (id : Id) :
    (setFields reads fields entityTerm { id, kind, name }).id = id := rfl

/-- `create_org_unit` inside the application's own transaction: the units with the new one, and its event. -/
def addOrgUnit (units : Keyed OrgUnit.id) (tenantId : Id) (reads : OrgReads) (actor : Actor) (kind : OrgUnitKind) (name : String)
    (fields : UnitFields) : Except Refusal (Keyed OrgUnit.id × AuditEvent) := do
  let entityTerm ← checkFields reads kind fields
  let _ ← optionally (orgUnitOf units) fields.parentId
  activeHead reads fields
  let make (id : Id) : OrgUnit := setFields reads fields entityTerm { id, kind, name }
  .ok (units.create make (setFields_id reads fields entityTerm kind name),
    unitEvent "org_unit.created" "Added a unit to the organisation." actor tenantId (make units.fresh) []
      (unitSnapshot reads (make units.fresh)))

def entryEvent (action summary : String) (actor : Actor) (tenantId entry : Id) (facts : CompanyFacts)
    (before after : List (String × AuditValue)) : AuditEvent where
  action := action
  actor := actor
  subjectType := "register_entry"
  subjectId := some entry
  subjectTitle := facts.name
  summary := summary
  tenantId := some tenantId
  before := before
  after := after

/-- `_added`: what is new, each once. -/
def addedTexts (before after : List String) : List String := after.eraseDups.filter (· ∉ before)

/-- `_diff`. -/
def factsDiff (old new : CompanyFacts) : List (String × AuditValue) :=
  let branches (facts : CompanyFacts) := facts.branches.map (·.name)
  let businesses (facts : CompanyFacts) := facts.mainBusiness :: facts.otherBusinesses
  [("licencesAdded", .texts (addedTexts old.licences new.licences)), ("licencesRemoved", .texts (addedTexts new.licences old.licences)),
    ("branchesAdded", .texts (addedTexts (branches old) (branches new))),
    ("branchesRemoved", .texts (addedTexts (branches new) (branches old))),
    ("businessesAdded", .texts (addedTexts (businesses old) (businesses new))),
    ("businessesRemoved", .texts (addedTexts (businesses new) (businesses old)))]

/-- `_change`, of the row. -/
def RegisterEntry.changed (facts : CompanyFacts) (sourceUrl : String) (readAt : Instant) (entry : RegisterEntry) : RegisterEntry :=
  { entry with facts, sourceUrl, readAt, changedAt := readAt, version := entry.version + 1 }

def entryOf (entries : Keyed RegisterEntry.id) (unit authority : Id) : Option RegisterEntry :=
  entries.rows.find? fun entry => entry.orgUnit == unit && entry.authority == authority

/-- `_store`: stored the first time, changed when the facts differ and are newer, left alone otherwise. -/
def storeFacts (tenantId : Id) (actor : Actor) (unit authority : Id) (facts : CompanyFacts) (sourceUrl : String) (readAt : Instant)
    (work : Applying) : Applying :=
  match entryOf work.entries unit authority with
  | none =>
    let make (id : Id) : RegisterEntry := { id, orgUnit := unit, authority, facts, sourceUrl, readAt, changedAt := readAt }
    { work with
      entries := work.entries.create make fun _ => rfl
      pending := work.pending ++ [entryEvent "register_entry.created" "Stored a company's facts from a public register." actor tenantId
        work.entries.fresh facts [] [("orgUnitId", .ofId (some unit)), ("licences", .number facts.licences.length),
          ("branches", .number facts.branches.length), ("listed", .flag facts.listed)]] }
  | some entry =>
    if entry.readAt < readAt ∧ entry.facts ≠ facts then
      { work with
        entries := work.entries.update (·.id == entry.id) (RegisterEntry.changed facts sourceUrl readAt) fun _ => rfl
        pending := work.pending ++ [entryEvent "register_entry.changed" "A public register's facts on a company changed." actor tenantId
          entry.id facts [("listed", .flag entry.facts.listed), ("version", .number entry.version)]
          (factsDiff entry.facts facts ++ [("listed", .flag facts.listed), ("version", .number (entry.version + 1))])] }
    else work

/-- What is read once, before the first company. -/
structure Application where
  tenantId : Id
  actor : Actor
  companies : List RegisterLookupCompany
  completedAt : Option Instant
  units : List OrgUnit
  group : Option Id

/-- A company's unit: the one it matches, or a new one under the nearest chosen company above it, else under the group. -/
def placeCompany (app : Application) (reads : ApplyReads) (work : Applying) (company : RegisterLookupCompany) :
    Except Refusal (Applying × Id) :=
  match matchUnit reads.strings app.units company.toLeiCompany with
  | some unit => .ok ({ work with placed := work.placed ++ [(company.lei, unit.id)] }, unit.id)
  | none => do
    let parent := placedAncestor app.companies work.placed company.toLeiCompany <|> app.group
    let fields := unitFields company.toLeiCompany parent (reads.entityTerm company)
    let (units, event) ← addOrgUnit work.units app.tenantId (reads.org company.lei) app.actor .legalEntity company.name fields
    .ok ({ work with
      units
      pending := work.pending ++ [event]
      placed := work.placed ++ [(company.lei, work.units.fresh)]
      created := work.created + 1 }, work.units.fresh)

/-- The facts of a company that are stored, with the authority they come from and when they were read. -/
def factsToStore (completedAt : Option Instant) (reads : ApplyReads) (company : RegisterLookupCompany) :
    Option (Id × CompanyFacts × Instant) := do
  let facts ← company.facts
  let authority ← (reads.authorities.find? (·.1 == company.authority.getD "")).map Prod.snd
  let readAt ← completedAt
  some (authority, facts, readAt)

/-- One turn of the loop over the chosen companies. -/
def applyCompany (app : Application) (reads : ApplyReads) (work : Applying) (company : RegisterLookupCompany) : Except Refusal Applying := do
  let (work, unit) ← placeCompany app reads work company
  match factsToStore app.completedAt reads company with
  | none => .ok work
  | some (authority, facts, readAt) =>
    .ok (storeFacts app.tenantId app.actor unit authority facts (company.sourceUrl.getD "") readAt work)

/-- The loop: what is written, and the refusal it stops at, if any. -/
def applyCompanies (app : Application) (reads : ApplyReads) (work : Applying) : List RegisterLookupCompany → Applying × Option Refusal
  | [] => (work, none)
  | company :: rest =>
    match applyCompany app reads work company with
    | .ok next => applyCompanies app reads next rest
    | .error refused => (work, some refused)

structure RegisterApplyOut where
  created : Nat
  linked : Nat
  /-- The unit of each chosen company, in their order. -/
  orgUnits : List (String × Id)

def appliedEvent (actor : Actor) (tenantId : Id) (lookup : RegisterLookup) (created linked : Nat) : AuditEvent where
  action := "register_lookup.applied"
  actor := actor
  subjectType := "register_lookup"
  subjectId := some lookup.id
  subjectTitle := lookup.query
  summary := "Added the chosen companies from the public registers to the organisation."
  tenantId := some tenantId
  after := [("created", .number created), ("linked", .number linked)]

def lookupNotDone : Refusal where
  code := "lookup_not_done"
  detail := "This lookup has not finished. Wait until it has, then add the companies."

/-- `sorted(set(leis) - set(by_lei))`. -/
def unknownLeis (lookup : RegisterLookup) (leis : List String) : List String :=
  (leis.eraseDups.filter (· ∉ lookup.result.entities.map (·.lei))).insertionSort (· ≤ ·)

def unknownLei (unknown : List String) : Refusal where
  code := "unknown_lei"
  detail := "Not a company this lookup found: " ++ Taxonomy.joined (unknown.take 5) ++ "."

def chosenOf (lookup : RegisterLookup) (leis : List String) : List RegisterLookupCompany :=
  lookup.result.entities.filter (·.lei ∈ leis)

def RegisterBook.application (book : RegisterBook) (actor : Actor) (lookup : RegisterLookup) : Application where
  tenantId := book.tenantId
  actor := actor
  companies := lookup.result.entities
  completedAt := lookup.completedAt
  units := legalEntities book.units
  group := (groupUnit book.units).map (·.id)

/-- `apply_lookup`, and what its request commits: the events of a loop that is refused are never written. -/
def applyLookup (book : RegisterBook) (reads : ApplyReads) (actor : Actor) (lookup : RegisterLookup) (leis : List String) :
    RegisterBook × Except Refusal RegisterApplyOut :=
  if lookup.status ≠ .succeeded then (book, .error lookupNotDone)
  else if unknownLeis lookup leis ≠ [] then (book, .error (unknownLei (unknownLeis lookup leis)))
  else
    let start : Applying := { units := book.units, entries := book.entries }
    let chosen := chosenOf lookup leis
    match applyCompanies (book.application actor lookup) reads start chosen with
    | (work, some refused) => ({ book with units := work.units, entries := work.entries }, .error refused)
    | (work, none) =>
      let linked := chosen.length - work.created
      ({ book with
          units := work.units
          entries := work.entries
          audit := book.audit ++ work.pending ++ [appliedEvent actor book.tenantId lookup work.created linked] },
        .ok { created := work.created, linked, orgUnits := work.placed })

end Grc.Tenants
