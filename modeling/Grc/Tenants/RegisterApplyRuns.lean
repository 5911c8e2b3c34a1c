import Grc.Lib.Lists
import Grc.Tenants.OrganisationRuns
import Grc.Tenants.RegisterApply
import Mathlib.Algebra.Order.BigOperators.Group.List
import Mathlib.Algebra.Order.Group.Nat

/-! What an application of a lookup makes of the organisation: each chosen company's unit, the parent of a new one, what a second
application finds, and what a refusal leaves behind. -/
namespace Grc.Tenants

open Grc.Shared Grc.Lib
open Grc.Proposals (strip)
open Grc.Library (isSpace)
open Grc.Taxonomy (termByRef)

/-! ## The new unit -/

theorem strip_of_visible {text : String} (visible : ∀ c ∈ text.toList, isSpace c = false) : strip text = text := by
  have front : text.toList.dropWhile isSpace = text.toList := by
    refine List.dropWhile_eq_self_iff.mpr fun some_ blank => ?_
    exact Bool.eq_false_iff.mp (visible _ (List.getElem_mem some_)) blank
  have back : text.toList.rdropWhile isSpace = text.toList := by
    refine List.rdropWhile_eq_self_iff.mpr fun some_ blank => ?_
    exact Bool.eq_false_iff.mp (visible _ (List.getLast_mem some_)) blank
  rw [strip, front, back, String.ofList_toList]

theorem isSpace_of_ascii {c : Char} (plain : isUpperAscii c = true ∨ isAsciiDigit c = true) : isSpace c = false := by
  have between : 48 ≤ c.toNat ∧ c.toNat ≤ 90 := by
    rcases plain with upper | digit
    · simp only [isUpperAscii, Bool.and_eq_true, decide_eq_true_eq, Char.le_def, UInt32.le_iff_toNat_le] at upper
      exact ⟨Nat.le_trans (by decide) upper.1, upper.2⟩
    · simp only [isAsciiDigit, Bool.and_eq_true, decide_eq_true_eq, Char.le_def, UInt32.le_iff_toNat_le] at digit
      exact ⟨digit.1, Nat.le_trans digit.2 (by decide)⟩
  have low : ¬8192 ≤ c.toNat := by omega
  have apart : c.toNat ∉ [9, 10, 11, 12, 13, 28, 29, 30, 31, 32, 133, 160, 5760, 8232, 8233, 8239, 8287, 12288] := by
    simp only [List.mem_cons, List.not_mem_nil, or_false]
    omega
  simp [isSpace, low, apart]

theorem Strings.stored (strings : Strings) {text : String}
    (plain : ∀ c ∈ text.toList, isUpperAscii c = true ∨ isAsciiDigit c = true) :
    strings.upper text = text ∧ strings.upper (strip text) = text := by
  rw [strip_of_visible fun c there => isSpace_of_ascii (plain c there)]
  exact ⟨strings.upper_ascii text plain, strings.upper_ascii text plain⟩

theorem lei_plain {lei : String} (read : isLei lei = true) : ∀ c ∈ lei.toList, isUpperAscii c = true ∨ isAsciiDigit c = true := by
  simp only [isLei, Bool.and_eq_true, List.all_eq_true, Bool.or_eq_true] at read
  intro c there
  rw [← List.take_append_drop 18 lei.toList] at there
  rcases List.mem_append.mp there with front | back
  · exact read.1.2 c front
  · exact .inr (read.2 c back)

theorem lei_ne_empty {lei : String} (read : isLei lei = true) : lei ≠ "" := by
  rintro rfl
  simp [isLei] at read

theorem country_plain {country : String} (read : country = "" ∨ isCountry country = true) :
    ∀ c ∈ country.toList, isUpperAscii c = true ∨ isAsciiDigit c = true := by
  intro c there
  rcases read with rfl | two
  · cases there
  · simp only [isCountry, Bool.and_eq_true, List.all_eq_true] at two
    exact .inl (two.2 c there)

/-- The unit a company is added as. -/
def madeUnit (company : LeiCompany) (parent entityTerm : Option Id) (id : Id) : OrgUnit where
  id := id
  kind := .legalEntity
  name := company.name
  parent := parent
  orgNumber := strip company.registrationNumber
  lei := company.lei
  countryCode := company.country
  entityTerm := entityTerm

variable {reads : ApplyReads} {units : Keyed OrgUnit.id} {tenantId : Id} {actor : Actor} {company : RegisterLookupCompany}
  {parent : Option Id}

def ApplyReads.typeGone (reads : ApplyReads) (company : RegisterLookupCompany) : Bool :=
  (reads.entityTerm company).any fun key => (termByRef (reads.adding company.lei) "legal_entity" key).toOption.isNone

theorem typeGone_iff : reads.typeGone company = true ↔
    ∀ term, optionally (termByRef (reads.adding company.lei) "legal_entity") (reads.entityTerm company) ≠ .ok term := by
  unfold ApplyReads.typeGone
  cases reads.entityTerm company with
  | none => simp [optionally]
  | some key =>
    cases found : termByRef (reads.adding company.lei) "legal_entity" key with
    | error | ok => simp [optionally, found, Except.map, Except.toOption]

variable {entityTerm : Option Id}

theorem checkFields_company :
    checkFields (reads.org company.lei) .legalEntity (unitFields company.toLeiCompany parent (reads.entityTerm company)) = .ok entityTerm ↔
      ∃ term, optionally (termByRef (reads.adding company.lei) "legal_entity") (reads.entityTerm company) = .ok term ∧
        term.map (·.id) = entityTerm := by
  have lei : ∀ lei ∈ some company.lei, lei ≠ "" → isLei ((reads.org company.lei).upper lei) = true := by
    intro lei its _
    obtain rfl := Option.some.inj its
    have same := (reads.strings.stored (lei_plain company.leiRead)).1
    exact (congrArg isLei same).trans company.leiRead
  have country : ∀ country ∈ some company.country, country ≠ "" → isCountry ((reads.org company.lei).upper country) = true := by
    intro country its named
    obtain rfl := Option.some.inj its
    have same := (reads.strings.stored (country_plain company.countryRead)).1
    exact (congrArg isCountry same).trans (company.countryRead.resolve_left named)
  simp only [checkFields, bind_ok, require_ok, Except.ok.injEq]
  constructor
  · rintro ⟨_, -, _, -, _, -, term, found, same⟩
    exact ⟨term, found, same⟩
  · rintro ⟨term, found, same⟩
    exact ⟨⟨⟩, .inl trivial, ⟨⟩, lei, ⟨⟩, country, term, found, same⟩

theorem setFields_company (id : Id) :
    setFields (reads.org company.lei) (unitFields company.toLeiCompany parent (reads.entityTerm company)) entityTerm
      { id, kind := .legalEntity, name := company.name } = madeUnit company.toLeiCompany parent entityTerm id := by
  have itsLei : (reads.org company.lei).upper (strip company.lei) = company.lei := (reads.strings.stored (lei_plain company.leiRead)).2
  have itsCountry : (reads.org company.lei).upper (strip company.country) = company.country :=
    (reads.strings.stored (country_plain company.countryRead)).2
  simp only [setFields, unitFields, madeUnit, Option.map_some, Option.getD_some, Option.getD_none, itsLei, itsCountry]
  cases entityTerm with
  | none | some =>
    cases parent with
    | none | some => rfl

/-- Under a parent of the bank's own a company is added as it is, unless its type is gone. -/
theorem addOrgUnit_company (tenantId : Id) (actor : Actor) (there : ∀ id ∈ parent, ∃ unit ∈ units.rows, unit.id = id) :
    (reads.typeGone company = false ∧ ∃ entityTerm event, addOrgUnit units tenantId (reads.org company.lei) actor .legalEntity company.name
      (unitFields company.toLeiCompany parent (reads.entityTerm company)) =
        .ok (units.create (madeUnit company.toLeiCompany parent entityTerm) fun _ => rfl, event)) ∨
    (reads.typeGone company = true ∧ ∃ refused, addOrgUnit units tenantId (reads.org company.lei) actor .legalEntity company.name
      (unitFields company.toLeiCompany parent (reads.entityTerm company)) = .error refused) := by
  cases gone : reads.typeGone company with
  | true =>
    refine .inr ⟨rfl, ?_⟩
    cases added : addOrgUnit units tenantId (reads.org company.lei) actor .legalEntity company.name
      (unitFields company.toLeiCompany parent (reads.entityTerm company)) with
    | error refused => exact ⟨refused, rfl⟩
    | ok made =>
      obtain ⟨entityTerm, checked, -⟩ := bind_ok.mp added
      obtain ⟨term, found, -⟩ := checkFields_company.mp checked
      exact absurd found (typeGone_iff.mp gone term)
  | false =>
    refine .inl ⟨rfl, ?_⟩
    obtain ⟨term, found⟩ : ∃ term, optionally (termByRef (reads.adding company.lei) "legal_entity") (reads.entityTerm company) = .ok term := by
      by_contra none_
      exact Bool.eq_false_iff.mp gone (typeGone_iff.mpr (not_exists.mp none_))
    obtain ⟨row, hangs⟩ : ∃ row, optionally (orgUnitOf units) parent = .ok row := by
      cases parent with
      | none => exact ⟨none, rfl⟩
      | some id =>
        obtain ⟨unit, listed, same⟩ := there id rfl
        have some_ : (units.rows.find? (·.id == id)).isSome = true := List.find?_isSome.mpr ⟨unit, listed, beq_iff_eq.mpr same⟩
        obtain ⟨row, first⟩ := Option.isSome_iff_exists.mp some_
        exact ⟨some row, map_ok.mpr ⟨row, demand_ok.mpr first, rfl⟩⟩
    let unit := madeUnit company.toLeiCompany parent (term.map (·.id)) units.fresh
    refine ⟨term.map (·.id), unitEvent "org_unit.created" "Added a unit to the organisation." actor tenantId unit []
      (unitSnapshot (reads.org company.lei) unit), ?_⟩
    have headless : activeHead (reads.org company.lei) (unitFields company.toLeiCompany parent (reads.entityTerm company)) = .ok ⟨⟩ :=
      require_ok.mpr nofun
    unfold addOrgUnit
    simp only [bind_ok]
    exact ⟨_, checkFields_company.mpr ⟨term, found, rfl⟩, row, hangs, ⟨⟩, headless, by simp only [setFields_company]; rfl⟩

/-! ## The parent of a new unit -/

/-- The nearest wanted company, from a parent up. -/
inductive Nearest (companies : List RegisterLookupCompany) (wanted : String → Prop) : Option String → Option String → Prop where
  | top : Nearest companies wanted none none
  | outside {lei : String} (missing : ∀ company ∈ companies, company.lei ≠ lei) : Nearest companies wanted (some lei) none
  | here {company : RegisterLookupCompany} (listed : company ∈ companies) (chosen : wanted company.lei) :
      Nearest companies wanted (some company.lei) (some company.lei)
  | up {company : RegisterLookupCompany} {above : Option String} (listed : company ∈ companies) (left : ¬wanted company.lei)
      (further : Nearest companies wanted company.parentLei above) : Nearest companies wanted (some company.lei) above

variable {companies before after : List RegisterLookupCompany} {placed : List (String × Id)} {wanted : String → Prop} {lei : String}

theorem unitPlaced_eq_none : unitPlaced placed lei = none ↔ lei ∉ placed.map Prod.fst := by
  simp only [unitPlaced, Option.map_eq_none_iff, List.find?_eq_none, beq_iff_eq, List.mem_map, not_exists, not_and]

theorem parent_before {above : RegisterLookupCompany} (ordered : ParentsFirst (companies.map (·.toLeiCompany)))
    (split : companies = before ++ company :: after) (listed : above ∈ companies) (parent : company.parentLei = some above.lei) :
    above ∈ before := by
  subst split
  rcases List.mem_append.mp listed with first | rest
  · exact first
  · rcases List.mem_cons.mp rest with rfl | later
    · exact absurd parent (ordered.other _ (List.mem_map_of_mem listed))
    · have each := ordered.first
      rw [List.map_append, List.map_cons, List.pairwise_append] at each
      have apart := (List.pairwise_cons.mp each.2.1).1 _ (List.mem_map_of_mem later)
      exact absurd parent apart

/-- The walk up stops at the nearest wanted company, while those placed so far are the wanted ones found before. -/
theorem climb_nearest (wanted : String → Prop) (ordered : ParentsFirst (companies.map (·.toLeiCompany))) (found : ∀ lei ∈ placed.map Prod.fst, ∃ company ∈ companies, company.lei = lei)
    (turns : Nat) (seen : List String) (company : RegisterLookupCompany) (before after : List RegisterLookupCompany)
    (split : companies = before ++ company :: after) (enough : before.length < turns)
    (unseen : ∀ above ∈ before, above.lei ∉ seen) (placing : ∀ above ∈ before, above.lei ∈ placed.map Prod.fst ↔ wanted above.lei) :
    ∃ above, Nearest companies wanted company.parentLei above ∧
      (climb companies placed turns seen company.parentLei).bind (unitPlaced placed) = above.bind (unitPlaced placed) ∧
      ∀ lei ∈ above, lei ∈ placed.map Prod.fst := by
  induction turns generalizing seen company before after with
  | zero => cases enough
  | succ turns ih =>
    cases parent : company.parentLei with
    | none => exact ⟨none, .top, rfl, nofun⟩
    | some lei =>
      cases row : companies.find? (·.lei == lei) with
      | none =>
        have missing : ∀ company ∈ companies, company.lei ≠ lei := fun other listed same =>
          List.find?_eq_none.mp row other listed (beq_iff_eq.mpr same)
        have unplaced : unitPlaced placed lei = none := by
          refine unitPlaced_eq_none.mpr fun there => ?_
          obtain ⟨other, listed, same⟩ := found lei there
          exact missing other listed same
        refine ⟨none, .outside missing, ?_, nofun⟩
        simp only [climb, row, Option.bind_some, unplaced]
        rfl
      | some above =>
        have listed := List.mem_of_find?_eq_some row
        have same : above.lei = lei := beq_iff_eq.mp (List.find?_some (p := fun other : RegisterLookupCompany => other.lei == lei) row)
        subst same
        have first := parent_before ordered split listed parent
        by_cases there : above.lei ∈ placed.map Prod.fst
        · have stops : unitPlaced placed above.lei ≠ none := fun none_ => unitPlaced_eq_none.mp none_ there
          refine ⟨some above.lei, .here listed ((placing above first).mp there), ?_, ?_⟩
          · simp only [climb, row, stops, false_and, if_false]
          · rintro _ ⟨⟩
            exact there
        · obtain ⟨front, back, rfl⟩ := List.append_of_mem first
          have whole : companies = front ++ above :: (back ++ company :: after) := by simp [split]
          have once := ordered.once
          rw [whole, List.map_map, List.map_append, List.map_cons] at once
          have apart : ∀ other ∈ front, other.lei ∉ above.lei :: seen := fun other member =>
            List.not_mem_cons_of_ne_of_not_mem
              (fun equal => (List.nodup_append.mp once).2.2 _ (List.mem_map_of_mem member) _ List.mem_cons_self equal)
              (unseen other (List.mem_append_left _ member))
          have shorter : front.length < turns := by
            rw [List.length_append, List.length_cons] at enough
            omega
          obtain ⟨nearest, up, same, inside⟩ := ih (above.lei :: seen) above front (back ++ company :: after) whole shorter apart
            fun other member => placing other (List.mem_append_left _ member)
          refine ⟨nearest, .up listed (fun chosen => there ((placing above first).mpr chosen)) up, ?_, inside⟩
          rw [← same]
          simp only [climb, row, unitPlaced_eq_none.mpr there, unseen above first, not_false_eq_true, and_self, if_true]

/-! ## One company -/

variable {book : RegisterBook} {lookup : RegisterLookup} {leis : List String} {work next : Applying} {done : List RegisterLookupCompany}

def RegisterBook.known (book : RegisterBook) (reads : ApplyReads) (company : RegisterLookupCompany) : Option OrgUnit :=
  matchUnit reads.strings (legalEntities book.units) company.toLeiCompany

variable {unit : OrgUnit}

theorem mem_legalEntities :
    unit ∈ legalEntities units ↔ unit ∈ units.rows ∧ unit.kind = .legalEntity ∧ unit.active = true := by
  simp [legalEntities, (List.perm_insertionSort _ _).mem_iff]

theorem matchUnit_listed {strings : Strings} {listed : List OrgUnit} {company : LeiCompany}
    (found : matchUnit strings listed company = some unit) : unit ∈ listed := by
  unfold matchUnit at found
  dsimp only at found
  cases first : listed.find? fun unit => unit.lei ≠ "" ∧ unit.lei = company.lei with
  | some row =>
    rw [first] at found
    obtain rfl : row = unit := Option.some.inj found
    exact List.mem_of_find?_eq_some first
  | none =>
    rw [first] at found
    exact List.mem_of_find?_eq_some found

theorem known_listed (known : book.known reads company = some unit) :
    unit ∈ book.units.rows ∧ unit.kind = .legalEntity ∧ unit.active = true :=
  mem_legalEntities.mp (matchUnit_listed known)

theorem groupUnit_listed (first : groupUnit units = some unit) : unit ∈ units.rows := by
  have there := List.mem_of_head? first
  exact (List.mem_filter.mp ((List.perm_insertionSort _ _).mem_iff.mp there)).1

def parentFor (book : RegisterBook) (lookup : RegisterLookup) (placed : List (String × Id)) (company : LeiCompany) : Option Id :=
  placedAncestor lookup.result.entities placed company <|> (groupUnit book.units).map (·.id)

/-- Storing facts places nothing and adds no unit. -/
structure SamePlaces (work next : Applying) : Prop where
  units : next.units = work.units
  placed : next.placed = work.placed
  created : next.created = work.created

variable {facts : CompanyFacts} {sourceUrl : String} {readAt : Instant}

theorem storeFacts_places {unit authority : Id} :
    SamePlaces work (storeFacts tenantId actor unit authority facts sourceUrl readAt work) := by
  unfold storeFacts
  split
  · exact ⟨rfl, rfl, rfl⟩
  · split
    · exact ⟨rfl, rfl, rfl⟩
    · exact ⟨rfl, rfl, rfl⟩

theorem applyCompany_placed {app : Application} {middle : Applying} {unit : Id}
    (placed : placeCompany app reads work company = .ok (middle, unit)) :
    ∃ next, applyCompany app reads work company = .ok next ∧ SamePlaces middle next := by
  unfold applyCompany
  rw [placed]
  cases stored : factsToStore app.completedAt reads company with
  | none => exact ⟨middle, rfl, rfl, rfl, rfl⟩
  | some facts => exact ⟨_, rfl, storeFacts_places⟩

theorem applyCompany_known (actor : Actor) (lookup : RegisterLookup) (work : Applying) (known : book.known reads company = some unit) :
    ∃ next, applyCompany (book.application actor lookup) reads work company = .ok next ∧ next.units = work.units ∧
      next.placed = work.placed ++ [(company.lei, unit.id)] ∧ next.created = work.created := by
  have placed : placeCompany (book.application actor lookup) reads work company =
      .ok ({ work with placed := work.placed ++ [(company.lei, unit.id)] }, unit.id) := by
    unfold placeCompany
    rw [show matchUnit reads.strings (book.application actor lookup).units company.toLeiCompany = some unit from known]
  obtain ⟨next, accepted, same⟩ := applyCompany_placed placed
  exact ⟨next, accepted, same.units, same.placed, same.created⟩

theorem applyCompany_missing (actor : Actor) (missing : book.known reads company = none)
    (there : ∀ id ∈ parentFor book lookup work.placed company.toLeiCompany, ∃ unit ∈ work.units.rows, unit.id = id) :
    (reads.typeGone company = false ∧ ∃ next entityTerm, applyCompany (book.application actor lookup) reads work company = .ok next ∧
      next.units = work.units.create (madeUnit company.toLeiCompany (parentFor book lookup work.placed company.toLeiCompany) entityTerm)
        (fun _ => rfl) ∧
      next.placed = work.placed ++ [(company.lei, work.units.fresh)] ∧ next.created = work.created + 1) ∨
    (reads.typeGone company = true ∧ ∃ refused, applyCompany (book.application actor lookup) reads work company = .error refused) := by
  have adds : placeCompany (book.application actor lookup) reads work company =
      (addOrgUnit work.units book.tenantId (reads.org company.lei) actor .legalEntity company.name
        (unitFields company.toLeiCompany (parentFor book lookup work.placed company.toLeiCompany) (reads.entityTerm company))).bind fun made =>
      .ok ({ work with
        units := made.1
        pending := work.pending ++ [made.2]
        placed := work.placed ++ [(company.lei, work.units.fresh)]
        created := work.created + 1 }, work.units.fresh) := by
    unfold placeCompany
    rw [show matchUnit reads.strings (book.application actor lookup).units company.toLeiCompany = none from missing]
    rfl
  rcases addOrgUnit_company book.tenantId actor there with ⟨live, entityTerm, event, added⟩ | ⟨gone, refused, added⟩
  · rw [added] at adds
    obtain ⟨next, accepted, same⟩ := applyCompany_placed adds
    exact .inl ⟨live, next, entityTerm, accepted, same.units, same.placed, same.created⟩
  · rw [added] at adds
    refine .inr ⟨gone, refused, ?_⟩
    unfold applyCompany
    rw [adds]
    rfl

/-! ## The loop over the chosen companies -/

/-- A new unit's parent: the unit of the nearest chosen company above it, else the bank's group. -/
def HangsAt (book : RegisterBook) (placed : List (String × Id)) : Option String → Option Id → Prop
  | some lei, parent => ∃ id, unitPlaced placed lei = some id ∧ parent = some id
  | none, parent => parent = (groupUnit book.units).map (·.id)

/-- A company the bank did not have, and the unit it was added as. -/
structure AddedAs (book : RegisterBook) (lookup : RegisterLookup) (leis : List String) (placed : List (String × Id))
    (company : RegisterLookupCompany) (unit : OrgUnit) : Prop where
  listed : (company.lei, unit.id) ∈ placed
  made : ∃ above parent entityTerm, Nearest lookup.result.entities (· ∈ leis) company.parentLei above ∧ HangsAt book placed above parent ∧
    unit = madeUnit company.toLeiCompany parent entityTerm unit.id

def missingOf (book : RegisterBook) (reads : ApplyReads) (chosen : List RegisterLookupCompany) : List RegisterLookupCompany :=
  chosen.filter fun company => book.known reads company = none

/-- What holds of an application once these companies have their units. -/
structure Carried (book : RegisterBook) (reads : ApplyReads) (lookup : RegisterLookup) (leis : List String)
    (done : List RegisterLookupCompany) (work : Applying) : Prop where
  units : ∃ new, work.units.rows = book.units.rows ++ new ∧
    List.Forall₂ (AddedAs book lookup leis work.placed) (missingOf book reads done) new
  leis : work.placed.map Prod.fst = done.map (·.lei)
  known : ∀ company ∈ done, ∀ unit, book.known reads company = some unit → (company.lei, unit.id) ∈ work.placed
  origin : ∀ pair ∈ work.placed, (∃ company ∈ done, ∃ unit, book.known reads company = some unit ∧ pair.2 = unit.id) ∨
    pair.2 ∉ book.units.rows.map (·.id)
  there : ∀ pair ∈ work.placed, ∃ unit ∈ work.units.rows, unit.id = pair.2 ∧ unit.kind = .legalEntity ∧ unit.active = true
  created : work.created = (missingOf book reads done).length
  apart : (done.filterMap fun company => (book.known reads company).map (·.id)).Nodup → (work.placed.map Prod.snd).Nodup

theorem start_carried : Carried book reads lookup leis [] { units := book.units, entries := book.entries } where
  units := ⟨[], (List.append_nil _).symm, .nil⟩
  leis := rfl
  known := List.forall_mem_nil _
  origin := List.forall_mem_nil _
  there := List.forall_mem_nil _
  created := rfl
  apart := fun _ => List.nodup_nil

theorem HangsAt.append {more : List (String × Id)} {above : Option String} (hangs : HangsAt book placed above parent) :
    HangsAt book (placed ++ more) above parent := by
  cases above with
  | none => exact hangs
  | some lei =>
    obtain ⟨id, found, same⟩ := hangs
    obtain ⟨pair, first, its⟩ := Option.map_eq_some_iff.mp found
    refine ⟨id, ?_, same⟩
    rw [unitPlaced, List.find?_append, first]
    exact congrArg some its

theorem AddedAs.append {more : List (String × Id)} (added : AddedAs book lookup leis placed company unit) :
    AddedAs book lookup leis (placed ++ more) company unit := by
  obtain ⟨listed, above, parent, entityTerm, nearest, hangs, made⟩ := added
  exact ⟨List.mem_append_left _ listed, above, parent, entityTerm, nearest, hangs.append, made⟩

theorem Carried.link (carried : Carried book reads lookup leis done work) (known : book.known reads company = some unit)
    (units : next.units = work.units) (placing : next.placed = work.placed ++ [(company.lei, unit.id)])
    (count : next.created = work.created) : Carried book reads lookup leis (done ++ [company]) next := by
  obtain ⟨listed, entity, active⟩ := known_listed known
  have same : missingOf book reads (done ++ [company]) = missingOf book reads done := by simp [missingOf, known]
  constructor
  · obtain ⟨new, rows, added⟩ := carried.units
    refine ⟨new, units ▸ rows, same ▸ placing ▸ added.imp fun _ _ its => its.append⟩
  · simp [placing, carried.leis]
  · intro other there its found
    rw [placing]
    rcases mem_concat.mp there with before | rfl
    · exact List.mem_append_left _ (carried.known other before its found)
    · obtain rfl := Option.some.inj (known.symm.trans found)
      exact List.mem_append_right _ List.mem_cons_self
  · intro pair there
    rw [placing] at there
    rcases mem_concat.mp there with before | rfl
    · refine (carried.origin pair before).imp ?_ id
      rintro ⟨other, listed, rest⟩
      exact ⟨other, List.mem_append_left _ listed, rest⟩
    · exact .inl ⟨company, List.mem_append_right _ List.mem_cons_self, unit, known, rfl⟩
  · intro pair there
    rw [placing] at there
    rw [units]
    rcases mem_concat.mp there with before | rfl
    · exact carried.there pair before
    · obtain ⟨added, rows, -⟩ := carried.units
      exact ⟨unit, rows ▸ List.mem_append_left _ listed, rfl, entity, active⟩
  · rw [count, same]
    exact carried.created
  · intro distinct
    rw [List.filterMap_append] at distinct
    obtain ⟨before, -, beside⟩ := List.nodup_append.mp distinct
    rw [placing, List.map_append]
    refine List.concat_eq_append ▸ (carried.apart before).concat fun there => ?_
    obtain ⟨pair, placed, its⟩ := List.mem_map.mp there
    rcases carried.origin pair placed with ⟨other, earlier, row, found, named⟩ | away
    · refine beside unit.id (List.mem_filterMap.mpr ⟨other, earlier, ?_⟩) unit.id (by simp [known]) rfl
      rw [found, Option.map_some, ← named, its]
    · exact away (its ▸ List.mem_map_of_mem listed)

theorem Carried.add {above : Option String} (carried : Carried book reads lookup leis done work)
    (missing : book.known reads company = none) (nearest : Nearest lookup.result.entities (· ∈ leis) company.parentLei above)
    (hangs : HangsAt book work.placed above parent)
    (units : next.units = work.units.create (madeUnit company.toLeiCompany parent entityTerm) fun _ => rfl)
    (placing : next.placed = work.placed ++ [(company.lei, work.units.fresh)]) (count : next.created = work.created + 1) :
    Carried book reads lookup leis (done ++ [company]) next := by
  have more : missingOf book reads (done ++ [company]) = missingOf book reads done ++ [company] := by simp [missingOf, missing]
  have rows_ : next.units.rows = work.units.rows ++ [madeUnit company.toLeiCompany parent entityTerm work.units.fresh] := by
    rw [units]
    rfl
  have free : ∀ unit ∈ work.units.rows, unit.id ≠ work.units.fresh := fun unit listed => Nat.ne_of_lt (Keyed.key_lt_fresh listed)
  obtain ⟨new, rows, added⟩ := carried.units
  constructor
  · refine ⟨new ++ [madeUnit company.toLeiCompany parent entityTerm work.units.fresh], ?_, ?_⟩
    · rw [rows_, rows, List.append_assoc]
    · rw [more, placing]
      refine List.rel_append (added.imp fun _ _ its => its.append) (.cons ⟨?_, above, parent, entityTerm, nearest, hangs.append, rfl⟩ .nil)
      exact List.mem_append_right _ List.mem_cons_self
  · simp [placing, carried.leis]
  · intro other there its found
    rw [placing]
    rcases mem_concat.mp there with before | rfl
    · exact List.mem_append_left _ (carried.known other before its found)
    · exact absurd (missing.symm.trans found) nofun
  · intro pair there
    rw [placing] at there
    rcases mem_concat.mp there with before | rfl
    · refine (carried.origin pair before).imp ?_ id
      rintro ⟨other, listed, rest⟩
      exact ⟨other, List.mem_append_left _ listed, rest⟩
    · refine .inr fun old => ?_
      obtain ⟨unit, listed, same⟩ := List.mem_map.mp old
      exact free unit (rows ▸ List.mem_append_left _ listed) same
  · intro pair there
    rw [placing] at there
    rw [rows_]
    rcases mem_concat.mp there with before | rfl
    · obtain ⟨unit, listed, its⟩ := carried.there pair before
      exact ⟨unit, List.mem_append_left _ listed, its⟩
    · exact ⟨_, List.mem_append_right _ List.mem_cons_self, rfl, rfl, rfl⟩
  · rw [count, more, List.length_append, carried.created]
    rfl
  · intro distinct
    rw [List.filterMap_append] at distinct
    rw [placing, List.map_append]
    refine List.concat_eq_append ▸ (carried.apart (List.nodup_append.mp distinct).1).concat fun there => ?_
    obtain ⟨pair, placed, its⟩ := List.mem_map.mp there
    obtain ⟨unit, listed, same, -⟩ := carried.there pair placed
    exact free unit listed (same.trans its)

/-! ## What a turn writes -/

def StoresNew (entries : Keyed RegisterEntry.id) (unit authority : Id) (facts : CompanyFacts) (readAt : Instant) : Prop :=
  ∀ entry ∈ entryOf entries unit authority, entry.readAt < readAt ∧ entry.facts ≠ facts

instance (entries : Keyed RegisterEntry.id) (unit authority : Id) (facts : CompanyFacts) (readAt : Instant) :
    Decidable (StoresNew entries unit authority facts readAt) :=
  inferInstanceAs (Decidable (∀ entry ∈ entryOf entries unit authority, _))

/-- A company's turn writes something: the bank does not have it, or its facts are stored. -/
def Writes (book : RegisterBook) (reads : ApplyReads) (lookup : RegisterLookup) (company : RegisterLookupCompany) : Prop :=
  ∀ unit ∈ book.known reads company, ∃ stored ∈ factsToStore lookup.completedAt reads company,
    StoresNew book.entries unit.id stored.1 stored.2.1 stored.2.2

def Unwritten (book : RegisterBook) (work : Applying) : Prop := work.units = book.units ∧ work.entries = book.entries

def Applying.weight (work : Applying) : Nat :=
  work.units.rows.length + work.entries.rows.length + (work.entries.rows.map (·.version)).sum

theorem not_unwritten (same : Unwritten book work) (grown : work.weight < next.weight) : ¬Unwritten book next := by
  intro later
  rw [Applying.weight, Applying.weight, same.1, same.2, later.1, later.2] at grown
  exact Nat.lt_irrefl _ grown

theorem changed_weight {entries : Keyed RegisterEntry.id} {entry : RegisterEntry} (facts : CompanyFacts) (sourceUrl : String)
    (readAt : Instant) (there : entry ∈ entries.rows) : (entries.rows.map (·.version)).sum <
      ((entries.update (·.id == entry.id) (RegisterEntry.changed facts sourceUrl readAt) fun _ => rfl).rows.map (·.version)).sum := by
  have rows : ((entries.update (·.id == entry.id) (RegisterEntry.changed facts sourceUrl readAt) fun _ => rfl).rows.map (·.version)) =
      entries.rows.map fun row => (if (row.id == entry.id) = true then row.changed facts sourceUrl readAt else row).version := List.map_map
  rw [rows]
  refine List.sum_lt_sum _ _ (fun row _ => ?_) ⟨entry, there, ?_⟩
  · split
    · exact Nat.le_succ _
    · exact Nat.le_refl _
  · simp only [beq_self_eq_true, if_true]
    exact Nat.lt_succ_self _

theorem entryOf_listed {entries : Keyed RegisterEntry.id} {unit authority : Id} {entry : RegisterEntry}
    (found : entryOf entries unit authority = some entry) : entry ∈ entries.rows := List.mem_of_find?_eq_some found

theorem storeFacts_writes (work : Applying) {unit authority : Id}
    (new : StoresNew work.entries unit authority facts readAt) :
    work.weight < (storeFacts tenantId actor unit authority facts sourceUrl readAt work).weight := by
  unfold storeFacts
  split
  · simp only [Applying.weight, Keyed.create, List.length_append, List.map_append, List.sum_append]
    simp
    omega
  · next entry found =>
    rw [if_pos (new entry found)]
    have grown := changed_weight facts sourceUrl readAt (entryOf_listed found)
    simp only [Applying.weight, Keyed.update, List.length_map] at grown ⊢
    omega

theorem storeFacts_rests (work : Applying) {unit authority : Id}
    (known : ¬StoresNew work.entries unit authority facts readAt) :
    storeFacts tenantId actor unit authority facts sourceUrl readAt work = work := by
  unfold storeFacts
  split
  · next none_ =>
    refine absurd (fun entry found => ?_) known
    rw [Option.mem_def, none_] at found
    cases found
  · next entry found =>
    refine if_neg fun newer => known fun other there => ?_
    obtain rfl := Option.some.inj (found.symm.trans there)
    exact newer

theorem storeFacts_weight (work : Applying) {unit authority : Id} :
    work.weight ≤ (storeFacts tenantId actor unit authority facts sourceUrl readAt work).weight := by
  by_cases new : StoresNew work.entries unit authority facts readAt
  · exact Nat.le_of_lt (storeFacts_writes work new)
  · rw [storeFacts_rests work new]

theorem addOrgUnit_rows {orgReads : OrgReads} {kind : OrgUnitKind} {name : String} {fields : UnitFields}
    {made : Keyed OrgUnit.id × AuditEvent} (added : addOrgUnit units tenantId orgReads actor kind name fields = .ok made) :
    made.1.rows.length = units.rows.length + 1 := by
  obtain ⟨_, -, added⟩ := bind_ok.mp added
  obtain ⟨_, -, added⟩ := bind_ok.mp added
  obtain ⟨_, -, added⟩ := bind_ok.mp added
  obtain rfl := Except.ok.inj added
  exact List.length_append

/-- A turn never lowers the measure; and of the rows the application started from, it leaves them alone or raises it. -/
theorem applyCompany_writes (accepted : applyCompany (book.application actor lookup) reads work company = .ok next) :
    work.weight ≤ next.weight ∧ (Unwritten book work →
      (Writes book reads lookup company → work.weight < next.weight) ∧ (¬Writes book reads lookup company → Unwritten book next)) := by
  obtain ⟨⟨middle, unit⟩, placed, stored⟩ := bind_ok.mp accepted
  unfold placeCompany at placed
  cases known : book.known reads company with
  | some row =>
    simp only [show matchUnit reads.strings (book.application actor lookup).units company.toLeiCompany = some row from known] at placed
    obtain ⟨rfl, rfl⟩ := Prod.mk.inj (Except.ok.inj placed)
    cases facts : factsToStore lookup.completedAt reads company with
    | none =>
      simp only [show factsToStore (book.application actor lookup).completedAt reads company = none from facts] at stored
      obtain rfl := Except.ok.inj stored
      refine ⟨Nat.le_refl _, fun same => ⟨fun writes => ?_, fun _ => same⟩⟩
      obtain ⟨_, its, -⟩ := writes row known
      exact absurd (facts.symm.trans its) nofun
    | some held =>
      obtain ⟨authority, facts_, readAt⟩ := held
      simp only [show factsToStore (book.application actor lookup).completedAt reads company = some (authority, facts_, readAt) from facts] at stored
      obtain rfl := Except.ok.inj stored
      refine ⟨storeFacts_weight { work with placed := work.placed ++ [(company.lei, row.id)] }, fun same => ⟨fun writes => ?_, fun rests => ?_⟩⟩
      · obtain ⟨_, its, new⟩ := writes row known
        obtain rfl := Option.some.inj (facts.symm.trans its)
        exact storeFacts_writes { work with placed := work.placed ++ [(company.lei, row.id)] } (same.2 ▸ new)
      · have kept : ¬StoresNew work.entries row.id authority facts_ readAt := fun new => rests fun other found => by
          obtain rfl := Option.some.inj (known.symm.trans found)
          exact ⟨_, facts, same.2 ▸ new⟩
        rw [storeFacts_rests { work with placed := work.placed ++ [(company.lei, row.id)] } kept]
        exact same
  | none =>
    simp only [show matchUnit reads.strings (book.application actor lookup).units company.toLeiCompany = none from known] at placed
    obtain ⟨made, added, placed⟩ := bind_ok.mp placed
    obtain ⟨rfl, rfl⟩ := Prod.mk.inj (Except.ok.inj placed)
    have longer := addOrgUnit_rows added
    have grown : work.weight < Applying.weight { work with
        units := made.1, pending := work.pending ++ [made.2], placed := work.placed ++ [(company.lei, work.units.fresh)]
        created := work.created + 1 } := by
      simp only [Applying.weight, longer]
      omega
    have onward : work.weight < next.weight := by
      cases facts : factsToStore (book.application actor lookup).completedAt reads company with
      | none =>
        simp only [facts] at stored
        exact Except.ok.inj stored ▸ grown
      | some held =>
        simp only [facts] at stored
        exact Except.ok.inj stored ▸ Nat.lt_of_lt_of_le grown (storeFacts_weight _)
    refine ⟨Nat.le_of_lt onward, fun _ => ⟨fun _ => onward, fun rests => absurd (fun _ found => ?_) rests⟩⟩
    exact absurd (known.symm.trans found) nofun

/-! ## A whole application -/

def RegisterBook.refuses (book : RegisterBook) (reads : ApplyReads) (company : RegisterLookupCompany) : Bool :=
  (book.known reads company).isNone && reads.typeGone company

variable {rest : List RegisterLookupCompany}

section
variable (split : chosenOf lookup leis = done ++ company :: rest)
include split

theorem chosen_before : ∃ before after, lookup.result.entities = before ++ company :: after ∧
      ∀ above ∈ before, above.lei ∈ done.map (·.lei) ↔ above.lei ∈ leis := by
  obtain ⟨front, back, whole, earlier, later⟩ := List.filter_eq_append_iff.mp split
  obtain ⟨left, after, rfl, unchosen, -, -⟩ := List.filter_eq_cons_iff.mp later
  refine ⟨front ++ left, after, by rw [whole, List.append_assoc], fun above there => ⟨fun done_ => ?_, fun chosen => ?_⟩⟩
  · obtain ⟨other, listed, same⟩ := List.mem_map.mp done_
    rw [← earlier, List.mem_filter] at listed
    exact same ▸ of_decide_eq_true listed.2
  · rcases List.mem_append.mp there with first | second
    · exact List.mem_map_of_mem (earlier ▸ List.mem_filter.mpr ⟨first, decide_eq_true chosen⟩)
    · exact absurd (decide_eq_true chosen) (unchosen above second)

theorem done_listed {other : RegisterLookupCompany} (there : other ∈ done) : other ∈ lookup.result.entities :=
  (List.mem_filter.mp (show other ∈ chosenOf lookup leis from split ▸ List.mem_append_left _ there)).1

/-- The parent of a new unit is there, and is the unit of the nearest chosen company above it or the group. -/
theorem parentFor_hangs (carried : Carried book reads lookup leis done work) :
    ∃ above, Nearest lookup.result.entities (· ∈ leis) company.parentLei above ∧
      HangsAt book work.placed above (parentFor book lookup work.placed company.toLeiCompany) ∧
      ∀ id ∈ parentFor book lookup work.placed company.toLeiCompany, ∃ unit ∈ work.units.rows, unit.id = id := by
  obtain ⟨before, after, whole, chosen⟩ := chosen_before split
  have found : ∀ lei ∈ work.placed.map Prod.fst, ∃ company ∈ lookup.result.entities, company.lei = lei := by
    intro lei there
    rw [carried.leis] at there
    obtain ⟨other, listed, same⟩ := List.mem_map.mp there
    exact ⟨other, done_listed split listed, same⟩
  have enough : before.length < lookup.result.entities.length + 1 := by
    rw [whole, List.length_append]
    omega
  obtain ⟨above, nearest, stops, inside⟩ := climb_nearest (· ∈ leis) lookup.result.ordered found _ [] company before after whole
    enough (fun _ _ => List.not_mem_nil) (carried.leis ▸ chosen)
  have parent : parentFor book lookup work.placed company.toLeiCompany =
      (above.bind (unitPlaced work.placed) <|> (groupUnit book.units).map (·.id)) := congrArg (· <|> _) stops
  rw [parent]
  refine ⟨above, nearest, ?_⟩
  cases above with
  | none =>
    refine ⟨rfl, fun id group => ?_⟩
    obtain ⟨unit, first, same⟩ := Option.map_eq_some_iff.mp group
    obtain ⟨_, rows, -⟩ := carried.units
    exact ⟨unit, rows ▸ List.mem_append_left _ (groupUnit_listed first), same⟩
  | some lei =>
    have placed : unitPlaced work.placed lei ≠ none := fun none_ => unitPlaced_eq_none.mp none_ (inside lei rfl)
    obtain ⟨id, its⟩ := Option.ne_none_iff_exists'.mp placed
    rw [Option.bind_some, its]
    refine ⟨⟨id, its, rfl⟩, ?_⟩
    rintro _ ⟨⟩
    obtain ⟨pair, first, same⟩ := Option.map_eq_some_iff.mp its
    obtain ⟨unit, listed, named, -⟩ := carried.there pair (List.mem_of_find?_eq_some first)
    exact ⟨unit, listed, named.trans same⟩

end

theorem applyCompany_carried (actor : Actor) (split : chosenOf lookup leis = done ++ company :: rest) (carried : Carried book reads lookup leis done work) :
    (book.refuses reads company = false ∧ ∃ next, applyCompany (book.application actor lookup) reads work company = .ok next ∧
      Carried book reads lookup leis (done ++ [company]) next) ∨
    (book.refuses reads company = true ∧ ∃ refused, applyCompany (book.application actor lookup) reads work company = .error refused) := by
  cases known : book.known reads company with
  | some unit =>
    obtain ⟨next, accepted, units, placing, count⟩ := applyCompany_known actor lookup work known
    exact .inl ⟨by simp [RegisterBook.refuses, known], next, accepted, carried.link known units placing count⟩
  | none =>
    obtain ⟨above, nearest, hangs, there⟩ := parentFor_hangs split carried
    rcases applyCompany_missing actor known there with ⟨live, next, entityTerm, accepted, units, placing, count⟩ | ⟨gone, refused⟩
    · exact .inl ⟨by simp [RegisterBook.refuses, live], next, accepted, carried.add known nearest hangs units placing count⟩
    · exact .inr ⟨by simp [RegisterBook.refuses, known, gone], refused⟩

theorem applyCompanies_carried (actor : Actor) (rest : List RegisterLookupCompany) (split : chosenOf lookup leis = done ++ rest)
    (carried : Carried book reads lookup leis done work) :
    ((∀ company ∈ rest, book.refuses reads company = false) ∧
      ∃ next, applyCompanies (book.application actor lookup) reads work rest = (next, none) ∧
        Carried book reads lookup leis (chosenOf lookup leis) next) ∨
    ((∃ company ∈ rest, book.refuses reads company = true) ∧
      ∃ next refused, applyCompanies (book.application actor lookup) reads work rest = (next, some refused) ∧ work.weight ≤ next.weight ∧
        (Unwritten book work →
          (Unwritten book next ↔ ∀ company ∈ rest.takeWhile (!book.refuses reads ·), ¬Writes book reads lookup company))) := by
  induction rest generalizing done work with
  | nil => exact .inl ⟨List.forall_mem_nil _, work, rfl, by rw [split, List.append_nil]; exact carried⟩
  | cons company rest ih =>
    rcases applyCompany_carried actor split carried with ⟨passes, next, accepted, onward⟩ | ⟨refuses, refused, stopped⟩
    · have loop : applyCompanies (book.application actor lookup) reads work (company :: rest) =
          applyCompanies (book.application actor lookup) reads next rest := by rw [applyCompanies, accepted]
      rw [loop]
      refine (ih (by rw [split, List.append_assoc]; rfl) onward).imp ?_ ?_
      · rintro ⟨pass, ends⟩
        exact ⟨List.forall_mem_cons.mpr ⟨passes, pass⟩, ends⟩
      · rintro ⟨some_, last, refused, ends, grows, unwritten⟩
        obtain ⟨kept, turn⟩ := applyCompany_writes accepted
        refine ⟨some_.imp fun _ its => its.imp_left (List.mem_cons_of_mem _), last, refused, ends, Nat.le_trans kept grows, fun same => ?_⟩
        rw [List.takeWhile_cons_of_pos (by rw [passes]; rfl), List.forall_mem_cons]
        by_cases writes : Writes book reads lookup company
        · exact iff_of_false (not_unwritten same (Nat.lt_of_lt_of_le ((turn same).1 writes) grows)) fun all => all.1 writes
        · rw [unwritten ((turn same).2 writes)]
          exact (and_iff_right writes).symm
    · refine .inr ⟨⟨company, List.mem_cons_self, refuses⟩, work, refused, by rw [applyCompanies, stopped], Nat.le_refl _, fun same => ?_⟩
      rw [List.takeWhile_cons_of_neg (by rw [refuses]; exact Bool.false_ne_true)]
      exact iff_of_true same (List.forall_mem_nil _)

end Grc.Tenants
