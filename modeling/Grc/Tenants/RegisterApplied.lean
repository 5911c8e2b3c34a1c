import Grc.Tenants.RegisterApplyRuns

/-! When an application of a lookup does what it says: which choices get a unit each, what applying them again finds, and which
refusals leave the bank as it was. -/
namespace Grc.Tenants

open Grc.Shared Grc.Lib

variable {book after : RegisterBook} {reads later : ApplyReads} {actor : Actor} {lookup : RegisterLookup} {leis : List String}
  {company : RegisterLookupCompany} {work next : Applying} {out : RegisterApplyOut}

/-! ## The same choice again -/

theorem matchUnit_isSome {strings : Strings} {listed : List OrgUnit} {company : LeiCompany} :
    (matchUnit strings listed company).isSome = true ↔ ∃ unit ∈ listed, (unit.lei ≠ "" ∧ unit.lei = company.lei) ∨
      (strings.digits company.registrationNumber ≠ [] ∧ strings.digits unit.orgNumber = strings.digits company.registrationNumber ∧
        (unit.countryCode = "" ∨ unit.countryCode = company.country)) := by
  simp only [matchUnit, Option.orElse_eq_orElse, Option.orElse_eq_or, Option.isSome_or, Bool.or_eq_true, List.find?_isSome,
    decide_eq_true_eq, ← exists_or, ← and_or_left]

theorem matchUnit_more {strings : Strings} {listed more : List OrgUnit} {company : LeiCompany} (sub : ∀ unit ∈ listed, unit ∈ more)
    (found : (matchUnit strings listed company).isSome = true) : (matchUnit strings more company).isSome = true := by
  obtain ⟨unit, there, fits⟩ := matchUnit_isSome.mp found
  exact matchUnit_isSome.mpr ⟨unit, sub unit there, fits⟩

theorem Carried.known_after (carried : Carried book reads lookup leis (chosenOf lookup leis) work) (units : after.units = work.units)
    (strings : later.strings = reads.strings) (chosen : company ∈ chosenOf lookup leis) : (after.known later company).isSome = true := by
  obtain ⟨new, rows, added⟩ := carried.units
  unfold RegisterBook.known
  rw [units, strings]
  cases known : book.known reads company with
  | some unit =>
    refine matchUnit_more (fun unit there => ?_) (Option.isSome_of_eq_some known)
    obtain ⟨listed, rest⟩ := mem_legalEntities.mp there
    exact mem_legalEntities.mpr ⟨rows ▸ List.mem_append_left _ listed, rest⟩
  | none =>
    have missing : company ∈ missingOf book reads (chosenOf lookup leis) := List.mem_filter.mpr ⟨chosen, by simp [known]⟩
    obtain ⟨unit, made, its⟩ := source_of_forall₂ added.flip missing
    obtain ⟨above, parent, entityTerm, -, -, same⟩ := its.made
    refine matchUnit_isSome.mpr ⟨unit, mem_legalEntities.mpr ⟨rows ▸ List.mem_append_right _ made, ?_, ?_⟩, .inl ⟨?_, ?_⟩⟩
    · rw [same]
      rfl
    · rw [same]
      rfl
    · rw [same]
      exact lei_ne_empty company.leiRead
    · rw [same]
      rfl

theorem applyLookup_done (finished : lookup.status = .succeeded) (found : unknownLeis lookup leis = [])
    (ends : applyCompanies (book.application actor lookup) reads { units := book.units, entries := book.entries } (chosenOf lookup leis) =
      (next, none)) :
    applyLookup book reads actor lookup leis =
      ({ book with
          units := next.units
          entries := next.entries
          audit := book.audit ++ next.pending ++
            [appliedEvent actor book.tenantId lookup next.created ((chosenOf lookup leis).length - next.created)] },
        .ok { created := next.created, linked := (chosenOf lookup leis).length - next.created, orgUnits := next.placed }) := by
  simp only [applyLookup, finished, found, ne_eq, not_true_eq_false, if_false, ends]

theorem applyLookup_stopped {refused : Refusal} (finished : lookup.status = .succeeded) (found : unknownLeis lookup leis = [])
    (ends : applyCompanies (book.application actor lookup) reads { units := book.units, entries := book.entries } (chosenOf lookup leis) =
      (next, some refused)) :
    applyLookup book reads actor lookup leis = ({ book with units := next.units, entries := next.entries }, .error refused) := by
  simp only [applyLookup, finished, found, ne_eq, not_true_eq_false, if_false, ends]

theorem applyLookup_known (finished : lookup.status = .succeeded) (found : unknownLeis lookup leis = [])
    (known : ∀ company ∈ chosenOf lookup leis, (book.known reads company).isSome = true) :
    ∃ after answer, applyLookup book reads actor lookup leis = (after, .ok answer) ∧ after.units = book.units ∧ answer.created = 0 := by
  have passes : ∀ company ∈ chosenOf lookup leis, book.refuses reads company = false := by
    intro company chosen
    simp [RegisterBook.refuses, Option.isNone_eq_false_iff.mpr (known company chosen)]
  have none_ : missingOf book reads (chosenOf lookup leis) = [] := by
    refine List.filter_eq_nil_iff.mpr fun company chosen => ?_
    have some_ := known company chosen
    intro gone
    rw [of_decide_eq_true gone] at some_
    cases some_
  have start : Carried book reads lookup leis [] { units := book.units, entries := book.entries } := start_carried
  rcases applyCompanies_carried actor (chosenOf lookup leis) rfl start with ⟨-, next, ends, carried⟩ | ⟨⟨company, chosen, refuses⟩, -⟩
  · refine ⟨_, _, applyLookup_done finished found ends, ?_, ?_⟩
    · obtain ⟨new, rows, added⟩ := carried.units
      rw [none_] at added
      cases added
      exact Keyed.rows_injective (rows.trans (List.append_nil _))
    · exact carried.created.trans (congrArg List.length none_)
  · exact absurd ((passes company chosen).symm.trans refuses) Bool.false_ne_true

/-! ## What an application does -/

/-- An accepted application, as it should be: each chosen company has an active legal entity of its own, the bank's where it has one,
else a new one under the nearest chosen company above it or the group; and the same choice again adds and changes none. -/
structure Applied (book after : RegisterBook) (reads : ApplyReads) (lookup : RegisterLookup) (leis : List String)
    (out : RegisterApplyOut) : Prop where
  chosen : out.orgUnits.map Prod.fst = (chosenOf lookup leis).map (·.lei)
  active : ∀ pair ∈ out.orgUnits, ∃ unit ∈ after.units.rows, unit.id = pair.2 ∧ unit.kind = .legalEntity ∧ unit.active = true
  apart : (out.orgUnits.map Prod.snd).Nodup
  matched : ∀ company ∈ chosenOf lookup leis, ∀ unit, book.known reads company = some unit → (company.lei, unit.id) ∈ out.orgUnits
  added : ∃ new, after.units.rows = book.units.rows ++ new ∧
    List.Forall₂ (AddedAs book lookup leis out.orgUnits) (missingOf book reads (chosenOf lookup leis)) new
  again : ∀ later : ApplyReads, later.strings = reads.strings → ∀ actor : Actor, ∃ last answer,
    applyLookup after later actor lookup leis = (last, .ok answer) ∧ last.units = after.units ∧ answer.created = 0

/-- An application does what it says, or is refused and leaves the bank as it was. -/
def Applies (book : RegisterBook) (reads : ApplyReads) (actor : Actor) (lookup : RegisterLookup) (leis : List String) : Prop :=
  match applyLookup book reads actor lookup leis with
  | (after, .ok out) => Applied book after reads lookup leis out
  | (after, .error _) => after = book

def RegisterBook.matches (book : RegisterBook) (reads : ApplyReads) (chosen : List RegisterLookupCompany) : List Id :=
  chosen.filterMap fun company => (book.known reads company).map (·.id)

/-- Nothing is written before the first company that refuses; and where none does, no unit is matched twice. -/
def Appliable (book : RegisterBook) (reads : ApplyReads) (lookup : RegisterLookup) (leis : List String) : Prop :=
  ((∃ company ∈ chosenOf lookup leis, book.refuses reads company = true) →
    ∀ company ∈ (chosenOf lookup leis).takeWhile (!book.refuses reads ·), ¬Writes book reads lookup company) ∧
  ((∀ company ∈ chosenOf lookup leis, book.refuses reads company = false) → (book.matches reads (chosenOf lookup leis)).Nodup)

theorem matches_nodup
    (matched : ∀ company ∈ chosenOf lookup leis, ∀ unit, book.known reads company = some unit → (company.lei, unit.id) ∈ out.orgUnits)
    (apart : (out.orgUnits.map Prod.snd).Nodup) : (book.matches reads (chosenOf lookup leis)).Nodup := by
  have once : ((chosenOf lookup leis).map (·.lei)).Nodup := by
    have each := lookup.result.ordered.once
    rw [List.map_map] at each
    exact each.sublist (List.filter_sublist.map _)
  refine List.pairwise_filterMap.mpr ((List.Nodup.of_map _ once).imp_of_mem fun {first second} here there other => ?_)
  rintro _ one _ two rfl
  obtain ⟨unit, known, same⟩ := Option.map_eq_some_iff.mp one
  obtain ⟨twin, also, equal⟩ := Option.map_eq_some_iff.mp two
  have pair : (first.lei, unit.id) = (second.lei, twin.id) :=
    List.inj_on_of_nodup_map apart (matched first here unit known) (matched second there twin also) (same.trans equal.symm)
  exact other (List.inj_on_of_nodup_map once here there (Prod.mk.inj pair).1)

/-- An application of a finished lookup does what it says exactly when nothing is written before a refusal and no two chosen companies
are one unit of the bank. -/
theorem applies_iff : Applies book reads actor lookup leis ↔
    (lookup.status = .succeeded → unknownLeis lookup leis = [] → Appliable book reads lookup leis) := by
  unfold Applies
  by_cases finished : lookup.status = .succeeded
  case neg =>
    have refused : applyLookup book reads actor lookup leis = (book, .error lookupNotDone) := if_pos finished
    rw [refused]
    exact iff_of_true rfl fun done => absurd done finished
  by_cases found : unknownLeis lookup leis = []
  case neg =>
    have refused : applyLookup book reads actor lookup leis = (book, .error (unknownLei (unknownLeis lookup leis))) := by
      simp only [applyLookup, finished, found, ne_eq, not_true_eq_false, not_false_eq_true, if_false, if_true]
    rw [refused]
    exact iff_of_true rfl fun _ none_ => absurd none_ found
  rw [forall_prop_of_true finished, forall_prop_of_true found]
  have start : Carried book reads lookup leis [] { units := book.units, entries := book.entries } := start_carried
  rcases applyCompanies_carried actor (chosenOf lookup leis) rfl start with
    ⟨passes, next, ends, carried⟩ | ⟨refuses, next, refused, ends, -, unwritten⟩
  · rw [applyLookup_done finished found ends]
    constructor
    · intro applied
      refine ⟨fun ⟨company, chosen, stops⟩ => ?_, fun _ => matches_nodup applied.matched applied.apart⟩
      exact absurd ((passes company chosen).symm.trans stops) Bool.false_ne_true
    · intro appliable
      exact {
        chosen := carried.leis
        active := carried.there
        apart := carried.apart (appliable.2 passes)
        matched := carried.known
        added := carried.units
        again := fun later strings _ => applyLookup_known finished found fun _ chosen => carried.known_after rfl strings chosen }
  · rw [applyLookup_stopped finished found ends]
    have same : ({ book with units := next.units, entries := next.entries } : RegisterBook) = book ↔ Unwritten book next :=
      ⟨fun equal => ⟨congrArg RegisterBook.units equal, congrArg RegisterBook.entries equal⟩, fun rows => by rw [rows.1, rows.2]⟩
    refine same.trans ((unwritten ⟨rfl, rfl⟩).trans ⟨fun rests => ⟨fun _ => rests, fun passes => ?_⟩, fun appliable => appliable.1 refuses⟩)
    obtain ⟨company, chosen, stops⟩ := refuses
    exact absurd ((passes company chosen).symm.trans stops) Bool.false_ne_true

/-! ## A group of which one company is refused, and two records of one company -/

open Grc.Taxonomy (registerTerms TermDimension TermTable FootprintReads)

def plainUpper (c : Char) : Char := if 'a' ≤ c ∧ c ≤ 'z' then Char.ofNat (c.toNat - 32) else c

theorem plainUpper_of_ascii {c : Char} (plain : isUpperAscii c = true ∨ isAsciiDigit c = true) : plainUpper c = c := by
  refine if_neg fun small => ?_
  simp only [Char.le_def, UInt32.le_iff_toNat_le] at small
  rcases plain with upper | digit
  · simp only [isUpperAscii, Bool.and_eq_true, decide_eq_true_eq, Char.le_def, UInt32.le_iff_toNat_le] at upper
    exact absurd (Nat.le_trans small.1 upper.2) (by decide)
  · simp only [isAsciiDigit, Bool.and_eq_true, decide_eq_true_eq, Char.le_def, UInt32.le_iff_toNat_le] at digit
    exact absurd (Nat.le_trans small.1 digit.2) (by decide)

def plainStrings : Strings where
  upper := fun text => String.ofList (text.toList.map plainUpper)
  isDigit := isAsciiDigit
  upper_ascii := by
    intro text plain
    rw [List.map_congr_left fun c there => plainUpper_of_ascii (plain c there), List.map_id', String.ofList_toList]

def holding : RegisterLookupCompany where
  lei := "549300HOLDING0000001"
  name := "Example Holding AB"
  registrationNumber := "5560000001"
  country := "SE"
  parentLei := none
  leiRead := by decide +kernel
  countryRead := by decide +kernel

def daughterBank : RegisterLookupCompany where
  lei := "549300DAUGHTER000002"
  name := "Example Bank AB"
  registrationNumber := "5560000002"
  country := "SE"
  parentLei := some "549300HOLDING0000001"
  leiRead := by decide +kernel
  countryRead := by decide +kernel
  authority := some "fi"
  facts := some { mainBusiness := "Bankaktiebolag", name := "Example Bank AB", registrationNumber := "5560000002" }

/-- The holding company under an LEI it was given before. -/
def formerHolding : RegisterLookupCompany where
  lei := "549300FORMERLEI00003"
  name := "Example Holding AB"
  registrationNumber := "556000-0001"
  country := "SE"
  parentLei := some "549300HOLDING0000001"
  leiRead := by decide +kernel
  countryRead := by decide +kernel

def groupLookup : RegisterLookup where
  id := 1
  query := "Example Holding"
  status := .succeeded
  result := { entities := [holding, daughterBank, formerHolding], ordered := ⟨by decide +kernel, by decide +kernel, by decide +kernel⟩ }
  completedAt := some 1

def entityRow : TermDimension := { id := 1, key := "legal_entity", sortOrder := 1 }

/-- The library while its one type of company is live, or retired. -/
def entityLibrary (active : Bool) : FootprintReads where
  table := {
    terms := [{ id := 10, key := "bank", dimension := entityRow, active }]
    termIds := fun _ one _ other _ => (List.mem_singleton.mp one).trans (List.mem_singleton.mp other).symm
    termKeys := fun _ one _ other _ _ => (List.mem_singleton.mp one).trans (List.mem_singleton.mp other).symm
    dimensionIds := fun _ one _ other _ => by rw [List.mem_singleton.mp one, List.mem_singleton.mp other]
    dimensionKeys := fun _ one _ other _ => by rw [List.mem_singleton.mp one, List.mem_singleton.mp other] }
  dimensions := [entityRow]
  now := 1

/-- The type is retired between the application's first read and the unit it is for. -/
def retiringReads : ApplyReads where
  strings := plainStrings
  terms := registerTerms id
  library := entityLibrary true
  adding := fun _ => entityLibrary false

def registrar : Actor := { kind := .user, id := some 7 }

def newBank : RegisterBook := { tenantId := 1 }

def holdingBook : RegisterBook where
  tenantId := 1
  units := ⟨[{ id := 0, kind := .legalEntity, name := "Example Holding AB", orgNumber := "556000-0001", countryCode := "SE" }], by decide⟩

/-- A refused application leaves the holding company behind; and an accepted one gives two chosen companies one unit. -/
theorem group_misapplied : ¬Applies newBank retiringReads registrar groupLookup ["549300HOLDING0000001", "549300DAUGHTER000002"] ∧
    ¬Applies holdingBook retiringReads registrar groupLookup ["549300HOLDING0000001", "549300FORMERLEI00003"] := by
  have left : (applyLookup newBank retiringReads registrar groupLookup
      ["549300HOLDING0000001", "549300DAUGHTER000002"]).1.units.rows.length = 1 ∧
      (applyLookup newBank retiringReads registrar groupLookup
        ["549300HOLDING0000001", "549300DAUGHTER000002"]).2.toOption = none := by decide +kernel
  have twice : ((applyLookup holdingBook retiringReads registrar groupLookup
      ["549300HOLDING0000001", "549300FORMERLEI00003"]).2.toOption.map fun out => out.orgUnits.map Prod.snd) = some [0, 0] := by decide +kernel
  constructor
  · unfold Applies
    split
    · next accepted =>
      rw [accepted] at left
      cases left.2
    · next refused =>
      rintro rfl
      rw [refused] at left
      cases left.1
  · unfold Applies
    split
    · next accepted =>
      intro applied
      rw [accepted] at twice
      have apart : ([0, 0] : List Id).Nodup := Option.some.inj twice ▸ applied.apart
      exact absurd apart (by decide)
    · next refused =>
      rw [refused] at twice
      cases twice

end Grc.Tenants
