import Grc.Taxonomy.FootprintRequests
import Mathlib.Data.List.Infix

/-! The regulatory scope suggested from the public registers: what the register facts of the bank's legal entities give them,
set against the scope the bank follows and each company's own exclusions. -/
namespace Grc.Taxonomy

open Grc.Shared Grc.Lib

def marketDimension : String := "jurisdiction"

/-- One term of the scope, as its dimension's key and its own. -/
abbrev Key := String × String

def TaxonomyTerm.pair (term : TaxonomyTerm) : Key := (term.dimension.key, term.key)

def TaxonomyTerm.selector (term : TaxonomyTerm) : TermSelector := { dimension := term.dimension.key, key := term.key }

/-- `dict[str, set[str]].get`, of a dict kept as its pairs. -/
def keysOf (pairs : List Key) (dimension : String) : List String := (pairs.filter (·.1 == dimension)).map Prod.snd

/-! ## From a register's wording to terms -/

/-- `_Mapping`: the terms of a business name, and of a phrase found in a licence's text. -/
structure Mapping where
  categories : List (String × List Key) := []
  licences : List (String × List Key) := []

/-- `derivable_terms`: every term the mapping can produce. -/
def Mapping.derivable (mapping : Mapping) : List Key :=
  mapping.categories.flatMap Prod.snd ++ mapping.licences.flatMap Prod.snd

/-- `mapping.categories.get(name, ())`. -/
def Mapping.categoryTerms (mapping : Mapping) (name : String) : List Key :=
  ((mapping.categories.find? (·.1 == name)).map Prod.snd).getD []

/-- `phrase in text`. -/
def containsPhrase (phrase text : String) : Bool := decide (phrase.toList <:+: text.toList)

/-- The mappings of the authorities, none for an authority the file does not hold, and `str.casefold`. No mapping names a
market. -/
structure RegisterTerms where
  mapping : String → Mapping
  casefold : String → String
  noMarkets : ∀ authority, ∀ pair ∈ (mapping authority).derivable, pair.1 ≠ marketDimension

structure RegisterFactsBranch where
  name : String
  jurisdiction : Option String
  deriving DecidableEq

/-- What a register says about one company; a licence is its text. -/
structure RegisterFacts where
  listed : Bool := true
  mainBusiness : String
  otherBusinesses : List String := []
  licences : List String := []
  branches : List RegisterFactsBranch := []
  deriving DecidableEq

namespace RegisterTerms
variable (terms : RegisterTerms) (authority : String) (facts : RegisterFacts)

/-- `_licence_terms`, no terms where no phrase matches. -/
def licenceTerms (text : String) : List Key :=
  ((terms.mapping authority).licences.filter fun rule =>
    containsPhrase (terms.casefold rule.1) (terms.casefold text)).flatMap Prod.snd

/-- `term_sources`: each term with a register line that gives it, in the register's order. -/
def termSources : List (Key × String) :=
  if facts.listed then
    (facts.mainBusiness :: facts.otherBusinesses).flatMap (fun name =>
      ((terms.mapping authority).categoryTerms name).map (·, name)) ++
    facts.licences.flatMap fun text => (terms.licenceTerms authority text).map (·, text)
  else []

/-- `derived_terms`: what the company's businesses and licences give it. -/
def derivedTerms : List Key :=
  if facts.listed then
    (facts.mainBusiness :: facts.otherBusinesses).flatMap (terms.mapping authority).categoryTerms ++
      facts.licences.flatMap (terms.licenceTerms authority)
  else []

def knowsMainBusiness : Bool :=
  facts.listed && (terms.mapping authority).categories.any (·.1 == facts.mainBusiness)

end RegisterTerms

/-! ## `register_terms.json` -/

def lending : List Key := [("regime", "banking"), ("regime", "payments"), ("service_type", "custody"),
  ("licensed_activity", "card_issuing"), ("licensed_activity", "card_acquiring")]

def insurer : List Key := [("legal_entity", "insurer"), ("regime", "insurance"), ("service_type", "insurance_distribution")]

/-- The mapping of Finansinspektionen's register. -/
def fiMapping : Mapping where
  categories := [
    ("Bankaktiebolag", ("legal_entity", "bank") :: lending),
    ("Sparbank", ("legal_entity", "bank") :: lending),
    ("Medlemsbank", ("legal_entity", "bank") :: lending),
    ("Kreditmarknadsbolag", ("legal_entity", "credit_market_company") :: lending),
    ("Kreditmarknadsförening", ("legal_entity", "credit_market_company") :: lending),
    ("Bostadskreditinstitut", [("regime", "banking")]),
    ("Konsumentkreditinstitut", [("regime", "banking")]),
    ("Värdepappersbolag", [("legal_entity", "investment_firm"), ("regime", "securities")]),
    ("Fondbolag", [("legal_entity", "fund_company"), ("regime", "securities")]),
    ("Auktoriserad AIF-förvaltare", [("legal_entity", "fund_company"), ("regime", "securities")]),
    ("Registrerad AIF-förvaltare", [("legal_entity", "fund_company"), ("regime", "securities")]),
    ("Riksbolag, livförsäkringar", insurer),
    ("Riksbolag, skadeförsäkringar", insurer),
    ("Riksbolag, unit-linked", insurer),
    ("Riksbolag, skadecaptive", insurer),
    ("Försäkringsförening", insurer),
    ("Tjänstepensionsaktiebolag", insurer),
    ("Tjänstepensionsförening", insurer),
    ("Ömsesidigt tjänstepensionsbolag", insurer),
    ("Betalningsinstitut", [("legal_entity", "payment_institution"), ("regime", "payments")]),
    ("Registrerad betaltjänstleverantör", [("legal_entity", "payment_institution"), ("regime", "payments")]),
    ("Svenskt e-pengainstitut", [("legal_entity", "emoney_institution"), ("regime", "payments")]),
    ("Försäkringsdistribution", [("regime", "insurance"), ("service_type", "insurance_distribution")]),
    ("Stort Institut", []),
    ("Medelstort institut", []),
    ("Litet och icke-komplext institut", []),
    ("Annan verksamhet", [])]
  licences := [
    ("bankrörelse", lending),
    ("finansieringsrörelse", lending),
    ("mottagande av insättningar", [("regime", "banking")]),
    ("utlåning, omfattande", [("regime", "banking")]),
    ("säkerställda obligationer", [("regime", "banking")]),
    ("konsumentkreditgivning", [("regime", "banking")]),
    ("bostadskreditgivning", [("regime", "banking")]),
    ("ge ut betalningsinstrument", [("regime", "payments"), ("licensed_activity", "card_issuing"), ("licensed_activity", "card_acquiring")]),
    ("betaltjänster", [("regime", "payments")]),
    ("genomföra betalningstransaktioner", [("regime", "payments")]),
    ("penningöverföring", [("regime", "payments")]),
    ("betalningsinitieringstjänster", [("regime", "payments")]),
    ("kontoinformationstjänster", [("regime", "payments")]),
    ("tjänster kontantuttag", [("regime", "payments")]),
    ("tjänster kontantinsättning", [("regime", "payments")]),
    ("elektroniska pengar", [("regime", "payments")]),
    ("investeringsrådgivning", [("service_type", "advice"), ("regime", "securities")]),
    ("lämna investeringsråd", [("service_type", "advice"), ("regime", "securities")]),
    ("portföljförvaltning", [("service_type", "portfolio_management"), ("regime", "securities")]),
    ("förvara finansiella instrument", [("service_type", "custody"), ("regime", "securities")]),
    ("förvaring och förvaltning av värdepapper", [("service_type", "custody"), ("regime", "securities")]),
    ("förvaring av finansiellt instrument", [("service_type", "custody"), ("regime", "securities")]),
    ("vidarebefordran av order", [("regime", "securities")]),
    ("vidarebefordra order", [("regime", "securities")]),
    ("utförande av order", [("regime", "securities")]),
    ("för egen räkning", [("regime", "securities")]),
    ("placering av finansiella instrument", [("regime", "securities")]),
    ("garantigivning", [("regime", "securities")]),
    ("garantiverksamhet", [("regime", "securities")]),
    ("finansiella analyser", [("regime", "securities")]),
    ("valutatjänster i samband med investeringstjänster", [("regime", "securities")]),
    ("transaktion med finansiellt instrument", [("regime", "securities")]),
    ("investeringstjänster", [("regime", "securities")]),
    ("handelsplattform", [("regime", "securities")]),
    ("fondverksamhet", [("regime", "securities")]),
    ("alternativa investeringsfonder", [("regime", "securities")]),
    ("förvaltare av fondandelar", [("regime", "securities")]),
    ("försäkringsdistribution", [("regime", "insurance"), ("service_type", "insurance_distribution")]),
    ("(direkt)", [("regime", "insurance")]),
    ("(indirekt)", [("regime", "insurance")]),
    ("koncession", [("regime", "insurance")]),
    ("tjänstepensionsföretag", [("regime", "insurance")])]

def mappings (authority : String) : Mapping := if authority = "fi" then fiMapping else {}

theorem mappings_noMarkets (authority : String) : ∀ pair ∈ (mappings authority).derivable, pair.1 ≠ marketDimension := by
  unfold mappings
  split
  · decide +kernel
  · simp [Mapping.derivable]

def registerTerms (casefold : String → String) : RegisterTerms where
  mapping := mappings
  casefold := casefold
  noMarkets := mappings_noMarkets

/-! ## The companies -/

structure RegisteredUnit extends OrgUnit where
  countryCode : String := ""

structure RegisterEntry where
  orgUnit : RegisteredUnit
  authority : String
  facts : RegisterFacts
  readAt : Instant

/-- `_Company`: one legal entity with register facts, and what its facts give it. -/
structure Company where
  unit : RegisteredUnit
  derived : List Key := []
  sources : List (Key × String) := []
  knownBusiness : Bool := false
  mainBusiness : String := ""
  markets : List (String × Option String) := []

/-- What an entry of a company adds to it. -/
def Company.take (terms : RegisterTerms) (entry : RegisterEntry) (company : Company) : Company :=
  let knows := terms.knowsMainBusiness entry.authority entry.facts
  { company with
    derived := company.derived ++ terms.derivedTerms entry.authority entry.facts
    sources := company.sources ++ terms.termSources entry.authority entry.facts
    knownBusiness := company.knownBusiness || knows
    mainBusiness := if knows then entry.facts.mainBusiness else company.mainBusiness
    markets := company.markets ++
      (if entry.orgUnit.countryCode = "" then [] else [(entry.orgUnit.countryCode.toLower, none)]) ++
      entry.facts.branches.filterMap fun branch => branch.jurisdiction.map (·, some branch.name) }

/-- One turn of the loop of `_companies`. -/
def takeEntry (terms : RegisterTerms) (companies : List Company) (entry : RegisterEntry) : List Company :=
  if !entry.facts.listed then companies
  else if companies.any (·.unit.id == entry.orgUnit.id) then
    companies.map fun company =>
      if company.unit.id = entry.orgUnit.id then company.take terms entry else company
  else companies ++ [Company.take terms entry { unit := entry.orgUnit }]

def DimensionRows (reads : FootprintReads) : Prop :=
  ∀ dimension ∈ reads.dimensions, ∀ term ∈ reads.table.terms, term.dimension.id = dimension.id → term.dimension = dimension

/-- What a reading of the suggestions reads beside the footprint: the library and the bank's lists, the registers' mappings and
the register's entries. -/
structure SuggestionDesk where
  reads : FootprintReads
  terms : RegisterTerms
  entries : List RegisterEntry
  rows : DimensionRows reads

namespace SuggestionDesk
variable (desk : SuggestionDesk) (state : FootprintState) (dimension : String)

/-- The entries of the active legal entities, by the unit's name and id and the authority. -/
def read : List RegisterEntry :=
  (desk.entries.filter fun entry => entry.orgUnit.active && entry.orgUnit.legalEntity).insertionSort fun entry other =>
    entry.orgUnit.name < other.orgUnit.name ∨ (entry.orgUnit.name = other.orgUnit.name ∧
      (entry.orgUnit.id < other.orgUnit.id ∨ (entry.orgUnit.id = other.orgUnit.id ∧ entry.authority ≤ other.authority)))

def companies : List Company := desk.read.foldl (takeEntry desk.terms) []

def derivable : List Key := desk.read.flatMap fun entry => (desk.terms.mapping entry.authority).derivable

def readAt : Option Instant := (desk.read.map (·.readAt)).max?

/-! ## The taxonomy and the scope -/

def dimensions : List String :=
  (desk.derivable.map Prod.fst).eraseDups.filter (· ∈ desk.reads.table.restrictingDimensions.keys)

/-- `terms`: the active terms of those dimensions, and the markets that mirror a jurisdiction. -/
def liveTerms : List TaxonomyTerm :=
  (desk.reads.table.terms.filter fun term => term.active && term.dimension.active &&
    decide (term.dimension.key ∈ desk.dimensions ++ [marketDimension]) &&
    (term.dimension.key != marketDimension || term.jurisdiction.isSome)).dedup

def live : List Key := desk.liveTerms.map (·.pair)

def scope : List String := desk.reads.table.footprintOf state.followed dimension

def bound : List String := (keysOf desk.derivable dimension).filter (· ∈ keysOf desk.live dimension)

def held : List String :=
  (desk.companies.flatMap fun company => keysOf company.derived dimension).filter (· ∈ keysOf desk.live dimension)

/-! ## The scope's own lines -/

/-- What is added in one dimension: an open one is closed when the companies hold part of what is bound, and then with every
term no licence answers; another one gains the held terms it lacks. -/
def addedIn : List String :=
  if desk.scope state dimension = [] then
    if desk.held dimension ≠ [] ∧ ∃ key ∈ desk.bound dimension, key ∉ desk.held dimension then
      desk.held dimension ++ (keysOf desk.live dimension).filter (· ∉ desk.bound dimension)
    else []
  else (desk.held dimension).filter (· ∉ desk.scope state dimension)

def gone : List String :=
  (desk.scope state dimension).filter fun key => key ∈ desk.bound dimension ∧ key ∉ desk.held dimension

def removedIn : List String :=
  if ∃ key ∈ desk.scope state dimension, key ∉ desk.gone state dimension then desk.gone state dimension else []

/-- The markets of the companies' countries and branches that the library covers and the scope does not name. -/
def marketLines : List (String × RegisteredUnit × Option String) :=
  desk.companies.flatMap fun company =>
    (company.markets.filter fun market =>
      market.1 ∈ keysOf desk.live marketDimension ∧ market.1 ∉ desk.scope state marketDimension).map
        fun market => (market.1, company.unit, market.2)

def addPairs : List Key :=
  (desk.dimensions.flatMap fun dimension => (desk.addedIn state dimension).map (dimension, ·)) ++
    (desk.marketLines state).map (marketDimension, ·.1)

def removePairs : List Key :=
  desk.dimensions.flatMap fun dimension => (desk.removedIn state dimension).map (dimension, ·)

/-- `reasons`: the companies that hold a term, each with the register lines that give it. -/
def reasons (pair : Key) : List (RegisteredUnit × Option String) :=
  (desk.companies.filter (pair ∈ ·.derived)).flatMap fun company =>
    match (company.sources.filter (·.1 = pair)).map Prod.snd with
    | [] => [(company.unit, none)]
    | lines => lines.map fun line => (company.unit, some line)

/-- The value `adds` holds for a term. -/
def addReasons (pair : Key) : List (RegisteredUnit × Option String) :=
  (if pair.1 ∈ desk.dimensions ∧ pair.2 ∈ desk.addedIn state pair.1 then desk.reasons pair else []) ++
    ((desk.marketLines state).filter fun line => (marketDimension, line.1) = pair).map Prod.snd

/-! ## The companies' own lines -/

def outside (unit : Id) : List Key :=
  (desk.reads.table.terms.filter fun term => (unit, term.id) ∈ state.excluded).map (·.pair)

/-- What a company should be outside of: the licence-bound terms its facts do not give it. -/
def should (company : Company) : List Key :=
  desk.derivable.filter fun pair =>
    pair.1 ∈ entityScopeDimensions ∧ pair ∈ desk.live ∧ pair ∉ company.derived

def moreOutside (company : Company) : List Key :=
  (desk.should company).filter (· ∉ desk.outside state company.unit.id)

def backInside (company : Company) : List Key :=
  (desk.outside state company.unit.id).filter fun pair => pair ∉ desk.should company ∧ pair ∈ desk.live

def drawn (pairs : List Key) : List TermSelector :=
  ((desk.liveTerms.filter (·.pair ∈ pairs)).insertionSort inPickerOrder).map (·.selector)

end SuggestionDesk

/-! ## What is suggested -/

structure FootprintOrgUnitRef where
  id : Id
  name : String

def RegisteredUnit.ref (unit : RegisteredUnit) : FootprintOrgUnitRef := { id := unit.id, name := unit.name }

structure FootprintSuggestionReason where
  orgUnit : FootprintOrgUnitRef
  registerLine : Option String

structure FootprintSuggestionLine where
  term : TermSelector
  reasons : List FootprintSuggestionReason

structure FootprintEntitySuggestion where
  orgUnit : FootprintOrgUnitRef
  mainBusiness : String
  terms : List TermSelector

structure FootprintSuggestions where
  adds : List FootprintSuggestionLine := []
  removes : List FootprintSuggestionLine := []
  entityExclusions : List FootprintEntitySuggestion := []
  entityInclusions : List FootprintEntitySuggestion := []
  readAt : Option Instant

namespace SuggestionDesk
variable (desk : SuggestionDesk) (state : FootprintState)

def line (behind : Key → List (RegisteredUnit × Option String)) (term : TermSelector) : FootprintSuggestionLine where
  term := term
  reasons := (behind (term.dimension, term.key)).map fun reason => { orgUnit := reason.1.ref, registerLine := reason.2 }

/-- The companies whose main business the mapping knows, each with its terms where there are any. -/
def companyLines (pairs : Company → List Key) : List FootprintEntitySuggestion :=
  ((desk.companies.filter (·.knownBusiness)).filter fun company => pairs company ≠ []).map fun company =>
    { orgUnit := company.unit.ref, mainBusiness := company.mainBusiness, terms := desk.drawn (pairs company) }

def suggestionsOf : FootprintSuggestions :=
  if desk.companies = [] then { readAt := desk.readAt }
  else
    { adds := (desk.drawn (desk.addPairs state)).map (line (desk.addReasons state))
      removes := (desk.drawn (desk.removePairs state)).map (line fun _ => [])
      entityExclusions := desk.companyLines (desk.moreOutside state)
      entityInclusions := desk.companyLines (desk.backInside state)
      readAt := desk.readAt }

end SuggestionDesk

def TermSelector.of (term : TermSelector) (unit : Id) : FootprintEntityTermSelector where
  orgUnitId := unit
  dimension := term.dimension
  key := term.key

def FootprintEntitySuggestion.selectors (suggestion : FootprintEntitySuggestion) : List FootprintEntityTermSelector :=
  suggestion.terms.map (·.of suggestion.orgUnit.id)

/-- Everything the suggestions list, as one request. -/
def FootprintSuggestions.body (suggestions : FootprintSuggestions) : FootprintRequestBody where
  adds := suggestions.adds.map (·.term)
  removes := suggestions.removes.map (·.term)
  entityExclusions := suggestions.entityExclusions.flatMap (·.selectors)
  entityInclusions := suggestions.entityInclusions.flatMap (·.selectors)

def FootprintSuggestions.ListsNothing (suggestions : FootprintSuggestions) : Prop :=
  suggestions.adds = [] ∧ suggestions.removes = [] ∧ suggestions.entityExclusions = [] ∧ suggestions.entityInclusions = []

instance (suggestions : FootprintSuggestions) : Decidable suggestions.ListsNothing := inferInstanceAs (Decidable (_ ∧ _))

end Grc.Taxonomy
