import Grc.Lib.Checks
import Grc.Library.Records

/-! Where a proposal's library rows are looked up: under the caller's zone, or refused by name. -/
namespace Grc.Library

open Grc.Shared Grc.Lib

def validationError (detail : String) : Refusal := { code := "validation_error", detail }

def unknownKey (detail : String) : Refusal := { code := "unknown_key", detail }

namespace Records

variable (records : Records)

def row (list key : String) : Option ListRow :=
  records.rows.find? fun row => row.list == list && row.key == key

def rowOf (id : Id) : Option ListRow := records.rows.find? (·.id == id)

def liveRow (list key what : String) : Except Refusal ListRow :=
  demand (records.rows.find? fun row => row.list == list && row.key == key && row.active)
    (unknownKey (quoted key ++ " is not " ++ what ++ " the library holds."))

def visibleInstruments (zone : Option Id) : List Instrument :=
  records.instruments.filter fun instrument => instrument.ownerTenant == none || instrument.ownerTenant == zone

def visibleObligations (zone : Option Id) : List Obligation :=
  records.obligations.filter fun obligation => obligation.ownerTenant == none || obligation.ownerTenant == zone

def instrumentOf (id : Id) : Option Instrument := records.instruments.find? (·.id == id)

/-- `instrument.level.kind`. -/
def levelKind (instrument : Instrument) : Option String := (records.rowOf instrument.level).bind (·.kind)

def activeObligation (id : Id) : Except Refusal Obligation := do
  let obligation ← demand
    (records.obligations.find? fun obligation => obligation.id == id && obligation.ownerTenant == none)
    (unknownKey "That obligation is not here.")
  require (obligation.status = .active)
    (unknownKey "That obligation is retired: propose a change to one that is in force.")
  .ok obligation

def unknownProvisionKeys (keys : List String) : List String :=
  keys.filter fun key => !records.provisions.any (·.stableKey == key)

def authorityOf (key : String) : Except Refusal Authority :=
  demand (records.authorities.find? (·.key == key))
    (unknownKey (quoted key ++ " is not an authority the library holds."))

def activeInstrument (zone : Option Id) (key : String) : Except Refusal Instrument := do
  let instrument ← demand ((records.visibleInstruments zone).find? (·.stableKey == key))
    (unknownKey (quoted key ++ " is not an instrument the library holds."))
  require (instrument.status = .active)
    (unknownKey (quoted key ++ " is retired: propose the duty under an instrument in force."))
  .ok instrument

def liveDutyType (key : String) : Except Refusal ListRow := records.liveRow "duty_type" key "a duty type"

def ownObligation (tenant : Id) (key : String) : Except Refusal Obligation :=
  demand (records.obligations.find? fun obligation =>
      obligation.ownerTenant == some tenant && obligation.stableKey == key && obligation.status == .active)
    (unknownKey (quoted key ++ " is not an obligation of your organisation's own in force."))

def sharedInstrument (id : Id) : Option Instrument :=
  records.instruments.find? fun instrument => instrument.id == id && instrument.ownerTenant == none

/-- `active_provision`, with its instrument. -/
def activeProvision (id : Id) : Except Refusal (Provision × Instrument) := do
  let provision ← demand (records.provisions.find? (·.id == id)) (unknownKey "That provision is not here.")
  let instrument ← demand (records.sharedInstrument provision.instrument)
    (unknownKey "That provision is not here.")
  require (provision.status = .active)
    (unknownKey "That provision is retired: propose a change to one that is in force.")
  .ok (provision, instrument)

def parentProvision (instrument : Instrument) (key : String) : Except Refusal Provision :=
  demand (records.provisions.find? fun provision =>
      provision.stableKey == key && provision.instrument == instrument.id && provision.status == .active)
    (unknownKey (quoted key ++ " is not a provision of " ++ quoted instrument.stableKey ++ " in force."))

def liveProvisionKind (key : String) : Except Refusal ListRow :=
  records.liveRow "provision_kind" key "a provision kind"

/-- `term.dimension`. -/
def dimensionOf (term : Term) : Option ListRow :=
  records.rows.find? fun row => row.list == "term_dimension" && row.id == term.dimension

/-- A term as `dimension:key`. -/
def refOf (term : Term) : String :=
  ((records.dimensionOf term).map (·.key)).getD "" ++ ":" ++ term.key

/-- `ref.partition(":")`, when the sign is there. -/
def splitRef (ref : String) : Option (String × String) :=
  let letters := ref.toList
  if ':' ∈ letters then
    some (String.ofList (letters.takeWhile (· != ':')), String.ofList ((letters.dropWhile (· != ':')).drop 1))
  else none

def termBefore (first second : Term) : Bool :=
  first.sortOrder < second.sortOrder || (first.sortOrder == second.sortOrder && first.key ≤ second.key)

/-- Whether a term and its dimension are active and the pair is what a reference names. -/
def named (wanted : List (String × String)) (term : Term) : Bool :=
  match records.dimensionOf term with
  | none => false
  | some dimension => term.active && dimension.active && wanted.contains (dimension.key, term.key)

/-- `terms_of`: the active terms of these references, in the list order. -/
def termsOf (refs : List String) : Except Refusal (List Term) := do
  require (∀ ref ∈ refs, (splitRef ref).isSome = true)
    (validationError (quoted ((refs.find? fun ref => (splitRef ref).isNone).getD "") ++
      " is not a term. Write it as dimension:key, for example service_type:advice."))
  let found := (records.terms.filter (records.named (refs.filterMap splitRef))).insertionSort (termBefore · ·)
  let unknown := refs.filter fun ref => !found.any (records.refOf · == ref)
  require (unknown = []) (unknownKey ("Not a term: " ++ joined unknown ++
    ". GET /taxonomy/terms lists the terms of every dimension."))
  .ok found

/-- `mirrored_dimensions`. -/
def isMirrored (dimension : Id) : Bool :=
  records.terms.any fun term => term.dimension == dimension && term.jurisdiction.isSome

def mirroredRefusal : Refusal where
  code := "jurisdiction_term_mirrored"
  detail := "Those terms mirror the markets the platform covers and follow them on every deploy: none is added or renamed through a proposal, and a record is never tagged with one. A record's market comes from its instrument or its authority."

def refuseMirrored (dimensions : List Id) : Except Refusal Unit :=
  require (∀ dimension ∈ dimensions, records.isMirrored dimension = false) mirroredRefusal

def liveDimension (key : String) : Option ListRow :=
  records.rows.find? fun row => row.list == "term_dimension" && row.key == key && row.active

def dimensionByKey (key : String) : Except Refusal ListRow :=
  let valid := ((records.rows.filter fun row => row.list == "term_dimension" && row.active).insertionSort
    fun first second => first.sortOrder < second.sortOrder ∨
      (first.sortOrder = second.sortOrder ∧ first.key ≤ second.key)).map (·.key)
  demand (records.liveDimension key)
    (unknownKey (quoted key ++ " is not a taxonomy dimension. Valid dimensions: " ++ joined valid ++ "."))

/-- `opt_in_terms`: those of these terms whose dimension is opt-in. -/
def optInTerms (ids : List Id) : List Id :=
  ids.filter fun id => records.terms.any fun term =>
    term.id == id && ((records.dimensionOf term).bind (·.kind)) == some "opt_in"

/-- The terms of an obligation's scope in the order they were linked, each with its reference. -/
def scopeLinks (obligation : Id) : List (String × Id) :=
  (records.obligationTerms.filter (·.obligation == obligation)).filterMap fun link =>
    (records.terms.find? (·.id == link.term)).map fun term => (records.refOf term, term.id)

/-- `obligation_scope_terms` of one obligation. -/
def scopeTerms (obligation : Id) : Dict Id := Dict.ofList (records.scopeLinks obligation)

/-- `active_shared_obligations`, for one id. -/
def activeSharedObligation (id : Id) : Option Obligation :=
  records.obligations.find? fun obligation =>
    obligation.id == id && obligation.ownerTenant == none && obligation.status == .active

end Records
end Grc.Library

/-! The scope of an obligation, read through its links: the references of the terms it is linked to. -/
namespace Grc.Library

open Grc.Shared Grc.Lib

namespace Records

/-- The unique constraints of the taxonomy: a term under its id, and under its reference. -/
structure Coherent (records : Records) : Prop where
  ids : (records.terms.map Term.id).Nodup
  refs : ∀ first ∈ records.terms, ∀ second ∈ records.terms,
    records.refOf first = records.refOf second → first = second

def scope (records : Records) (obligation : Id) : List String := (records.scopeTerms obligation).keys

variable {records after : Records} {obligation : Id} {ref : String}

theorem scope_ordered (records : Records) (obligation : Id) : (records.scope obligation).Pairwise (· < ·) :=
  Dict.ordered_ofList _

theorem Coherent.find (coherent : records.Coherent) {term : Term} (member : term ∈ records.terms) :
    records.terms.find? (·.id == term.id) = some term := by
  cases found : records.terms.find? (·.id == term.id) with
  | none =>
    have absent := List.find?_eq_none.mp found term member
    exact absurd (beq_self_eq_true term.id) absent
  | some other =>
    have same : other.id = term.id := by
      have named := List.find?_some found
      exact beq_iff_eq.mp named
    rw [List.inj_on_of_nodup_map coherent.ids (List.mem_of_find?_eq_some found) member same]

theorem mem_scopeTerms {entry : String × Id} (member : entry ∈ records.scopeTerms obligation) :
    ∃ term ∈ records.terms, entry = (records.refOf term, term.id) ∧
      { obligation, term := term.id } ∈ records.obligationTerms := by
  obtain ⟨⟨holder, linked⟩, listed, named⟩ := List.mem_filterMap.mp (Dict.mem_ofList member)
  obtain ⟨there, own⟩ := List.mem_filter.mp listed
  obtain ⟨term, found, rfl⟩ := Option.map_eq_some_iff.mp named
  have same : term.id = linked := by
    have named := List.find?_some found
    exact beq_iff_eq.mp named
  refine ⟨term, List.mem_of_find?_eq_some found, rfl, ?_⟩
  rw [← beq_iff_eq.mp own, same]
  exact there

theorem Coherent.mem_scope (coherent : records.Coherent) : ref ∈ records.scope obligation ↔
    ∃ term ∈ records.terms, records.refOf term = ref ∧
      { obligation, term := term.id } ∈ records.obligationTerms := by
  constructor
  · intro member
    obtain ⟨id, held⟩ := Dict.mem_keys.mp member
    obtain ⟨term, there, same, linked⟩ := mem_scopeTerms held
    exact ⟨term, there, (Prod.mk.inj same).1.symm, linked⟩
  · intro linked
    obtain ⟨term, there, named, linked⟩ := linked
    rw [scope, scopeTerms, Dict.mem_keys_ofList, List.mem_map]
    refine ⟨(records.refOf term, term.id), ?_, named⟩
    refine List.mem_filterMap.mpr ⟨_, List.mem_filter.mpr ⟨linked, beq_self_eq_true _⟩, ?_⟩
    rw [coherent.find there]
    rfl

theorem Coherent.get (coherent : records.Coherent) {term : Term} (there : term ∈ records.terms) {id : Id}
    (member : (records.refOf term, id) ∈ records.scopeTerms obligation) : id = term.id := by
  obtain ⟨other, held, same, -⟩ := mem_scopeTerms member
  obtain ⟨named, rfl⟩ := Prod.mk.inj same
  rw [coherent.refs term there other held named]

theorem refOf_congr (rows : after.rows = records.rows) (term : Term) : after.refOf term = records.refOf term := by
  unfold refOf dimensionOf
  rw [rows]

theorem Coherent.congr (coherent : records.Coherent) (rows : after.rows = records.rows)
    (terms : after.terms = records.terms) : after.Coherent where
  ids := by
    rw [terms]
    exact coherent.ids
  refs := by
    intro first held second there same
    rw [terms] at held there
    rw [refOf_congr rows, refOf_congr rows] at same
    exact coherent.refs first held second there same

theorem scopeTerms_congr (rows : after.rows = records.rows) (terms : after.terms = records.terms)
    (links : after.obligationTerms.filter (·.obligation == obligation) =
      records.obligationTerms.filter (·.obligation == obligation)) :
    after.scopeTerms obligation = records.scopeTerms obligation := by
  unfold scopeTerms scopeLinks
  rw [links, terms]
  congr 2
  funext link
  congr 1
  funext term
  rw [refOf_congr rows]

theorem termsOf_ok {refs : List String} {found : List Term} (answered : records.termsOf refs = .ok found) :
    ∀ term ∈ found, term ∈ records.terms := by
  simp only [termsOf, bind_ok, Except.ok.injEq] at answered
  obtain ⟨-, -, -, -, rfl⟩ := answered
  intro term member
  exact (List.mem_filter.mp ((List.perm_insertionSort _ _).mem_iff.mp member)).1

end Records
end Grc.Library
