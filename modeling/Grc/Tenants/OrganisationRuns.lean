import Grc.Tenants.Organisation

/-! When a bank's organisation stays a forest: exactly while no change is saved that would put its unit under itself, which
its walk shows only as long as nothing else is saved before it. -/
namespace Grc.Tenants

open Grc.Shared Grc.Lib

def Organisation.Hangs (org : Organisation) : Prop :=
  Forest (parentOf org.units) ∧ ∀ unit start, WalkEnds (parentOf org.units) unit start

theorem hangs_iff {org : Organisation} : org.Hangs ↔ Forest (parentOf org.units) :=
  ⟨fun hangs => hangs.1, fun forest => ⟨forest, fun unit start => (forest start).walkEnds unit⟩⟩

/-- Every parent is a unit of the bank, also the parents of the changes under way. -/
structure Placed (org : Organisation) : Prop where
  units : ∀ unit ∈ org.units.rows, ∀ parent ∈ unit.parent, ∃ row ∈ org.units.rows, row.id = parent
  changes : ∀ change ∈ org.changes, (∃ row ∈ org.units.rows, row.id = change.unit) ∧
    ∀ parent ∈ change.fields.parentId, ∃ row ∈ org.units.rows, row.id = parent

def StaysOutside (org : Organisation) : OrgStep → Prop
  | .save _ _ unit => ∀ change ∈ org.changes.find? (·.unit == unit), ∀ parent ∈ change.fields.parentId,
    ¬Above (parentOf org.units) parent unit
  | _ => True

variable {org after : Organisation} {reads : OrgReads} {actor : Actor} {id : Id} {fields : UnitFields}

variable {units : Keyed OrgUnit.id} {unit : OrgUnit}

theorem orgUnitOf_ok (found : orgUnitOf units id = .ok unit) :
    unit ∈ units.rows ∧ unit.id = id := by
  have found := demand_ok.mp found
  have named := List.find?_some found
  exact ⟨List.mem_of_find?_eq_some found, beq_iff_eq.mp named⟩

theorem parentOf_of_mem (member : unit ∈ units.rows) : parentOf units unit.id = unit.parent := by
  unfold parentOf
  cases found : units.rows.find? (·.id == unit.id) with
  | none => exact absurd (beq_self_eq_true unit.id) (List.find?_eq_none.mp found unit member)
  | some other =>
    have named := List.find?_some found
    rw [units.eq_of_key (List.mem_of_find?_eq_some found) member (beq_iff_eq.mp named)]
    rfl

theorem parentOf_eq_some {parent : Id} (above : parentOf units id = some parent) :
    ∃ unit ∈ units.rows, unit.id = id ∧ unit.parent = some parent := by
  obtain ⟨unit, found, named⟩ := Option.bind_eq_some_iff.mp above
  have same := List.find?_some found
  exact ⟨unit, List.mem_of_find?_eq_some found, beq_iff_eq.mp same, named⟩

theorem parentOf_create {make : Nat → OrgUnit} (named : ∀ id, (make id).id = id) :
    parentOf (units.create make named) = Function.update (parentOf units) units.fresh (make units.fresh).parent := by
  funext other
  by_cases same : other = units.fresh
  · subst same
    rw [Function.update_self]
    have there : make units.fresh ∈ (units.create make named).rows := (Keyed.mem_create named).mpr (.inr rfl)
    rw [← parentOf_of_mem there, named]
  · rw [Function.update_of_ne same]
    unfold parentOf
    rw [Keyed.create, List.find?_append]
    have apart : [make units.fresh].find? (·.id == other) = none := by
      refine List.find?_eq_none.mpr fun row member => ?_
      rw [List.mem_singleton.mp member, named, beq_iff_eq]
      exact fun fresh => same fresh.symm
    rw [apart, Option.or_none]

theorem parentOf_update {change : OrgUnit → OrgUnit} (named : ∀ unit, (change unit).id = unit.id)
    (here : unit ∈ units.rows) :
    parentOf (units.update (·.id == unit.id) change named) = Function.update (parentOf units) unit.id (change unit).parent := by
  funext other
  have same_ : ∀ row, (if (row.id == unit.id) = true then change row else row).id = row.id := by
    intro row
    split
    · exact named row
    · rfl
  by_cases same : other = unit.id
  · subst same
    rw [Function.update_self]
    have there : change unit ∈ (units.update (·.id == unit.id) change named).rows :=
      List.mem_map.mpr ⟨unit, here, if_pos (beq_self_eq_true unit.id)⟩
    rw [← parentOf_of_mem there, named]
  · rw [Function.update_of_ne same]
    cases held : units.rows.find? (·.id == other) with
    | none =>
      have gone : (units.update (·.id == unit.id) change named).rows.find? (·.id == other) = none := by
        refine List.find?_eq_none.mpr fun row member => ?_
        obtain ⟨old, there, rfl⟩ := List.mem_map.mp member
        rw [same_ old]
        exact List.find?_eq_none.mp held old there
      rw [parentOf, parentOf, gone, held]
    | some row =>
      have there := List.mem_of_find?_eq_some held
      have named_ := List.find?_some held
      have is_ := beq_iff_eq.mp named_
      have kept : row ∈ (units.update (·.id == unit.id) change named).rows := by
        refine List.mem_map.mpr ⟨row, there, if_neg fun picked => same ?_⟩
        exact is_.symm.trans (beq_iff_eq.mp picked)
      rw [← is_, parentOf_of_mem kept, parentOf_of_mem there]

theorem parent_saved {entityTerm : Option Id} :
    (unit.saved reads fields entityTerm).parent = (fields.parentId <|> unit.parent) := rfl

theorem Placed.fresh_outside (placed : Placed org) {parent : Id} (there : ∃ row ∈ org.units.rows, row.id = parent) :
    ¬Above (parentOf org.units) parent org.units.fresh := by
  have below : ∀ other, (∃ row ∈ org.units.rows, row.id = other) → other ≠ org.units.fresh := by
    rintro other ⟨row, member, rfl⟩
    exact Nat.ne_of_lt (Keyed.key_lt_fresh member)
  intro path
  have held : ∃ row ∈ org.units.rows, row.id = org.units.fresh := by
    refine Relation.ReflTransGen.trans_induction_on (motive := fun {first last} _ => (∃ row ∈ org.units.rows, row.id = first) →
      ∃ row ∈ org.units.rows, row.id = last) path (fun _ => id) (fun step _ => ?_) (fun _ _ first second => second ∘ first) there
    obtain ⟨unit, member, -, named⟩ := parentOf_eq_some step
    exact placed.units unit member _ named
  exact below _ held rfl

theorem optional_parent {answer : Option OrgUnit} (found : optionally (orgUnitOf org.units) fields.parentId = .ok answer) :
    ∀ parent ∈ fields.parentId, ∃ row ∈ org.units.rows, row.id = parent := by
  intro parent named
  rcases optionally_ok.mp found with ⟨missing, -⟩ | ⟨key, unit, sent, -, there⟩
  · rw [missing] at named
    cases named
  · rw [sent] at named
    cases named
    exact ⟨unit, orgUnitOf_ok there⟩

/-- What a step leaves of a bank's organisation. -/
structure StepLeaves (org after : Organisation) (step : OrgStep) : Prop where
  placed : Placed after
  forest : Forest (parentOf after.units) ↔ StaysOutside org step

theorem createOrgUnit_leaves {kind : OrgUnitKind} {name : String} (done : createOrgUnit org reads actor kind name fields = .ok after)
    (placed : Placed org) (forest : Forest (parentOf org.units)) : StepLeaves org after (.create reads actor kind name fields) := by
  obtain ⟨entityTerm, -, done⟩ := bind_ok.mp done
  obtain ⟨answer, found, done⟩ := bind_ok.mp done
  obtain ⟨_, -, done⟩ := bind_ok.mp done
  obtain ⟨_, -, done⟩ := bind_ok.mp done
  cases done
  have there := optional_parent found
  refine ⟨⟨fun unit member parent named => ?_, fun change member => ?_⟩, iff_of_true ?_ trivial⟩
  · rcases (Keyed.mem_create fun _ => rfl).mp member with old | rfl
    · obtain ⟨row, listed, same⟩ := placed.units unit old parent named
      exact ⟨row, List.mem_append_left _ listed, same⟩
    · have sent : fields.parentId = some parent := by simpa [setFields] using named
      obtain ⟨row, listed, same⟩ := there parent sent
      exact ⟨row, List.mem_append_left _ listed, same⟩
  · obtain ⟨⟨row, listed, same⟩, parents⟩ := placed.changes change member
    refine ⟨⟨row, List.mem_append_left _ listed, same⟩, fun parent named => ?_⟩
    obtain ⟨other, there, is_⟩ := parents parent named
    exact ⟨other, List.mem_append_left _ there, is_⟩
  · refine (congrArg Forest (parentOf_create fun _ => rfl)).mpr ?_
    cases sent : fields.parentId with
    | none =>
      have bare : (setFields reads fields entityTerm { id := org.units.fresh, kind, name }).parent = parentOf org.units org.units.fresh := by
        rw [setFields, sent]
        cases held : parentOf org.units org.units.fresh with
        | none => rfl
        | some parent =>
          obtain ⟨unit, member, same, -⟩ := parentOf_eq_some held
          exact absurd same (Nat.ne_of_lt (Keyed.key_lt_fresh member))
      rwa [bare, Function.update_eq_self]
    | some parent =>
      have hung : (setFields reads fields entityTerm { id := org.units.fresh, kind, name }).parent = some parent := by
        rw [setFields, sent]
        rfl
      rw [hung]
      exact (forest_update_iff forest).mpr (placed.fresh_outside (there parent sent))

theorem beginChange_leaves {expectedVersion : Option Nat} (done : beginChange org reads id fields expectedVersion = .ok after)
    (placed : Placed org) (forest : Forest (parentOf org.units)) : StepLeaves org after (.begin_ reads id fields expectedVersion) := by
  obtain ⟨_, -, done⟩ := bind_ok.mp done
  obtain ⟨unit, here, done⟩ := bind_ok.mp done
  obtain ⟨_, -, done⟩ := bind_ok.mp done
  obtain ⟨entityTerm, -, done⟩ := bind_ok.mp done
  obtain ⟨answer, found, done⟩ := bind_ok.mp done
  cases done
  refine ⟨⟨placed.units, fun change member => ?_⟩, iff_of_true forest trivial⟩
  rcases List.mem_append.mp member with old | new
  · exact placed.changes change old
  · rw [List.mem_singleton.mp new]
    exact ⟨⟨unit, orgUnitOf_ok here⟩, optional_parent found⟩

theorem Placed.without (placed : Placed org) (unit : Id) : Placed { org with changes := org.without unit } :=
  ⟨placed.units, fun change member => placed.changes change (List.mem_of_mem_filter member)⟩

theorem walkUp_leaves (done : walkUp org id = .ok after) (placed : Placed org) (forest : Forest (parentOf org.units)) :
    StepLeaves org after (.walk id) := by
  obtain ⟨change, -, done⟩ := bind_ok.mp done
  obtain ⟨ancestor, -, done⟩ := bind_ok.mp done
  split at done
  · cases done
    exact ⟨placed.without id, iff_of_true forest trivial⟩
  · cases done
    refine ⟨⟨placed.units, fun other member => ?_⟩, iff_of_true forest trivial⟩
    obtain ⟨old, there, rfl⟩ := List.mem_map.mp member
    split
    · exact placed.changes old there
    · exact placed.changes old there

theorem saveChange_leaves (done : saveChange org reads actor id = .ok after) (placed : Placed org)
    (forest : Forest (parentOf org.units)) : StepLeaves org after (.save reads actor id) := by
  obtain ⟨change, found, done⟩ := bind_ok.mp done
  obtain ⟨_, -, done⟩ := bind_ok.mp done
  obtain ⟨_, -, done⟩ := bind_ok.mp done
  obtain ⟨unit, here, done⟩ := bind_ok.mp done
  obtain ⟨_, -, done⟩ := bind_ok.mp done
  cases done
  obtain ⟨member, rfl⟩ := orgUnitOf_ok here
  have found := demand_ok.mp found
  have parents := (placed.changes change (List.mem_of_find?_eq_some found)).2
  have kept : ∀ row ∈ org.units.rows, ∃ saved ∈ (org.units.update (·.id == unit.id)
      (OrgUnit.saved reads change.fields change.entityTerm) fun _ => rfl).rows, saved.id = row.id := by
    intro row there
    refine ⟨_, List.mem_map.mpr ⟨row, there, rfl⟩, ?_⟩
    split
    · rfl
    · rfl
  refine ⟨⟨fun row listed parent named => ?_, fun other listed => ?_⟩, ?_⟩
  · obtain ⟨old, there, rfl⟩ := List.mem_map.mp listed
    have exists_ : ∃ row ∈ org.units.rows, row.id = parent := by
      split at named
      · rw [parent_saved] at named
        cases sent : change.fields.parentId with
        | none =>
          rw [sent] at named
          exact placed.units old there parent named
        | some other =>
          rw [sent] at named
          cases named
          exact parents parent sent
      · exact placed.units old there parent named
    obtain ⟨row, there, rfl⟩ := exists_
    exact kept row there
  · obtain ⟨⟨row, there, same⟩, parents⟩ := placed.changes other (List.mem_of_mem_filter listed)
    obtain ⟨saved, listed, is_⟩ := kept row there
    refine ⟨⟨saved, listed, is_.trans same⟩, fun parent named => ?_⟩
    obtain ⟨row, there, rfl⟩ := parents parent named
    exact kept row there
  · have moved : parentOf (org.units.update (·.id == unit.id) (OrgUnit.saved reads change.fields change.entityTerm) fun _ => rfl) =
        Function.update (parentOf org.units) unit.id (unit.saved reads change.fields change.entityTerm).parent :=
      parentOf_update _ member
    refine (iff_of_eq (congrArg Forest moved)).trans ?_
    rw [parent_saved]
    cases sent : change.fields.parentId with
    | none =>
      have same : (none <|> unit.parent) = parentOf org.units unit.id := (parentOf_of_mem member).symm
      rw [same, Function.update_eq_self]
      refine iff_of_true forest fun other isIt parent named => ?_
      obtain rfl := Option.some.inj (found.symm.trans isIt)
      rw [sent] at named
      cases named
    | some parent =>
      refine (forest_update_iff forest).trans ⟨fun outside other isIt above named => ?_, fun outside => outside change found parent sent⟩
      obtain rfl := Option.some.inj (found.symm.trans isIt)
      rw [sent] at named
      cases named
      exact outside

theorem step_leaves {step : OrgStep} (done : org.step step = .ok after) (placed : Placed org)
    (forest : Forest (parentOf org.units)) : StepLeaves org after step := by
  cases step with
  | create reads actor kind name fields => exact createOrgUnit_leaves done placed forest
  | begin_ reads unit fields expectedVersion => exact beginChange_leaves done placed forest
  | walk unit => exact walkUp_leaves done placed forest
  | save reads actor unit => exact saveChange_leaves done placed forest
  | abort unit =>
    cases done
    exact ⟨placed.without unit, iff_of_true forest trivial⟩

/-- In every run of units created and changed, however the changes overlap, the organisation is a forest throughout exactly
when each change is saved while its unit is neither its new parent nor above it. -/
theorem run_hangs_iff (tenantId : Id) (steps : List OrgStep) :
    (∀ first, first <+: steps → (run Organisation.step { tenantId } first).Hangs) ↔
      Meets Organisation.step StaysOutside { tenantId } steps := by
  refine holds_throughout_iff (fun org => Placed org ∧ Forest (parentOf org.units)) ?_ (fun org held => hangs_iff.mpr held.2) ?_ ?_ steps
  · exact ⟨⟨fun unit member => (by cases member), fun change member => (by cases member)⟩, fun node => .root rfl⟩
  · intro org step after held done
    rw [hangs_iff]
    exact (step_leaves done held.1 held.2).forest
  · intro org step after held outside done
    have leaves := step_leaves done held.1 held.2
    exact ⟨leaves.placed, leaves.forest.mpr outside⟩

def bareReads : OrgReads where
  library := { table := .bare, now := 0 }

def administrator : Actor := { kind := .user, id := some 9 }

/-- Two areas with a unit each: the first area is moved under the second's unit, and the second under the first's. -/
def crossedMoves : List OrgStep :=
  let area (name : String) : OrgStep := .create bareReads administrator .businessArea name {}
  let unitUnder (name : String) (parent : Id) : OrgStep :=
    .create bareReads administrator .businessUnit name { parentId := some parent }
  [area "Retail", unitUnder "Lending" 0, area "Markets", unitUnder "Trading" 2,
    .begin_ bareReads 0 { parentId := some 3 } none, .walk 0, .walk 0,
    .begin_ bareReads 2 { parentId := some 1 } none, .walk 2, .walk 2,
    .save bareReads administrator 0, .save bareReads administrator 2]

/-- Each of two moves finds its own unit nowhere above its new parent, and saved together they close a loop. -/
theorem crossedMoves_loop : ¬∀ (tenantId : Id) (steps : List OrgStep), (run Organisation.step { tenantId } steps).Hangs := by
  intro claim
  have forest := (claim 1 crossedMoves).1
  have loops : ∀ unit < 4, (parentOf (run Organisation.step { tenantId := 1 } crossedMoves).units unit).any (· < 4) = true := by
    decide +kernel
  have closed : ∀ unit, unit < 4 → ∃ upper, Step (parentOf (run Organisation.step { tenantId := 1 } crossedMoves).units) unit upper ∧
      upper < 4 := by
    intro unit below
    have loop := loops unit below
    cases above : parentOf (run Organisation.step { tenantId := 1 } crossedMoves).units unit with
    | none => simp [above] at loop
    | some upper =>
      rw [above] at loop
      exact ⟨upper, above, of_decide_eq_true loop⟩
  exact not_rooted_of_closed closed (Nat.zero_lt_succ 3) (forest 0)

end Grc.Tenants
