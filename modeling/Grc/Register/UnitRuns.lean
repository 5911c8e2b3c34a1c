import Grc.Register.UnitPastes

/-! Units while several requests work on them. A rename or a removal reads the unit's gaps as they were when
its statement began, and the unit as it is once its lock is granted; a gap recorded in between locks the
unit and leaves its row as it was. -/
namespace Grc.Register.Units

open Grc.Shared Grc.Lib

/-- A request on units, or on a gap. -/
inductive UnitCall where
  | create (session : Session) (obligation : Id) (body : UnitBody)
  | update (session : Session) (unit : Id) (body : UnitPatch) (expectedVersion : Option Nat)
  | remove (session : Session) (unit : Id) (expectedVersion : Option Nat)
  | paste (session : Session) (obligation : Id) (body : PasteBody) (mayDecide : Bool)
  | answer (session : Session) (said : Answer) (expectedVersion : Option Nat)
  | answerMany (session : Session) (answers : List Answer)
  | recordGap (obligation : Id) (gap : Gap)

def UnitCall.edits : UnitCall → Option Id
  | update _ unit _ _ => some unit
  | remove _ unit _ => some unit
  | _ => none

/-- What a request does, from the tables its statement saw and those it writes under its locks. -/
def UnitCall.serve (cap : Nat) (seen tables : Tables) (now : Instant) : UnitCall → Except Refusal Tables
  | create session obligation body => createUnit seen tables session obligation body
  | update session unit body expectedVersion => updateUnit seen tables session unit body expectedVersion
  | remove session unit expectedVersion => removeUnit seen tables session now unit expectedVersion
  | paste session obligation body mayDecide => (pasteUnits cap seen tables session now obligation body mayDecide).map (·.1)
  | answer session said expectedVersion => setApplicability seen tables session now said expectedVersion
  | answerMany session answers => setApplicabilityMany cap seen tables session now answers
  | recordGap obligation gap => createGap tables obligation gap

structure UnitDesk where
  tables : Tables
  /-- The requests under way, each with the tables as its statement saw them. -/
  underway : List (Id × UnitCall × Tables) := []

inductive UnitStep where
  | read (request : Id) (call : UnitCall)
  | commit (request : Id) (now : Instant)
  | abort (request : Id)
  /-- Any other write of a gap. -/
  | amend (gap : Gap)
  /-- A conformance row is created, or an entity's answer changes it. -/
  | enter (scope : Scope)
  | answerEntity (scope : Id) (applicability : Applicability)
  /-- The library or the organisation changes. -/
  | publish (headings : List Heading) (legalEntities : List Id)

namespace UnitDesk

def step (cap : Nat) (desk : UnitDesk) : UnitStep → Except Refusal UnitDesk
  | .read request call => do
    require (∀ each ∈ desk.underway, each.1 ≠ request) internalError
    .ok { desk with underway := desk.underway ++ [(request, call, desk.tables)] }
  | .commit request now => do
    let (_, call, seen) ← demand (desk.underway.find? (·.1 == request)) internalError
    let tables ← call.serve cap seen desk.tables now
    .ok { tables, underway := desk.underway.filter (·.1 ≠ request) }
  | .abort request => .ok { desk with underway := desk.underway.filter (·.1 ≠ request) }
  | .amend gap => .ok { desk with tables := amendGap desk.tables gap }
  | .enter scope => .ok { desk with tables := { desk.tables with
      scopes := desk.tables.scopes.create (fun id => { scope with id }) fun _ => rfl } }
  | .answerEntity scope applicability => .ok { desk with tables := { desk.tables with
      scopes := desk.tables.scopes.update (·.id == scope) (fun row => { row with applicability }) fun _ => rfl } }
  | .publish headings legalEntities => .ok { desk with tables := { desk.tables with headings, legalEntities } }

/-- A rename or a removal that commits saw a gap on its unit, if there is one. -/
def GapSeen (desk : UnitDesk) : UnitStep → Prop
  | .commit request _ =>
    match desk.underway.find? (·.1 == request) with
    | some (_, call, seen) => ∀ unit ∈ call.edits, hasGap desk.tables.gaps unit = true → hasGap seen.gaps unit = true
    | none => True
  | _ => True

instance (desk : UnitDesk) (step : UnitStep) : Decidable (desk.GapSeen step) := by
  unfold GapSeen
  split
  · split <;> infer_instance
  · infer_instance

end UnitDesk

/-- What is promised of a run: a unit in use stays, under its reference and title, and the references of a
scope's live units are apart. -/
structure UnitsKept (cap : Nat) (desk : UnitDesk) (steps : List UnitStep) : Prop where
  used : ∀ first rest, steps = first ++ rest →
    ∀ unit ∈ (run (UnitDesk.step cap) desk first).tables.units.rows,
      hasHistory (run (UnitDesk.step cap) desk first).tables.gaps unit = true →
      unit.removedAt = none ∧ ∃ later ∈ (run (UnitDesk.step cap) desk steps).tables.units.rows,
        later.id = unit.id ∧ later.reference = unit.reference ∧ later.title = unit.title ∧ later.removedAt = none
  apart : ∀ first, first <+: steps → ∀ scope,
    (((run (UnitDesk.step cap) desk first).tables.liveUnits scope).map (·.reference)).Nodup

/-- The tables of a bank whose removed units were never used and whose live references are apart. -/
structure Sound (tables : Tables) : Prop where
  unused : ∀ unit ∈ tables.units.rows, unit.live = false → hasHistory tables.gaps unit = false
  apart : ∀ unit ∈ tables.units.rows, ∀ other ∈ tables.units.rows, unit.live = true → other.live = true →
    unit.scope = other.scope → unit.reference = other.reference → unit.id = other.id

/-- What becomes of a unit. -/
structure Onward (gaps : Keyed Gap.id) (unit later : SoaUnit) : Prop where
  id : later.id = unit.id
  status : later.complianceStatus = unit.complianceStatus
  decided : unit.applicabilityDecidedAt.isSome = true → later.applicabilityDecidedAt.isSome = true
  fixed : hasHistory gaps unit = true →
    later.reference = unit.reference ∧ later.title = unit.title ∧ later.removedAt = unit.removedAt

/-- What becomes of the tables. -/
structure Moves (tables next : Tables) : Prop where
  gaps : ∀ unit, hasGap tables.gaps unit = true → hasGap next.gaps unit = true
  units : ∀ unit ∈ tables.units.rows, ∃ later ∈ next.units.rows, Onward tables.gaps unit later
  sound : Sound tables → Sound next

variable {cap : Nat} {seen tables next last : Tables} {session : Session} {now : Instant} {unit later : SoaUnit} {gaps : Keyed Gap.id}
  {scope : Scope} {answers : List Answer} {desk : UnitDesk}

theorem hasHistory_eq_true : hasHistory gaps unit = true ↔
    unit.applicabilityDecidedAt.isSome = true ∨ unit.complianceStatus ≠ .notAssessed ∨ hasGap gaps unit.id = true := by
  simp [hasHistory, or_assoc]

theorem Onward.refl (gaps : Keyed Gap.id) (unit : SoaUnit) : Onward gaps unit unit :=
  ⟨rfl, rfl, fun said => said, fun _ => ⟨rfl, rfl, rfl⟩⟩

theorem Onward.history {more : Keyed Gap.id} (onward : Onward gaps unit later)
    (grown : ∀ unit, hasGap gaps unit = true → hasGap more unit = true) (used : hasHistory gaps unit = true) :
    hasHistory more later = true := by
  rw [hasHistory_eq_true] at used ⊢
  rw [onward.status, onward.id]
  exact used.imp onward.decided (Or.imp_right (grown unit.id))

namespace Moves

theorem refl (tables : Tables) : Moves tables tables where
  gaps := fun _ had => had
  units := fun unit there => ⟨unit, there, .refl _ _⟩
  sound := fun sound => sound

theorem trans (first : Moves tables next) (second : Moves next last) : Moves tables last where
  gaps := fun unit had => second.gaps unit (first.gaps unit had)
  units := by
    intro unit there
    obtain ⟨middle, between, once⟩ := first.units unit there
    obtain ⟨later, here, again⟩ := second.units middle between
    refine ⟨later, here, again.id.trans once.id, again.status.trans once.status, fun said => again.decided (once.decided said), ?_⟩
    intro used
    obtain ⟨reference, title, removed⟩ := again.fixed (once.history first.gaps used)
    obtain ⟨named, titled, left⟩ := once.fixed used
    exact ⟨reference.trans named, title.trans titled, removed.trans left⟩
  sound := fun sound => second.sound (first.sound sound)

theorem of_same (units : next.units = tables.units) (gaps : next.gaps = tables.gaps) : Moves tables next where
  gaps := fun _ had => gaps ▸ had
  units := fun unit there => ⟨unit, units ▸ there, .refl _ _⟩
  sound := fun sound => ⟨by rw [units, gaps]; exact sound.unused, by rw [units]; exact sound.apart⟩

end Moves

/-! ## What each write does -/

theorem moves_insertMany {named : List (String × String)} {created : List SoaUnit}
    (done : insertMany tables session scope named = .ok (next, created)) : Moves tables next := by
  simp only [insertMany, bind_ok, require_ok, Except.ok.injEq, Prod.mk.injEq] at done
  obtain ⟨-, ⟨apart, free⟩, audit, -, rfl, -⟩ := done
  obtain ⟨new, rows, each⟩ := @Keyed.createAll_rows SoaUnit SoaUnit.id tables.units (String × String)
    (SoaUnit.listed scope.id tables.defaultStatus) (fun _ _ => rfl) named
  have references : new.map (·.reference) = named.map (·.1) := by
    rw [← List.forall₂_eq_eq_eq, List.forall₂_map_left_iff, List.forall₂_map_right_iff]
    exact (each.imp fun line unit its => (congrArg SoaUnit.reference its).trans rfl).flip
  have once : (new.map (·.reference)).Nodup := references ▸ apart
  have listed : ∀ unit ∈ new, unit.live = true ∧ unit.scope = scope.id ∧ ∃ line ∈ named, unit.reference = line.1 := by
    intro unit there
    obtain ⟨line, paired⟩ := fellow_of_right each.length_eq there
    have its := List.forall₂_zip each paired
    exact ⟨congrArg SoaUnit.live its, congrArg SoaUnit.scope its, line, (List.of_mem_zip paired).1, congrArg SoaUnit.reference its⟩
  have new_old : ∀ unit ∈ new, ∀ other ∈ tables.units.rows, other.live = true → unit.scope = other.scope →
      unit.reference ≠ other.reference := by
    intro unit there other also alive under same
    obtain ⟨-, scoped_, line, given, named_⟩ := listed unit there
    have among : other ∈ tables.liveUnits scope.id := List.mem_filter.mpr ⟨also, by simp [alive, ← under, scoped_]⟩
    exact free line given other among nofun (same.symm.trans named_)
  constructor
  · exact fun _ had => had
  · exact fun unit there => ⟨unit, Keyed.mem_createAll_old there, .refl _ _⟩
  · intro sound
    constructor
    · intro unit there left
      rcases List.mem_append.mp (rows ▸ there) with old | added
      · exact sound.unused unit old left
      · rw [(listed unit added).1] at left
        cases left
    · intro unit there other also live alive under same
      rcases List.mem_append.mp (rows ▸ there) with old | added
      · rcases List.mem_append.mp (rows ▸ also) with before | joined
        · exact sound.apart unit old other before live alive under same
        · exact absurd same.symm (new_old other joined unit old live under.symm)
      · rcases List.mem_append.mp (rows ▸ also) with before | joined
        · exact absurd same (new_old unit added other before alive under)
        · exact congrArg SoaUnit.id (List.inj_on_of_nodup_map once added joined same)

theorem live_of_found {id : Id} (found : tables.units.rows.find? (fun unit => unit.id == id && unit.live) = some unit) :
    unit ∈ tables.units.rows ∧ unit.id = id ∧ unit.live = true := by
  have chosen := List.find?_some found
  simp only [Bool.and_eq_true, beq_iff_eq] at chosen
  exact ⟨List.mem_of_find?_eq_some found, chosen⟩

variable {expectedVersion : Option Nat}

theorem unitForWrite_ok {id : Id} (found : unitForWrite seen tables id expectedVersion = .ok unit)
    (fresh : hasGap tables.gaps id = true → hasGap seen.gaps id = true) :
    unit ∈ tables.units.rows ∧ unit.id = id ∧ unit.live = true ∧ hasHistory tables.gaps unit = false := by
  simp only [unitForWrite, bind_ok, demand_ok, require_ok, Except.ok.injEq] at found
  obtain ⟨row, stored, -, -, -, unused, rfl⟩ := found
  obtain ⟨there, rfl, live⟩ := live_of_found stored
  refine ⟨there, rfl, live, Bool.eq_false_iff.mpr fun used => Bool.eq_false_iff.mp unused ?_⟩
  rw [hasHistory_eq_true] at used ⊢
  exact used.imp_right (Or.imp_right fresh)

/-- A write of one unit without history that keeps its key, its scope, its status and its decision. -/
theorem moves_saveUnit {change : SoaUnit → SoaUnit} {audit : List AuditEvent} (named : ∀ unit, (change unit).id = unit.id)
    (under : (change unit).scope = unit.scope) (status : (change unit).complianceStatus = unit.complianceStatus)
    (decided : (change unit).applicabilityDecidedAt = unit.applicabilityDecidedAt)
    (there : unit ∈ tables.units.rows) (live : unit.live = true) (unused : hasHistory tables.gaps unit = false)
    (free : (change unit).live = true → tables.referenceFree unit.scope (change unit).reference (some unit.id)) :
    Moves tables { tables.saveUnit unit.id change named with audit } := by
  have rows : ∀ later ∈ (tables.saveUnit unit.id change named).units.rows,
      later = change unit ∨ later ∈ tables.units.rows ∧ later.id ≠ unit.id := by
    intro later here
    obtain ⟨old, before, rfl⟩ := (@Keyed.mem_update SoaUnit SoaUnit.id tables.units _ change _ named).mp here
    split
    · next chosen =>
      rw [tables.units.eq_of_key before there (beq_iff_eq.mp chosen)]
      exact .inl rfl
    · next spared => exact .inr ⟨before, fun same => spared (beq_iff_eq.mpr same)⟩
  constructor
  · exact fun _ had => had
  · intro old before
    refine ⟨_, (@Keyed.mem_update SoaUnit SoaUnit.id tables.units _ change _ named).mpr ⟨old, before, rfl⟩, ?_⟩
    split
    · next chosen =>
      obtain rfl := tables.units.eq_of_key before there (beq_iff_eq.mp chosen)
      refine ⟨named _, status, fun said => decided ▸ said, fun used => ?_⟩
      rw [unused] at used
      cases used
    · exact .refl _ _
  · intro sound
    have history : hasHistory tables.gaps (change unit) = false := by
      rw [← unused]
      simp only [hasHistory, decided, status, named]
    have fresh : ∀ other ∈ tables.units.rows, other.id ≠ unit.id → other.live = true → (change unit).live = true →
        (change unit).scope = other.scope → (change unit).reference ≠ other.reference := by
      intro other also apart alive stands scopes same
      have among : other ∈ tables.liveUnits unit.scope := List.mem_filter.mpr ⟨also, by simp [alive, ← scopes, under]⟩
      exact free stands other among (fun equal => apart (Option.some.inj equal)) same.symm
    constructor
    · intro later here left
      rcases rows later here with rfl | ⟨before, -⟩
      · exact history
      · exact sound.unused later before left
    · intro first here second also live_ alive scopes same
      rcases rows first here with rfl | ⟨before, apart⟩
      · rcases rows second also with rfl | ⟨prior, apart⟩
        · rfl
        · exact absurd same (fresh second prior apart alive live_ scopes)
      · rcases rows second also with rfl | ⟨prior, -⟩
        · exact absurd same.symm (fresh first before apart live_ alive scopes.symm)
        · exact sound.apart first before second prior live_ alive scopes same

theorem moves_updateUnit {id : Id} {body : UnitPatch}
    (done : updateUnit seen tables session id body expectedVersion = .ok next)
    (fresh : hasGap tables.gaps id = true → hasGap seen.gaps id = true) : Moves tables next := by
  simp only [updateUnit, bind_ok, require_ok, Except.ok.injEq] at done
  obtain ⟨unit, found, reference, -, title, -, -, free, audit, -, rfl⟩ := done
  obtain ⟨there, rfl, live, unused⟩ := unitForWrite_ok found fresh
  exact moves_saveUnit _ rfl rfl rfl there live unused fun _ => free

theorem moves_removeUnit {id : Id}
    (done : removeUnit seen tables session now id expectedVersion = .ok next)
    (fresh : hasGap tables.gaps id = true → hasGap seen.gaps id = true) : Moves tables next := by
  simp only [removeUnit, bind_ok, Except.ok.injEq] at done
  obtain ⟨unit, found, audit, -, rfl⟩ := done
  obtain ⟨there, rfl, live, unused⟩ := unitForWrite_ok found fresh
  exact moves_saveUnit _ rfl rfl rfl there live unused nofun

theorem answered_rest (person : Id) (unit : SoaUnit) : (unit.answered person now answers).scope = unit.scope ∧
    (unit.answered person now answers).reference = unit.reference ∧ (unit.answered person now answers).title = unit.title ∧
    (unit.answered person now answers).removedAt = unit.removedAt ∧
    (unit.answered person now answers).complianceStatus = unit.complianceStatus := by
  unfold SoaUnit.answered
  split <;> exact ⟨rfl, rfl, rfl, rfl, rfl⟩

theorem onward_answered (person : Id) (unit : SoaUnit) : Onward gaps unit (unit.answered person now answers) := by
  obtain ⟨-, reference, title, removed, status⟩ := @answered_rest now answers person unit
  refine ⟨SoaUnit.answered_id _ _ _ _, status, ?_, fun _ => ⟨reference, title, removed⟩⟩
  intro said
  unfold SoaUnit.answered
  split
  · rfl
  · exact said

theorem moves_store (done : store seen tables session now answers expectedVersion = .ok next) :
    Moves tables next := by
  simp only [store, bind_ok, demand_ok, Except.ok.injEq] at done
  obtain ⟨person, person_, _, -, found, locked, -, -, audit, -, rfl⟩ := done
  obtain rfl : session.person = person := Option.some.inj person_
  have live : ∀ answer ∈ answers, ∀ unit ∈ tables.units.rows, answer.unit = unit.id → unit.live = true := by
    intro answer listed unit there same
    obtain ⟨each, its⟩ := mapM_ok locked answer listed
    simp only [lockedUnit, bind_ok, demand_ok] at its
    obtain ⟨row, stored, -⟩ := its
    obtain ⟨here, named, alive⟩ := live_of_found stored
    rwa [tables.units.eq_of_key there here (same.symm.trans named.symm)]
  have rows := @update_answered session now tables.units answers
  constructor
  · exact fun _ had => had
  · intro unit there
    exact ⟨unit.answered session.person now answers, rows ▸ List.mem_map_of_mem there, onward_answered _ _⟩
  · intro sound
    constructor
    · intro later here left
      obtain ⟨unit, there, rfl⟩ := List.mem_map.mp (rows ▸ here)
      obtain ⟨-, -, -, removed, -⟩ := @answered_rest now answers session.person unit
      have gone : unit.live = false := by rwa [SoaUnit.live, removed] at left
      have unanswered : lastAnswer answers unit.id = none := lastAnswer_eq_none.mpr fun answer listed same => by
        rw [live answer listed unit there same] at gone
        cases gone
      rw [answered_of_none unanswered]
      exact sound.unused unit there gone
    · intro first here second also stands alive scopes same
      obtain ⟨unit, there, rfl⟩ := List.mem_map.mp (rows ▸ here)
      obtain ⟨other, before, rfl⟩ := List.mem_map.mp (rows ▸ also)
      obtain ⟨under, reference, -, removed, -⟩ := @answered_rest now answers session.person unit
      obtain ⟨below, named, -, left, -⟩ := @answered_rest now answers session.person other
      rw [SoaUnit.live, removed] at stands
      rw [SoaUnit.live, left] at alive
      rw [under, below] at scopes
      rw [reference, named] at same
      rw [SoaUnit.answered_id, SoaUnit.answered_id]
      exact sound.apart unit there other before stands alive scopes same

theorem moves_setApplicabilityMany (done : setApplicabilityMany cap seen tables session now answers = .ok next) : Moves tables next := by
  simp only [setApplicabilityMany, bind_ok] at done
  obtain ⟨-, -, -, -, stored⟩ := done
  exact moves_store stored

variable {obligation : Id}

theorem moves_createUnit {body : UnitBody} (done : createUnit seen tables session obligation body = .ok next) :
    Moves tables next := by
  simp only [createUnit, bind_ok] at done
  obtain ⟨⟨_, scope⟩, -, _, -, _, -, ⟨stored, created⟩, inserted, done⟩ := done
  obtain rfl := Except.ok.inj done
  exact moves_insertMany inserted

theorem moves_pasteUnits {body : PasteBody} {mayDecide : Bool} {answered : UnitPaste}
    (done : pasteUnits cap seen tables session now obligation body mayDecide = .ok (next, answered)) : Moves tables next := by
  simp only [pasteUnits, bind_ok] at done
  obtain ⟨⟨_, scope⟩, -, done⟩ := done
  dsimp only at done
  split at done
  · obtain rfl := congrArg Prod.fst (Except.ok.inj done)
    exact .refl _
  · simp only [bind_ok] at done
    obtain ⟨⟨listed, created⟩, inserted, done⟩ := done
    dsimp only at done
    have first := moves_insertMany inserted
    split at done
    · obtain rfl := congrArg Prod.fst (Except.ok.inj done)
      exact first
    · obtain ⟨stored, answers, done⟩ := bind_ok.mp done
      obtain rfl := congrArg Prod.fst (Except.ok.inj done)
      exact first.trans (moves_setApplicabilityMany answers)

/-! ## What a gap does -/

theorem hasGap_iff {unit : Id} : hasGap gaps unit = true ↔ ∃ gap ∈ gaps.rows, gap.unit = some unit := by
  simp [hasGap]

theorem moves_createGap {gap : Gap} (done : createGap tables obligation gap = .ok next) : Moves tables next := by
  simp only [createGap, bind_ok, Except.ok.injEq] at done
  obtain ⟨orgUnit, found, rfl⟩ := done
  have grown : ∀ unit, hasGap tables.gaps unit = true →
      hasGap (tables.gaps.create (fun id => { gap with id, orgUnit }) fun _ => rfl) unit = true := by
    intro unit had
    obtain ⟨row, there, its⟩ := hasGap_iff.mp had
    exact hasGap_iff.mpr ⟨row, (Keyed.mem_create _).mpr (.inl there), its⟩
  have live : ∀ unit ∈ tables.units.rows, gap.unit = some unit.id → unit.live = true := by
    intro unit there names
    rw [names, Option.elim_some, map_ok] at found
    obtain ⟨entity, looked, -⟩ := found
    simp only [entityOfUnit, Register.entityOfUnit, bind_ok, demand_ok] at looked
    obtain ⟨row, stored, -⟩ := looked
    have chosen := List.find?_some stored
    simp only [Bool.and_eq_true, beq_iff_eq, Bool.not_eq_true'] at chosen
    obtain ⟨other, before, made⟩ := List.mem_filterMap.mp (List.mem_of_find?_eq_some stored)
    obtain ⟨_, -, rfl⟩ := Option.map_eq_some_iff.mp made
    obtain rfl := tables.units.eq_of_key before there chosen.1.1
    exact Bool.not_eq_false' _ ▸ chosen.1.2
  constructor
  · exact grown
  · exact fun unit there => ⟨unit, there, .refl _ _⟩
  · intro sound
    refine ⟨?_, sound.apart⟩
    intro unit there left
    have before := sound.unused unit there left
    refine Bool.eq_false_iff.mpr fun used => Bool.eq_false_iff.mp before ?_
    rw [hasHistory_eq_true] at used ⊢
    refine used.imp_right (Or.imp_right fun had => ?_)
    obtain ⟨row, here, its⟩ := hasGap_iff.mp had
    rcases (Keyed.mem_create _).mp here with old | rfl
    · exact hasGap_iff.mpr ⟨row, old, its⟩
    · rw [live unit there its] at left
      cases left

theorem moves_amendGap (gap : Gap) : Moves tables (amendGap tables gap) := by
  have same : hasGap (amendGap tables gap).gaps = hasGap tables.gaps := by
    funext unit
    unfold hasGap amendGap Keyed.update
    rw [List.any_map]
    congr 1
    funext row
    dsimp only [Function.comp_apply]
    split <;> rfl
  have history : ∀ unit, hasHistory (amendGap tables gap).gaps unit = hasHistory tables.gaps unit := by
    intro unit
    unfold hasHistory
    rw [same]
  constructor
  · exact fun unit had => same ▸ had
  · exact fun unit there => ⟨unit, there, .refl _ _⟩
  · intro sound
    refine ⟨fun unit there left => ?_, sound.apart⟩
    rw [history]
    exact sound.unused unit there left

/-! ## Runs -/

theorem moves_serve {call : UnitCall} (done : call.serve cap seen tables now = .ok next)
    (fresh : ∀ unit ∈ call.edits, hasGap tables.gaps unit = true → hasGap seen.gaps unit = true) : Moves tables next := by
  cases call with
  | create => exact moves_createUnit done
  | update => exact moves_updateUnit done (fresh _ rfl)
  | remove => exact moves_removeUnit done (fresh _ rfl)
  | paste =>
    obtain ⟨⟨stored, answered⟩, pasted, rfl⟩ := map_ok.mp done
    exact moves_pasteUnits pasted
  | answer => exact moves_store done
  | answerMany => exact moves_setApplicabilityMany done
  | recordGap => exact moves_createGap done

theorem moves_step {step : UnitStep} {after : UnitDesk} (seen : desk.GapSeen step) (done : desk.step cap step = .ok after) :
    Moves desk.tables after.tables := by
  cases step with
  | read request call =>
    simp only [UnitDesk.step, bind_ok, Except.ok.injEq] at done
    obtain ⟨-, -, rfl⟩ := done
    exact .refl _
  | commit request now =>
    simp only [UnitDesk.step, bind_ok, demand_ok] at done
    obtain ⟨⟨id, call, saw⟩, held, done⟩ := done
    dsimp only at done
    obtain ⟨tables, served, done⟩ := done
    obtain rfl := Except.ok.inj done
    simp only [UnitDesk.GapSeen, held] at seen
    exact moves_serve served seen
  | abort request =>
    cases done
    exact .refl _
  | amend gap =>
    cases done
    exact moves_amendGap gap
  | enter scope | answerEntity scope applicability | publish headings legalEntities =>
    cases done
    exact .of_same rfl rfl

theorem moves_run {steps : List UnitStep} (seen : Meets (UnitDesk.step cap) UnitDesk.GapSeen desk steps) :
    Moves desk.tables (run (UnitDesk.step cap) desk steps).tables := by
  let Moved (after : UnitDesk) : Prop := Moves desk.tables after.tables
  have unmoved : Moved desk := .refl _
  exact run_invariant_of_meets unmoved (fun _ _ _ before met done => before.trans (moves_step met done)) steps seen

/-- In every run whose renames and removals saw a gap on their unit where there was one, a unit in use stays. -/
theorem unitsKept_of_gapSeen {steps : List UnitStep} (sound : Sound desk.tables)
    (seen : Meets (UnitDesk.step cap) UnitDesk.GapSeen desk steps) : UnitsKept cap desk steps := by
  constructor
  · rintro first rest rfl unit there used
    obtain ⟨before, after⟩ := Meets.append.mp seen
    have held := (moves_run before).sound sound
    have stays : unit.removedAt = none := by
      by_contra left
      have gone : unit.live = false := Bool.eq_false_iff.mpr fun live => left (Option.isNone_iff_eq_none.mp live)
      rw [held.unused unit there gone] at used
      cases used
    obtain ⟨later, here, onward⟩ := (moves_run after).units unit there
    obtain ⟨reference, title, removed⟩ := onward.fixed used
    rw [run_append]
    exact ⟨stays, later, here, onward.id, reference, title, removed.trans stays⟩
  · intro first isPrefix scope
    have held := (moves_run (seen.initial isPrefix)).sound sound
    have rows := List.Nodup.of_map _ (run (UnitDesk.step cap) desk first).tables.units.keyed
    refine List.Nodup.map_on ?_ (rows.filter _)
    intro unit there other also same
    obtain ⟨there, stands⟩ := List.mem_filter.mp there
    obtain ⟨also, alive⟩ := List.mem_filter.mp also
    simp only [Bool.and_eq_true, beq_iff_eq] at stands alive
    have equal := held.apart unit there other also stands.1 alive.1 (stands.2.trans alive.2.symm) same
    exact Keyed.eq_of_key _ there also equal

/-! ## A gap recorded while a removal waits -/

def firstUnit : SoaUnit := { id := 1, scope := 1, reference := "A.5.1", title := "Our policies" }

def gapOnFirst : Gap := {
  id := 0, tenantObligation := 1, unit := some 1, title := "No policy", severity := 1, source := 1, status := 1, identifiedBy := 2 }

/-- One undecided unit. -/
def oneUnit : UnitDesk where
  tables := {
    tenant := 1
    headings := [{ obligation := 1, standard := true, instrumentShortName := "ISO 27001", refLabel := "Annex A" }]
    legalEntities := [1]
    scopes := {
      rows := [{ id := 1, obligation := 1, orgUnit := 1, orgUnitName := "Bank", applicability := .applies }]
      keyed := by decide }
    units := { rows := [firstUnit], keyed := by decide } }

/-- A removal's statement begins, a gap is recorded on the unit, and the removal gets its lock. -/
def removalWaits : List UnitStep := [
  .read 1 (.remove { person := 1, label := "Anna" } 1 (some 1)),
  .read 2 (.recordGap 1 gapOnFirst),
  .commit 2 10,
  .commit 1 11]

/-- The unit has its gap, and is removed all the same. -/
theorem removalWaits_removes : ¬UnitsKept 100 oneUnit removalWaits := by
  intro kept
  have used : hasHistory (run (UnitDesk.step 100) oneUnit (removalWaits.take 3)).tables.gaps firstUnit = true := by decide +kernel
  have there : firstUnit ∈ (run (UnitDesk.step 100) oneUnit (removalWaits.take 3)).tables.units.rows := by decide +kernel
  obtain ⟨-, later, here, named, -, -, stays⟩ := kept.used (removalWaits.take 3) (removalWaits.drop 3) rfl firstUnit there used
  have gone : ∀ unit ∈ (run (UnitDesk.step 100) oneUnit removalWaits).tables.units.rows, unit.id = 1 → unit.removedAt ≠ none := by
    decide +kernel
  exact gone later here named stays

/-- The same requests, the removal read after the gap: it is refused. -/
theorem removalAfterGap_kept : UnitsKept 100 oneUnit [
    .read 2 (.recordGap 1 gapOnFirst), .commit 2 10,
    .read 1 (.remove { person := 1, label := "Anna" } 1 (some 1)), .commit 1 11] :=
  unitsKept_of_gapSeen ⟨by decide, by decide⟩ (by decide +kernel)

end Grc.Register.Units
