import Grc.Cases.Frame
import Grc.Taxonomy.Matching
import Grc.Lib.Cache

/-! The cached footprint verdict of every case of every bank, kept by the handlers of the
outbox: what each write records, what each delivery recomputes, and when the cache is true. -/
namespace Grc.Cases

open Grc.Shared Grc.Lib Grc.Taxonomy

/-- A registered change: its own scope terms, its authority's jurisdiction and what a case
carries of it. -/
structure RegulatoryChange where
  terms : List Id
  jurisdiction : Option Id := none
  facts : ChangeFacts

/-- The outbox rows the case handlers are registered for. -/
inductive OutboxEvent where
  | footprintApproved (tenant : Id)
  | factsUpdated (change : Id)
  | changeRegistered (change : Id)
  deriving DecidableEq

structure World where
  changes : Id → Option RegulatoryChange := fun _ => none
  footprint : Id → List Id := fun _ => []
  cases : Id → Id → Option CaseFile := fun _ _ => none
  pending : List OutboxEvent := []
  delivered : List OutboxEvent := []

/-- What a delivery draws: the ids of the cases it opens and when their triage is due. -/
structure Drawn where
  caseId : Id → Id := id
  triageDueAt : Id → Instant := fun _ => 0

inductive Act where
  | approveFootprint (tenant : Id) (terms : List Id)
  | updateChangeFacts (change : Id) (terms : List Id)
  | registerChange (change : Id) (row : RegulatoryChange)
  | callCase (tenant change : Id) (bank : Bank) (command : Command)
  | deliver (event : OutboxEvent) (drawn : Drawn)
  | redeliver (event : OutboxEvent) (drawn : Drawn)

/-- `_scope_of`: the change's own terms and those its authority's jurisdiction derives. -/
def scopeTerms (table : TermTable) (row : RegulatoryChange) : List TaxonomyTerm :=
  table.named row.terms ++ table.reaching row.jurisdiction

/-- `scope_term_ids_of_each_case`: the same scope, as the ids the database is handed. -/
def scopeTermIds (table : TermTable) (row : RegulatoryChange) : List Id :=
  row.terms ++ (table.reaching row.jurisdiction).map (·.id)

section Handlers
variable (table : TermTable) (tenants : List Id)

/-- `create_cases`: a case in every active bank that has none, with the verdict of now. -/
def createCases (drawn : Drawn) (change : Id) (world : World) : World :=
  match world.changes change with
  | none => world
  | some row =>
    { world with
      cases := fun tenant other =>
        if other = change ∧ tenant ∈ tenants ∧ (world.cases tenant change).isNone then
          some (createCase (drawn.caseId tenant) tenant { row.facts with id := change }
            (table.pythonVerdict (world.footprint tenant) (scopeTerms table row))
            (drawn.triageDueAt tenant))
        else world.cases tenant other }

/-- `_recompute` of one case row, against the database's half of the rule. -/
def recomputeCase (world : World) (tenant change : Id) (file : CaseFile) : CaseFile :=
  match world.changes change with
  | none => file
  | some row => recompute (table.sqlVerdict (world.footprint tenant) (scopeTermIds table row)) file

/-- `after_footprint_change`: every case of that bank. -/
def afterFootprintChange (tenant : Id) (world : World) : World :=
  { world with
    cases := fun bank change =>
      if bank = tenant then (world.cases bank change).map (recomputeCase table world bank change)
      else world.cases bank change }

/-- `after_change_scope_change`: every active bank's case for that change. -/
def afterChangeScopeChange (change : Id) (world : World) : World :=
  { world with
    cases := fun tenant other =>
      if other = change ∧ tenant ∈ tenants then
        (world.cases tenant other).map (recomputeCase table world tenant other)
      else world.cases tenant other }

def handle (drawn : Drawn) : OutboxEvent → World → World
  | .footprintApproved tenant => afterFootprintChange table tenant
  | .factsUpdated change => afterChangeScopeChange table tenants change
  | .changeRegistered change => createCases table tenants drawn change

/-- One committed write, or one delivery. A row is delivered while it is pending, in any
order, and again at any time after. -/
def act (world : World) : Act → Except Refusal World
  | .approveFootprint tenant terms =>
    .ok { world with
      footprint := fun bank => if bank = tenant then terms else world.footprint bank
      pending := world.pending ++ [.footprintApproved tenant] }
  | .updateChangeFacts change terms => do
    let row ← demand (world.changes change) notFound
    .ok { world with
      changes := fun other => if other = change then some { row with terms } else world.changes other
      pending := world.pending ++ [.factsUpdated change] }
  | .registerChange change row => do
    require ((world.changes change).isNone = true) internalError
    .ok { world with
      changes := fun other => if other = change then some row else world.changes other
      pending := world.pending ++ [.changeRegistered change] }
  | .callCase tenant change bank command => do
    let file ← demand (world.cases tenant change) notFound
    let next ← execute bank command file
    .ok { world with cases := fun other named =>
      if other = tenant ∧ named = change then some next else world.cases other named }
  | .deliver event drawn => do
    require (event ∈ world.pending) internalError
    .ok { handle table tenants drawn event world with
      pending := world.pending.erase event, delivered := event :: world.delivered }
  | .redeliver event drawn => do
    require (event ∈ world.delivered) internalError
    .ok (handle table tenants drawn event world)

end Handlers

/-- The matching rule on a change's scope as it is now and the bank's footprint as it is now. -/
def World.verdict (table : TermTable) (world : World) (key : Id × Id) : Bool :=
  match world.changes key.2 with
  | none => true
  | some row => table.pythonVerdict (world.footprint key.1) (scopeTerms table row)

def World.stored (world : World) (key : Id × Id) : Option Bool :=
  (world.cases key.1 key.2).bind fun file =>
    if isOpen file.case.status then some file.case.footprintMatch else none

def Covers : OutboxEvent → Id × Id → Prop
  | .footprintApproved tenant, key => key.1 = tenant
  | .factsUpdated change, key => key.2 = change
  | .changeRegistered _, _ => False

def World.Filed (tenants : List Id) (world : World) : Prop :=
  ∀ tenant change file, world.cases tenant change = some file →
    tenant ∈ tenants ∧ (world.changes change).isSome = true

structure MatchSound (table : TermTable) (tenants : List Id) (world : World) : Prop where
  filed : world.Filed tenants
  current : CurrentOrDue Covers (world.verdict table) world.stored world.pending

/-- A restore finds the cached answer true, or an event still to come that decides it again. -/
def RestoresCurrent (table : TermTable) (world : World) : Act → Prop
  | .callCase tenant change _ (.restore _) => ∀ file, world.cases tenant change = some file →
      file.case.footprintMatch = world.verdict table (tenant, change) ∨
        ∃ event ∈ world.pending, Covers event (tenant, change)
  | _ => True

theorem stored_eq_some {world : World} {key : Id × Id} {answer : Bool} :
    world.stored key = some answer ↔ ∃ file, world.cases key.1 key.2 = some file ∧
      isOpen file.case.status = true ∧ file.case.footprintMatch = answer := by
  unfold World.stored
  cases world.cases key.1 key.2 with
  | none => simp
  | some file => by_cases open_ : isOpen file.case.status = true <;> simp [open_]

theorem mem_scopeTermIds {table : TermTable} {row : RegulatoryChange} {term : TaxonomyTerm}
    (known : term ∈ table.terms) : term.id ∈ scopeTermIds table row ↔ term ∈ scopeTerms table row := by
  simp only [scopeTermIds, scopeTerms, List.mem_append, List.mem_map, TermTable.mem_named, known, true_and]
  constructor
  · rintro (own | ⟨other, reached, same⟩)
    · exact .inl own
    · have listed : other ∈ table.terms := reaching_listed reached
      exact .inr (table.termIds other listed term known same ▸ reached)
  · rintro (own | reached)
    · exact .inl own
    · exact .inr ⟨term, reached, rfl⟩

theorem sqlVerdict_eq_verdict (table : TermTable) (footprint : List Id) (row : RegulatoryChange) :
    table.sqlVerdict footprint (scopeTermIds table row) =
      table.pythonVerdict footprint (scopeTerms table row) := by
  refine (TermTable.pythonVerdict_eq_sqlVerdict ?_ fun term known => mem_scopeTermIds known).symm
  intro term member
  rcases List.mem_append.mp member with own | reached
  · exact (TermTable.mem_named.mp own).1
  · exact reaching_listed reached

theorem recomputeCase_current {table : TermTable} {world : World} {tenant change : Id}
    {file : CaseFile} (registered : (world.changes change).isSome = true)
    (open_ : isOpen (recomputeCase table world tenant change file).case.status = true) :
    (recomputeCase table world tenant change file).case.footprintMatch =
      world.verdict table (tenant, change) := by
  obtain ⟨row, found⟩ := Option.isSome_iff_exists.mp registered
  simp only [recomputeCase, World.verdict, found, sqlVerdict_eq_verdict] at open_ ⊢
  unfold recompute at open_ ⊢
  split
  · rfl
  · rename_i kept
    rw [if_neg kept] at open_
    by_contra stale
    exact kept ⟨open_, stale⟩

section Steps
variable {table : TermTable} {tenants : List Id} {world next : World}

/-- What a handler leaves of each cached answer: the rule's, or the one there was where its
event covers no case. -/
theorem handle_recomputes (filed : world.Filed tenants) (drawn : Drawn) (event : OutboxEvent)
    (key : Id × Id) (answer : Bool)
    (found : (handle table tenants drawn event world).stored key = some answer) :
    answer = world.verdict table key ∨ world.stored key = some answer ∧ ¬Covers event key := by
  obtain ⟨file, filedNow, open_, rfl⟩ := stored_eq_some.mp found
  cases event with
  | footprintApproved tenant =>
    simp only [handle, afterFootprintChange] at filedNow
    by_cases same : key.1 = tenant
    · rw [if_pos same] at filedNow
      obtain ⟨before, filedBefore, rfl⟩ := Option.map_eq_some_iff.mp filedNow
      exact .inl (recomputeCase_current (filed _ _ _ filedBefore).2 open_)
    · rw [if_neg same] at filedNow
      exact .inr ⟨stored_eq_some.mpr ⟨file, filedNow, open_, rfl⟩, same⟩
  | factsUpdated change =>
    simp only [handle, afterChangeScopeChange] at filedNow
    by_cases same : key.2 = change
    · by_cases active : key.1 ∈ tenants
      · rw [if_pos ⟨same, active⟩] at filedNow
        obtain ⟨before, filedBefore, rfl⟩ := Option.map_eq_some_iff.mp filedNow
        exact .inl (recomputeCase_current (filed _ _ _ filedBefore).2 open_)
      · rw [if_neg fun both => active both.2] at filedNow
        exact absurd (filed _ _ _ filedNow).1 active
    · rw [if_neg fun both => same both.1] at filedNow
      exact .inr ⟨stored_eq_some.mpr ⟨file, filedNow, open_, rfl⟩, same⟩
  | changeRegistered change =>
    simp only [handle, createCases] at filedNow
    cases registered : world.changes change with
    | none =>
      simp only [registered] at filedNow
      exact .inr ⟨stored_eq_some.mpr ⟨file, filedNow, open_, rfl⟩, id⟩
    | some row =>
      simp only [registered] at filedNow
      by_cases opens : key.2 = change ∧ key.1 ∈ tenants ∧ (world.cases key.1 change).isNone = true
      · rw [if_pos opens] at filedNow
        cases filedNow
        refine .inl ?_
        simp [World.verdict, opens.1, registered, createCase]
      · rw [if_neg opens] at filedNow
        exact .inr ⟨stored_eq_some.mpr ⟨file, filedNow, open_, rfl⟩, id⟩

theorem handle_verdict (drawn : Drawn) (event : OutboxEvent) :
    (handle table tenants drawn event world).verdict table = world.verdict table := by
  funext key
  cases event with
  | footprintApproved tenant | factsUpdated change => rfl
  | changeRegistered change =>
    simp only [handle, createCases]
    split <;> rfl

theorem handle_pending (drawn : Drawn) (event : OutboxEvent) :
    (handle table tenants drawn event world).pending = world.pending := by
  cases event with
  | footprintApproved tenant | factsUpdated change => rfl
  | changeRegistered change =>
    simp only [handle, createCases]
    split <;> rfl

theorem handle_filed (filed : world.Filed tenants) (drawn : Drawn) (event : OutboxEvent) :
    (handle table tenants drawn event world).Filed tenants := by
  intro tenant change file found
  cases event with
  | footprintApproved bank =>
    simp only [handle, afterFootprintChange] at found
    split at found
    · obtain ⟨before, filedBefore, -⟩ := Option.map_eq_some_iff.mp found
      exact filed tenant change before filedBefore
    · exact filed tenant change file found
  | factsUpdated other =>
    simp only [handle, afterChangeScopeChange] at found
    split at found
    · obtain ⟨before, filedBefore, -⟩ := Option.map_eq_some_iff.mp found
      exact filed tenant change before filedBefore
    · exact filed tenant change file found
  | changeRegistered other =>
    simp only [handle, createCases] at found ⊢
    cases registered : world.changes other with
    | none =>
      simp only [registered] at found ⊢
      exact filed tenant change file found
    | some row =>
      simp only [registered] at found ⊢
      split at found
      · rename_i opens
        exact ⟨opens.2.1, by simp [opens.1, registered]⟩
      · exact filed tenant change file found

section
variable (sound : MatchSound table tenants world)
include sound

theorem approveFootprint_sound {tenant : Id} {terms : List Id} (accepted : act table tenants world (.approveFootprint tenant terms) = .ok next) :
    MatchSound table tenants next := by
  cases accepted
  refine ⟨sound.filed, sound.current.change ?_⟩
  intro key _ _ moved
  by_contra other
  have elsewhere : key.1 ≠ tenant := other
  exact moved (by simp [World.verdict, elsewhere])

theorem updateChangeFacts_sound {change : Id} {terms : List Id} (accepted : act table tenants world (.updateChangeFacts change terms) = .ok next) :
    MatchSound table tenants next := by
  simp only [act, bind_ok, demand_ok] at accepted
  obtain ⟨row, registered, written⟩ := accepted
  cases written
  constructor
  · intro tenant other file found
    obtain ⟨active, known⟩ := sound.filed tenant other file found
    refine ⟨active, ?_⟩
    by_cases same : other = change
    · simp [same]
    · simpa [same] using known
  · refine sound.current.change ?_
    intro key _ _ moved
    by_contra other
    have elsewhere : key.2 ≠ change := other
    exact moved (by simp [World.verdict, elsewhere])

theorem registerChange_sound {change : Id} {row : RegulatoryChange}
    (accepted : act table tenants world (.registerChange change row) = .ok next) :
    MatchSound table tenants next := by
  simp only [act, bind_ok, require_ok] at accepted
  obtain ⟨_, unknown, written⟩ := accepted
  cases written
  have elsewhere : ∀ tenant other file, world.cases tenant other = some file → other ≠ change := by
    rintro tenant other file found rfl
    have known := (sound.filed tenant other file found).2
    rw [Option.isNone_iff_eq_none.mp unknown] at known
    cases known
  constructor
  · intro tenant other file found
    obtain ⟨active, known⟩ := sound.filed tenant other file found
    exact ⟨active, by simpa [elsewhere tenant other file found] using known⟩
  · refine sound.current.change ?_
    intro key answer stored moved
    obtain ⟨file, found, -⟩ := stored_eq_some.mp stored
    exact absurd (by simp [World.verdict, elsewhere _ _ _ found]) moved

/-- A call on a case leaves its cached answer, and only a restore makes it count again. -/
theorem callCase_sound {tenant change : Id} {bank : Bank}
    {command : Command} (restores : RestoresCurrent table world (.callCase tenant change bank command))
    (accepted : act table tenants world (.callCase tenant change bank command) = .ok next) :
    MatchSound table tenants next := by
  simp only [act, bind_ok, demand_ok] at accepted
  obtain ⟨file, found, after, executed, written⟩ := accepted
  cases written
  constructor
  · intro bank_ other file_ found_
    simp only at found_
    split at found_
    · rename_i here
      rw [here.1, here.2]
      exact sound.filed tenant change file found
    · exact sound.filed bank_ other file_ found_
  · refine sound.current.write ?_
    intro key answer stored
    obtain ⟨file_, found_, open_, rfl⟩ := stored_eq_some.mp stored
    simp only at found_
    split at found_
    · rename_i here
      cases found_
      obtain ⟨sameTenant, sameChange⟩ := here
      have sameKey : key = (tenant, change) := Prod.ext sameTenant sameChange
      have kept := execute_footprintMatch executed
      cases finished : isOpen file.case.status with
      | true =>
        refine .inl (stored_eq_some.mpr ⟨file, ?_, finished, kept.symm⟩)
        rw [sameKey]
        exact found
      | false =>
        obtain ⟨caller, rfl⟩ := reopened_by_restore executed finished open_
        rw [kept, sameKey]
        exact .inr (restores file found)
    · exact .inl (stored_eq_some.mpr ⟨file_, found_, open_, rfl⟩)

theorem deliver_sound {event : OutboxEvent} {drawn : Drawn} (accepted : act table tenants world (.deliver event drawn) = .ok next) :
    MatchSound table tenants next := by
  simp only [act, bind_ok, require_ok] at accepted
  obtain ⟨_, -, delivered⟩ := accepted
  cases delivered
  refine ⟨handle_filed sound.filed drawn event, ?_⟩
  change CurrentOrDue Covers ((handle table tenants drawn event world).verdict table)
    (handle table tenants drawn event world).stored (world.pending.erase event)
  rw [handle_verdict]
  exact sound.current.deliver (handle_recomputes sound.filed drawn event)

theorem redeliver_sound {event : OutboxEvent} {drawn : Drawn} (accepted : act table tenants world (.redeliver event drawn) = .ok next) :
    MatchSound table tenants next := by
  simp only [act, bind_ok, require_ok] at accepted
  obtain ⟨_, -, delivered⟩ := accepted
  cases delivered
  refine ⟨handle_filed sound.filed drawn event, ?_⟩
  rw [handle_verdict, handle_pending]
  refine sound.current.write ?_
  intro key answer stored
  rcases handle_recomputes sound.filed drawn event key answer stored with current | ⟨kept, -⟩
  · exact .inr (.inl current)
  · exact .inl kept

end

theorem act_sound {done : Act} (sound : MatchSound table tenants world)
    (restores : RestoresCurrent table world done) (accepted : act table tenants world done = .ok next) :
    MatchSound table tenants next := by
  cases done with
  | approveFootprint tenant terms => exact approveFootprint_sound sound accepted
  | updateChangeFacts change terms => exact updateChangeFacts_sound sound accepted
  | registerChange change row => exact registerChange_sound sound accepted
  | callCase tenant change bank command => exact callCase_sound sound restores accepted
  | deliver event drawn => exact deliver_sound sound accepted
  | redeliver event drawn => exact redeliver_sound sound accepted

end Steps

theorem initial_sound (table : TermTable) (tenants : List Id) : MatchSound table tenants {} := by
  constructor
  · intro tenant change file found
    cases found
  · intro key answer stored
    obtain ⟨file, found, -⟩ := stored_eq_some.mp stored
    cases found

/-- Every open case holds the rule's answer on its change's scope and its bank's footprint. -/
def World.MatchTrue (table : TermTable) (world : World) : Prop :=
  ∀ tenant change file row, world.cases tenant change = some file → world.changes change = some row →
    isOpen file.case.status = true →
      file.case.footprintMatch = table.pythonVerdict (world.footprint tenant) (scopeTerms table row)

/-- In every run whose restores find the cached answer true, or still to be decided again, the
drained outbox leaves every open case with the rule's answer. -/
theorem run_matchTrue (table : TermTable) (tenants : List Id) (acts : List Act)
    (restores : Meets (act table tenants) (RestoresCurrent table) {} acts)
    (drained : (run (act table tenants) {} acts).pending = []) :
    (run (act table tenants) {} acts).MatchTrue table := by
  have sound : MatchSound table tenants (run (act table tenants) {} acts) :=
    run_invariant_of_meets (initial_sound table tenants)
      (fun _ _ _ sound met accepted => act_sound sound met accepted) acts restores
  intro tenant change file row found registered open_
  have current := sound.current
  rw [drained] at current
  have stored : (run (act table tenants) {} acts).stored (tenant, change) =
      some file.case.footprintMatch := stored_eq_some.mpr ⟨file, found, open_, rfl⟩
  rw [current.drained stored, World.verdict, registered]

section Example

/-- Two terms of one dimension. -/
def twoTerms : TermTable where
  terms :=
    [{ id := 10, key := "custody", dimension := { id := 1, key := "activity" } },
     { id := 11, key := "advice", dimension := { id := 1, key := "activity" } }]
  termIds := by decide
  termKeys := by decide
  dimensionIds := by decide
  dimensionKeys := by decide

/-- A change about custody is dismissed, the bank's scope is approved as `terms`, the approval
is delivered, and the case is restored. -/
def dismissedThenRestored (terms : List Id) : List Act :=
  let bank : Bank :=
    { Bank.bare with dismissalReasons := [{ id := 1, key := "out_of_scope" }] }
  let sara (version : Nat) : Caller :=
    { actor := { kind := .user, id := some 7, label := "Sara" }, user := 7, expectedVersion := some version }
  [.registerChange 5 { terms := [10], facts := { id := 5, urgency := { id := 1, key := "act_now" } } },
   .deliver (.changeRegistered 5) {},
   .callCase 1 5 bank (.dismiss (sara 1) "out_of_scope"),
   .approveFootprint 1 terms,
   .deliver (.footprintApproved 1) {},
   .callCase 1 5 bank (.restore (sara 2))]

/-- Approved as advice alone, the restored case still says it is inside. -/
theorem restored_case_is_stale :
    ¬∀ (table : TermTable) (tenants : List Id) (acts : List Act),
      (run (act table tenants) {} acts).pending = [] → (run (act table tenants) {} acts).MatchTrue table := by
  intro matches_
  have inside := matches_ twoTerms [1] (dismissedThenRestored [11]) (by decide +kernel) 1 5
  have filed : ((run (act twoTerms [1]) {} (dismissedThenRestored [11])).cases 1 5).map
      (fun file => (isOpen file.case.status, file.case.footprintMatch)) = some (true, true) := by
    decide +kernel
  have registered : ((run (act twoTerms [1]) {} (dismissedThenRestored [11])).changes 5).map
      (fun row => twoTerms.pythonVerdict
        ((run (act twoTerms [1]) {} (dismissedThenRestored [11])).footprint 1)
        (scopeTerms twoTerms row)) = some false := by
    decide +kernel
  obtain ⟨file, found, columns⟩ := Option.map_eq_some_iff.mp filed
  obtain ⟨row, known, verdict⟩ := Option.map_eq_some_iff.mp registered
  obtain ⟨open_, cached⟩ := Prod.mk.inj columns
  have same := inside file row found known open_
  rw [verdict, cached] at same
  cases same

/-- Approved as custody and advice, the restored case finds its answer true. -/
theorem restored_case_is_true :
    (run (act twoTerms [1]) {} (dismissedThenRestored [10, 11])).MatchTrue twoTerms := by
  refine run_matchTrue twoTerms [1] (dismissedThenRestored [10, 11]) ?_ (by decide +kernel)
  refine ⟨fun _ _ => trivial, fun _ _ => trivial, fun _ _ => trivial, fun _ _ => trivial,
    fun _ _ => trivial, fun _ _ file found => .inl ?_, trivial⟩
  have stored : (some file).map (fun file : CaseFile => file.case.footprintMatch) = some true := by
    rw [← found]
    decide +kernel
  have answer : file.case.footprintMatch = true := Option.some.inj stored
  rw [answer]
  decide +kernel

end Example

end Grc.Cases
