import Grc.Register.ManyAnswers
import Mathlib.Data.List.Pairwise

/-! What a call of many answers leaves: every answer on a row of its own obligation, each row answered once and one version
on, exactly where no unit is named twice. -/
namespace Grc.Register.Many

open Grc.Shared Grc.Lib

variable {reads : Reads} {actor : Actor} {answers : List Answer} {answer : Answer} {tables after : Tables} {rows memory : List Row}
  {row : Row} {person : Id}

/-- The row is one of the obligation the answer names: a live unit under it whose scope applied, the row of an entity it spans,
or its entry. -/
def Lands (reads : Reads) (before rows : List Row) (answer : Answer) (row : Row) : Prop :=
  row ∈ rows ∧ match answer.unit, answer.orgUnit with
    | some unit, _ => row.id = unit ∧ ∃ scope ∈ before, ∃ reference, row.place = .unit scope.id reference true ∧
        obligationOf before scope = some answer.obligation ∧ scope.applicability = .applies
    | none, some orgUnit => ∃ entry ∈ rows, entry.place = .entry answer.obligation ∧ row.place = .scope entry.id orgUnit none ∧
        orgUnit ∈ (entitiesSpanned reads answer.obligation).map (·.id)
    | none, none => row.place = .entry answer.obligation

/-- The row holds the answer. -/
structure Holds (person : Id) (now : Instant) (answer : Answer) (row : Row) : Prop where
  applicability : row.applicability = Units.kindOf answer.applicability
  reason : row.applicabilityReason = answer.reason
  decidedAt : row.applicabilityDecidedAt = some now
  decidedBy : row.applicabilityDecidedBy = some person

def Place.firstVersion : Place → Nat
  | .entry _ => 1
  | _ => 0

def OneOn (before : List Row) (row : Row) : Prop :=
  (∀ old ∈ before, old.id = row.id → row.version = old.version + 1 ∧ row.place = old.place) ∧
    ((∀ old ∈ before, old.id ≠ row.id) → row.version = row.place.firstVersion + 1)

/-- What an accepted call is to have done. -/
structure Landed (reads : Reads) (person : Id) (before after : List Row) (answers : List Answer) (stored : List Stored) (landed : List Row) :
    Prop where
  lands : List.Forall₂ (Lands reads before after) answers landed
  once : (landed.map (·.id)).Nodup
  holds : List.Forall₂ (Holds person reads.now) answers landed
  oneOn : ∀ row ∈ landed, OneOn before row
  returned : stored = (answers.zip landed).map fun pair => pair.1.stored person reads.now pair.2.version
  others : ∀ old ∈ before, old.id ∉ landed.map (·.id) → old ∈ after

def AnsweredEach (reads : Reads) (actor : Actor) (tables after : Tables) (answers : List Answer) (stored : List Stored) : Prop :=
  ∃ person, actor.id = some person ∧ ∃ landed, Landed reads person tables.rows.rows after.rows.rows answers stored landed

def UnitsOnce (answers : List Answer) : Prop := (answers.filterMap (·.unit)).Nodup

instance (answers : List Answer) : Decidable (UnitsOnce answers) := inferInstanceAs (Decidable (List.Nodup _))

/-! ## Where an answer lands, whatever the rows were given meanwhile -/

/-- A change of rows that leaves what they are. -/
structure Settled (change : Row → Row) : Prop where
  id : ∀ row, (change row).id = row.id
  place : ∀ row, (change row).place = row.place

theorem entryOn_map {change : Row → Row} (settled : Settled change) (obligation : Id) :
    entryOn (rows.map change) obligation = (entryOn rows obligation).map change := by
  unfold entryOn
  rw [List.find?_map]
  simp only [Function.comp_def, settled.place]

theorem scopeOn_map {change : Row → Row} (settled : Settled change) (entry orgUnit : Id) :
    scopeOn (rows.map change) entry orgUnit = (scopeOn rows entry orgUnit).map change := by
  unfold scopeOn
  rw [List.find?_map]
  simp only [Function.comp_def, settled.place]

theorem rowFor_map {change : Row → Row} (settled : Settled change) : rowFor (rows.map change) answer = (rowFor rows answer).map change := by
  unfold rowFor
  split
  · rw [List.find?_map]
    simp only [Function.comp_def, settled.id]
  · rw [entryOn_map settled]
    cases entryOn rows answer.obligation with
    | none => rfl
    | some entry =>
      simp only [Option.map_some, Option.bind_some, settled.id]
      exact scopeOn_map settled _ _
  · exact entryOn_map settled _

theorem entryOn_some {obligation : Id} (found : entryOn rows obligation = some row) : row ∈ rows ∧ row.place = .entry obligation := by
  have named := List.find?_some found
  exact ⟨List.mem_of_find?_eq_some found, beq_iff_eq.mp named⟩

theorem scopeOn_some {entry orgUnit : Id} (found : scopeOn rows entry orgUnit = some row) :
    row ∈ rows ∧ row.place = .scope entry orgUnit none := by
  have named := List.find?_some found
  exact ⟨List.mem_of_find?_eq_some found, beq_iff_eq.mp named⟩

theorem rowFor_mem (found : rowFor rows answer = some row) : row ∈ rows := by
  unfold rowFor at found
  split at found
  · exact List.mem_of_find?_eq_some found
  · obtain ⟨entry, -, found⟩ := Option.bind_eq_some_iff.mp found
    exact (scopeOn_some found).1
  · exact (entryOn_some found).1

/-! ## The loop over the answers -/

def Row.afterAll (person : Id) (now : Instant) (landings : List (Answer × Id)) (row : Row) : Row :=
  landings.foldl (fun row landing => if row.id = landing.2 then row.answered person now landing.1 else row) row

theorem afterAll_settled (person : Id) (now : Instant) (landings : List (Answer × Id)) : Settled (Row.afterAll person now landings) := by
  constructor
  · intro row
    induction landings generalizing row with
    | nil => rfl
    | cons landing rest ih =>
      rw [Row.afterAll, List.foldl_cons]
      refine (ih _).trans ?_
      split <;> rfl
  · intro row
    induction landings generalizing row with
    | nil => rfl
    | cons landing rest ih =>
      rw [Row.afterAll, List.foldl_cons]
      refine (ih _).trans ?_
      split <;> rfl

theorem afterAll_none {now : Instant} {landings : List (Answer × Id)} (none : row.id ∉ landings.map (·.2)) :
    row.afterAll person now landings = row := by
  induction landings with
  | nil => rfl
  | cons landing rest ih =>
    rw [List.map_cons, List.mem_cons, not_or] at none
    rw [Row.afterAll, List.foldl_cons, if_neg none.1]
    exact ih none.2

theorem afterAll_once {now : Instant} {landings : List (Answer × Id)} (once : (landings.map (·.2)).Nodup) (landed : (answer, row.id) ∈ landings) :
    row.afterAll person now landings = row.answered person now answer := by
  induction landings with
  | nil => cases landed
  | cons landing rest ih =>
    rw [List.map_cons, List.nodup_cons] at once
    rw [Row.afterAll, List.foldl_cons]
    rcases List.mem_cons.mp landed with rfl | later
    · rw [if_pos rfl]
      have later := @afterAll_none (row.answered person now answer) person now rest once.1
      exact later
    · have others : row.id ≠ landing.2 := fun same => once.1 (same ▸ List.mem_map_of_mem later)
      rw [if_neg others]
      exact ih once.2 later

def changing (person : Id) (now : Instant) (answer : Answer) (id : Id) (row : Row) : Row :=
  if row.id = id then row.answered person now answer else row

theorem changing_settled (person : Id) (now : Instant) (answer : Answer) (id : Id) : Settled (changing person now answer id) where
  id := fun row => by unfold changing; split <;> rfl
  place := fun row => by unfold changing; split <;> rfl

theorem write_ok {gathered next : Gathered} (done : gathered.write reads actor person answer = .ok next) :
    ∃ row, rowFor gathered.memory answer = some row ∧ next.memory = gathered.memory.map (changing person reads.now answer row.id) ∧
      next.written = gathered.written ++ [row.id] ∧ next.stored = gathered.stored ++ [answer.stored person reads.now (row.version + 1)] := by
  obtain ⟨row, found, done⟩ := bind_ok.mp done
  obtain rfl := Except.ok.inj done
  exact ⟨row, demand_ok.mp found, rfl, rfl, rfl⟩

theorem rowsFor_of_done {gathered final : Gathered} (done : answers.foldlM (Gathered.write reads actor person) gathered = .ok final) :
    ∃ landed, List.Forall₂ (fun answer row => rowFor gathered.memory answer = some row) answers landed := by
  refine exists_forall₂ ?_
  induction answers generalizing gathered with
  | nil => exact List.forall_mem_nil _
  | cons answer rest ih =>
    rw [List.foldlM_cons] at done
    obtain ⟨next, first, later⟩ := bind_ok.mp done
    obtain ⟨row, found, memory, -, -⟩ := write_ok first
    intro each listed
    rcases List.mem_cons.mp listed with rfl | further
    · exact ⟨row, found⟩
    · obtain ⟨other, its⟩ := ih later each further
      rw [memory, rowFor_map (changing_settled _ _ _ _), Option.map_eq_some_iff] at its
      obtain ⟨other, its, -⟩ := its
      exact ⟨other, its⟩

theorem gathered_eq {gathered final : Gathered} {landed : List Row}
    (done : answers.foldlM (Gathered.write reads actor person) gathered = .ok final)
    (found : List.Forall₂ (fun answer row => rowFor gathered.memory answer = some row) answers landed) (once : (landed.map (·.id)).Nodup) :
    final.memory = gathered.memory.map (Row.afterAll person reads.now (answers.zip (landed.map (·.id)))) ∧
      final.written = gathered.written ++ landed.map (·.id) ∧
      final.stored = gathered.stored ++ (answers.zip landed).map fun pair => pair.1.stored person reads.now (pair.2.version + 1) := by
  induction answers generalizing gathered landed with
  | nil =>
    cases found
    obtain rfl := Except.ok.inj done
    exact ⟨(List.map_id _).symm, (List.append_nil _).symm, (List.append_nil _).symm⟩
  | cons answer rest ih =>
    obtain ⟨row, others, its, theirs, rfl⟩ := List.forall₂_cons_left_iff.mp found
    rw [List.foldlM_cons] at done
    obtain ⟨next, first, later⟩ := bind_ok.mp done
    obtain ⟨same, here, memory, written, stored⟩ := write_ok first
    obtain rfl : row = same := Option.some.inj (its.symm.trans here)
    rw [List.map_cons, List.nodup_cons] at once
    -- the rows of the other answers are not the one just written
    have spared : List.Forall₂ (fun answer row => rowFor next.memory answer = some row) rest others := by
      refine forall₂_of_mem theirs fun each _ other listed its => ?_
      have apart : other.id ≠ row.id := fun same => once.1 (same ▸ List.mem_map_of_mem listed)
      rw [memory, rowFor_map (changing_settled _ _ _ _), its, Option.map_some, changing, if_neg apart]
    obtain ⟨memories, writes, answered⟩ := ih later spared once.2
    refine ⟨?_, ?_, ?_⟩
    · rw [memories, memory, List.map_map]
      rfl
    · rw [writes, written, List.append_assoc]
      rfl
    · rw [answered, stored, List.append_assoc]
      rfl

/-! ## What the call created and checked -/

def Made (row : Row) : Prop := (∃ obligation id, row = Row.newEntry obligation id) ∨ ∃ place id, row = Row.newScope place id

theorem Made.version (made : Made row) : row.version = row.place.firstVersion := by
  rcases made with ⟨_, _, rfl⟩ | ⟨_, _, rfl⟩ <;> rfl

/-- The steps of a call that was accepted. -/
structure Steps (reads : Reads) (actor : Actor) (answers : List Answer) (tables after : Tables) (stored : List Stored)
    (person : Id) (created : Keyed Row.id) (new : List Row) (gathered : Gathered) : Prop where
  bySomeone : actor.id = some person
  targets : (answers.map Answer.target).Nodup
  checked : checkAnswers reads answers tables.rows.rows = .ok ⟨⟩
  after_created : created.rows = tables.rows.rows ++ new
  made : ∀ row ∈ new, Made row
  written : answers.foldlM (Gathered.write reads actor person) { memory := created.rows } = .ok gathered
  returned : stored = gathered.stored
  updated : after.rows = updateRows person reads.now (gathered.memory.filter fun row => row.id ∈ gathered.written) created

theorem made_of_createAll {Wanted : Type} {makes : Wanted → Id → Row} {wanted : List Wanted} {new : List Row}
    (each : List.Forall₂ (fun made row => row = makes made row.id) wanted new) (kind : ∀ made id, Made (makes made id)) :
    ∀ row ∈ new, Made row := by
  intro row listed
  obtain ⟨made, pair⟩ := fellow_of_right each.length_eq listed
  have its : row = makes made row.id := List.forall₂_zip each pair
  exact its ▸ kind made row.id

theorem setApplicabilityMany_ok {stored : List Stored} (done : (setApplicabilityMany reads actor answers).execute tables = (.ok stored, after)) :
    ∃ person created new gathered, Steps reads actor answers tables after stored person created new gathered := by
  obtain ⟨_, -, done⟩ := Tx.check_bind_ok.mp (Tx.atomic_ok.mp done)
  obtain ⟨_, targets, done⟩ := Tx.check_bind_ok.mp done
  obtain ⟨person, someone, done⟩ := Tx.check_bind_ok.mp done
  obtain ⟨_, checked, done⟩ := Tx.check_bind_ok.mp done
  obtain ⟨missing, -, done⟩ := Tx.check_bind_ok.mp done
  obtain ⟨_, -, done⟩ := Tx.check_bind_ok.mp done
  obtain ⟨before, -, done⟩ := Tx.check_bind_ok.mp done
  have done := Tx.write_bind_ok.mp done
  obtain ⟨places, -, done⟩ := Tx.check_bind_ok.mp done
  obtain ⟨_, -, done⟩ := Tx.check_bind_ok.mp done
  have done := Tx.write_bind_ok.mp done
  obtain ⟨gathered, written, done⟩ := Tx.check_bind_ok.mp done
  have done := Tx.write_bind_ok.mp done
  obtain ⟨_, -, done⟩ := Tx.check_bind_ok.mp done
  obtain ⟨_, -, done⟩ := Tx.check_bind_ok.mp done
  have done := Tx.write_bind_ok.mp done
  obtain ⟨rfl, rfl⟩ := Tx.pure_ok.mp done
  -- the entries are created first, and the rows of their entities over them
  obtain ⟨entries, entered, newEntries⟩ := @Keyed.createAll_rows Row Row.id tables.rows Id Row.newEntry (fun _ _ => rfl) missing
  obtain ⟨scopes, scoped_, newScopes⟩ :=
    @Keyed.createAll_rows Row Row.id (ensureEntries reads actor missing tables).1.rows (Id × Id) Row.newScope (fun _ _ => rfl) places
  refine ⟨person, _, entries ++ scopes, gathered, demand_ok.mp someone, require_ok.mp targets, checked, ?_, ?_, written, rfl, rfl⟩
  · refine scoped_.trans ?_
    rw [← List.append_assoc]
    exact congrArg (· ++ scopes) entered
  · intro row listed
    rcases List.mem_append.mp listed with entry | scope
    · exact made_of_createAll newEntries (fun obligation id => .inl ⟨obligation, id, rfl⟩) row entry
    · exact made_of_createAll newScopes (fun place id => .inr ⟨place, id, rfl⟩) row scope

theorem lockUnit_ok {unit : Id} (locked : lockUnit rows answers unit = .ok ⟨⟩) :
    ∃ held ∈ rows, held.id = unit ∧ ∃ scope ∈ rows, ∃ reference, held.place = .unit scope.id reference true ∧
      obligationOf rows scope = wantedUnder answers unit ∧ scope.applicability = .applies := by
  obtain ⟨⟨held, scope⟩, live, locked⟩ := bind_ok.mp locked
  obtain ⟨obligation, its, locked⟩ := bind_ok.mp locked
  obtain ⟨_, wanted, applies⟩ := bind_ok.mp locked
  have live := demand_ok.mp live
  obtain ⟨found, here, live⟩ := Option.bind_eq_some_iff.mp live
  have named := List.find?_some here
  split at live
  · obtain ⟨under, there, same⟩ := Option.bind_eq_some_iff.mp live
    obtain ⟨rfl, rfl⟩ := Prod.mk.inj (Option.some.inj same)
    have listed := List.find?_some there
    have of := beq_iff_eq.mp listed
    subst of
    refine ⟨found, List.mem_of_find?_eq_some here, beq_iff_eq.mp named, under, List.mem_of_find?_eq_some there, _, ‹_›, ?_, require_ok.mp applies⟩
    rw [demand_ok.mp its, require_ok.mp wanted]
  · cases live

theorem unit_locked {unit : Id} (checked : checkAnswers reads answers rows = .ok ⟨⟩) (listed : answer ∈ answers) (named : answer.unit = some unit) :
    lockUnit rows answers unit = .ok ⟨⟩ := by
  obtain ⟨_, -, checked⟩ := bind_ok.mp checked
  obtain ⟨_, -, locked⟩ := bind_ok.mp checked
  exact forM_ok locked unit (List.mem_eraseDups.mpr (List.mem_filterMap.mpr ⟨answer, listed, named⟩))

theorem spanned_of_checked {orgUnit : Id} (checked : checkAnswers reads answers rows = .ok ⟨⟩) (listed : answer ∈ answers)
    (named : answer.orgUnit = some orgUnit) : orgUnit ∈ (entitiesSpanned reads answer.obligation).map (·.id) := by
  obtain ⟨_, -, checked⟩ := bind_ok.mp checked
  obtain ⟨_, spanned, -⟩ := bind_ok.mp checked
  exact require_ok.mp spanned answer listed orgUnit named

def Apart (first second : Answer) : Prop :=
  first.target ≠ second.target ∧ ∀ unit, first.unit = some unit → second.unit ≠ some unit

theorem apart_of_unitsOnce (targets : (answers.map Answer.target).Nodup) (once : UnitsOnce answers) : answers.Pairwise Apart := by
  refine List.Pairwise.and (List.pairwise_map.mp targets) ((List.pairwise_filterMap.mp once).imp fun apart unit first second => ?_)
  exact apart unit first unit second rfl

theorem same_of_unit {other : Answer} {unit : Id} (once : UnitsOnce answers) (listed : answer ∈ answers) (also : other ∈ answers)
    (named : answer.unit = some unit) (its : other.unit = some unit) : answer = other := by
  by_contra differ
  have pairs := List.pairwise_filterMap.mp once
  have : Std.Symm fun first second : Answer => ∀ a, first.unit = some a → ∀ b, second.unit = some b → a ≠ b :=
    ⟨fun _ _ apart a first b second same => apart b second a first same.symm⟩
  exact pairs.forall listed also differ unit named unit its rfl

theorem wantedUnder_eq {unit : Id} (once : UnitsOnce answers) (listed : answer ∈ answers) (named : answer.unit = some unit) :
    wantedUnder answers unit = some answer.obligation := by
  have there : answer ∈ answers.filter (·.unit == some unit) := List.mem_filter.mpr ⟨listed, beq_iff_eq.mpr named⟩
  unfold wantedUnder
  obtain ⟨last, found⟩ := Option.isSome_iff_exists.mp (List.getLast?_isSome.mpr (List.ne_nil_of_mem there))
  obtain ⟨also, its⟩ := List.mem_filter.mp (List.mem_of_getLast? found)
  rw [found, same_of_unit once listed also named (beq_iff_eq.mp its), Option.map_some]

/-! ## Each answer on a row of its own -/

/-- Where an answer's row is, by the target the answer names. -/
inductive At (rows : List Row) (answer : Answer) (row : Row) : Prop
  | unit (unit : Id) (named : answer.unit = some unit) (its : row.id = unit)
  | scope (entry : Row) (orgUnit : Id) (noUnit : answer.unit = none) (named : answer.orgUnit = some orgUnit) (listed : entry ∈ rows)
      (on : entry.place = .entry answer.obligation) (place : row.place = .scope entry.id orgUnit none)
  | entry (noUnit : answer.unit = none) (whole : answer.orgUnit = none) (place : row.place = .entry answer.obligation)

theorem rowFor_at (found : rowFor rows answer = some row) : At rows answer row := by
  unfold rowFor at found
  split at found
  next _ _ unit named =>
    have its := List.find?_some found
    exact .unit unit named (beq_iff_eq.mp its)
  next _ _ orgUnit noUnit named =>
    obtain ⟨entry, on, found⟩ := Option.bind_eq_some_iff.mp found
    exact .scope entry orgUnit noUnit named (entryOn_some on).1 (entryOn_some on).2 (scopeOn_some found).2
  next _ _ noUnit whole => exact .entry noUnit whole (entryOn_some found).2

theorem unit_place {created : Keyed Row.id} {new : List Row} {unit : Id} (grown : created.rows = rows ++ new)
    (checked : checkAnswers reads answers rows = .ok ⟨⟩) (listed : answer ∈ answers) (named : answer.unit = some unit)
    (there : row ∈ created.rows) (its : row.id = unit) :
    ∃ scope ∈ rows, ∃ reference, row.place = .unit scope.id reference true ∧ obligationOf rows scope = wantedUnder answers unit ∧
      scope.applicability = .applies := by
  obtain ⟨held, before, same, scope, under, reference, place, obligation, applies⟩ := lockUnit_ok (unit_locked checked listed named)
  have kept : held ∈ created.rows := grown ▸ List.mem_append_left _ before
  obtain rfl := created.eq_of_key kept there (same.trans its.symm)
  exact ⟨scope, under, reference, place, obligation, applies⟩

theorem rows_apart {created : Keyed Row.id} {new : List Row} (grown : created.rows = rows ++ new)
    (checked : checkAnswers reads answers rows = .ok ⟨⟩) {first second : Answer} (listed : first ∈ answers) (also : second ∈ answers)
    {here there : Row} (found : rowFor created.rows first = some here) (its : rowFor created.rows second = some there)
    (apart : Apart first second) : here.id ≠ there.id := by
  intro same
  obtain rfl := created.eq_of_key (rowFor_mem found) (rowFor_mem its) same
  -- the row of a unit is of neither other kind
  have ofUnit : ∀ answer ∈ answers, ∀ unit, answer.unit = some unit → here.id = unit → here.place.kind = .soaUnit := by
    intro answer listed unit named its
    obtain ⟨_, -, _, place, -⟩ := unit_place grown checked listed named (rowFor_mem found) its
    rw [place]
    rfl
  cases rowFor_at found with
  | unit unit named its' =>
    have kind := ofUnit first listed unit named its'
    cases rowFor_at its with
    | unit other named' its'' => exact apart.2 unit named (named'.trans (congrArg some (its''.symm.trans its')))
    | scope _ _ _ _ _ _ place | entry _ _ place => cases place ▸ kind
  | scope entry orgUnit noUnit named inside on place =>
    cases rowFor_at its with
    | unit other named' its'' => cases place ▸ ofUnit second also other named' its''
    | scope entry' orgUnit' noUnit' named' inside' on' place' =>
      obtain ⟨sameEntry, rfl, -⟩ := Place.scope.inj (place.symm.trans place')
      obtain rfl := created.eq_of_key inside inside' sameEntry
      refine apart.1 ?_
      rw [Answer.target, Answer.target, Place.entry.inj (on.symm.trans on'), named, named', noUnit, noUnit']
    | entry _ _ place' => cases place.symm.trans place'
  | entry noUnit whole place =>
    cases rowFor_at its with
    | unit other named' its'' => cases place ▸ ofUnit second also other named' its''
    | scope _ _ _ _ _ _ place' => cases place.symm.trans place'
    | entry noUnit' whole' place' =>
      refine apart.1 ?_
      rw [Answer.target, Answer.target, Place.entry.inj (place.symm.trans place'), whole, whole', noUnit, noUnit']

/-! ## The rows once written -/

theorem updateRows_eq {created : Keyed Row.id} {now : Instant} {landings : List (Answer × Id)} {ids : List Id}
    (named : landings.map (·.2) = ids) (once : ids.Nodup) :
    (updateRows person now ((created.rows.map (Row.afterAll person now landings)).filter fun row => row.id ∈ ids) created).rows =
      created.rows.map (Row.afterAll person now landings) := by
  subst named
  refine Keyed.updateGroups_rows.trans (List.map_congr_left fun row there => ?_)
  have settled := afterAll_settled person now landings
  by_cases landed : row.id ∈ landings.map (·.2)
  · obtain ⟨⟨answer, _⟩, listed, rfl⟩ := List.mem_map.mp landed
    have its := @afterAll_once answer row person now landings once listed
    have written : row.afterAll person now landings ∈
        (created.rows.map (Row.afterAll person now landings)).filter fun row => row.id ∈ landings.map (·.2) := by
      refine List.mem_filter.mpr ⟨List.mem_map_of_mem there, decide_eq_true ?_⟩
      rw [settled.id]
      exact landed
    have stamped : ∀ given (row : Row), (row.stamped person now given).id = row.id := fun _ _ => rfl
    refine (updatedBy_grouped stamped ?_ written (settled.id row)).trans ?_
    -- rows of one id are one row, so they are of one group
    · intro first here second also same
      obtain ⟨old, kept, rfl⟩ := List.mem_map.mp (List.mem_of_mem_filter here)
      obtain ⟨other, held, rfl⟩ := List.mem_map.mp (List.mem_of_mem_filter also)
      rw [settled.id, settled.id] at same
      rw [created.eq_of_key kept held same]
    · rw [its]
      rfl
  · rw [afterAll_none landed, updatedBy_ungrouped]
    intro each listed same
    have wrote := of_decide_eq_true (List.mem_filter.mp listed).2
    exact landed (same ▸ wrote)

theorem landed_of_steps {stored : List Stored} {created : Keyed Row.id} {new : List Row} {gathered : Gathered}
    (steps : Steps reads actor answers tables after stored person created new gathered) (once : UnitsOnce answers) :
    ∃ landed, Landed reads person tables.rows.rows after.rows.rows answers stored landed := by
  obtain ⟨found, rowsFor⟩ := rowsFor_of_done steps.written
  have apart : (found.map (·.id)).Nodup := by
    refine List.pairwise_map.mpr (pairwise_of_forall₂ rowsFor (apart_of_unitsOnce steps.targets once) ?_)
    intro first listed second also here there its theirs
    exact rows_apart steps.after_created steps.checked listed also its theirs
  obtain ⟨memory, written, stores⟩ := gathered_eq steps.written rowsFor apart
  have ids : (answers.zip (found.map (·.id))).map (·.2) = found.map (·.id) := List.map_snd_zip (by simp [rowsFor.length_eq])
  have afterwards : after.rows.rows = created.rows.map (Row.afterAll person reads.now (answers.zip (found.map (·.id)))) := by
    rw [steps.updated, memory, written, List.nil_append]
    exact updateRows_eq ids apart
  generalize landings : answers.zip (found.map (·.id)) = pairs at memory afterwards ids
  have settled := afterAll_settled person reads.now pairs
  have within_ : ∀ row ∈ found, row ∈ created.rows := by
    intro row listed
    obtain ⟨answer, pair⟩ := fellow_of_right rowsFor.length_eq listed
    exact rowFor_mem (List.forall₂_zip rowsFor pair)
  -- what each answer's row is once written
  have each : ∀ {answer row}, (answer, row) ∈ answers.zip found → row.afterAll person reads.now pairs = row.answered person reads.now answer := by
    intro answer row pair
    refine afterAll_once (ids ▸ apart) (landings ▸ ?_)
    rw [List.zip_map_right]
    exact List.mem_map.mpr ⟨(answer, row), pair, rfl⟩
  have changed : (found.map (Row.afterAll person reads.now pairs)).map (·.id) = found.map (·.id) := by
    rw [List.map_map]
    exact List.map_congr_left fun row _ => settled.id row
  refine ⟨found.map (Row.afterAll person reads.now pairs), ?_, ?_, ?_, ?_, ?_, ?_⟩
  · refine List.forall₂_map_right_iff.mpr (List.forall₂_iff_zip.mpr ⟨rowsFor.length_eq, fun {answer row} pair => ?_⟩)
    have listed := (List.of_mem_zip pair).1
    have its := List.forall₂_zip rowsFor pair
    refine ⟨afterwards ▸ List.mem_map_of_mem (rowFor_mem its), ?_⟩
    rw [settled.id, settled.place]
    cases rowFor_at its with
    | unit unit named is =>
      obtain ⟨scope, under, reference, place, obligation, applies⟩ := unit_place steps.after_created steps.checked listed named (rowFor_mem its) is
      rw [named]
      exact ⟨is, scope, under, reference, place, obligation.trans (wantedUnder_eq once listed named), applies⟩
    | scope entry orgUnit noUnit named inside on place =>
      rw [noUnit, named]
      refine ⟨entry.afterAll person reads.now pairs, afterwards ▸ List.mem_map_of_mem inside, (settled.place entry).trans on, ?_,
        spanned_of_checked steps.checked listed named⟩
      rw [settled.id, place]
    | entry noUnit whole place =>
      rw [noUnit, whole]
      exact place
  · rw [changed]
    exact apart
  · refine List.forall₂_map_right_iff.mpr (List.forall₂_iff_zip.mpr ⟨rowsFor.length_eq, fun {answer row} pair => ?_⟩)
    rw [each pair]
    exact ⟨rfl, rfl, rfl, rfl⟩
  · intro row listed
    obtain ⟨old, there, rfl⟩ := List.mem_map.mp listed
    obtain ⟨answer, pair⟩ := fellow_of_right rowsFor.length_eq there
    rw [each pair]
    have kept := steps.after_created ▸ within_ old there
    constructor
    · intro before listed same
      have inside : before ∈ created.rows := steps.after_created ▸ List.mem_append_left _ listed
      obtain rfl := created.eq_of_key inside (within_ old there) same
      exact ⟨rfl, rfl⟩
    · intro none_
      rcases List.mem_append.mp kept with before | new
      · exact absurd rfl (none_ old before)
      · exact congrArg (· + 1) (steps.made old new).version
  · rw [steps.returned, stores, List.nil_append, List.zip_map_right, List.map_map]
    refine List.map_congr_left fun pair listed => ?_
    have its := @each pair.1 pair.2 listed
    change _ = pair.1.stored person reads.now (pair.2.afterAll person reads.now pairs).version
    rw [its]
    rfl
  · intro old listed none_
    rw [changed] at none_
    have same := @afterAll_none old person reads.now pairs (ids ▸ none_)
    exact afterwards ▸ List.mem_map.mpr ⟨old, steps.after_created ▸ List.mem_append_left _ listed, same⟩

theorem Landed.unitsOnce {stored : List Stored} {before later landed : List Row}
    (its : Landed reads person before later answers stored landed) : UnitsOnce answers := by
  refine List.pairwise_filterMap.mpr (pairwise_of_forall₂ its.lands.flip (List.pairwise_map.mp its.once) ?_)
  intro row _ other _ first second lands also apart unit named unit' named' same
  have here := lands.2
  have there := also.2
  rw [named] at here
  rw [named'] at there
  exact apart (here.1.trans (same.trans there.1.symm))

/-- A refused body leaves everything as it was. An accepted one answers each of its rows once, exactly where no unit is named
twice: a unit named under two obligations is checked under the last of them alone. -/
theorem answeredEach_iff (reads : Reads) (actor : Actor) (answers : List Answer) (tables : Tables) :
    (∀ refusal after, (setApplicabilityMany reads actor answers).execute tables = (.error refusal, after) → after = tables) ∧
      ∀ stored after, (setApplicabilityMany reads actor answers).execute tables = (.ok stored, after) →
        (AnsweredEach reads actor tables after answers stored ↔ UnitsOnce answers) := by
  refine ⟨fun refusal after refused => Tx.atomic_error refused, fun stored after done => ⟨?_, fun once => ?_⟩⟩
  · rintro ⟨_, -, _, landed⟩
    exact landed.unitsOnce
  · obtain ⟨person, _, _, _, steps⟩ := setApplicabilityMany_ok done
    exact ⟨person, steps.bySomeone, landed_of_steps steps once⟩

/-- A bank with two obligations, the second conformed to by its one legal entity with a unit. -/
def twoObligations : Reads where
  tenant := 1
  headings := [(10, { referenceLabel := "Art. 1", instrumentShortName := "DORA" }), (20, { referenceLabel := "A.5", instrumentShortName := "ISO 27001" })]
  entities := [{ id := 7, name := "Bank AB" }]
  bulkMax := 200
  now := 1000

def conformance : Tables where
  rows := {
    rows := [
      { id := 1, place := .entry 10, version := 3 },
      { id := 2, place := .entry 20, version := 1 },
      { id := 3, place := .scope 2 7 none, applicability := .applies, version := 1 },
      { id := 4, place := .unit 3 "A.5.1" true, version := 1 }]
    keyed := by decide }

def reader : Actor := { kind := .user, id := some 9, label := "Ada" }

def crossed : List Answer := [
  { obligation := 10, unit := some 4, applicability := .applies, reason := "Ours." },
  { obligation := 20, unit := some 4, applicability := .notApplicable, reason := "Not ours." }]

theorem crossed_answeredTwice : ∃ stored after, (setApplicabilityMany twoObligations reader crossed).execute conformance = (.ok stored, after) ∧
    ¬AnsweredEach twoObligations reader conformance after crossed stored := by
  have accepted : ((setApplicabilityMany twoObligations reader crossed).execute conformance).1.toOption.isSome = true := by decide +kernel
  obtain ⟨stored, its⟩ := Option.isSome_iff_exists.mp accepted
  refine ⟨stored, _, Prod.ext (toOption_eq_some_iff.mp its) rfl, ?_⟩
  rintro ⟨_, -, _, landed⟩
  exact absurd landed.unitsOnce (by decide)

def apartAnswers : List Answer := [
  { obligation := 10, applicability := .underAssessment, reason := "" },
  { obligation := 10, orgUnit := some 7, applicability := .applies, reason := "Licensed." },
  { obligation := 20, unit := some 4, applicability := .notApplicable, reason := "Not ours." }]

theorem apartAnswers_answered : ∃ stored after, (setApplicabilityMany twoObligations reader apartAnswers).execute conformance = (.ok stored, after) ∧
    AnsweredEach twoObligations reader conformance after apartAnswers stored := by
  have accepted : ((setApplicabilityMany twoObligations reader apartAnswers).execute conformance).1.toOption.isSome = true := by decide +kernel
  obtain ⟨stored, its⟩ := Option.isSome_iff_exists.mp accepted
  have done : (setApplicabilityMany twoObligations reader apartAnswers).execute conformance = (.ok stored, _) :=
    Prod.ext (toOption_eq_some_iff.mp its) rfl
  exact ⟨stored, _, done, ((answeredEach_iff twoObligations reader apartAnswers conformance).2 stored _ done).mpr (by decide)⟩

end Grc.Register.Many
