import Grc.Shared.Zones

/-! What a transaction commits through the audit door: every change with its pair, exactly where the program keeps apart what Python holds and what the
database may undo. -/
namespace Grc.Shared

open Grc.Lib

variable {held outer later : OpenTransaction} {rows pending : List PendingRecord} {runs : List (List PendingRecord)} {zone : Zone}
  {block first second body : AuditBlock} {ended : AuditEnded}

def PendingRecord.pair (row : PendingRecord) : AuditPair := { call := row.call, zone := row.call.tenant }

namespace OpenTransaction

theorem insertBoth_taken (working : held.aborted = false) (taken : rows.all (fun row => row.storable && row.call.tenant == held.zone) = true) :
    insertBoth rows held = { state := { held with pairs := held.pairs ++ rows.map (·.pair) } } := by
  have same : (rows.map fun row => ({ call := row.call, zone := held.zone } : AuditPair)) = rows.map (·.pair) := by
    refine List.map_congr_left fun row there => ?_
    have zone := (Bool.and_eq_true_iff.mp (List.all_eq_true.mp taken row there)).2
    rw [PendingRecord.pair, beq_iff_eq.mp zone]
  rw [insertBoth, if_neg (by rw [working]; decide), if_pos taken, same]

theorem insertBoth_refused (working : held.aborted = false)
    (refused : ¬rows.all (fun row => row.storable && row.call.tenant == held.zone) = true) :
    insertBoth rows held = { raised := some .fault, state := { held with aborted := true } } := by
  rw [insertBoth, if_neg (by rw [working]; decide), if_neg refused]

theorem writeRun_accepted (working : held.aborted = false) (taken : accepts held.zone rows = true) :
    writeRun rows held = { state := { held with pairs := held.pairs ++ rows.map (·.pair) } } := by
  unfold writeRun
  unfold accepts at taken
  split
  · rename_i crossing
    simp only [if_pos crossing] at taken
    rw [@insertBoth_taken { held with zone := none } _ working taken]
  · rename_i own
    simp only [if_neg own] at taken
    exact insertBoth_taken working taken

theorem writeRun_refused (working : held.aborted = false) (refused : ¬accepts held.zone rows = true) :
    ∃ aborted, writeRun rows held = { raised := some .fault, state := { held with aborted } } := by
  unfold writeRun
  unfold accepts at refused
  split
  · rename_i crossing
    simp only [if_pos crossing] at refused
    rw [@insertBoth_refused { held with zone := none } _ working refused]
    exact ⟨held.aborted, rfl⟩
  · rename_i own
    simp only [if_neg own] at refused
    exact ⟨true, insertBoth_refused working refused⟩

theorem writeRun_aborted (aborted : held.aborted = true) : writeRun rows held = { raised := some .fault, state := held } := by
  have raises : ∀ each : OpenTransaction, each.aborted = true → insertBoth rows each = { raised := some .fault, state := each } :=
    fun each its => by rw [insertBoth, if_pos its]
  unfold writeRun
  split
  · rw [raises { held with zone := none } aborted]
  · exact raises held aborted

/-- What a write leaves: the rows of the runs before the first refused one. -/
structure Wrote (held : OpenTransaction) (calls : List RecordCall) (ended : AuditEnded) : Prop where
  left : ∃ aborted more, ended.state = { held with pairs := held.pairs ++ more, aborted } ∧ more.map (·.call) = calls ∧
    ∀ pair ∈ more, pair.zone = pair.call.tenant
  aborted : held.aborted = true → ended.state.aborted = true

theorem writeRuns_wrote (runs : List (List PendingRecord)) (held : OpenTransaction) (working : held.aborted = false) :
    Wrote held (accepted held.zone runs) (writeRuns runs held) := by
  have never : ∀ {state : OpenTransaction}, held.aborted = true → state.aborted = true := fun aborted => by rw [working] at aborted; cases aborted
  induction runs generalizing held with
  | nil => exact ⟨⟨held.aborted, [], by rw [writeRuns, List.append_nil], rfl, fun _ there => absurd there List.not_mem_nil⟩, never⟩
  | cons rows rest ih =>
    rw [writeRuns, accepted]
    by_cases taken : accepts held.zone rows = true
    · rw [if_pos taken, writeRun_accepted working taken]
      have after := ih { held with pairs := held.pairs ++ rows.map (·.pair) } working never
      obtain ⟨aborted, more, left, calls, zones⟩ := after.left
      refine ⟨⟨aborted, rows.map (·.pair) ++ more, ?_, ?_, ?_⟩, never⟩
      · refine left.trans ?_
        rw [List.append_assoc]
      · rw [List.map_append, calls, List.map_map]
        rfl
      · intro pair there
        rcases List.mem_append.mp there with here | later
        · obtain ⟨row, -, rfl⟩ := List.mem_map.mp here
          rfl
        · exact zones pair later
    · rw [if_neg taken]
      obtain ⟨aborted, refused⟩ := writeRun_refused working taken
      rw [refused]
      refine ⟨⟨aborted, [], ?_, rfl, fun _ there => absurd there List.not_mem_nil⟩, never⟩
      simp only [Ended.next, List.append_nil]

theorem writeRuns_aborted (runs : List (List PendingRecord)) (aborted : held.aborted = true) : (writeRuns runs held).state = held := by
  cases runs with
  | nil => rfl
  | cons rows rest =>
    rw [writeRuns, writeRun_aborted aborted]
    rfl

theorem write_adds (pending : List PendingRecord) (held : OpenTransaction) :
    ∃ calls, Wrote held calls (write pending held) ∧ ∀ call ∈ calls, ∃ row ∈ pending, row.call = call := by
  cases aborted : held.aborted with
  | true =>
    refine ⟨[], ⟨⟨held.aborted, [], ?_, rfl, fun _ there => absurd there List.not_mem_nil⟩, fun _ => ?_⟩, fun _ there => absurd there List.not_mem_nil⟩
    · rw [write, writeRuns_aborted _ aborted, List.append_nil]
    · rw [write, writeRuns_aborted _ aborted, aborted]
  | false =>
    refine ⟨_, writeRuns_wrote (inRuns held.zone pending) held aborted, ?_⟩
    have within : ∀ runs : List (List PendingRecord), ∀ call ∈ accepted held.zone runs, ∃ row ∈ runs.flatten, row.call = call := by
      intro runs
      induction runs with
      | nil => exact fun _ there => absurd there List.not_mem_nil
      | cons rows rest ih =>
        intro call there
        rw [accepted] at there
        split at there
        · rw [List.flatten_cons]
          rcases List.mem_append.mp there with here | later
          · obtain ⟨row, member, rfl⟩ := List.mem_map.mp here
            exact ⟨row, List.mem_append_left _ member, rfl⟩
          · obtain ⟨row, member, same⟩ := ih call later
            exact ⟨row, List.mem_append_right _ member, same⟩
        · cases there
    have flat : (inRuns held.zone pending).flatten = pending := List.flatten_splitBy _ _
    have listed := within (inRuns held.zone pending)
    rw [flat] at listed
    exact listed

/-- What a program adds, under numbers drawn in it: to the changes, to the pairs and to an open list; and an aborted transaction stays so. -/
structure Grows (held later : OpenTransaction) : Prop where
  next : held.next ≤ later.next
  changes : ∃ more, later.changes = held.changes ++ more ∧ ∀ call ∈ more, held.next ≤ call.number ∧ call.number < later.next
  pairs : ∃ more, later.pairs = held.pairs ++ more ∧ (∀ pair ∈ more, held.next ≤ pair.call.number ∧ pair.call.number < later.next) ∧
    ∀ pair ∈ more, pair.zone = pair.call.tenant
  batch : ∃ more, later.batch.getD [] = held.batch.getD [] ++ more ∧ ∀ row ∈ more, held.next ≤ row.call.number ∧ row.call.number < later.next
  aborted : held.aborted = true → later.aborted = true

namespace Grows

variable {third : OpenTransaction}

theorem still (next : held.next ≤ later.next) (changes : later.changes = held.changes) (pairs : later.pairs = held.pairs)
    (batch : later.batch.getD [] = held.batch.getD []) (aborted : held.aborted = true → later.aborted = true) : Grows held later :=
  ⟨next, ⟨[], by rw [changes, List.append_nil], fun _ there => absurd there List.not_mem_nil⟩,
    ⟨[], by rw [pairs, List.append_nil], fun _ there => absurd there List.not_mem_nil, fun _ there => absurd there List.not_mem_nil⟩,
    ⟨[], by rw [batch, List.append_nil], fun _ there => absurd there List.not_mem_nil⟩, aborted⟩

theorem refl (held : OpenTransaction) : Grows held held := .still (le_refl _) rfl rfl rfl id

theorem trans (one : Grows held later) (two : Grows later third) : Grows held third := by
  have low : ∀ {number : Nat}, held.next ≤ number ∧ number < later.next → held.next ≤ number ∧ number < third.next :=
    fun drawn => ⟨drawn.1, Nat.lt_of_lt_of_le drawn.2 two.next⟩
  have high : ∀ {number : Nat}, later.next ≤ number ∧ number < third.next → held.next ≤ number ∧ number < third.next :=
    fun drawn => ⟨Nat.le_trans one.next drawn.1, drawn.2⟩
  obtain ⟨changes, madeFirst, firstNumbers⟩ := one.changes
  obtain ⟨moreChanges, madeThen, thenNumbers⟩ := two.changes
  obtain ⟨pairs, wroteFirst, firstPairs, firstZones⟩ := one.pairs
  obtain ⟨morePairs, wroteThen, thenPairs, thenZones⟩ := two.pairs
  obtain ⟨batch, heldFirst, firstRows⟩ := one.batch
  obtain ⟨moreBatch, heldThen, thenRows⟩ := two.batch
  refine ⟨Nat.le_trans one.next two.next, ⟨changes ++ moreChanges, ?_, ?_⟩, ⟨pairs ++ morePairs, ?_, ?_, ?_⟩, ⟨batch ++ moreBatch, ?_, ?_⟩,
    two.aborted ∘ one.aborted⟩
  · rw [madeThen, madeFirst, List.append_assoc]
  · exact List.forall_mem_append.mpr ⟨fun call there => low (firstNumbers call there), fun call there => high (thenNumbers call there)⟩
  · rw [wroteThen, wroteFirst, List.append_assoc]
  · exact List.forall_mem_append.mpr ⟨fun pair there => low (firstPairs pair there), fun pair there => high (thenPairs pair there)⟩
  · exact List.forall_mem_append.mpr ⟨firstZones, thenZones⟩
  · rw [heldThen, heldFirst, List.append_assoc]
  · exact List.forall_mem_append.mpr ⟨fun row there => low (firstRows row there), fun row there => high (thenRows row there)⟩

theorem write {pending : List PendingRecord} (before : Grows held later) (closed : later.batch.getD [] = held.batch.getD [])
    (drawn : ∀ row ∈ pending, held.next ≤ row.call.number ∧ row.call.number < later.next) :
    Grows held (OpenTransaction.write pending later).state := by
  obtain ⟨calls, wrote, listed⟩ := write_adds pending later
  obtain ⟨aborted, more, left, same, zones⟩ := wrote.left
  obtain ⟨pairs, written, numbers, own⟩ := before.pairs
  have stays := wrote.aborted
  rw [left] at stays ⊢
  refine ⟨before.next, before.changes, ⟨pairs ++ more, ?_, ?_, ?_⟩, ⟨[], ?_, fun _ there => absurd there List.not_mem_nil⟩,
    fun was => stays (before.aborted was)⟩
  · simp only [written, List.append_assoc]
  · refine List.forall_mem_append.mpr ⟨numbers, fun pair there => ?_⟩
    obtain ⟨row, member, its⟩ := listed pair.call (same ▸ List.mem_map_of_mem there)
    rw [← its]
    exact drawn row member
  · exact List.forall_mem_append.mpr ⟨own, zones⟩
  · rw [List.append_nil]
    exact closed

end Grows

variable {tenant : Option Id} {storable : Bool}

theorem recordBeside_grows : Grows held (recordBeside tenant storable held).state := by
  unfold recordBeside
  split
  · exact .refl held
  · have number : held.next ≤ held.next ∧ held.next < held.next + 1 := ⟨le_refl _, Nat.lt_succ_self _⟩
    split
    · rename_i pending opened
      refine ⟨Nat.le_succ _, ⟨_, rfl, ?_⟩, ⟨[], (List.append_nil _).symm, fun _ there => absurd there List.not_mem_nil,
        fun _ there => absurd there List.not_mem_nil⟩, ⟨[{ call := { number := held.next, tenant }, storable }], ?_, ?_⟩, id⟩
      · intro call there
        rw [List.mem_singleton.mp there]
        exact number
      · rw [opened]
        rfl
      · intro row there
        rw [List.mem_singleton.mp there]
        exact number
    · rename_i closed
      refine Grows.write ⟨Nat.le_succ _, ⟨_, rfl, ?_⟩, ⟨[], (List.append_nil _).symm, fun _ there => absurd there List.not_mem_nil,
        fun _ there => absurd there List.not_mem_nil⟩, ⟨[], (List.append_nil _).symm, fun _ there => absurd there List.not_mem_nil⟩, id⟩ rfl ?_
      · intro call there
        rw [List.mem_singleton.mp there]
        exact number
      · intro row there
        rw [List.mem_singleton.mp there]
        exact number

theorem auditRun_grows (block : AuditBlock) (held : OpenTransaction) : Grows held (auditRun block held).state := by
  refine Block.exec_rel Grows.refl Grows.trans ?_ ?_ ?_ block held
  · intro act held
    cases act with
    | record tenant storable => exact recordBeside_grows
    | refused => exact .still (le_refl _) rfl rfl rfl fun _ => rfl
  · intro frame held
    cases frame with
    | batched =>
      simp only [auditMeaning]
      split
      · exact .refl held
      · rename_i closed
        refine .still (le_refl _) rfl rfl ?_ id
        rw [Option.not_isSome_iff_eq_none.mp closed]
        rfl
    | savepoint =>
      simp only [auditMeaning]
      split <;> exact .refl held
    | platformZone =>
      simp only [auditMeaning]
      split
      · exact .refl held
      · exact .still (le_refl _) rfl rfl rfl id
  · intro frame outer ended grown
    cases frame with
    | batched =>
      simp only [auditMeaning]
      split
      · exact grown
      · rename_i closed
        have empty : outer.batch.getD [] = [] := by
          rw [Option.not_isSome_iff_eq_none.mp closed]
          rfl
        have shut : Grows outer { ended.state with batch := none } :=
          ⟨grown.next, grown.changes, grown.pairs, ⟨[], by rw [empty]; rfl, fun _ there => absurd there List.not_mem_nil⟩, grown.aborted⟩
        unfold endBatch
        split
        · exact shut
        · refine shut.write empty.symm ?_
          obtain ⟨more, held, numbers⟩ := grown.batch
          rw [held, empty]
          exact numbers
    | savepoint =>
      simp only [auditMeaning]
      split
      · exact ⟨grown.next, ⟨[], (List.append_nil _).symm, fun _ there => absurd there List.not_mem_nil⟩,
          ⟨[], (List.append_nil _).symm, fun _ there => absurd there List.not_mem_nil, fun _ there => absurd there List.not_mem_nil⟩,
          grown.batch, id⟩
      · exact grown
    | platformZone =>
      simp only [auditMeaning]
      split
      · exact grown
      · exact ⟨grown.next, grown.changes, grown.pairs, grown.batch, grown.aborted⟩

theorem auditRun_andThen : auditRun (.andThen first second) held = (auditRun first held).next (auditRun second) := rfl

theorem auditRun_caught {catches : AuditRaised → Bool} : (auditRun (.caught catches body) held).state = (auditRun body held).state :=
  Ended.catching_state _ _

theorem auditRun_joined (opened : held.batch.isSome = true) : auditRun (.within .batched body) held = auditRun body held := by
  have entered : auditMeaning.enter .batched held = { state := held } := by simp only [auditMeaning, if_pos opened]
  exact (Block.exec_within_ok entered).trans (if_pos opened)

theorem auditRun_batched (closed : held.batch = none) :
    auditRun (.within .batched body) held = endBatch (auditRun body { held with batch := some [] }) := by
  have shut : ¬held.batch.isSome = true := by rw [closed]; decide
  have entered : auditMeaning.enter .batched held = { state := { held with batch := some [] } } := by simp only [auditMeaning, if_neg shut]
  exact (Block.exec_within_ok entered).trans (if_neg shut)

theorem auditRun_savepoint (working : held.aborted = false) :
    auditRun (.within .savepoint body) held =
      if (auditRun body held).raised.isSome = true ∨ (auditRun body held).state.aborted = true then
        { raised := some ((auditRun body held).raised.getD .fault), state := rollBack held (auditRun body held).state }
      else auditRun body held := by
  have entered : auditMeaning.enter .savepoint held = { state := held } := if_neg (by rw [working]; decide)
  exact Block.exec_within_ok entered

theorem auditRun_platformZone (working : held.aborted = false) :
    auditRun (.within .platformZone body) held =
      if (auditRun body { held with zone := none }).state.aborted = true then
        { raised := some .fault, state := (auditRun body { held with zone := none }).state }
      else { auditRun body { held with zone := none } with state := { (auditRun body { held with zone := none }).state with zone := held.zone } } := by
  have entered : auditMeaning.enter .platformZone held = { state := { held with zone := none } } := if_neg (by rw [working]; decide)
  exact Block.exec_within_ok entered

theorem auditRun_aborted {frame : AuditFrame} (sends : frame ≠ .batched) (aborted : held.aborted = true) :
    auditRun (.within frame body) held = { raised := some .fault, state := held } := by
  have entered : auditMeaning.enter frame held = { raised := some .fault, state := held } := by
    cases frame with
    | batched => exact absurd rfl sends
    | savepoint | platformZone => exact if_pos aborted
  rw [auditRun, Block.exec, entered]
  rfl

theorem recordBeside_batch : (recordBeside tenant storable held).state.batch.isSome = held.batch.isSome := by
  unfold recordBeside
  split
  · rfl
  · split
    · rename_i pending opened
      rw [opened]
      rfl
    · obtain ⟨calls, wrote, -⟩ := write_adds [{ call := { number := held.next, tenant }, storable }]
        { held with changes := held.changes ++ [{ number := held.next, tenant }], next := held.next + 1 }
      obtain ⟨aborted, more, left, -, -⟩ := wrote.left
      rw [left]

theorem endBatch_batch : (endBatch ended).state.batch = none := by
  unfold endBatch
  split
  · rfl
  · obtain ⟨calls, wrote, -⟩ := write_adds (ended.state.batch.getD []) { ended.state with batch := none }
    obtain ⟨aborted, more, left, -, -⟩ := wrote.left
    rw [left]

theorem auditRun_batch (block : AuditBlock) (held : OpenTransaction) : (auditRun block held).state.batch.isSome = held.batch.isSome := by
  induction block generalizing held with
  | act act =>
    cases act with
    | refused => rfl
    | record tenant storable => exact recordBeside_batch
  | raises _ | done => rfl
  | andThen first second one two =>
    rw [auditRun_andThen, Ended.next]
    split
    · exact (two _).trans (one held)
    · exact one held
  | caught catches body ih =>
    rw [auditRun_caught]
    exact ih held
  | within frame body ih =>
    cases frame with
    | batched =>
      cases opened : held.batch with
      | some pending =>
        rw [auditRun_joined (by rw [opened]; rfl), ih, opened]
      | none =>
        rw [auditRun_batched opened, endBatch_batch]
    | savepoint =>
      cases working : held.aborted with
      | true => rw [auditRun_aborted (by decide) working]
      | false =>
        rw [auditRun_savepoint working]
        split
        · exact ih held
        · exact ih held
    | platformZone =>
      cases working : held.aborted with
      | true => rw [auditRun_aborted (by decide) working]
      | false =>
        rw [auditRun_platformZone working]
        split
        · exact ih { held with zone := none }
        · exact ih { held with zone := none }

theorem auditRun_open (block : AuditBlock) (held : OpenTransaction) (opened : held.batch.isSome = true) :
    (auditRun block held).state.pairs = held.pairs := by
  induction block generalizing held with
  | act act =>
    cases act with
    | refused => rfl
    | record tenant storable =>
      obtain ⟨pending, its⟩ := Option.isSome_iff_exists.mp opened
      simp only [auditRun, Block.exec, auditMeaning, recordBeside, its]
      split <;> rfl
  | raises _ | done => rfl
  | andThen first second one two =>
    rw [auditRun_andThen, Ended.next]
    split
    · exact (two _ ((auditRun_batch first held).trans opened)).trans (one held opened)
    · exact one held opened
  | caught catches body ih =>
    rw [auditRun_caught]
    exact ih held opened
  | within frame body ih =>
    cases frame with
    | batched =>
      rw [auditRun_joined opened]
      exact ih held opened
    | savepoint =>
      cases working : held.aborted with
      | true => rw [auditRun_aborted (by decide) working]
      | false =>
        rw [auditRun_savepoint working]
        split
        · rfl
        · exact ih held opened
    | platformZone =>
      cases working : held.aborted with
      | true => rw [auditRun_aborted (by decide) working]
      | false =>
        rw [auditRun_platformZone working]
        split
        · exact ih { held with zone := none } opened
        · exact ih { held with zone := none } opened

def Aligned (held later : OpenTransaction) : Prop :=
  ∃ changes pairs, later.changes = held.changes ++ changes ∧ later.pairs = held.pairs ++ pairs ∧ pairs.map (·.call) = changes

theorem aligned_iff {changes : List RecordCall} {pairs : List AuditPair} (made : later.changes = held.changes ++ changes)
    (wrote : later.pairs = held.pairs ++ pairs) : Aligned held later ↔ pairs.map (·.call) = changes := by
  constructor
  · rintro ⟨_, _, same, written, aligned⟩
    rw [List.append_cancel_left (made.symm.trans same), List.append_cancel_left (wrote.symm.trans written)]
    exact aligned
  · intro aligned
    exact ⟨changes, pairs, made, wrote, aligned⟩

theorem Aligned.refl (held : OpenTransaction) : Aligned held held := ⟨[], [], (List.append_nil _).symm, (List.append_nil _).symm, rfl⟩

theorem split_numbers (bound : Nat) {early other : List RecordCall} {late last : List RecordCall}
    (below : ∀ call ∈ early, call.number < bound) (beneath : ∀ call ∈ other, call.number < bound)
    (above : ∀ call ∈ late, bound ≤ call.number) (beyond : ∀ call ∈ last, bound ≤ call.number) :
    early ++ late = other ++ last ↔ early = other ∧ late = last := by
  constructor
  · intro same
    have kept : ∀ {calls : List RecordCall}, (∀ call ∈ calls, call.number < bound) →
        calls.filter (fun call => decide (call.number < bound)) = calls :=
      fun all => List.filter_eq_self.mpr fun call there => decide_eq_true (all call there)
    have gone : ∀ {calls : List RecordCall}, (∀ call ∈ calls, bound ≤ call.number) →
        calls.filter (fun call => decide (call.number < bound)) = [] :=
      fun all => List.filter_eq_nil_iff.mpr fun call there => by simpa using all call there
    have first := congrArg (List.filter fun call => decide (call.number < bound)) same
    rw [List.filter_append, List.filter_append, kept below, kept beneath, gone above, gone beyond, List.append_nil, List.append_nil] at first
    subst first
    exact ⟨rfl, List.append_cancel_left same⟩
  · rintro ⟨rfl, rfl⟩
    rfl

theorem aligned_trans_iff {third : OpenTransaction} (one : Grows held later) (two : Grows later third) :
    Aligned held third ↔ Aligned held later ∧ Aligned later third := by
  obtain ⟨changes, made, numbers⟩ := one.changes
  obtain ⟨moreChanges, madeThen, moreNumbers⟩ := two.changes
  obtain ⟨pairs, wrote, drawn, -⟩ := one.pairs
  obtain ⟨morePairs, wroteThen, moreDrawn, -⟩ := two.pairs
  have whole : third.changes = held.changes ++ (changes ++ moreChanges) := by rw [madeThen, made, List.append_assoc]
  have written : third.pairs = held.pairs ++ (pairs ++ morePairs) := by rw [wroteThen, wrote, List.append_assoc]
  rw [aligned_iff whole written, aligned_iff made wrote, aligned_iff madeThen wroteThen, List.map_append]
  refine split_numbers later.next ?_ (fun call there => (numbers call there).2) ?_ fun call there => (moreNumbers call there).1
  · exact List.forall_mem_map.mpr fun pair there => (drawn pair there).2
  · exact List.forall_mem_map.mpr fun pair there => (moreDrawn pair there).1

theorem next_done : (ended.next (writeRuns [])).state = ended.state := by
  unfold Ended.next
  split <;> rfl

theorem recordBeside_closed (closed : held.batch = none) (working : held.aborted = false) :
    recordBeside tenant storable held =
      (writeRun [{ call := { number := held.next, tenant }, storable }]
        { held with changes := held.changes ++ [{ number := held.next, tenant }], next := held.next + 1 }).next (writeRuns []) := by
  rw [recordBeside, if_neg (by rw [working]; decide)]
  split
  · rename_i pending opened
    rw [closed] at opened
    cases opened
  · rfl

theorem writeRun_aligned_iff {changed : OpenTransaction} {row : PendingRecord} (made : changed.changes = held.changes ++ [row.call])
    (unwritten : changed.pairs = held.pairs) (working : changed.aborted = false) (ends : (writeRun [row] changed).state.aborted = false) :
    Aligned held (writeRun [row] changed).state ↔ (row.call.tenant = none → changed.zone ≠ none → row.storable = true) := by
  by_cases taken : accepts changed.zone [row] = true
  · rw [writeRun_accepted working taken]
    refine iff_of_true ⟨[row.call], [row.pair], made, ?_, rfl⟩ fun _ _ => ?_
    · rw [← unwritten]
      rfl
    · have stored := List.all_eq_true.mp taken row (List.mem_singleton_self _)
      exact (Bool.and_eq_true_iff.mp stored).1
  · by_cases crossing : row.call.tenant = none ∧ changed.zone ≠ none
    · obtain ⟨aborted, refused⟩ := writeRun_refused working taken
      rw [refused]
      refine iff_of_false ?_ fun stored => ?_
      · intro aligned
        have nothing : changed.pairs = held.pairs ++ [] := by rw [List.append_nil, unwritten]
        have same := (@aligned_iff held { changed with aborted } [row.call] [] made nothing).mp aligned
        cases same
      · refine taken ?_
        simp [accepts, crosses, stored crossing.1 crossing.2, crossing.1, Option.isSome_iff_ne_none.mpr crossing.2]
    · have own : ¬[row].any (crosses changed.zone) = true := by
        simpa [crosses, Option.isSome_iff_ne_none] using not_and.mp crossing
      have refused : ¬[row].all (fun row => row.storable && row.call.tenant == changed.zone) = true := by
        rw [accepts, if_neg own] at taken
        exact taken
      rw [writeRun, if_neg own, insertBoth_refused working refused] at ends
      cases ends

theorem recordBeside_aligned_iff (closed : held.batch = none) (working : held.aborted = false)
    (ends : (recordBeside tenant storable held).state.aborted = false) :
    Aligned held (recordBeside tenant storable held).state ↔ (tenant = none → held.zone ≠ none → storable = true) := by
  rw [recordBeside_closed closed working, next_done] at ends ⊢
  exact @writeRun_aligned_iff held _ { call := { number := held.next, tenant }, storable } rfl rfl working ends

theorem endBatch_aligned_iff {changes : List RecordCall} (made : ended.state.changes = held.changes ++ changes)
    (unwritten : ended.state.pairs = held.pairs) (ends : (endBatch ended).state.aborted = false) :
    Aligned held (endBatch ended).state ↔
      match ended.raised with
      | some _ => ended.state.changes = held.changes
      | none => ended.state.changes = held.changes ++ accepted ended.state.zone (inRuns ended.state.zone (ended.state.batch.getD [])) := by
  unfold endBatch at ends ⊢
  cases raised : ended.raised with
  | some error =>
    simp only
    have nothing : ended.state.pairs = held.pairs ++ [] := by rw [List.append_nil, unwritten]
    rw [@aligned_iff held { ended.state with batch := none } changes [] made nothing, made, List.map_nil]
    exact eq_comm.trans List.append_right_eq_self.symm
  | none =>
    simp only [raised] at ends ⊢
    have midway : ended.state.aborted = false := by
      rw [Bool.eq_false_iff]
      intro aborted
      obtain ⟨_, wrote, -⟩ := write_adds (ended.state.batch.getD []) { ended.state with batch := none }
      rw [wrote.aborted aborted] at ends
      cases ends
    have wrote := writeRuns_wrote (inRuns ended.state.zone (ended.state.batch.getD [])) { ended.state with batch := none } midway
    obtain ⟨aborted, more, left, calls, -⟩ := wrote.left
    rw [write, left]
    have written : ended.state.pairs ++ more = held.pairs ++ more := by rw [unwritten]
    rw [@aligned_iff held { ended.state with pairs := ended.state.pairs ++ more, aborted, batch := none } changes more made written, calls, made,
      List.append_cancel_left_eq]
    exact eq_comm

end OpenTransaction

open OpenTransaction

/-- Outside any batch, what a program that ends in a working transaction adds is aligned exactly where it keeps the two apart. -/
theorem aligned_iff_fits (block : AuditBlock) (held : OpenTransaction) (closed : held.batch = none) (working : held.aborted = false)
    (ends : (auditRun block held).state.aborted = false) : Aligned held (auditRun block held).state ↔ Fits block held := by
  induction block generalizing held with
  | act act =>
    cases act with
    | refused => cases ends
    | record tenant storable => exact recordBeside_aligned_iff closed working ends
  | raises _ | done => exact iff_of_true (.refl held) trivial
  | andThen first second one two =>
    rw [Fits]
    rw [auditRun_andThen, Ended.next] at ends ⊢
    cases raised : (auditRun first held).raised with
    | some error =>
      simp only [raised] at ends ⊢
      simp only [reduceCtorEq, false_implies, and_true]
      exact one held closed working ends
    | none =>
      simp only [raised] at ends ⊢
      have midway : (auditRun first held).state.aborted = false := by
        rw [Bool.eq_false_iff]
        intro aborted
        rw [(auditRun_grows second _).aborted aborted] at ends
        cases ends
      have shut : (auditRun first held).state.batch = none := by
        rw [← Option.not_isSome_iff_eq_none, auditRun_batch, closed]
        decide
      refine (aligned_trans_iff (auditRun_grows first held) (auditRun_grows second _)).trans ?_
      rw [forall_prop_of_true trivial]
      exact and_congr (one held closed working midway) (two _ shut midway ends)
  | caught catches body ih =>
    rw [Fits]
    rw [auditRun_caught] at ends ⊢
    exact ih held closed working ends
  | within frame body ih =>
    cases frame with
    | savepoint =>
      rw [Fits]
      rw [auditRun_savepoint working] at ends ⊢
      split
      · rename_i rolled
        refine iff_of_true ⟨[], [], (List.append_nil _).symm, (List.append_nil _).symm, rfl⟩ ?_
        intro fine kept
        rw [fine, kept] at rolled
        rcases rolled with raised | aborted
        · cases raised
        · cases aborted
      · rename_i released
        rw [if_neg released] at ends
        rw [not_or] at released
        have fine : (auditRun body held).raised = none := Option.not_isSome_iff_eq_none.mp released.1
        rw [forall_prop_of_true fine, forall_prop_of_true ends]
        exact ih held closed working ends
    | platformZone =>
      rw [Fits]
      rw [auditRun_platformZone working] at ends ⊢
      split
      · rename_i aborted
        rw [if_pos aborted] at ends
        change (auditRun body { held with zone := none }).state.aborted = false at ends
        rw [ends] at aborted
        cases aborted
      · rename_i well
        rw [if_neg well] at ends
        exact ih { held with zone := none } closed working ends
    | batched =>
      rw [Fits]
      rw [auditRun_batched closed] at ends ⊢
      obtain ⟨changes, made, -⟩ := (auditRun_grows body { held with batch := some [] }).changes
      have unwritten := auditRun_open body { held with batch := some [] } rfl
      exact endBatch_aligned_iff made unwritten ends

/-- A transaction's audit rows and changes stand or fall together exactly when it is rolled back as a whole, or its program keeps apart what Python holds
and what the database may undo. -/
theorem transact_whole_iff (zone : Zone) (block : AuditBlock) :
    (transact zone block).Whole ↔ (Commits (auditRun block { zone }) → Fits block { zone }) := by
  unfold transact
  by_cases commits : Commits (auditRun block { zone })
  · rw [if_pos commits, forall_prop_of_true commits]
    rw [← aligned_iff_fits block { zone } rfl rfl commits.2]
    obtain ⟨pairs, wrote, -, zones⟩ := (auditRun_grows block { zone }).pairs
    rw [List.nil_append] at wrote
    rw [aligned_iff (List.nil_append _).symm (List.nil_append _).symm]
    exact ⟨fun whole => whole.pairs, fun same => ⟨same, by rw [wrote]; exact zones⟩⟩
  · rw [if_neg commits]
    exact iff_of_true ⟨rfl, fun _ there => absurd there List.not_mem_nil⟩ fun does => absurd does commits

/-- A bank re-issues the enrolment of platform staff: the sessions and passkeys are revoked inside `batched()`, and the invitation is refused. -/
def reissueForStaff : AuditBlock :=
  .within .batched (.andThen (.act (.record (some 7) true)) (.raises .validation))

theorem reissueForStaff_unrecorded : ¬∀ zone block, (transact zone block).Whole := by
  intro claim
  have whole := claim (some 7) reissueForStaff
  have committed : transact (some 7) reissueForStaff = { changes := [{ number := 0, tenant := some 7 }], pairs := [] } := by
    decide +kernel
  rw [committed] at whole
  cases whole.pairs

end Grc.Shared
