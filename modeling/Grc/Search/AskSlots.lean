import Grc.Lib.Checks
import Grc.Lib.Runs
import Grc.Shared.Audit
import Mathlib.Algebra.Order.Group.Int
import Mathlib.Data.List.Flatten

/-! A caller's open Ask streams: takes count up and releases count down one counter in the cache, command by command, and the counter may expire
at any moment. Rate limiting is on, as it has to be wherever the service is deployed. -/
namespace Grc.Search.Slots

open Grc.Shared Grc.Lib

/-- Where a call of `ask_stream_slot`, or the release it handed out, stands: the cache command that comes next. -/
inductive Stage where
  /-- `cache.add`. -/
  | asked
  /-- `cache.incr`, which looks whether the counter is there. -/
  | added
  /-- It is, and goes up. -/
  | present
  /-- `ValueError`: `cache.set`. -/
  | absent
  /-- `cache.touch`, and the comparison. -/
  | counted (taken : Int)
  /-- The stream is open. -/
  | open_
  /-- `cache.decr`, which looks whether the counter is there. -/
  | releasing
  /-- It is, and goes down. -/
  | leaving
  /-- `cache.delete`. -/
  | negative
  | done
  deriving DecidableEq

/-- One caller's counter, and the calls in the order they were made. -/
structure Desk where
  counter : Option Int := none
  slots : List Stage := []

inductive Step where
  | ask
  /-- The next cache command of a call. -/
  | go (slot : Nat)
  /-- A release is called, once more or for the first time. -/
  | release (slot : Nat)
  /-- The counter's lifetime ends. -/
  | expire

def notNow : Refusal := { code := "not_now", detail := "" }

/-- What a call's next command makes of the counter, and where the call then stands. -/
def advance (limit : Nat) (counter : Option Int) : Stage → Except Refusal (Option Int × Stage)
  | .asked => .ok (some (counter.getD 0), .added)
  | .added => .ok (counter, if counter.isSome then .present else .absent)
  | .present => .ok (some (counter.getD 0 + 1), .counted (counter.getD 0 + 1))
  | .absent => .ok (some 1, .counted 1)
  | .counted taken => .ok (counter, if limit < taken then .releasing else .open_)
  | .releasing => .ok (counter, if counter.isSome then .leaving else .done)
  | .leaving => .ok (some (counter.getD 0 - 1), if counter.getD 0 - 1 < 0 then .negative else .done)
  | .negative => .ok (none, .done)
  | .open_ | .done => .error notNow

def step (limit : Nat) (desk : Desk) : Step → Except Refusal Desk
  | .ask => .ok { desk with slots := desk.slots ++ [.asked] }
  | .go slot => do
    let stage ← demand desk.slots[slot]? notNow
    let (counter, next) ← advance limit desk.counter stage
    .ok { counter, slots := desk.slots.set slot next }
  | .release slot => do
    let stage ← demand desk.slots[slot]? notNow
    match stage with
    | .open_ => .ok { desk with slots := desk.slots.set slot .releasing }
    | .releasing | .leaving | .negative | .done => .ok desk
    | _ => .error notNow
  | .expire => .ok { desk with counter := none }

def Stage.counts : Stage → Bool
  | .counted _ | .open_ | .releasing | .leaving => true
  | _ => false

def Stage.takes : Stage → Bool
  | .added | .present => true
  | _ => false

def Stage.admitted (limit : Nat) : Stage → Bool
  | .counted taken => taken ≤ limit
  | .open_ => true
  | _ => false

def Desk.opened (desk : Desk) : Nat := desk.slots.count .open_

def Unheld (desk : Desk) : Step → Prop
  | .expire => ∀ slot ∈ desk.slots, slot.counts = false ∧ slot.takes = false
  | _ => True

instance (desk : Desk) (call : Step) : Decidable (Unheld desk call) := by
  unfold Unheld
  split <;> infer_instance

section Slots
variable {limit : Nat} {desk next : Desk} {slot : Nat} {stage later : Stage} {counter : Option Int}

theorem countP_set (counts : Stage → Bool) (found : desk.slots[slot]? = some stage) :
    ((desk.slots.set slot later).countP counts : Int) =
      desk.slots.countP counts - (if counts stage = true then 1 else 0) + (if counts later = true then 1 else 0) := by
  obtain ⟨within, rfl⟩ := List.getElem?_eq_some_iff.mp found
  rw [List.countP_set within]
  by_cases counted : counts desk.slots[slot] = true
  · have some_ := List.countP_pos_iff.mpr ⟨_, List.getElem_mem within, counted⟩
    rw [if_pos counted, if_pos counted]
    split <;> omega
  · rw [if_neg counted, if_neg counted]
    split <;> omega

/-! ## Without any condition the counter never counts too many -/

/-- The counter counts no more than the slots do, and is below zero while a release deletes it only. -/
structure Desk.Modest (desk : Desk) : Prop where
  below : desk.counter.getD 0 ≤ desk.slots.countP Stage.counts
  negative : desk.counter.getD 0 < 0 → .negative ∈ desk.slots

theorem negative_set (found : desk.slots[slot]? = some stage) (there : Stage.negative ∈ desk.slots) (other : stage ≠ .negative) :
    .negative ∈ desk.slots.set slot later := by
  obtain ⟨index, within, its⟩ := List.getElem_of_mem there
  have apart : slot ≠ index := by
    rintro rfl
    rw [List.getElem?_eq_getElem within, its] at found
    exact other (Option.some.inj found).symm
  refine List.mem_of_getElem? (i := index) ?_
  rw [List.getElem?_set_ne apart, List.getElem?_eq_getElem within, its]

theorem Desk.Modest.go (modest : desk.Modest) (found : desk.slots[slot]? = some stage)
    (goes : advance limit desk.counter stage = .ok (counter, later)) : ({ counter, slots := desk.slots.set slot later } : Desk).Modest := by
  have below := modest.below
  have set_ := @countP_set desk slot stage later Stage.counts found
  have kept : stage ≠ .negative → desk.counter.getD 0 < 0 → .negative ∈ desk.slots.set slot later :=
    fun other under => negative_set found (modest.negative under) other
  cases stage with
  | asked =>
    cases goes
    exact ⟨by simpa [set_, Stage.counts] using below, kept Stage.noConfusion⟩
  | added =>
    cases goes
    refine ⟨?_, kept Stage.noConfusion⟩
    rw [set_]
    split <;> simpa [Stage.counts] using below
  | present =>
    cases goes
    refine ⟨?_, fun under => kept Stage.noConfusion (by simp at under; omega)⟩
    rw [set_]
    simpa [Stage.counts] using below
  | absent =>
    cases goes
    refine ⟨?_, fun under => absurd under (Int.not_lt.mpr Int.one_nonneg)⟩
    rw [set_]
    simp [Stage.counts]
  | counted taken =>
    cases goes
    refine ⟨?_, kept Stage.noConfusion⟩
    rw [set_]
    split <;> simpa [Stage.counts] using below
  | releasing =>
    cases goes
    refine ⟨?_, kept Stage.noConfusion⟩
    rw [set_]
    cases held : desk.counter with
    | none =>
      have counted : 0 < desk.slots.countP Stage.counts := List.countP_pos_iff.mpr ⟨.releasing, List.mem_of_getElem? found, rfl⟩
      have done : Stage.done.counts = false := rfl
      have releasing : Stage.releasing.counts = true := rfl
      rw [Option.isSome_none, if_neg Bool.false_ne_true, done, releasing, if_pos rfl, if_neg Bool.false_ne_true, Option.getD_none]
      omega
    | some value =>
      rw [held] at below
      simpa [Stage.counts] using below
  | leaving =>
    cases goes
    constructor
    · rw [set_]
      split <;> · simp [Stage.counts]; exact below
    · intro under
      have deletes : desk.counter.getD 0 - 1 < 0 := under
      rw [if_pos deletes]
      exact List.mem_set (List.getElem?_eq_some_iff.mp found).1 _
  | negative =>
    cases goes
    exact ⟨Int.natCast_nonneg _, fun under => absurd under (lt_irrefl (0 : Int))⟩
  | open_ | done => cases goes

theorem Desk.Modest.step (modest : desk.Modest) {call : Step} (accepted : Slots.step limit desk call = .ok next) : next.Modest := by
  cases call with
  | ask =>
    cases accepted
    refine ⟨?_, fun under => List.mem_append_left _ (modest.negative under)⟩
    have below := modest.below
    rw [List.countP_append]
    push_cast
    exact le_trans below (Int.le_add_of_nonneg_right (Int.natCast_nonneg _))
  | go slot =>
    obtain ⟨stage, found, accepted⟩ := bind_ok.mp accepted
    obtain ⟨⟨counter, later⟩, goes, accepted⟩ := bind_ok.mp accepted
    cases accepted
    exact modest.go (demand_ok.mp found) goes
  | release slot =>
    obtain ⟨stage, found, accepted⟩ := bind_ok.mp accepted
    rw [demand_ok] at found
    cases stage with
    | open_ =>
      cases accepted
      refine ⟨?_, fun under => negative_set found (modest.negative under) Stage.noConfusion⟩
      rw [countP_set Stage.counts found]
      simpa [Stage.counts] using modest.below
    | releasing | leaving | negative | done =>
      cases accepted
      exact modest
    | asked | added | present | absent | counted => cases accepted
  | expire =>
    cases accepted
    exact ⟨Int.natCast_nonneg _, fun under => absurd under (lt_irrefl (0 : Int))⟩

theorem modest_run (steps : List Step) : (run (step limit) {} steps).Modest :=
  run_invariant ⟨le_refl 0, fun under => absurd under (lt_irrefl (0 : Int))⟩
    (fun _ _ _ modest accepted => modest.step accepted) steps

def take (slot : Nat) : List Step := [.ask, .go slot, .go slot, .go slot, .go slot]

def takes (first count : Nat) : List Step := (List.range count).flatMap fun index => take (first + index)

theorem settle_last {slots : List Stage} (goes : advance limit counter stage = .ok (desk.counter, later)) :
    settle (step limit) { counter, slots := slots ++ [stage] } (.go slots.length) = { counter := desk.counter, slots := slots ++ [later] } := by
  refine settle_ok ?_
  simp only [step, List.getElem?_concat_length, List.set_append_right _ _ (le_refl _), Nat.sub_self, List.set_cons_zero]
  exact bind_ok.mpr ⟨stage, rfl, bind_ok.mpr ⟨_, goes, rfl⟩⟩

theorem run_take {slots : List Stage} (room : counter.getD 0 + 1 ≤ limit) :
    run (step limit) { counter, slots } (take slots.length) = { counter := some (counter.getD 0 + 1), slots := slots ++ [.open_] } := by
  have asks : settle (step limit) { counter, slots } .ask = { counter, slots := slots ++ [.asked] } := rfl
  have opens : ¬(limit : Int) < counter.getD 0 + 1 := Int.not_lt.mpr room
  rw [take, run_cons, run_cons, run_cons, run_cons, run_cons, run_nil, asks]
  rw [@settle_last _ { counter := some (counter.getD 0) } _ .added _ _ rfl,
    @settle_last _ { counter := some (counter.getD 0) } _ .present _ _ rfl,
    @settle_last _ { counter := some (counter.getD 0 + 1) } _ (.counted (counter.getD 0 + 1)) _ _ rfl,
    @settle_last _ { counter := some (counter.getD 0 + 1) } _ .open_ _ _ (by rw [advance, if_neg opens])]

theorem run_takes (count : Nat) {slots : List Stage} (room : counter.getD 0 + count ≤ limit) :
    (run (step limit) { counter, slots } (takes slots.length count)).slots = slots ++ List.replicate count .open_ := by
  induction count generalizing counter slots with
  | zero => simp [takes]
  | succ count ih =>
    have split : takes slots.length (count + 1) = take slots.length ++ takes (slots ++ [Stage.open_]).length count := by
      rw [takes, takes, List.range_succ_eq_map, List.flatMap_cons, List.flatMap_map, Nat.add_zero, List.length_append]
      exact congrArg _ (List.flatMap_congr fun index _ => congrArg take (Nat.add_right_comm _ index 1))
    push_cast at room
    rw [split, run_append, run_take (by omega), ih (by simp only [Option.getD_some]; omega), List.append_assoc]
    rfl

/-! ## Where the counter does not expire while it counts -/

/-- The counter counts the slots that count, is there for every take under way, and no more streams are admitted than the limit. -/
structure Desk.Exact (limit : Nat) (desk : Desk) : Prop where
  counted : desk.counter.getD 0 = desk.slots.countP Stage.counts
  there : desk.counter = none → ∀ slot ∈ desk.slots, slot.takes = false
  regular : ∀ slot ∈ desk.slots, slot ≠ .absent ∧ slot ≠ .negative
  within : desk.slots.countP (Stage.admitted limit) ≤ limit

theorem admitted_counts (admitted : stage.admitted limit = true) : stage.counts = true := by
  cases stage with
  | counted | open_ => rfl
  | _ => cases admitted

/-- A slot goes on: it counts one more or less where the counter does, and is admitted where it was or where there is room. -/
theorem Desk.Exact.put (exact_ : desk.Exact limit) (found : desk.slots[slot]? = some stage)
    (counted : counter.getD 0 =
      desk.counter.getD 0 - (if stage.counts = true then 1 else 0) + (if later.counts = true then 1 else 0))
    (there : counter = none → desk.counter = none ∧ later.takes = false) (regular : later ≠ .absent ∧ later ≠ .negative)
    (within : later.admitted limit = true → stage.admitted limit = true ∨ counter.getD 0 ≤ limit) :
    ({ counter, slots := desk.slots.set slot later } : Desk).Exact limit := by
  constructor
  · rw [countP_set Stage.counts found, counted, exact_.counted]
  · intro gone each put
    rcases List.mem_or_eq_of_mem_set put with old | rfl
    · exact exact_.there (there gone).1 each old
    · exact (there gone).2
  · intro each put
    rcases List.mem_or_eq_of_mem_set put with old | rfl
    · exact exact_.regular each old
    · exact regular
  · have before := exact_.within
    have after := @countP_set desk slot stage later (Stage.admitted limit) found
    by_cases admitted : later.admitted limit = true
    · rcases within admitted with already | room
      · rw [if_pos already, if_pos admitted] at after
        dsimp only
        omega
      · have fewer : (desk.slots.set slot later).countP (Stage.admitted limit) ≤ (desk.slots.set slot later).countP Stage.counts :=
          List.countP_mono_left fun each _ => admitted_counts
        have all := @countP_set desk slot stage later Stage.counts found
        rw [← exact_.counted, ← counted] at all
        dsimp only
        omega
    · rw [if_neg admitted] at after
      dsimp only
      split at after <;> omega

theorem Desk.Exact.go (exact_ : desk.Exact limit) (found : desk.slots[slot]? = some stage)
    (goes : advance limit desk.counter stage = .ok (counter, later)) : ({ counter, slots := desk.slots.set slot later } : Desk).Exact limit := by
  have mine := List.mem_of_getElem? found
  have present : stage.counts = true ∨ stage.takes = true → ∃ value, desk.counter = some value := by
    intro needs
    cases held : desk.counter with
    | some value => exact ⟨value, rfl⟩
    | none =>
      have counted := exact_.counted
      rw [held] at counted
      rcases needs with counts | takes
      · have some_ := List.countP_pos_iff.mpr ⟨stage, mine, counts⟩
        exact absurd counted (by rw [Option.getD_none]; omega)
      · exact absurd (exact_.there held stage mine) (by rw [takes]; decide)
  cases stage with
  | asked =>
    cases goes
    exact exact_.put found (by simp [Stage.counts]) (fun gone => nomatch gone) ⟨Stage.noConfusion, Stage.noConfusion⟩ (fun admitted => nomatch admitted)
  | added =>
    cases goes
    obtain ⟨value, held⟩ := present (.inr rfl)
    rw [held]
    exact exact_.put found (by simp [held, Stage.counts]) (fun gone => nomatch gone) ⟨Stage.noConfusion, Stage.noConfusion⟩ (fun admitted => nomatch admitted)
  | present =>
    cases goes
    exact exact_.put found (by simp [Stage.counts]) (fun gone => nomatch gone) ⟨Stage.noConfusion, Stage.noConfusion⟩
      (fun admitted => .inr (of_decide_eq_true admitted))
  | absent => exact absurd rfl (exact_.regular _ mine).1
  | counted taken =>
    cases goes
    have stays : (if limit < taken then Stage.releasing else .open_).counts = true := by
      split <;> rfl
    refine exact_.put found (by rw [stays]; simp [Stage.counts]) (fun gone => ?_) ?_ (fun admitted => .inl ?_)
    · obtain ⟨value, held⟩ := present (.inl rfl)
      exact nomatch held.symm.trans gone
    · split <;> exact ⟨Stage.noConfusion, Stage.noConfusion⟩
    · split at admitted
      · cases admitted
      · rename_i within
        exact decide_eq_true (Int.not_lt.mp within)
  | releasing =>
    cases goes
    obtain ⟨value, held⟩ := present (.inl rfl)
    rw [held]
    exact exact_.put found (by simp [held, Stage.counts]) (fun gone => nomatch gone) ⟨Stage.noConfusion, Stage.noConfusion⟩ (fun admitted => nomatch admitted)
  | leaving =>
    cases goes
    have some_ : 0 < desk.slots.countP Stage.counts := List.countP_pos_iff.mpr ⟨.leaving, mine, rfl⟩
    have above : ¬desk.counter.getD 0 - 1 < 0 := by
      rw [exact_.counted]
      omega
    rw [if_neg above]
    exact exact_.put found (by simp [Stage.counts]) (fun gone => nomatch gone) ⟨Stage.noConfusion, Stage.noConfusion⟩ (fun admitted => nomatch admitted)
  | negative => exact absurd rfl (exact_.regular _ mine).2
  | open_ | done => cases goes

theorem Desk.Exact.step (exact_ : desk.Exact limit) {call : Step} (unheld : Unheld desk call)
    (accepted : Slots.step limit desk call = .ok next) : next.Exact limit := by
  cases call with
  | ask =>
    cases accepted
    constructor
    · simpa [Stage.counts] using exact_.counted
    · exact fun gone => List.forall_mem_append.mpr ⟨exact_.there gone, List.forall_mem_singleton.mpr rfl⟩
    · exact List.forall_mem_append.mpr ⟨exact_.regular, List.forall_mem_singleton.mpr ⟨Stage.noConfusion, Stage.noConfusion⟩⟩
    · simpa [Stage.admitted] using exact_.within
  | go slot =>
    obtain ⟨stage, found, accepted⟩ := bind_ok.mp accepted
    obtain ⟨⟨counter, later⟩, goes, accepted⟩ := bind_ok.mp accepted
    cases accepted
    exact exact_.go (demand_ok.mp found) goes
  | release slot =>
    obtain ⟨stage, found, accepted⟩ := bind_ok.mp accepted
    rw [demand_ok] at found
    cases stage with
    | open_ =>
      cases accepted
      exact exact_.put found (by simp [Stage.counts]) (fun gone => ⟨gone, rfl⟩) ⟨Stage.noConfusion, Stage.noConfusion⟩ (fun admitted => nomatch admitted)
    | releasing | leaving | negative | done =>
      cases accepted
      exact exact_
    | asked | added | present | absent | counted => cases accepted
  | expire =>
    cases accepted
    have none_ : desk.slots.countP Stage.counts = 0 :=
      List.countP_eq_zero.mpr fun slot there => Bool.eq_false_iff.mp (unheld slot there).1
    exact ⟨by rw [none_]; rfl, fun _ slot there => (unheld slot there).2, exact_.regular, exact_.within⟩

end Slots

/-- In every run whose counter expires only while it counts nothing and no take is under way, no more streams are open than the limit. In every run,
once every stream is released and every call has ended, the limit's number of takes open a stream each. -/
theorem openStreams_capped (limit : Nat) (steps : List Step) :
    (Meets (step limit) Unheld {} steps → (run (step limit) {} steps).opened ≤ limit) ∧
      ((∀ slot ∈ (run (step limit) {} steps).slots, slot = .done) →
        (run (step limit) (run (step limit) {} steps) (takes (run (step limit) {} steps).slots.length limit)).slots =
          (run (step limit) {} steps).slots ++ List.replicate limit .open_) := by
  constructor
  · intro meets
    have start : ({} : Desk).Exact limit := ⟨rfl, fun _ _ there => (nomatch there), fun _ there => (nomatch there), Nat.zero_le _⟩
    have exact_ := run_invariant_of_meets start (fun _ _ _ exact_ unheld accepted => exact_.step unheld accepted) steps meets
    refine le_trans (List.countP_mono_left fun slot _ its => ?_) exact_.within
    rw [beq_iff_eq.mp its]
    rfl
  · intro ended
    have modest := @modest_run limit steps
    generalize run (step limit) {} steps = desk at ended modest ⊢
    have none_ : desk.slots.countP Stage.counts = 0 :=
      List.countP_eq_zero.mpr fun slot there => by rw [ended slot there]; decide
    have below := modest.below
    rw [none_] at below
    exact run_takes limit (by omega)

/-- Streams that the counter does not outlive leave room for others; so does a take that finds the counter gone amid others. -/
theorem openStreams_uncapped :
    (run (step 2) {} (takes 0 2 ++ .expire :: take 2)).opened = 3 ∧
      (run (step 2) {} (take 0 ++ [.release 0, .go 0, .go 0, .ask, .go 1, .expire, .go 1] ++ take 2 ++ [.go 1, .go 1] ++ take 3)).opened = 3 := by
  decide +kernel

end Grc.Search.Slots
