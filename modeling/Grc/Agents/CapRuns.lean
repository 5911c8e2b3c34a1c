import Grc.Agents.CapDesk
import Mathlib.Algebra.BigOperators.Ring.List

/-! The monthly cap over whole runs of openings, runner's events and summaries, in any overlap. -/
namespace Grc.Agents

open Grc.Shared Grc.Lib

/-- What `held` sums is all that the month's spend and the open runs' promises are made of: no summary of the month costs anything, no open run
of another month may still spend, and every cost is in whole cents. -/
structure Covered (month : Months) (ledger : Ledger) (tenant : Id) (now : Instant) : Prop where
  summaries : summariesMinor month ledger.generations tenant now = 0
  others : ∀ run ∈ ledger.runs.rows, run.ownOf tenant = true → inMonth month tenant now run.startedAt = false → run.left = 0
  cents : ∀ run ∈ ledger.runs.rows, run.ownOf tenant = true → 100 ∣ run.cost.getD 0

/-- A runner's report in whole cents and within its run's limit, and a summary that costs nothing or another bank. -/
def Spares (ledger : Ledger) (tenant : Id) : RunCall → Prop
  | .event _ event _ => ∀ run ∈ ledger.runs.rows, run.id = event.runId → run.ownOf tenant = true →
      ∀ cost ∈ event.cost.bind costOf, cost ≤ 100 * run.budgetLimit.getD 0 ∧ 100 ∣ cost
  | .drafted generation => generation.tenant = some tenant → generation.purpose = "what_applies" → generation.costMinor = 0
  | .interrupt _ _ _ _ | .putBudget _ _ _ | .setAiEnabled _ _ _ _ => True

/-- An opening is let through while what is held covers the bank's spend, and research only as every other door lets a run through: it fits under
the cap, and no other opening of the bank is under way beside it. Until it commits, events and summaries spare it. -/
def CapFits (month : Months) (limit : Nat) (desk : CapDesk) : CapStep → Prop
  | .check _ agent door now => ∀ own ∈ desk.ledger.agents.rows.find? (·.id == agent), ∀ cap ∈ desk.capRead month limit own door now,
      Covered month desk.ledger own.tenant now ∧ desk.ledger.heldOf month own.tenant now + limit ≤ cap ∧
        ∀ each ∈ desk.underway, each.2.tenant = own.tenant → door.locks = true ∧ each.2.door.locks = true
  | .open_ _ _ _ | .abort _ => True
  | .other _ call => ∀ each ∈ desk.underway, Spares desk.ledger each.2.tenant call

instance (month : Months) (ledger : Ledger) (tenant : Id) (now : Instant) : Decidable (Covered month ledger tenant now) :=
  decidable_of_iff (summariesMinor month ledger.generations tenant now = 0 ∧
      (∀ run ∈ ledger.runs.rows, run.ownOf tenant = true → inMonth month tenant now run.startedAt = false → run.left = 0) ∧
      ∀ run ∈ ledger.runs.rows, run.ownOf tenant = true → 100 ∣ run.cost.getD 0)
    ⟨fun ⟨summaries, others, cents⟩ => ⟨summaries, others, cents⟩, fun covered => ⟨covered.summaries, covered.others, covered.cents⟩⟩

instance (ledger : Ledger) (tenant : Id) : ∀ call, Decidable (Spares ledger tenant call) := by
  intro call
  cases call <;> unfold Spares <;> infer_instance

instance (month : Months) (limit : Nat) : ∀ (desk : CapDesk) (taken : CapStep), Decidable (CapFits month limit desk taken) := by
  intro desk taken
  cases taken <;> unfold CapFits <;> infer_instance

section Sums
variable {Row : Type} {rows : List Row} {change : Row → Row} {listed : Row → Bool} {amount : Row → Nat}

theorem sum_listed_le (each : ∀ row ∈ rows, listed (change row) = listed row ∧ (listed row = true → amount (change row) ≤ amount row)) :
    (((rows.map change).filter listed).map amount).sum ≤ ((rows.filter listed).map amount).sum := by
  induction rows with
  | nil => exact Nat.le_refl 0
  | cons first rest ih =>
    have later := ih fun row there => each row (List.mem_cons_of_mem _ there)
    obtain ⟨same, le⟩ := each first List.mem_cons_self
    rw [List.map_cons, List.filter_cons, List.filter_cons, same]
    split
    · rename_i chosen
      simp only [List.map_cons, List.sum_cons]
      exact Nat.add_le_add (le chosen) later
    · exact later

theorem sum_listed_eq {also : Row → Bool} (nothing : ∀ row ∈ rows, listed row = true → also row = false → amount row = 0) :
    ((rows.filter listed).map amount).sum = ((rows.filter fun row => listed row && also row).map amount).sum := by
  induction rows with
  | nil => rfl
  | cons first rest ih =>
    have later := ih fun row there => nothing row (List.mem_cons_of_mem _ there)
    rw [List.filter_cons, List.filter_cons]
    cases chosen : listed first with
    | false => simpa using later
    | true =>
      cases also_ : also first with
      | true => simpa using later
      | false =>
        have none_ := nothing first List.mem_cons_self chosen also_
        simpa [none_] using later

end Sums

section Amounts
variable {month : Months} {ledger : Ledger} {tenant : Id} {now : Instant} {run : AgentRun} {limit : Nat}

theorem toCents_of_dvd {amount : Nat} (cents : 100 ∣ amount) : 100 * toCents amount = amount := by
  obtain ⟨whole, rfl⟩ := cents
  unfold toCents
  rw [if_pos (by omega), Nat.mul_div_cancel_left whole (by omega)]

theorem promised_eq : run.promised = run.cost.getD 0 + run.left := by
  unfold AgentRun.promised AgentRun.left
  split
  · omega
  · rfl

theorem promised_dvd (cents : 100 ∣ run.cost.getD 0) : 100 ∣ run.promised := by
  unfold AgentRun.promised
  split
  · obtain ⟨whole, its⟩ := cents
    rw [its]
    rcases Nat.le_total (100 * whole) (100 * run.budgetLimit.getD 0) with less | more
    · rw [Nat.max_eq_right less]
      exact Nat.dvd_mul_right 100 _
    · rw [Nat.max_eq_left more]
      exact Nat.dvd_mul_right 100 _
  · exact cents

theorem monthRuns_eq : monthRuns month ledger.runs.rows tenant now =
    ledger.runs.rows.filter fun run => run.ownOf tenant && inMonth month tenant now run.startedAt := by
  unfold monthRuns AgentRun.ownOf
  rfl

def promisedIn (month : Months) (ledger : Ledger) (tenant : Id) (now : Instant) : Nat :=
  ((monthRuns month ledger.runs.rows tenant now).map AgentRun.promised).sum

theorem Covered.month_cents (covered : Covered month ledger tenant now) : ∀ run ∈ monthRuns month ledger.runs.rows tenant now,
    100 ∣ run.cost.getD 0 := by
  intro run there
  rw [monthRuns_eq] at there
  obtain ⟨member, own⟩ := List.mem_filter.mp there
  rw [Bool.and_eq_true] at own
  exact covered.cents run member own.1

theorem Covered.promised (covered : Covered month ledger tenant now) :
    100 * ledger.spent month tenant now + ledger.leftOf tenant = promisedIn month ledger tenant now := by
  have spent : 100 * ledger.spent month tenant now = ((monthRuns month ledger.runs.rows tenant now).map fun run => run.cost.getD 0).sum := by
    rw [Ledger.spent, spend, covered.summaries, Nat.mul_zero, Nat.add_zero]
    refine toCents_of_dvd (List.dvd_sum fun cost member => ?_)
    obtain ⟨run, there, rfl⟩ := List.mem_map.mp member
    exact covered.month_cents run there
  have left : ledger.leftOf tenant = ((monthRuns month ledger.runs.rows tenant now).map AgentRun.left).sum := by
    rw [monthRuns_eq]
    exact sum_listed_eq covered.others
  rw [spent, left, promisedIn, ← List.sum_map_add]
  exact congrArg List.sum (List.map_congr_left fun run _ => promised_eq.symm)

theorem Covered.held (covered : Covered month ledger tenant now) : 100 * ledger.heldOf month tenant now = promisedIn month ledger tenant now := by
  refine toCents_of_dvd (List.dvd_sum fun amount member => ?_)
  obtain ⟨run, there, rfl⟩ := List.mem_map.mp member
  exact promised_dvd (covered.month_cents run there)

end Amounts
/-- What became of a run of a bank while an opening of the bank is under way: it is held for no more, and still in whole cents. -/
structure AgentRun.Steady (tenant : Id) (run later : AgentRun) : Prop where
  own : later.ownOf tenant = run.ownOf tenant
  started : later.startedAt = run.startedAt
  promised : run.ownOf tenant = true → later.promised ≤ run.promised
  left : run.ownOf tenant = true → later.left ≤ run.left
  cents : run.ownOf tenant = true → 100 ∣ run.cost.getD 0 → 100 ∣ later.cost.getD 0

/-- What became of a ledger: each run is steady, none appears, and the summaries of the bank cost what they did. -/
structure Ledger.Steady (tenant : Id) (ledger after : Ledger) : Prop where
  runs : ∃ change : AgentRun → AgentRun, after.runs.rows = ledger.runs.rows.map change ∧
    ∀ run ∈ ledger.runs.rows, run.Steady tenant (change run)
  summaries : ∀ month now, summariesMinor month after.generations tenant now = summariesMinor month ledger.generations tenant now

section Steady
variable {month : Months} {ledger after last : Ledger} {tenant : Id} {now : Instant} {run later final : AgentRun} {answers : Bool}

theorem AgentRun.Steady.refl (run : AgentRun) : run.Steady tenant run :=
  ⟨rfl, rfl, fun _ => Nat.le_refl _, fun _ => Nat.le_refl _, fun _ cents => cents⟩

theorem AgentRun.Steady.trans (first : run.Steady tenant later) (second : later.Steady tenant final) : run.Steady tenant final where
  own := second.own.trans first.own
  started := second.started.trans first.started
  promised := fun own => (second.promised (first.own.trans own)).trans (first.promised own)
  left := fun own => (second.left (first.own.trans own)).trans (first.left own)
  cents := fun own cents => second.cents (first.own.trans own) (first.cents own cents)

theorem AgentRun.Steady.stopped (run : AgentRun) (by_ : Option Id) : run.Steady tenant (run.stopped by_ now) where
  own := rfl
  started := rfl
  promised := by
    intro _
    rw [promised_eq, promised_eq]
    exact Nat.add_le_add_left (Nat.zero_le _) _
  left := fun _ => Nat.zero_le _
  cents := fun _ cents => cents

theorem Ledger.Steady.of_same (runs : after.runs = ledger.runs) (generations : after.generations = ledger.generations) :
    ledger.Steady tenant after where
  runs := ⟨id, by rw [runs, List.map_id], fun run _ => .refl run⟩
  summaries := fun _ _ => by rw [generations]

theorem Ledger.Steady.trans (first : ledger.Steady tenant after) (second : after.Steady tenant last) : ledger.Steady tenant last where
  runs := by
    obtain ⟨change, same, each⟩ := first.runs
    obtain ⟨next, again, steps⟩ := second.runs
    refine ⟨next ∘ change, by rw [again, same, List.map_map], fun run there => ?_⟩
    exact (each run there).trans (steps (change run) (same ▸ List.mem_map_of_mem there))
  summaries := fun month now => (second.summaries month now).trans (first.summaries month now)

theorem saveRun_steady (id : Id) (change : AgentRun → AgentRun)
    (kept : ∀ run, (change run).id = run.id ∧ (change run).tenant = run.tenant ∧ (change run).tenantAgent = run.tenantAgent)
    (steady : ∀ row ∈ ledger.runs.rows, row.id = id → row.Steady tenant (change row)) : ledger.Steady tenant (ledger.saveRun id change kept) where
  runs := by
    refine ⟨_, rfl, fun run there => ?_⟩
    split
    · rename_i named
      exact steady run there (beq_iff_eq.mp named)
    · exact .refl run
  summaries := fun _ _ => rfl

variable {by_ : Option Person} {reason : String}

theorem stop_steady (done : stop ledger now run by_ reason answers = .ok after) :
    ledger.Steady tenant after := by
  obtain ⟨_, -, done⟩ := bind_ok.mp done
  cases done
  have stopped : ledger.Steady tenant (ledger.saveRun run.id (AgentRun.stopped (by_.map (·.id)) now) fun _ => ⟨rfl, rfl, rfl⟩) :=
    saveRun_steady run.id _ _ fun row _ _ => .stopped row _
  exact stopped.trans (.of_same rfl rfl)

theorem pause_same {agent : TenantAgent} (done : pause ledger now agent reason by_ = .ok after) :
    after.runs = ledger.runs ∧ after.generations = ledger.generations := by
  obtain ⟨_, -, done⟩ := bind_ok.mp done
  split at done
  · cases done
    exact ⟨rfl, rfl⟩
  · cases done
    exact ⟨rfl, rfl⟩

theorem holdToTheCap_steady (done : holdToTheCap ledger month now run answers = .ok after) : ledger.Steady tenant after := by
  unfold holdToTheCap at done
  split at done
  · cases done
    exact .of_same rfl rfl
  · obtain ⟨agent, -, done⟩ := bind_ok.mp done
    split at done
    · exact stop_steady done
    · obtain ⟨_, -, done⟩ := bind_ok.mp done
      split at done
      · cases done
        exact .of_same rfl rfl
      · obtain ⟨stopped, ended, done⟩ := bind_ok.mp done
        obtain ⟨paused, pausing, done⟩ := bind_ok.mp done
        cases done
        obtain ⟨runs, generations⟩ := pause_same pausing
        exact (stop_steady ended).trans (.of_same runs generations)

theorem validated_cost {event : RunnerEvent} {said : Reported} (passed : validated run event = .ok said) :
    said.cost = event.cost.bind costOf ∧ goesOn run.cost said.cost = true := by
  refine ⟨?_, (validated_goesOn passed).1⟩
  obtain ⟨_, -, passed⟩ := bind_ok.mp passed
  obtain ⟨_, -, passed⟩ := bind_ok.mp passed
  obtain ⟨_, -, passed⟩ := bind_ok.mp passed
  obtain ⟨cost, read, passed⟩ := bind_ok.mp passed
  obtain ⟨_, -, passed⟩ := bind_ok.mp passed
  obtain ⟨_, -, passed⟩ := bind_ok.mp passed
  obtain ⟨_, -, passed⟩ := bind_ok.mp passed
  obtain ⟨_, -, passed⟩ := bind_ok.mp passed
  cases passed
  rcases optionally_ok.mp read with ⟨unsaid, rfl⟩ | ⟨given, value, sent, rfl, priced⟩
  · rw [unsaid]
    rfl
  · rw [sent]
    exact (demand_ok.mp priced).symm

theorem report_steady {said : Reported} (running : run.status = .running) (goes : goesOn run.cost said.cost = true)
    (spares : run.ownOf tenant = true → ∀ cost ∈ said.cost, cost ≤ 100 * run.budgetLimit.getD 0 ∧ 100 ∣ cost) :
    run.Steady tenant (run.report said now) := by
  have grows : run.cost.getD 0 ≤ said.cost.getD 0 := by
    unfold goesOn at goes
    split at goes
    · rename_i unsaid
      rw [unsaid]
      exact Nat.zero_le _
    · cases goes
    · rename_i stored reported before after
      rw [before, after]
      exact of_decide_eq_true goes
  have within : run.ownOf tenant = true → said.cost.getD 0 ≤ 100 * run.budgetLimit.getD 0 ∧ 100 ∣ said.cost.getD 0 := by
    intro own
    cases its : said.cost with
    | none => exact ⟨Nat.zero_le _, Nat.dvd_zero 100⟩
    | some cost => exact spares own cost its
  refine ⟨rfl, rfl, fun own => ?_, fun own => ?_, fun own _ => (within own).2⟩
  · have most := (within own).1
    by_cases open_ : said.status = .running
    · simp only [AgentRun.promised, AgentRun.report, running, open_, if_true]
      omega
    · simp only [AgentRun.promised, AgentRun.report, running, open_, if_true, if_false]
      omega
  · by_cases open_ : said.status = .running
    · simp only [AgentRun.left, AgentRun.report, running, open_, if_true]
      omega
    · simp only [AgentRun.left, AgentRun.report, running, open_, if_true, if_false]
      omega

theorem applyEvent_steady {zone : Option Id} {event : RunnerEvent} (spares : Spares ledger tenant (.event zone event answers))
    (done : applyEvent ledger month now zone event answers = .ok after) : ledger.Steady tenant after := by
  obtain ⟨run, opened, done⟩ := bind_ok.mp done
  obtain ⟨said, passed, done⟩ := bind_ok.mp done
  obtain ⟨there, its, -, running⟩ := openRun_ok opened
  obtain ⟨cost, goes⟩ := validated_cost passed
  have saved : ledger.Steady tenant (saveReported ledger now run said) := by
    refine (saveRun_steady run.id (AgentRun.report said now) (fun _ => ⟨rfl, rfl, rfl⟩) fun row listed named => ?_).trans (.of_same rfl rfl)
    obtain rfl := ledger.runs.eq_of_key listed there named
    exact report_steady running goes fun own paid its_ => spares row there its own paid (cost ▸ its_)
  dsimp only at done
  split at done
  · exact saved.trans (holdToTheCap_steady done)
  · cases done
    exact saved

theorem pauses_same {agents : List TenantAgent}
    (done : agents.foldlM (fun ledger agent => pause ledger now agent reason by_) ledger = .ok after) :
    after.runs = ledger.runs ∧ after.generations = ledger.generations := by
  induction agents generalizing ledger with
  | nil =>
    cases done
    exact ⟨rfl, rfl⟩
  | cons agent rest ih =>
    rw [List.foldlM_cons] at done
    obtain ⟨paused, first, later⟩ := bind_ok.mp done
    obtain ⟨runs, generations⟩ := pause_same first
    exact ⟨(ih later).1.trans runs, (ih later).2.trans generations⟩

theorem handle_steady {call : RunCall} (spares : Spares ledger tenant call) (done : handle month ledger (now, call) = .ok after) :
    ledger.Steady tenant after := by
  cases call with
  | event zone event answers => exact applyEvent_steady spares done
  | interrupt bank by_ runId answers =>
    obtain ⟨run, -, done⟩ := bind_ok.mp done
    obtain ⟨_, -, done⟩ := bind_ok.mp done
    obtain ⟨_, -, done⟩ := bind_ok.mp done
    obtain ⟨_, -, done⟩ := bind_ok.mp done
    exact stop_steady done
  | putBudget bank by_ cap =>
    simp only [handle, putBudget] at done
    split at done
    · obtain ⟨runs, generations⟩ := pauses_same done
      exact .of_same runs generations
    · cases done
      exact .of_same rfl rfl
  | setAiEnabled bank by_ enabled stepUp =>
    obtain ⟨_, -, done⟩ := bind_ok.mp done
    cases done
    exact .of_same rfl rfl
  | drafted generation =>
    cases done
    refine ⟨⟨id, by rw [List.map_id], fun run _ => .refl run⟩, fun month now => ?_⟩
    unfold summariesMinor
    rw [List.filter_append, List.map_append, List.sum_append]
    have nothing : (([generation].filter fun row => row.tenant == some tenant && row.purpose == "what_applies" &&
        inMonth month tenant now row.createdAt).map (·.costMinor)).sum = 0 := by
      refine List.sum_eq_zero fun cost member => ?_
      obtain ⟨row, there, rfl⟩ := List.mem_map.mp member
      obtain ⟨listed, counted⟩ := List.mem_filter.mp there
      obtain rfl := List.mem_singleton.mp listed
      simp only [Bool.and_eq_true, beq_iff_eq] at counted
      exact spares counted.1.1 counted.1.2
    rw [nothing, Nat.add_zero]

theorem Covered.steady (covered : Covered month ledger tenant now) (steady : ledger.Steady tenant after) :
    Covered month after tenant now ∧ promisedIn month after tenant now ≤ promisedIn month ledger tenant now := by
  obtain ⟨change, rows, each⟩ := steady.runs
  have was : ∀ row ∈ after.runs.rows, ∃ run ∈ ledger.runs.rows, run.Steady tenant row := by
    intro row there
    rw [rows] at there
    obtain ⟨run, here, rfl⟩ := List.mem_map.mp there
    exact ⟨run, here, each run here⟩
  refine ⟨⟨(steady.summaries month now).trans covered.summaries, ?_, ?_⟩, ?_⟩
  · intro row there own outside
    obtain ⟨run, here, goes⟩ := was row there
    have owned := goes.own.symm.trans own
    exact Nat.le_zero.mp ((covered.others run here owned (goes.started ▸ outside)) ▸ goes.left owned)
  · intro row there own
    obtain ⟨run, here, goes⟩ := was row there
    have owned := goes.own.symm.trans own
    exact goes.cents owned (covered.cents run here owned)
  · rw [promisedIn, promisedIn, monthRuns_eq, monthRuns_eq, rows]
    refine sum_listed_le fun run here => ?_
    have goes := each run here
    refine ⟨by rw [goes.own, goes.started], fun listed => ?_⟩
    rw [Bool.and_eq_true] at listed
    exact goes.promised listed.1

end Steady
/-- The invariant of the desk: what was checked for an opening under way still holds, and no bank has two under way. -/
structure CapSound (month : Months) (limit : Nat) (desk : CapDesk) : Prop where
  fits : ∀ each ∈ desk.underway, Covered month desk.ledger each.2.tenant each.2.now ∧
    promisedIn month desk.ledger each.2.tenant each.2.now + 100 * limit ≤ 100 * each.2.cap
  apart : ∀ one ∈ desk.underway, ∀ other ∈ desk.underway, one.1 ≠ other.1 → one.2.tenant ≠ other.2.tenant
  opened : ∀ opened ∈ desk.opened, opened.WithinCap

section Steps
variable {month : Months} {limit : Nat} {desk next : CapDesk} {id : Id} {tenant : Id} {now startedAt : Instant} {starts : Bool} {own : TenantAgent}

theorem Covered.openRun_other (there : own ∈ desk.ledger.agents.rows) (limit : Nat) (startedAt : Instant) (starts : Bool)
    (covered : Covered month desk.ledger tenant now) (other : own.tenant ≠ tenant) :
    Covered month (desk.ledger.openRun own there limit startedAt starts) tenant now ∧
      promisedIn month (desk.ledger.openRun own there limit startedAt starts) tenant now = promisedIn month desk.ledger tenant now := by
  have old : ∀ run ∈ (desk.ledger.openRun own there limit startedAt starts).runs.rows, run.ownOf tenant = true → run ∈ desk.ledger.runs.rows := by
    intro run member owned
    rcases (Keyed.mem_create _).mp member with before | rfl
    · exact before
    · simp [AgentRun.ownOf, other] at owned
  refine ⟨⟨covered.summaries, fun run member owned => covered.others run (old run member owned) owned,
    fun run member owned => covered.cents run (old run member owned) owned⟩, ?_⟩
  have rows : ∃ run : AgentRun, (desk.ledger.openRun own there limit startedAt starts).runs.rows = desk.ledger.runs.rows ++ [run] ∧
      run.ownOf tenant = false := ⟨_, rfl, by simp [AgentRun.ownOf, other]⟩
  obtain ⟨run, rows, foreign⟩ := rows
  rw [promisedIn, promisedIn, monthRuns_eq, monthRuns_eq, rows, List.filter_append]
  simp [foreign]

theorem CapSound.steady {ledger : Ledger} (sound : CapSound month limit desk)
    (steady : ∀ each ∈ desk.underway, desk.ledger.Steady each.2.tenant ledger) : CapSound month limit { desk with ledger } where
  fits := by
    intro each there
    obtain ⟨covered, fits⟩ := sound.fits each there
    obtain ⟨still, less⟩ := covered.steady (steady each there)
    exact ⟨still, (Nat.add_le_add_right less _).trans fits⟩
  apart := sound.apart
  opened := sound.opened

theorem CapSound.release (sound : CapSound month limit desk) : CapSound month limit { desk with underway := desk.underway.filter (·.1 ≠ id) } where
  fits := fun each left => sound.fits each (List.mem_filter.mp left).1
  apart := fun one first other second => sound.apart one (List.mem_filter.mp first).1 other (List.mem_filter.mp second).1
  opened := sound.opened

theorem CapSound.check {opening : Opening} (sound : CapSound month limit desk)
    (fits : Covered month desk.ledger opening.tenant opening.now ∧ desk.ledger.heldOf month opening.tenant opening.now + limit ≤ opening.cap)
    (alone : ∀ each ∈ desk.underway, each.2.tenant ≠ opening.tenant) :
    CapSound month limit { desk with underway := desk.underway ++ [(id, opening)] } where
  fits := by
    intro each there
    rcases mem_concat.mp there with old | rfl
    · exact sound.fits each old
    · refine ⟨fits.1, ?_⟩
      rw [← fits.1.held, ← Nat.mul_add]
      exact Nat.mul_le_mul_left 100 fits.2
  apart := by
    intro one first other second differ
    rcases mem_concat.mp first with old | rfl
    · rcases mem_concat.mp second with older | rfl
      · exact sound.apart one old other older differ
      · exact alone one old
    · rcases mem_concat.mp second with older | rfl
      · exact (alone other older).symm
      · exact absurd rfl differ
  opened := sound.opened

theorem CapSound.open_ {each : Id × Opening} {there : own ∈ desk.ledger.agents.rows} (sound : CapSound month limit desk)
    (underway : each ∈ desk.underway) (zone : own.tenant = each.2.tenant) :
    CapSound month limit {
      ledger := desk.ledger.openRun own there limit startedAt starts
      underway := desk.underway.filter (·.1 ≠ each.1)
      opened := desk.opened ++ [{
        cap := each.2.cap, limit, spent := desk.ledger.spent month each.2.tenant each.2.now, left := desk.ledger.leftOf each.2.tenant }] } where
  fits := by
    intro other left
    obtain ⟨member, differ⟩ := List.mem_filter.mp left
    obtain ⟨covered, fits⟩ := sound.fits other member
    have apart := sound.apart each underway other member (of_decide_eq_true differ).symm
    obtain ⟨still, same⟩ := Covered.openRun_other there limit startedAt starts covered (zone ▸ apart)
    exact ⟨still, same ▸ fits⟩
  apart := fun one first other second => sound.apart one (List.mem_filter.mp first).1 other (List.mem_filter.mp second).1
  opened := by
    intro opened listed
    rcases mem_concat.mp listed with old | rfl
    · exact sound.opened opened old
    · obtain ⟨covered, fits⟩ := sound.fits each underway
      have its := covered.promised
      unfold Opened.WithinCap
      dsimp only
      omega

theorem CapSound.step {taken : CapStep} (sound : CapSound month limit desk) (met : CapFits month limit desk taken)
    (done : desk.step month limit taken = .ok next) : CapSound month limit next := by
  cases taken with
  | check opening agent door now =>
    obtain ⟨_, -, done⟩ := bind_ok.mp done
    obtain ⟨own, found, done⟩ := bind_ok.mp done
    obtain ⟨_, -, done⟩ := bind_ok.mp done
    obtain ⟨_, free, done⟩ := bind_ok.mp done
    split at done
    · rename_i cap read
      cases done
      obtain ⟨covered, fits, locks⟩ := met own (demand_ok.mp found) cap read
      refine sound.check ⟨covered, fits⟩ fun each there same => ?_
      obtain ⟨mine, its⟩ := locks each there same
      exact require_ok.mp free mine each there its same
    · unfold CapDesk.capped at done
      split at done
      · obtain ⟨paused, pausing, rfl⟩ := map_ok.mp done
        obtain ⟨runs, generations⟩ := pause_same pausing
        exact sound.steady fun _ _ => .of_same runs generations
      · cases done
        exact sound
      · cases done
      · cases done
  | open_ opening startedAt starts =>
    obtain ⟨each, found, done⟩ := bind_ok.mp done
    obtain ⟨own, names, done⟩ := bind_ok.mp done
    split at done
    · cases done
      have its := List.find?_some (demand_ok.mp found)
      obtain rfl : each.1 = opening := beq_iff_eq.mp its
      have zone := List.find?_some (demand_ok.mp names)
      rw [Bool.and_eq_true, beq_iff_eq, beq_iff_eq] at zone
      exact sound.open_ (List.mem_of_find?_eq_some (demand_ok.mp found)) zone.2
    · cases done
  | abort opening =>
    cases done
    exact sound.release
  | other now call =>
    obtain ⟨ledger, handled, rfl⟩ := map_ok.mp done
    exact sound.steady fun each there => handle_steady (met each there) handled

end Steps

/-- In a run whose steps each leave what is held covering the bank's spend, every run was opened within the cap its transaction had read. -/
theorem opened_withinCap (month : Months) (limit : Nat) (ledger : Ledger) (steps : List CapStep)
    (met : Meets (CapDesk.step month limit) (CapFits month limit) { ledger } steps) :
    ∀ first, first <+: steps → ∀ opened ∈ (run (CapDesk.step month limit) { ledger } first).opened, opened.WithinCap := by
  intro first isPrefix
  have empty : CapSound month limit { ledger } :=
    ⟨fun _ there => absurd there List.not_mem_nil, fun _ there => absurd there List.not_mem_nil, fun _ there => absurd there List.not_mem_nil⟩
  have sound : CapSound month limit (run (CapDesk.step month limit) { ledger } first) :=
    run_invariant_of_meets empty (fun _ _ _ sound met done => sound.step met done) first (met.initial isPrefix)
  exact sound.opened

/-- A bank with a cap of ten euros and one agent of its own that is on; each run may cost five. -/
def tenEuros : Ledger where
  definitions := [{ id := 1, key := "scope-researcher", tenantScoped := true, tenantConfigurable := true }]
  tenants := oneBank
  agents := { rows := [{ id := 7, tenant := 5, agent := 1, enabled := true, nextRunAt := some 4 }], keyed := by decide }
  budgets := [{ tenant := 5, monthlyCap := 1000 }]
  zoned := by decide

/-- A scheduled run, which comes to two euros, and then a scope item's research. -/
theorem scheduledThenResearch_withinCap :
    (∀ opened ∈ (run (CapDesk.step (fun _ _ => (0, 100)) 500) { ledger := tenEuros } [
      .check 1 7 .schedule 4, .open_ 1 4 true,
      .other 5 (.event (some 5) { runId := 0, status := "running", cost := some (.finite 2) } true),
      .check 2 7 .research 6, .open_ 2 6 true]).opened, opened.WithinCap) ∧
    (run (CapDesk.step (fun _ _ => (0, 100)) 500) { ledger := tenEuros } [
      .check 1 7 .schedule 4, .open_ 1 4 true,
      .other 5 (.event (some 5) { runId := 0, status := "running", cost := some (.finite 2) } true),
      .check 2 7 .research 6, .open_ 2 6 true]).opened =
        [{ cap := 1000, limit := 500, spent := 0, left := 0 }, { cap := 1000, limit := 500, spent := 200, left := 30000 }] :=
  ⟨opened_withinCap (fun _ _ => (0, 100)) 500 tenEuros _ (by decide +kernel) _ (List.prefix_refl _), by decide +kernel⟩

/-- Six euros of summaries are not held for, and a run opens past the cap; research opens a third run where two are held for the whole cap. -/
theorem opened_pastCap :
    (run (CapDesk.step (fun _ _ => (0, 100)) 500) { ledger := tenEuros } [
      .other 3 (.drafted { tenant := some 5, purpose := "what_applies", createdAt := 3, costMinor := 600 }),
      .check 1 7 .manual 4, .open_ 1 4 true]).opened = [{ cap := 1000, limit := 500, spent := 600, left := 0 }] ∧
    ¬({ cap := 1000, limit := 500, spent := 600, left := 0 } : Opened).WithinCap ∧
    (run (CapDesk.step (fun _ _ => (0, 100)) 500) { ledger := tenEuros } [
      .check 1 7 .manual 4, .open_ 1 4 true, .check 2 7 .manual 4, .open_ 2 4 true, .check 3 7 .research 6, .open_ 3 6 true]).opened =
        [{ cap := 1000, limit := 500, spent := 0, left := 0 }, { cap := 1000, limit := 500, spent := 0, left := 50000 },
          { cap := 1000, limit := 500, spent := 0, left := 100000 }] ∧
    ¬({ cap := 1000, limit := 500, spent := 0, left := 100000 } : Opened).WithinCap := by
  decide +kernel

end Grc.Agents
