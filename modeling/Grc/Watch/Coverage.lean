import Grc.Lib.Ranked
import Grc.Watch.Registry

/-! The coverage log and the stale rule: a run of failures is read off two instants, the n-th most recent sweep's and the last
success's. -/
namespace Grc.Watch

open Grc.Shared Grc.Lib

inductive CheckStatus where
  | ok
  | failed
  deriving DecidableEq

inductive SourceCheckKind where
  | sweep
  | recheck
  deriving DecidableEq

structure SourceCheck where
  id : Id
  source : Id
  kind : SourceCheckKind
  status : CheckStatus
  checkedAt : Instant
  error : String := ""
  deriving DecidableEq

/-- `SOURCE_STALE_AFTER_CHECKS` and `SOURCE_STALE_GRACE_HOURS`, the grace as a span. -/
structure StaleSettings where
  afterChecks : Nat
  positive : 1 ≤ afterChecks
  grace : Int

def hour : Int := 3600 * 1000000

def CheckFrequency.cadence : CheckFrequency → Int
  | .daily => 24 * hour
  | .weekly => 7 * 24 * hour
  | .monthly => 30 * 24 * hour

/-- `-checked_at, -id`. -/
def SourceCheck.place (check : SourceCheck) : (Nat ×ₗ Nat)ᵒᵈ := OrderDual.toDual (toLex (check.checkedAt, check.id))

def latest (log : List SourceCheck) (source : Id) : List SourceCheck :=
  inOrder SourceCheck.place (log.filter fun check => check.source == source && check.kind = .sweep)

structure Coverage where
  source : Source
  lastCheckedAt : Option Instant
  lastStatus : Option CheckStatus
  lastError : String
  lastOkAt : Option Instant
  nthSweepAt : Option Instant

/-- `coverage_rows`, of one source. -/
def coverageRow (log : List SourceCheck) (failuresToStale : Nat) (source : Source) : Coverage where
  source := source
  lastCheckedAt := (latest log source.id).head?.map (·.checkedAt)
  lastStatus := (latest log source.id).head?.map (·.status)
  lastError := ((latest log source.id).head?.map (·.error)).getD ""
  lastOkAt := ((latest log source.id).filter (·.status = .ok)).head?.map (·.checkedAt)
  nthSweepAt := (latest log source.id)[failuresToStale - 1]?.map (·.checkedAt)

def isOverdue (row : Coverage) (now : Instant) (grace : Int) : Bool :=
  if ¬row.source.active then false
  else if row.nthSweepAt.any fun nth => row.lastOkAt.all fun last => decide (last < nth) then true
  else match row.lastOkAt with
    | none => false
    | some last => decide (row.source.checkFrequency.cadence + grace < (now : Int) - last)

/-- The rule as it is documented: the source is active, and its most recent sweeps all failed, as many as the setting asks; or its last
success is longer ago than its cadence and the grace. -/
def Stale (settings : StaleSettings) (log : List SourceCheck) (source : Source) (now : Instant) : Prop :=
  source.active = true ∧
    ((settings.afterChecks ≤ (latest log source.id).length ∧
        ∀ check ∈ (latest log source.id).take settings.afterChecks, check.status = .failed) ∨
      ∃ check ∈ latest log source.id, check.status = .ok ∧
        (∀ other ∈ latest log source.id, other.status = .ok → other.checkedAt ≤ check.checkedAt) ∧
        source.checkFrequency.cadence + settings.grace < (now : Int) - check.checkedAt)

/-- A run of failures the two instants do not show: a sweep that succeeded carries the instant of the first failure of the run, not yet
longer ago than the cadence and the grace. -/
def Tied (settings : StaleSettings) (log : List SourceCheck) (source : Source) (now : Instant) : Prop :=
  source.active = true ∧ settings.afterChecks ≤ (latest log source.id).length ∧
    (∀ check ∈ (latest log source.id).take settings.afterChecks, check.status = .failed) ∧
    ∃ nth ∈ (latest log source.id)[settings.afterChecks - 1]?, ∃ check ∈ latest log source.id, check.status = .ok ∧
      check.checkedAt = nth.checkedAt ∧ (now : Int) - check.checkedAt ≤ source.checkFrequency.cadence + settings.grace

variable {settings : StaleSettings} {log : List SourceCheck} {source : Source} {now last nth : Instant} {check other : SourceCheck}

theorem latest_sorted (log : List SourceCheck) (source : Id) :
    (latest log source).Pairwise fun check other => other.checkedAt ≤ check.checkedAt := by
  refine (inOrder_sorted SourceCheck.place _).imp fun {check other} placed => ?_
  rcases Prod.Lex.le_iff.mp (OrderDual.toDual_le_toDual.mp placed) with earlier | ⟨same, -⟩
  · exact Nat.le_of_lt earlier
  · exact Nat.le_of_eq same

theorem lastOkAt_eq_some (settings : StaleSettings) : (coverageRow log settings.afterChecks source).lastOkAt = some last ↔
    ∃ check ∈ latest log source.id, check.status = .ok ∧ check.checkedAt = last ∧
      ∀ other ∈ latest log source.id, other.status = .ok → other.checkedAt ≤ last := by
  have sorted := (latest_sorted log source.id).filter (·.status = .ok)
  have listed : ∀ check, check ∈ (latest log source.id).filter (·.status = .ok) ↔ check ∈ latest log source.id ∧ check.status = .ok := by
    intro check
    rw [List.mem_filter, decide_eq_true_eq]
  unfold coverageRow
  dsimp only
  cases found : (latest log source.id).filter (·.status = .ok) with
  | nil =>
    refine iff_of_false (by simp) ?_
    rintro ⟨check, there, ok, -⟩
    have among := (listed check).mpr ⟨there, ok⟩
    rw [found] at among
    cases among
  | cons first rest =>
    rw [found] at sorted listed
    obtain ⟨there, ok⟩ := (listed first).mp List.mem_cons_self
    have most : ∀ other ∈ latest log source.id, other.status = .ok → other.checkedAt ≤ first.checkedAt := by
      intro other here succeeded
      rcases List.mem_cons.mp ((listed other).mpr ⟨here, succeeded⟩) with rfl | later
      · exact Nat.le_refl _
      · exact (List.pairwise_cons.mp sorted).1 other later
    rw [List.head?_cons, Option.map_some, Option.some.injEq]
    constructor
    · rintro rfl
      exact ⟨first, there, ok, rfl, most⟩
    · rintro ⟨check, here, succeeded, rfl, others⟩
      exact Nat.le_antisymm (others first there ok) (most check here succeeded)

theorem lastOkAt_eq_none (settings : StaleSettings) (none_ : (coverageRow log settings.afterChecks source).lastOkAt = none) :
    ∀ check ∈ latest log source.id, check.status = .failed := by
  intro check there
  cases status : check.status with
  | failed => rfl
  | ok =>
    have among : check ∈ (latest log source.id).filter (·.status = .ok) := List.mem_filter.mpr ⟨there, decide_eq_true status⟩
    rw [List.head?_eq_none_iff.mp (Option.map_eq_none_iff.mp none_)] at among
    cases among

theorem nthSweepAt_eq_some : (coverageRow log settings.afterChecks source).nthSweepAt = some nth ↔
    ∃ check ∈ (latest log source.id)[settings.afterChecks - 1]?, check.checkedAt = nth := Option.map_eq_some_iff

theorem around_nth (found : (latest log source.id)[settings.afterChecks - 1]? = some check) :
    settings.afterChecks ≤ (latest log source.id).length ∧
    (∀ other ∈ (latest log source.id).take settings.afterChecks, check.checkedAt ≤ other.checkedAt) ∧
    (∀ other ∈ latest log source.id, other ∈ (latest log source.id).take settings.afterChecks ∨ other.checkedAt ≤ check.checkedAt) := by
  obtain ⟨within, same⟩ := List.getElem?_eq_some_iff.mp found
  have positive := settings.positive
  have cut : settings.afterChecks = settings.afterChecks - 1 + 1 := by omega
  have parts : latest log source.id =
      (latest log source.id).take (settings.afterChecks - 1) ++ check :: (latest log source.id).drop settings.afterChecks := by
    conv_lhs => rw [← List.take_append_drop (settings.afterChecks - 1) (latest log source.id), List.drop_eq_getElem_cons within, same]
    rw [← cut]
  have front : (latest log source.id).take settings.afterChecks = (latest log source.id).take (settings.afterChecks - 1) ++ [check] := by
    rw [cut, List.take_add_one, Nat.add_sub_cancel, found]
    rfl
  have sorted := latest_sorted log source.id
  rw [parts, List.pairwise_append, List.pairwise_cons] at sorted
  refine ⟨by omega, fun other there => ?_, fun other there => ?_⟩
  · rw [front] at there
    rcases List.mem_append.mp there with before | itself
    · exact sorted.2.2 other before check List.mem_cons_self
    · rw [List.mem_singleton.mp itself]
  · rw [parts] at there
    rcases List.mem_append.mp there with before | later
    · exact .inl (front ▸ List.mem_append_left _ before)
    · rcases List.mem_cons.mp later with rfl | after
      · exact .inr (Nat.le_refl _)
      · exact .inr (sorted.2.1.1 other after)

theorem isOverdue_iff {row : Coverage} {grace : Int} : isOverdue row now grace = true ↔ row.source.active = true ∧
    ((∃ nth ∈ row.nthSweepAt, ∀ last ∈ row.lastOkAt, last < nth) ∨
      ∃ last ∈ row.lastOkAt, row.source.checkFrequency.cadence + grace < (now : Int) - last) := by
  unfold isOverdue
  cases row.source.active with
  | false => simp
  | true =>
    cases row.nthSweepAt with
    | none =>
      cases row.lastOkAt with
      | none | some => simp
    | some =>
      cases row.lastOkAt with
      | none => simp
      | some =>
        simp only [not_true_eq_false, if_false, Option.any_some, Option.all_some, Option.mem_def, Option.some.injEq, true_and]
        split
        · next newer => simpa using .inl (of_decide_eq_true newer)
        · next older => simpa using fun newer => absurd (decide_eq_true newer) older

def FailedRun (settings : StaleSettings) (log : List SourceCheck) (source : Source) : Prop :=
  settings.afterChecks ≤ (latest log source.id).length ∧ ∀ check ∈ (latest log source.id).take settings.afterChecks, check.status = .failed

theorem failedRun_of_newer (found : (latest log source.id)[settings.afterChecks - 1]? = some check)
    (newer : ∀ last ∈ (coverageRow log settings.afterChecks source).lastOkAt, last < check.checkedAt) : FailedRun settings log source := by
  obtain ⟨enough, before, -⟩ := around_nth found
  refine ⟨enough, fun other there => ?_⟩
  cases recent : (coverageRow log settings.afterChecks source).lastOkAt with
  | none => exact lastOkAt_eq_none settings recent other (List.mem_of_mem_take there)
  | some last =>
    obtain ⟨-, -, -, -, most⟩ := (lastOkAt_eq_some settings).mp recent
    cases status : other.status with
    | failed => rfl
    | ok =>
      have late := Nat.le_trans (before other there) (most other (List.mem_of_mem_take there) status)
      exact absurd (newer last recent) (Nat.not_lt.mpr late)

theorem lastOkAt_le (run : FailedRun settings log source) (found : (latest log source.id)[settings.afterChecks - 1]? = some check)
    (recent : (coverageRow log settings.afterChecks source).lastOkAt = some last) : last ≤ check.checkedAt := by
  obtain ⟨success, there, ok, rfl, -⟩ := (lastOkAt_eq_some settings).mp recent
  rcases (around_nth found).2.2 success there with within | after
  · have failed := run.2 success within
    rw [ok] at failed
    cases failed
  · exact after

/-- A source is told overdue exactly when it is stale, but where a success carries the instant a run of failures began. -/
theorem isOverdue_stale_iff (settings : StaleSettings) (log : List SourceCheck) (source : Source) (now : Instant) :
    (isOverdue (coverageRow log settings.afterChecks source) now settings.grace = true ↔ Stale settings log source now) ↔
      ¬Tied settings log source now := by
  have long : (∃ check ∈ latest log source.id, check.status = .ok ∧
      (∀ other ∈ latest log source.id, other.status = .ok → other.checkedAt ≤ check.checkedAt) ∧
      source.checkFrequency.cadence + settings.grace < (now : Int) - check.checkedAt) ↔
      ∃ last ∈ (coverageRow log settings.afterChecks source).lastOkAt, source.checkFrequency.cadence + settings.grace < (now : Int) - last := by
    constructor
    · rintro ⟨check, there, ok, most, ago⟩
      exact ⟨check.checkedAt, (lastOkAt_eq_some settings).mpr ⟨check, there, ok, rfl, most⟩, ago⟩
    · rintro ⟨last, recent, ago⟩
      obtain ⟨check, there, ok, rfl, most⟩ := (lastOkAt_eq_some settings).mp recent
      exact ⟨check, there, ok, most, ago⟩
  rw [isOverdue_iff, Stale, long]
  have same : (coverageRow log settings.afterChecks source).source = source := rfl
  rw [same]
  constructor
  · rintro agree ⟨active, enough, failed, nth, found, success, there, ok, tie, ago⟩
    obtain ⟨-, told⟩ := agree.mpr ⟨active, .inl ⟨enough, failed⟩⟩
    have most : ∀ other ∈ latest log source.id, other.status = .ok → other.checkedAt ≤ success.checkedAt := by
      intro other here succeeded
      rcases (around_nth found).2.2 other here with within | after
      · have failed_ := failed other within
        rw [succeeded] at failed_
        cases failed_
      · exact tie ▸ after
    have recent := (lastOkAt_eq_some settings).mpr ⟨success, there, ok, rfl, most⟩
    rcases told with ⟨_, sweep, newer⟩ | ⟨last, found_, longer⟩
    · obtain ⟨nth_, found_, rfl⟩ := nthSweepAt_eq_some.mp sweep
      obtain rfl := Option.some.inj (found.symm.trans found_)
      exact absurd (newer _ recent) (tie ▸ Nat.lt_irrefl _)
    · obtain rfl := Option.some.inj (recent.symm.trans found_)
      exact absurd longer (Int.not_lt.mpr ago)
  · intro untied
    refine and_congr_right fun active => ⟨fun told => ?_, fun stale => ?_⟩
    · refine told.imp_left ?_
      rintro ⟨_, sweep, newer⟩
      obtain ⟨check, found, rfl⟩ := nthSweepAt_eq_some.mp sweep
      exact failedRun_of_newer found newer
    · rcases stale with run | longer
      · have within : settings.afterChecks - 1 < (latest log source.id).length := by
          have positive := settings.positive
          have enough := run.1
          omega
        have found := List.getElem?_eq_getElem within
        cases recent : (coverageRow log settings.afterChecks source).lastOkAt with
        | none => exact .inl ⟨_, nthSweepAt_eq_some.mpr ⟨_, found, rfl⟩, nofun⟩
        | some last =>
          rcases Nat.lt_or_eq_of_le (lastOkAt_le run found recent) with newer | tie
          · refine .inl ⟨_, nthSweepAt_eq_some.mpr ⟨_, found, rfl⟩, ?_⟩
            rintro _ ⟨⟩
            exact newer
          · obtain ⟨success, there, ok, rfl, -⟩ := (lastOkAt_eq_some settings).mp recent
            refine .inr ⟨success.checkedAt, rfl, ?_⟩
            by_contra soon
            exact untied ⟨active, run.1, run.2, _, found, success, there, ok, tie, Int.not_lt.mp soon⟩
      · exact .inr longer

/-! ## A failure at the instant of a success -/

def tiedSource : Source := { id := 1, name := "Finansinspektionen", kind := "supervisor" }

def tiedLog : List SourceCheck :=
  [{ id := 1, source := 1, kind := .sweep, status := .ok, checkedAt := 1000 },
    { id := 2, source := 1, kind := .sweep, status := .failed, checkedAt := 1000, error := "timed out" }]

def oneFailure : StaleSettings := { afterChecks := 1, positive := Nat.le_refl 1, grace := 24 * hour }

/-- The last line of the log failed, and the source is not told overdue. -/
theorem tiedLog_missed : isOverdue (coverageRow tiedLog oneFailure.afterChecks tiedSource) 1000 oneFailure.grace = false ∧
    Stale oneFailure tiedLog tiedSource 1000 := by
  refine ⟨by decide +kernel, rfl, .inl ⟨by decide +kernel, ?_⟩⟩
  have first : (latest tiedLog tiedSource.id).take oneFailure.afterChecks =
      [{ id := 2, source := 1, kind := .sweep, status := .failed, checkedAt := 1000, error := "timed out" }] := by decide +kernel
  rw [first]
  exact List.forall_mem_singleton.mpr rfl

end Grc.Watch
