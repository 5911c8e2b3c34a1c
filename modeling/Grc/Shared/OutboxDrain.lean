import Grc.Shared.Outbox
import Mathlib.Algebra.Order.BigOperators.Group.List
import Mathlib.Algebra.Order.Group.Nat

/-! One drain of the outbox: whichever handlers fail, no row overtakes one that is still tried, and what
is published is what was delivered, with the work of all its handlers. -/
namespace Grc.Shared

open Grc.Lib

variable {World Payload : Type} {settings : OutboxSettings} {drain : Drain World Payload}
  {outbox : Outbox World Payload} {row event : OutboxEvent Payload}

namespace Outbox

/-- What the database keeps of the table. -/
structure Sound (outbox : Outbox World Payload) : Prop where
  tenants : outbox.tenants.Nodup
  ids : (outbox.rows.map (·.id)).Nodup
  known : ∀ row ∈ outbox.rows, ∀ tenant ∈ row.tenant, tenant ∈ outbox.tenants

theorem Sound.unique (sound : outbox.Sound) : ∀ row ∈ outbox.rows, ∀ other ∈ outbox.rows, row.id = other.id → row = other :=
  fun _ there _ here same => List.inj_on_of_nodup_map sound.ids there here same

theorem Sound.apart (sound : outbox.Sound) : Apart OutboxEvent.place (outbox.rows.filter (·.isPending settings)) := by
  intro row member other among same
  have ids : row.id = other.id := (Prod.mk.inj (toLex.injective same)).2
  exact sound.unique row (List.mem_of_mem_filter member) other (List.mem_of_mem_filter among) ids

theorem pending_eq (sound : outbox.Sound) (limit : Nat) : outbox.pending settings limit =
    (inOrder OutboxEvent.place (outbox.rows.filter (·.isPending settings))).take limit := by
  apply merged_eq ((List.Nodup.of_map _ sound.ids).filter _) sound.apart
  · rw [List.nodup_cons]
    exact ⟨by simp, sound.tenants.map (Option.some_injective _)⟩
  · intro row member
    cases tenant : row.tenant with
    | none => exact List.mem_cons_self
    | some named =>
      have known := sound.known row (List.mem_of_mem_filter member) named tenant
      exact List.mem_cons_of_mem _ (List.mem_map_of_mem known)

def Precedes (row other : OutboxEvent Payload) : Prop := row.place < other.place

theorem pending_ordered (settings : OutboxSettings) (sound : outbox.Sound) (limit : Nat) :
    (outbox.pending settings limit).Pairwise Precedes := by
  rw [pending_eq sound]
  exact (inOrder_strict ((List.Nodup.of_map _ sound.ids).filter _) sound.apart).sublist (List.take_sublist _ _)

theorem mem_pending (sound : outbox.Sound) {limit : Nat} (member : row ∈ outbox.pending settings limit) :
    row ∈ outbox.rows ∧ row.isPending settings = true := by
  rw [pending_eq sound] at member
  exact List.mem_filter.mp (mem_inOrder.mp (List.mem_of_mem_take member))

theorem pending_ids (settings : OutboxSettings) (sound : outbox.Sound) (limit : Nat) :
    ((outbox.pending settings limit).map (·.id)).Nodup := by
  have distinct : (outbox.pending settings limit).Nodup := (pending_ordered settings sound limit).imp fun earlier => by
    rintro rfl
    exact lt_irrefl _ earlier
  exact distinct.map_on fun row there other here =>
    sound.unique row (mem_pending sound there).1 other (mem_pending sound here).1

theorem pending_down (sound : outbox.Sound) {limit : Nat} (taken : event ∈ outbox.pending settings limit)
    (there : row ∈ outbox.rows) (waits : row.isPending settings = true) (earlier : Precedes row event) :
    row ∈ outbox.pending settings limit := by
  have strict := inOrder_strict ((List.Nodup.of_map _ sound.ids).filter (·.isPending settings)) sound.apart
  rw [pending_eq sound, mem_take strict] at taken ⊢
  exact ⟨mem_inOrder.mpr (List.mem_filter.mpr ⟨there, waits⟩), lt_of_le_of_lt (before_mono (le_of_lt earlier)) taken.2⟩

end Outbox

def counted (failures : List (OutboxEvent Payload × String)) (row : OutboxEvent Payload) : OutboxEvent Payload :=
  failures.foldl (fun row failure => countFailure failure.1 failure.2 row) row

/-- What a counted failure leaves of a row. -/
structure SameRow (row later : OutboxEvent Payload) : Prop where
  id : later.id = row.id
  tenant : later.tenant = row.tenant
  created : later.created = row.created

theorem countFailure_same (event : OutboxEvent Payload) (error : String) (row : OutboxEvent Payload) :
    SameRow row (countFailure event error row) ∧ (countFailure event error row).publishedAt = row.publishedAt := by
  unfold countFailure
  split
  · exact ⟨⟨rfl, rfl, rfl⟩, rfl⟩
  · exact ⟨⟨rfl, rfl, rfl⟩, rfl⟩

theorem counted_same (failures : List (OutboxEvent Payload × String)) (row : OutboxEvent Payload) :
    SameRow row (counted failures row) ∧ (counted failures row).publishedAt = row.publishedAt := by
  induction failures generalizing row with
  | nil => exact ⟨⟨rfl, rfl, rfl⟩, rfl⟩
  | cons failure rest ih =>
    obtain ⟨same, published⟩ := countFailure_same failure.1 failure.2 row
    obtain ⟨again, still⟩ := ih (countFailure failure.1 failure.2 row)
    exact ⟨⟨again.id.trans same.id, again.tenant.trans same.tenant, again.created.trans same.created⟩,
      still.trans published⟩

theorem counted_other {failures : List (OutboxEvent Payload × String)} (spared : row.id ∉ failures.map (·.1.id)) :
    counted failures row = row := by
  induction failures with
  | nil => rfl
  | cons failure rest ih =>
    rw [List.map_cons, List.mem_cons, not_or] at spared
    rw [counted, List.foldl_cons, countFailure, if_neg spared.1]
    exact ih spared.2

theorem counted_attempts {failures : List (OutboxEvent Payload × String)} {failure : OutboxEvent Payload × String}
    (unique : (failures.map (·.1.id)).Nodup) (failed : failure ∈ failures) (same : row.id = failure.1.id) :
    (counted failures row).attempts = failure.1.attempts + 1 := by
  induction failures generalizing row with
  | nil => cases failed
  | cons first rest ih =>
    rw [List.map_cons, List.nodup_cons] at unique
    rcases List.mem_cons.mp failed with rfl | later
    · have spared : (countFailure failure.1 failure.2 row).id ∉ rest.map (·.1.id) := by
        rw [(countFailure_same failure.1 failure.2 row).1.id, same]
        exact unique.1
      calc (counted (failure :: rest) row).attempts
          = (counted rest (countFailure failure.1 failure.2 row)).attempts := rfl
        _ = (countFailure failure.1 failure.2 row).attempts := congrArg OutboxEvent.attempts (counted_other spared)
        _ = failure.1.attempts + 1 := by rw [countFailure, if_pos same]
    · have other : row.id ≠ first.1.id := by
        intro hit
        apply unique.1
        rw [← hit, same]
        exact List.mem_map_of_mem (f := fun failure : OutboxEvent Payload × String => failure.1.id) later
      rw [counted, List.foldl_cons, countFailure, if_neg other]
      exact ih unique.2 later same

theorem deliverRows_pass (settings : OutboxSettings) (drain : Drain World Payload) (events : List (OutboxEvent Payload))
    (batch : Batch World Payload) :
    ∃ delivered spent stopped failures,
      Pass (runHandlers drain.handlers) (Spends settings) events batch.world delivered spent stopped
        (deliverRows settings drain events batch).world ∧
      (deliverRows settings drain events batch).delivered = batch.delivered ++ delivered ∧
      failures.map Prod.fst = spent ++ stopped.toList ∧
      (deliverRows settings drain events batch).rows = batch.rows.map (counted failures) := by
  induction events generalizing batch with
  | nil => exact ⟨[], [], none, [], .done _, (List.append_nil _).symm, rfl, (List.map_id _).symm⟩
  | cons event rest ih =>
    cases outcome : runHandlers drain.handlers event batch.world with
    | ok world =>
      obtain ⟨delivered, spent, stopped, failures, pass, taken, failed, rows⟩ := ih { batch with
        world, delivered := batch.delivered ++ [event]
        cursor := { lastCreated := some event.created, lastId := some event.id, retryNotBefore := none } }
      refine ⟨event :: delivered, spent, stopped, failures, ?_, ?_, failed, ?_⟩
      · rw [deliverRows, outcome]
        exact .deliver outcome pass
      · rw [deliverRows, outcome]
        exact taken.trans (List.append_assoc _ _ _)
      · rw [deliverRows, outcome]
        exact rows
    | error error =>
      by_cases final : Spends settings event
      · obtain ⟨delivered, spent, stopped, failures, pass, taken, failed, rows⟩ := ih { batch with
          rows := batch.rows.map (countFailure event error), failed := batch.failed + 1
          cursor := { batch.cursor with retryNotBefore := none } }
        refine ⟨delivered, event :: spent, stopped, (event, error) :: failures, ?_, ?_, ?_, ?_⟩
        · rw [deliverRows, outcome]
          dsimp only
          rw [if_pos final]
          exact .spend outcome final pass
        · rw [deliverRows, outcome]
          dsimp only
          rw [if_pos final]
          exact taken
        · rw [List.map_cons, failed]
          rfl
        · rw [deliverRows, outcome]
          dsimp only
          rw [if_pos final, rows, List.map_map]
          rfl
      · refine ⟨[], [], some event, [(event, error)], ?_, ?_, rfl, ?_⟩
        · rw [deliverRows, outcome]
          dsimp only
          rw [if_neg final]
          exact .stop rest outcome final
        · rw [deliverRows, outcome]
          dsimp only
          rw [if_neg final]
          exact (List.append_nil _).symm
        · rw [deliverRows, outcome]
          dsimp only
          rw [if_neg final]
          rfl

def tries (settings : OutboxSettings) (row : OutboxEvent Payload) : Nat :=
  if row.isPending settings then settings.maxAttempts - row.attempts else 0

namespace Outbox

theorem deliverBatch_pass (settings : OutboxSettings) (running : outbox.runs drain) : ∃ spent stopped failures,
    Pass (runHandlers drain.handlers) (Spends settings) (outbox.pending settings settings.batchSize) outbox.world
      (outbox.delivers settings drain) spent stopped (outbox.deliverBatch settings drain).1.world ∧
    failures.map Prod.fst = spent ++ stopped.toList ∧
    (outbox.deliverBatch settings drain).1.rows = outbox.rows.map fun row =>
      markPublished (outbox.delivers settings drain) drain.moment (counted failures row) := by
  obtain ⟨delivered, spent, stopped, failures, pass, taken, failed, rows⟩ :=
    deliverRows_pass settings drain (outbox.pending settings settings.batchSize)
      { rows := outbox.rows, cursor := outbox.cursor, world := outbox.world }
  have whole : outbox.delivers settings drain = delivered := by
    rw [delivers, if_pos running]
    exact taken
  refine ⟨spent, stopped, failures, ?_, failed, ?_⟩
  · rw [whole, deliverBatch, if_pos running]
    exact pass
  · have marked : (outbox.deliverBatch settings drain).1.rows = (outbox.batch settings drain).rows.map
        (markPublished (outbox.batch settings drain).delivered drain.moment) := by
      rw [deliverBatch, if_pos running]
    rw [marked, batch, rows, List.map_map, delivers, if_pos running]
    rfl

/-- A batch in which a row still tried comes to an end, with all before it delivered or given up. -/
def StopsAt (settings : OutboxSettings) (before after : Outbox World Payload) (delivered : List (OutboxEvent Payload))
    (stop : OutboxEvent Payload) : Prop :=
  stop ∈ before.pending settings settings.batchSize ∧
    (∃ later ∈ after.rows, later.id = stop.id ∧ later.publishedAt = none ∧ later.attempts = stop.attempts + 1 ∧
      later.attempts < settings.maxAttempts) ∧
    ∀ event ∈ delivered, Precedes event stop

def GivenUp (settings : OutboxSettings) (after : Outbox World Payload) (row : OutboxEvent Payload) : Prop :=
  ∃ later ∈ after.rows, later.id = row.id ∧ later.publishedAt = none ∧ settings.maxAttempts ≤ later.attempts

def triesLeft (settings : OutboxSettings) (outbox : Outbox World Payload) : Nat :=
  (outbox.rows.map (tries settings)).sum

/-- What a drain does to the outbox, whichever handlers fail. -/
structure Drained (settings : OutboxSettings) (drain : Drain World Payload) (before after : Outbox World Payload)
    (delivered : List (OutboxEvent Payload)) : Prop where
  ordered : delivered.Pairwise Precedes
  taken : ∀ event ∈ delivered, event ∈ before.rows ∧ event.isPending settings = true
  /-- No row is delivered before one that is still tried. -/
  overtakesNone : ∀ event ∈ delivered, ∀ row ∈ before.rows, row.isPending settings = true → Precedes row event →
    row ∈ delivered ∨ GivenUp settings after row
  /-- The work of the delivered rows' handlers, whole and in order, and of no other. -/
  effects : delivered.foldlM (fun world event => runHandlers drain.handlers event world) before.world = .ok after.world
  /-- A row is published exactly when it is delivered. -/
  rows : ∀ row ∈ before.rows, ∃ later ∈ after.rows, SameRow row later ∧
    (row ∈ delivered → later.publishedAt = some drain.moment) ∧
    (row ∉ delivered → later.publishedAt = row.publishedAt)
  ids : after.rows.map (·.id) = before.rows.map (·.id)
  tenants : after.tenants = before.tenants
  /-- A row that was not pending is left as it is. -/
  keeps : ∀ row ∈ before.rows, row.isPending settings = false → row ∈ after.rows
  /-- A drain that runs delivers or gives up the whole batch, or stops at a row still tried. -/
  goesOn : before.runs drain →
    (∀ event ∈ before.pending settings settings.batchSize, event ∈ delivered ∨ GivenUp settings after event) ∨
      ∃ stop, StopsAt settings before after delivered stop
  /-- A drain that runs on a pending row delivers one or spends an attempt. -/
  progress : before.runs drain → 0 < settings.batchSize → (∃ row ∈ before.rows, row.isPending settings = true) →
    after.triesLeft settings < before.triesLeft settings

end Outbox

theorem markPublished_same (delivered : List (OutboxEvent Payload)) (moment : Instant) (row : OutboxEvent Payload) :
    SameRow row (markPublished delivered moment row) ∧ (markPublished delivered moment row).attempts = row.attempts := by
  unfold markPublished
  split
  · exact ⟨⟨rfl, rfl, rfl⟩, rfl⟩
  · exact ⟨⟨rfl, rfl, rfl⟩, rfl⟩

theorem markPublished_delivered {delivered : List (OutboxEvent Payload)} {moment : Instant} {later : OutboxEvent Payload}
    (member : row ∈ delivered) (same : SameRow row later) :
    (markPublished delivered moment later).publishedAt = some moment := by
  have hit : delivered.any (fun event => event.tenant == later.tenant && event.id == later.id) = true :=
    List.any_eq_true.mpr ⟨row, member, by rw [same.tenant, same.id, beq_self_eq_true, beq_self_eq_true]; rfl⟩
  rw [markPublished, if_pos hit]

theorem markPublished_other {delivered : List (OutboxEvent Payload)} {moment : Instant} {later : OutboxEvent Payload}
    (spared : later.id ∉ delivered.map (·.id)) : markPublished delivered moment later = later := by
  apply if_neg
  intro hit
  obtain ⟨event, member, same⟩ := List.any_eq_true.mp hit
  rw [Bool.and_eq_true, beq_iff_eq, beq_iff_eq] at same
  apply spared
  rw [← same.2]
  exact List.mem_map_of_mem member

namespace Outbox

section Running

variable {delivered spent : List (OutboxEvent Payload)} {stopped : Option (OutboxEvent Payload)}
  {failures : List (OutboxEvent Payload × String)} {after : World}

def left (delivered : List (OutboxEvent Payload)) (moment : Instant) (failures : List (OutboxEvent Payload × String))
    (row : OutboxEvent Payload) : OutboxEvent Payload :=
  markPublished delivered moment (counted failures row)

theorem left_same (moment : Instant) (row : OutboxEvent Payload) : SameRow row (left delivered moment failures row) := by
  have counts := (counted_same failures row).1
  have marks := (markPublished_same delivered moment (counted failures row)).1
  exact ⟨marks.id.trans counts.id, marks.tenant.trans counts.tenant, marks.created.trans counts.created⟩

theorem notin_ids (sound : outbox.Sound) {rows : List (OutboxEvent Payload)}
    (within : ∀ other ∈ rows, other ∈ outbox.rows) (there : row ∈ outbox.rows) (missing : row ∉ rows) :
    row.id ∉ rows.map (·.id) := by
  intro hit
  obtain ⟨other, member, same⟩ := List.mem_map.mp hit
  rw [sound.unique row there other (within other member) same.symm] at missing
  exact missing member

variable (sound : outbox.Sound) (pass : Pass (runHandlers drain.handlers) (Spends settings)
  (outbox.pending settings settings.batchSize) outbox.world delivered spent stopped after)
include sound pass

theorem delivered_within : ∀ event ∈ delivered, event ∈ outbox.rows ∧ event.isPending settings = true :=
  fun _ member => mem_pending sound (pass.delivered_sublist.subset member)

theorem failed_within : ∀ event ∈ spent ++ stopped.toList, event ∈ outbox.rows ∧ event.isPending settings = true :=
  fun _ member => mem_pending sound (pass.failed_sublist.subset member)

theorem left_published (moment : Instant) (failures : List (OutboxEvent Payload × String)) (there : row ∈ outbox.rows) :
    (row ∈ delivered → (left delivered moment failures row).publishedAt = some moment) ∧
      (row ∉ delivered → (left delivered moment failures row).publishedAt = row.publishedAt) := by
  obtain ⟨same, published⟩ := counted_same failures row
  constructor
  · exact fun member => markPublished_delivered member same
  · intro missing
    have spared : (counted failures row).id ∉ delivered.map (·.id) := by
      rw [same.id]
      exact notin_ids sound (fun other member => (delivered_within sound pass other member).1) there missing
    rw [left, markPublished_other spared]
    exact published

theorem left_failed (moment : Instant) (failed : failures.map Prod.fst = spent ++ stopped.toList)
    (member : event ∈ spent ++ stopped.toList) : (left delivered moment failures event).publishedAt = none ∧
      (left delivered moment failures event).attempts = event.attempts + 1 := by
  obtain ⟨there, waits⟩ := failed_within sound pass event member
  have missing : event ∉ delivered := by
    intro taken
    have unique := (pending_ids settings sound settings.batchSize).of_map
    exact pass.apart unique event taken member
  constructor
  · rw [(left_published sound pass moment failures there).2 missing]
    rw [OutboxEvent.isPending, Bool.and_eq_true, Option.isNone_iff_eq_none] at waits
    exact waits.1
  · have ids : failures.map (·.1.id) = (spent ++ stopped.toList).map (·.id) := by
      rw [← failed, List.map_map]
      rfl
    have unique : (failures.map (·.1.id)).Nodup := by
      rw [ids]
      exact (pending_ids settings sound settings.batchSize).sublist (pass.failed_sublist.map _)
    rw [← failed] at member
    obtain ⟨failure, listed, rfl⟩ := List.mem_map.mp member
    rw [left, (markPublished_same _ _ _).2]
    exact counted_attempts unique listed rfl

theorem left_kept (moment : Instant) (failed : failures.map Prod.fst = spent ++ stopped.toList) (there : row ∈ outbox.rows)
    (undelivered : row ∉ delivered) (unfailed : row ∉ spent ++ stopped.toList) :
    left delivered moment failures row = row := by
  have ids : failures.map (·.1.id) = (spent ++ stopped.toList).map (·.id) := by
    rw [← failed, List.map_map]
    rfl
  have spared : row.id ∉ failures.map (·.1.id) := by
    rw [ids]
    exact notin_ids sound (fun other member => (failed_within sound pass other member).1) there unfailed
  rw [left, counted_other spared]
  exact markPublished_other (notin_ids sound (fun other member => (delivered_within sound pass other member).1) there
    undelivered)

theorem left_tries (moment : Instant) (failed : failures.map Prod.fst = spent ++ stopped.toList)
    (attempted : event ∈ delivered ∨ event ∈ spent ++ stopped.toList) :
    tries settings (left delivered moment failures event) < tries settings event := by
  have waits : event.isPending settings = true := by
    rcases attempted with taken | failing
    · exact (delivered_within sound pass event taken).2
    · exact (failed_within sound pass event failing).2
  have some : tries settings event = settings.maxAttempts - event.attempts := if_pos waits
  rw [OutboxEvent.isPending, Bool.and_eq_true, decide_eq_true_eq] at waits
  rcases attempted with taken | failing
  · have published := (left_published sound pass moment failures (delivered_within sound pass event taken).1).1 taken
    have settled : ¬(left delivered moment failures event).isPending settings = true := by
      rw [OutboxEvent.isPending, published]
      exact Bool.false_ne_true
    rw [some, tries, if_neg settled]
    omega
  · obtain ⟨-, counts⟩ := left_failed sound pass moment failed failing
    rw [some, tries, counts]
    split
    · omega
    · omega

theorem left_tries_le (moment : Instant) (failed : failures.map Prod.fst = spent ++ stopped.toList)
    (there : row ∈ outbox.rows) : tries settings (left delivered moment failures row) ≤ tries settings row := by
  by_cases attempted : row ∈ delivered ∨ row ∈ spent ++ stopped.toList
  · exact (left_tries sound pass moment failed attempted).le
  · rw [not_or] at attempted
    rw [left_kept sound pass moment failed there attempted.1 attempted.2]

theorem left_givenUp (failed : failures.map Prod.fst = spent ++ stopped.toList) (member : event ∈ spent)
    {later : Outbox World Payload} (rows : later.rows = outbox.rows.map (left delivered drain.moment failures)) :
    GivenUp settings later event := by
  have among : event ∈ spent ++ stopped.toList := List.mem_append_left _ member
  obtain ⟨unpublished, attempts⟩ := left_failed sound pass drain.moment failed among
  have there : event ∈ outbox.rows := (failed_within sound pass event among).1
  refine ⟨left delivered drain.moment failures event, ?_, (left_same drain.moment event).id, unpublished, ?_⟩
  · rw [rows]
    exact List.mem_map_of_mem there
  · have final : Spends settings event := pass.spent_last event member
    rw [attempts]
    exact final

end Running

theorem drained (sound : outbox.Sound) (settings : OutboxSettings) (drain : Drain World Payload) :
    Drained settings drain outbox (outbox.deliverBatch settings drain).1 (outbox.delivers settings drain) := by
  by_cases running : outbox.runs drain
  · obtain ⟨spent, stopped, failures, pass, failed, rows⟩ := deliverBatch_pass settings running
    have rows : (outbox.deliverBatch settings drain).1.rows =
        outbox.rows.map (left (outbox.delivers settings drain) drain.moment failures) := rows
    have ordered := pending_ordered settings sound settings.batchSize
    have leaves : ∀ row ∈ outbox.rows, left (outbox.delivers settings drain) drain.moment failures row ∈
        (outbox.deliverBatch settings drain).1.rows := by
      intro row there
      rw [rows]
      exact List.mem_map_of_mem there
    have attempts : ∀ event, event ∈ outbox.delivers settings drain ∨ event ∈ spent ∨ stopped = some event →
        ∀ row ∈ outbox.pending settings settings.batchSize, Precedes row event →
          row ∈ outbox.delivers settings drain ∨ row ∈ spent :=
      fun event attempted row member before => pass.earlier ordered (fun _ _ => lt_asymm) attempted member before
    constructor
    · exact ordered.sublist pass.delivered_sublist
    · exact delivered_within sound pass
    · intro event member row there waits before
      have among := pending_down sound (pass.delivered_sublist.subset member) there waits before
      rcases attempts event (.inl member) row among before with taken | given
      · exact .inl taken
      · exact .inr (left_givenUp sound pass failed given rows)
    · exact pass.effects
    · intro row there
      obtain ⟨marked, unmarked⟩ := left_published sound pass drain.moment failures there
      exact ⟨_, leaves row there, left_same drain.moment row, marked, unmarked⟩
    · rw [rows, List.map_map]
      exact List.map_congr_left fun row _ => (left_same drain.moment row).id
    · rw [deliverBatch, if_pos running]
    · intro row there settled
      have undelivered : row ∉ outbox.delivers settings drain := by
        intro member
        rw [(delivered_within sound pass row member).2] at settled
        cases settled
      have unfailed : row ∉ spent ++ stopped.toList := by
        intro member
        rw [(failed_within sound pass row member).2] at settled
        cases settled
      rw [← left_kept sound pass drain.moment failed there undelivered unfailed]
      exact leaves row there
    · intro _
      cases stopped with
      | none =>
        left
        intro event member
        rcases pass.through event member with taken | given
        · exact .inl taken
        · exact .inr (left_givenUp sound pass failed given rows)
      | some stop =>
        have among : stop ∈ spent ++ (some stop).toList := List.mem_append_right _ List.mem_cons_self
        obtain ⟨unpublished, counts⟩ := left_failed sound pass drain.moment failed among
        have there := (failed_within sound pass stop among).1
        have again : ¬Spends settings stop := pass.stopped_again stop rfl
        refine .inr ⟨stop, pass.failed_sublist.subset among, ⟨_, leaves stop there, (left_same drain.moment stop).id, unpublished,
          counts, ?_⟩, ?_⟩
        · rw [counts]
          exact Nat.lt_of_not_le again
        · intro event member
          have distinct := (pending_ids settings sound settings.batchSize).of_map
          have apart : event ∉ spent ++ (some stop).toList := pass.apart distinct event member
          have others : event.place ≠ stop.place := by
            intro same
            obtain ⟨eventThere, waits⟩ := delivered_within sound pass event member
            have ids : event.id = stop.id := (Prod.mk.inj (toLex.injective same)).2
            rw [sound.unique event eventThere stop there ids] at apart
            exact apart among
          rcases lt_or_gt_of_ne others with before | after
          · exact before
          -- a row before a delivered one was delivered or spent; the one the batch stopped at is neither
          · rcases attempts event (.inl member) stop (pass.failed_sublist.subset among) after with taken | given
            · exact absurd among (pass.apart distinct stop taken)
            · exact absurd (pass.spent_last stop given) again
    · rintro _ room ⟨row, there, waits⟩
      have nonempty : outbox.pending settings settings.batchSize ≠ [] := by
        rw [pending_eq sound]
        apply List.ne_nil_of_length_pos
        rw [List.length_take, lt_min_iff]
        exact ⟨room, List.length_pos_of_mem (mem_inOrder.mpr (List.mem_filter.mpr ⟨there, waits⟩))⟩
      obtain ⟨front, rest, queue⟩ := List.exists_cons_of_ne_nil nonempty
      have attempted : front ∈ outbox.delivers settings drain ∨ front ∈ spent ++ stopped.toList := by
        rw [queue] at pass
        rcases pass.first with taken | given | ended
        · exact .inl taken
        · exact .inr (List.mem_append_left _ given)
        · rw [ended]
          exact .inr (List.mem_append_right _ List.mem_cons_self)
      have among : front ∈ outbox.rows := by
        rcases attempted with taken | failing
        · exact (delivered_within sound pass front taken).1
        · exact (failed_within sound pass front failing).1
      rw [triesLeft, triesLeft, rows, List.map_map]
      apply List.sum_lt_sum
      · exact fun row there => left_tries_le sound pass drain.moment failed there
      · exact ⟨front, among, left_tries sound pass drain.moment failed attempted⟩
  · have none : outbox.delivers settings drain = [] := if_neg running
    have same : (outbox.deliverBatch settings drain).1 = outbox := by rw [deliverBatch, if_neg running]
    rw [none, same]
    exact {
      ordered := .nil
      taken := nofun
      overtakesNone := nofun
      effects := rfl
      rows := fun row there => ⟨row, there, ⟨rfl, rfl, rfl⟩, nofun, fun _ => rfl⟩
      ids := rfl
      tenants := rfl
      keeps := fun row there _ => there
      goesOn := fun runs => absurd runs running
      progress := fun runs => absurd runs running }

end Outbox

end Grc.Shared
