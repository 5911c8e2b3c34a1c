import Grc.Shared.OutboxDrain

/-! The outbox over time: however writes and drains follow one another, a row is published once, the
drains deliver in one order, and none of them is held up for ever. -/
namespace Grc.Shared

open Grc.Lib

variable {World Payload : Type} {settings : OutboxSettings} {before after outbox : Outbox World Payload}
  {delivered : List (OutboxEvent Payload)} {drain : Drain World Payload} {row event : OutboxEvent Payload}

namespace Outbox

def published (outbox : Outbox World Payload) : List Id :=
  (outbox.rows.filter (·.publishedAt.isSome)).map (·.id)

theorem mem_published {id : Id} :
    id ∈ outbox.published ↔ ∃ row ∈ outbox.rows, row.publishedAt.isSome = true ∧ row.id = id := by
  simp only [published, List.mem_map, List.mem_filter, and_assoc]

theorem Sound.mem_published (sound : outbox.Sound) (there : row ∈ outbox.rows) :
    row.id ∈ outbox.published ↔ row.publishedAt.isSome = true := by
  rw [Outbox.mem_published]
  constructor
  · rintro ⟨other, here, marked, same⟩
    rwa [← sound.unique other here row there same]
  · exact fun marked => ⟨row, there, marked, rfl⟩

namespace Drained

variable (step : Drained settings drain before after delivered)
include step

theorem sound (sound : before.Sound) : after.Sound where
  tenants := by
    rw [step.tenants]
    exact sound.tenants
  ids := by
    rw [step.ids]
    exact sound.ids
  known := by
    intro later here tenant named
    have id : later.id ∈ before.rows.map (·.id) := by
      rw [← step.ids]
      exact List.mem_map_of_mem here
    obtain ⟨row, there, same⟩ := List.mem_map.mp id
    obtain ⟨found, listed, kept, -⟩ := step.rows row there
    have unique : (after.rows.map (·.id)).Nodup := by
      rw [step.ids]
      exact sound.ids
    have one : found = later := List.inj_on_of_nodup_map unique listed here (kept.id.trans same)
    rw [step.tenants]
    rw [← one, kept.tenant] at named
    exact sound.known row there tenant named

theorem origin (sound : before.Sound) {later : OutboxEvent Payload} (here : later ∈ after.rows) :
    ∃ row ∈ before.rows, SameRow row later ∧ (row ∈ delivered → later.publishedAt = some drain.moment) ∧
      (row ∉ delivered → later.publishedAt = row.publishedAt) := by
  have id : later.id ∈ before.rows.map (·.id) := by
    rw [← step.ids]
    exact List.mem_map_of_mem here
  obtain ⟨row, there, same⟩ := List.mem_map.mp id
  obtain ⟨found, listed, kept, marks⟩ := step.rows row there
  have one : found = later := (step.sound sound).unique found listed later here (kept.id.trans same)
  rw [← one]
  exact ⟨row, there, kept, marks⟩

theorem delivered_ids (sound : before.Sound) : (delivered.map (·.id)).Nodup := by
  have distinct : delivered.Nodup := step.ordered.imp fun earlier => by
    rintro rfl
    exact lt_irrefl _ earlier
  exact distinct.map_on fun row there other here =>
    sound.unique row (step.taken row there).1 other (step.taken other here).1

theorem unpublished (sound : before.Sound) {id : Id} (member : id ∈ delivered.map (·.id)) : id ∉ before.published := by
  obtain ⟨event, taken, rfl⟩ := List.mem_map.mp member
  obtain ⟨there, waits⟩ := step.taken event taken
  rw [OutboxEvent.isPending, Bool.and_eq_true] at waits
  rw [sound.mem_published there, Bool.not_eq_true]
  exact Option.isSome_eq_false_iff.mpr waits.1

theorem published (sound : before.Sound) {id : Id} :
    id ∈ after.published ↔ id ∈ before.published ∨ id ∈ delivered.map (·.id) := by
  constructor
  · intro member
    obtain ⟨later, here, marked, rfl⟩ := Outbox.mem_published.mp member
    obtain ⟨row, there, same, -, kept⟩ := step.origin sound here
    rw [same.id]
    by_cases taken : row ∈ delivered
    · exact .inr (List.mem_map_of_mem taken)
    · rw [kept taken] at marked
      exact .inl ((sound.mem_published there).mpr marked)
  · rintro (earlier | taken)
    · obtain ⟨row, there, marked, rfl⟩ := Outbox.mem_published.mp earlier
      have settled : row.isPending settings = false := by
        rw [OutboxEvent.isPending, ← Option.not_isSome, marked]
        rfl
      have here : row ∈ after.rows := step.keeps row there settled
      exact ((step.sound sound).mem_published here).mpr marked
    · obtain ⟨event, member, rfl⟩ := List.mem_map.mp taken
      obtain ⟨later, here, same, marks, -⟩ := step.rows event (step.taken event member).1
      rw [← same.id, (step.sound sound).mem_published here, marks member]
      rfl

/-- A row still pending after a drain was pending before it, and comes after all it delivered. -/
theorem pending_after (sound : before.Sound) {later : OutboxEvent Payload} (here : later ∈ after.rows)
    (waits : later.isPending settings = true) :
    (∃ row ∈ before.rows, row.isPending settings = true ∧ SameRow row later) ∧ ∀ event ∈ delivered, Precedes event later := by
  obtain ⟨row, there, same, marks, -⟩ := step.origin sound here
  have soundAfter := step.sound sound
  have open_ := waits
  rw [OutboxEvent.isPending, Bool.and_eq_true, Option.isNone_iff_eq_none, decide_eq_true_eq] at open_
  have undelivered : row ∉ delivered := by
    intro taken
    rw [marks taken] at open_
    cases open_.1
  have tried : ¬GivenUp settings after row := by
    rintro ⟨other, listed, id, -, spent⟩
    have one : other = later := soundAfter.unique other listed later here (id.trans same.id.symm)
    rw [one] at spent
    exact Nat.not_le_of_lt open_.2 spent
  have pending : row.isPending settings = true := by
    by_contra settled
    have kept : row ∈ after.rows := step.keeps row there (Bool.not_eq_true _ ▸ settled)
    have one : row = later := soundAfter.unique row kept later here same.id.symm
    rw [one] at settled
    exact settled waits
  have place : later.place = row.place := by rw [OutboxEvent.place, OutboxEvent.place, same.id, same.created]
  refine ⟨⟨row, there, pending, same⟩, ?_⟩
  intro event taken
  rw [Precedes, place]
  rcases lt_trichotomy event.place row.place with before | equal | overtaken
  · exact before
  · have ids : event.id = row.id := (Prod.mk.inj (toLex.injective equal)).2
    have one := sound.unique event (step.taken event taken).1 row there ids
    rw [one] at taken
    exact absurd taken undelivered
  · rcases step.overtakesNone event taken row there pending overtaken with member | given
    · exact absurd member undelivered
    · exact absurd given tried

end Drained

theorem act_sound (settings : OutboxSettings) (step : OutboxStep World Payload) (sound : outbox.Sound) :
    (outbox.act settings step).Sound := by
  cases step with
  | write world tenants rows =>
    by_cases admits : outbox.Admits tenants rows
    · rw [act, if_pos admits]
      refine { tenants := admits.distinct, ids := ?_, known := ?_ }
      · have ids : (outbox.rows ++ rows.map NewEvent.event).map (·.id) =
            outbox.rows.map (·.id) ++ rows.map (·.id) := by
          rw [List.map_append, List.map_map]
          rfl
        rw [ids]
        exact admits.ids
      · intro row member tenant named
        rcases List.mem_append.mp member with there | fresh
        · exact admits.keeps tenant (sound.known row there tenant named)
        · obtain ⟨new, recorded, rfl⟩ := List.mem_map.mp fresh
          exact admits.known new recorded tenant named
    · rw [act, if_neg admits]
      exact sound
  | drain drain => exact (drained sound settings drain).sound sound

theorem sends_once (settings : OutboxSettings) (step : OutboxStep World Payload) (sound : outbox.Sound) :
    ((outbox.sends settings step).map (·.id)).Nodup ∧
      ∀ id ∈ (outbox.sends settings step).map (·.id), id ∉ outbox.published := by
  cases step with
  | write world tenants rows => exact ⟨.nil, nofun⟩
  | drain drain =>
    have step := drained sound settings drain
    exact ⟨step.delivered_ids sound, fun _ member => step.unpublished sound member⟩

theorem act_published (settings : OutboxSettings) (step : OutboxStep World Payload) (sound : outbox.Sound) {id : Id} :
    id ∈ (outbox.act settings step).published ↔
      id ∈ outbox.published ∨ id ∈ (outbox.sends settings step).map (·.id) := by
  cases step with
  | write world tenants rows =>
    have none : id ∉ (outbox.sends settings (.write world tenants rows)).map (·.id) := nofun
    rw [or_iff_left none]
    by_cases admits : outbox.Admits tenants rows
    · have fresh : (rows.map NewEvent.event).filter (·.publishedAt.isSome) = [] := by
        apply List.filter_eq_nil_iff.mpr
        intro row member marked
        obtain ⟨new, -, rfl⟩ := List.mem_map.mp member
        cases marked
      rw [act, if_pos admits, published, published, List.filter_append, fresh, List.append_nil]
    · rw [act, if_neg admits]
  | drain drain => exact (drained sound settings drain).published sound

variable (outbox) in
theorem reached_sound (settings : OutboxSettings) (steps : List (OutboxStep World Payload)) (sound : outbox.Sound) :
    (outbox.reached settings steps).Sound := by
  induction steps generalizing outbox with
  | nil => exact sound
  | cons step rest ih => exact ih (outbox.act settings step) (act_sound settings step sound)

theorem deliveries_once (settings : OutboxSettings) (steps : List (OutboxStep World Payload)) (sound : outbox.Sound) :
    ((deliveries settings outbox steps).map (·.id)).Nodup ∧
      (∀ id ∈ (deliveries settings outbox steps).map (·.id), id ∉ outbox.published) ∧
      ∀ id, id ∈ (outbox.reached settings steps).published ↔
        id ∈ outbox.published ∨ id ∈ (deliveries settings outbox steps).map (·.id) := by
  induction steps generalizing outbox with
  | nil => exact ⟨.nil, nofun, fun id => ⟨.inl, fun member => member.resolve_right nofun⟩⟩
  | cons step rest ih =>
    obtain ⟨later, unpublished, reaches⟩ := ih (act_sound settings step sound)
    obtain ⟨now, open_⟩ := sends_once settings step sound
    have whole : (deliveries settings outbox (step :: rest)).map (·.id) = (outbox.sends settings step).map (·.id) ++
        (deliveries settings (outbox.act settings step) rest).map (·.id) := List.map_append
    rw [whole]
    refine ⟨?_, ?_, ?_⟩
    · apply List.Nodup.append now later
      intro id member again
      exact unpublished id again ((act_published settings step sound).mpr (.inr member))
    · intro id member
      rcases List.mem_append.mp member with taken | again
      · exact open_ id taken
      · exact fun earlier => unpublished id again ((act_published settings step sound).mpr (.inl earlier))
    · intro id
      rw [List.mem_append, ← or_assoc, ← act_published settings step sound]
      exact reaches id

section Drains

def drains (settings : OutboxSettings) (outbox : Outbox World Payload) (runs : List (Drain World Payload)) :
    Outbox World Payload :=
  outbox.reached settings (runs.map .drain)

theorem drains_deliver (settings : OutboxSettings) (runs : List (Drain World Payload)) (sound : outbox.Sound) :
    ∀ event ∈ deliveries settings outbox (runs.map .drain),
      ∃ row ∈ outbox.rows, row.isPending settings = true ∧ row.place = event.place := by
  induction runs generalizing outbox with
  | nil => nofun
  | cons drain rest ih =>
    have step := drained sound settings drain
    intro event member
    rcases List.mem_append.mp member with taken | later
    · obtain ⟨there, waits⟩ := step.taken event taken
      exact ⟨event, there, waits, rfl⟩
    · obtain ⟨left, here, waits, place⟩ := ih (step.sound sound) event later
      obtain ⟨⟨row, there, pending, same⟩, -⟩ := step.pending_after sound here waits
      refine ⟨row, there, pending, ?_⟩
      rw [← place, OutboxEvent.place, OutboxEvent.place, same.id, same.created]

theorem drains_ordered (settings : OutboxSettings) (runs : List (Drain World Payload)) (sound : outbox.Sound) :
    (deliveries settings outbox (runs.map .drain)).Pairwise Precedes := by
  induction runs generalizing outbox with
  | nil => exact .nil
  | cons drain rest ih =>
    have step := drained sound settings drain
    refine List.pairwise_append.mpr ⟨step.ordered, ih (step.sound sound), ?_⟩
    intro event taken later member
    obtain ⟨left, here, waits, place⟩ := drains_deliver settings rest (step.sound sound) later member
    obtain ⟨-, precedes⟩ := step.pending_after sound here waits
    rw [Precedes, ← place]
    exact precedes event taken

/-- Every one of the drains runs: none finds the cursor locked or a row waiting out its backoff. -/
def AllRun (settings : OutboxSettings) : Outbox World Payload → List (Drain World Payload) → Prop
  | _, [] => True
  | outbox, drain :: rest => outbox.runs drain ∧ AllRun settings (outbox.act settings (.drain drain)) rest

theorem drains_empty (room : 0 < settings.batchSize) (runs : List (Drain World Payload)) (sound : outbox.Sound)
    (running : AllRun settings outbox runs) (enough : outbox.triesLeft settings ≤ runs.length) :
    ∀ row ∈ (outbox.drains settings runs).rows, row.isPending settings = false := by
  induction runs generalizing outbox with
  | nil =>
    intro row there
    by_contra waits
    rw [Bool.not_eq_false] at waits
    have tried : tries settings row ≤ outbox.triesLeft settings := List.le_sum_of_mem (List.mem_map_of_mem there)
    rw [tries, if_pos waits] at tried
    rw [OutboxEvent.isPending, Bool.and_eq_true, decide_eq_true_eq] at waits
    rw [List.length_nil] at enough
    omega
  | cons drain rest ih =>
    have step := drained sound settings drain
    obtain ⟨now, later⟩ := running
    apply ih (step.sound sound) later
    rw [List.length_cons] at enough
    by_cases pending : ∃ row ∈ outbox.rows, row.isPending settings = true
    · have fewer := step.progress now room pending
      omega
    · have none : (outbox.deliverBatch settings drain).1.triesLeft settings = 0 := by
        apply List.sum_eq_zero
        intro count member
        obtain ⟨left, here, rfl⟩ := List.mem_map.mp member
        apply if_neg
        intro waits
        obtain ⟨⟨row, there, open_, -⟩, -⟩ := step.pending_after sound here waits
        exact pending ⟨row, there, open_⟩
      rw [none]
      exact Nat.zero_le _

end Drains

/-- What holds of an outbox that was opened empty, after any writes and drains. -/
structure Delivery (settings : OutboxSettings) (opened : Outbox World Payload) (steps : List (OutboxStep World Payload)) :
    Prop where
  /-- The merge over the zones is the first rows of the sorted union. -/
  merges : ∀ limit, (opened.reached settings steps).pending settings limit =
    (inOrder OutboxEvent.place ((opened.reached settings steps).rows.filter (·.isPending settings))).take limit
  /-- Every next drain delivers in order, overtakes no row still tried, and publishes what it delivered. -/
  drains : ∀ drain, Drained settings drain (opened.reached settings steps)
    ((opened.reached settings steps).deliverBatch settings drain).1 ((opened.reached settings steps).delivers settings drain)
  once : ((deliveries settings opened steps).map (·.id)).Nodup
  published : ∀ row ∈ (opened.reached settings steps).rows,
    row.publishedAt.isSome = true ↔ row.id ∈ (deliveries settings opened steps).map (·.id)
  /-- Drains with nothing written between them deliver in order, across all of them. -/
  ordered : ∀ runs : List (Drain World Payload),
    (deliveries settings (opened.reached settings steps) (runs.map .drain)).Pairwise Precedes
  /-- A row whose attempts are spent is never read again, and no row is held up for ever. -/
  spent : ∀ row ∈ (opened.reached settings steps).rows, settings.maxAttempts ≤ row.attempts →
    ∀ limit, row ∉ (opened.reached settings steps).pending settings limit
  empties : 0 < settings.batchSize → ∀ runs : List (Drain World Payload),
    AllRun settings (opened.reached settings steps) runs →
    (opened.reached settings steps).triesLeft settings ≤ runs.length →
    ∀ row ∈ ((opened.reached settings steps).drains settings runs).rows, row.isPending settings = false

theorem reached_delivery (settings : OutboxSettings) (world : World) (steps : List (OutboxStep World Payload)) :
    Delivery settings { world } steps := by
  have opened : Sound ({ world } : Outbox World Payload) := { tenants := .nil, ids := .nil, known := List.forall_mem_nil _ }
  have sound := reached_sound _ settings steps opened
  obtain ⟨once, -, reaches⟩ := deliveries_once settings steps opened
  constructor
  · exact pending_eq sound
  · exact drained sound settings
  · exact once
  · intro row there
    rw [← sound.mem_published there, reaches]
    exact or_iff_right nofun
  · exact fun runs => drains_ordered settings runs sound
  · intro row _ spent limit member
    have waits := (mem_pending sound member).2
    rw [OutboxEvent.isPending, Bool.and_eq_true, decide_eq_true_eq] at waits
    exact Nat.not_le_of_lt waits.2 spent
  · exact fun room runs running enough => drains_empty room runs sound running enough

end Outbox

end Grc.Shared
