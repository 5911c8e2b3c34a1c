import Grc.Proposals.VersionRuns

/-! Approvals in any overlap: one that files a version holds the lock of its record from before it reads the highest number until it ends,
and what it writes stands when it commits. -/
namespace Grc.Proposals

open Grc.Shared Grc.Lib Grc.Library

variable {Rule : Type} {platform : Platform Rule}

/-- An approval under way, and the library as it read it under its lock. -/
structure Underway where
  transaction : Id
  approved : Approved
  seen : Records

structure Overlap where
  records : Records
  underway : List Underway := []

inductive OverlapStep where
  | begin_ (transaction : Id) (approved : Approved)
  | commit (transaction : Id)
  | abort (transaction : Id)
  | approve (approved : Approved)
  | elsewhere (records : Records)

def Approved.contends (approved other : Approved) : Prop := ∃ record ∈ approved.locks, other.locks = some record

instance (approved other : Approved) : Decidable (approved.contends other) := by
  unfold Approved.contends
  cases approved.locks <;> infer_instance

namespace Overlap

def refusal : Refusal := internalError

def written (records : Records) (tx : Writing Unit) : Except Refusal Records :=
  match tx.execute records with
  | (.ok _, after) => .ok after
  | (.error refused, _) => .error refused

def step (platform : Platform Rule) (overlap : Overlap) : OverlapStep → Except Refusal Overlap
  | .begin_ transaction approved => do
    require (approved.filed.kind ∈ numberedKinds ∧ ∀ each ∈ overlap.underway, each.transaction ≠ transaction) refusal
    require (∀ each ∈ overlap.underway, ¬approved.contends each.approved) refusal
    let _ ← planned platform approved overlap.records
    .ok { overlap with underway := overlap.underway ++ [{ transaction, approved, seen := overlap.records }] }
  | .commit transaction => do
    let own ← demand (overlap.underway.find? (·.transaction == transaction)) refusal
    let writing ← planned platform own.approved own.seen
    let records ← written overlap.records writing
    .ok { records, underway := overlap.underway.filter (·.transaction ≠ transaction) }
  | .abort transaction => .ok { overlap with underway := overlap.underway.filter (·.transaction ≠ transaction) }
  | .approve approved => do
    require (approved.filed.kind ∉ numberedKinds) refusal
    let records ← written overlap.records
      (apply platform approved.now approved.zone approved.filed approved.actor approved.reviewer approved.stepUp approved.rows)
    .ok { overlap with records }
  | .elsewhere records => do
    require (Sealed overlap.records records) refusal
    .ok { overlap with records }

variable {overlap next : Overlap} {each own : Underway} {call : OverlapStep} {records after : Records}

theorem written_ok {tx : Writing Unit} : written records tx = .ok after ↔ tx.execute records = (.ok (), after) := by
  unfold written
  rcases tx.execute records with ⟨_ | _, _⟩ <;> simp

/-- What an approval under way has under its lock: the versions there are as it read them. -/
structure Holds (records : Records) (each : Underway) : Prop where
  kind : each.approved.filed.kind ∈ numberedKinds
  held : ∀ record, each.approved.locks = some record →
    history each.seen record = history records record ∧ record.id < records.nextId

/-- The versions are numbered, every lock holds what was read under it, and no two approvals hold one lock. -/
structure Sound (overlap : Overlap) : Prop where
  shelved : Shelved overlap.records
  holds : ∀ each ∈ overlap.underway, Holds overlap.records each
  apart : ∀ one ∈ overlap.underway, ∀ other ∈ overlap.underway, one.transaction ≠ other.transaction → ¬one.approved.contends other.approved

/-- What an accepted step did to the versions: the commit of an approval filed the next version of one record, and no other step filed any. -/
def Advances (overlap next : Overlap) : OverlapStep → Prop
  | .commit transaction => ∃ own ∈ overlap.underway, own.transaction = transaction ∧ ∃ record,
      (own.approved.locks = some record ∨ own.approved.locks = none ∧ record.id = overlap.records.nextId) ∧
        Files overlap.records next.records record ((history overlap.records record).length + 1)
  | _ => ∀ record, history next.records record = history overlap.records record

theorem Holds.mono (holds : Holds records each) (onward : records.nextId ≤ after.nextId)
    (spared : ∀ record, each.approved.locks = some record → history after record = history records record) : Holds after each where
  kind := holds.kind
  held := fun record locked =>
    ⟨(holds.held record locked).1.trans (spared record locked).symm, Nat.lt_of_lt_of_le (holds.held record locked).2 onward⟩

theorem Sound.sealed (sound : Sound overlap) (kept : Sealed overlap.records records) : Sound { overlap with records } where
  shelved := sound.shelved.kept kept
  holds := fun each there => (sound.holds each there).mono kept.nextId fun record _ => history_sealed kept record
  apart := sound.apart

theorem Sound.step (sound : Sound overlap) (accepted : step platform overlap call = .ok next) : Sound next ∧ Advances overlap next call := by
  cases call with
  | begin_ transaction approved =>
    simp only [Overlap.step, bind_ok, require_ok, Except.ok.injEq] at accepted
    obtain ⟨_, ⟨kind, fresh⟩, _, free, writing, plan, rfl⟩ := accepted
    refine ⟨⟨sound.shelved, ?_, ?_⟩, fun _ => rfl⟩
    · intro each there
      rcases mem_concat.mp there with old | rfl
      · exact sound.holds each old
      · exact ⟨kind, fun record locked => ⟨rfl, planned_target sound.shelved plan locked⟩⟩
    · intro one first other second differ
      rcases mem_concat.mp first with old | rfl
      · rcases mem_concat.mp second with older | rfl
        · exact sound.apart one old other older differ
        · rintro ⟨record, mine, its⟩
          exact free one old ⟨record, its, mine⟩
      · rcases mem_concat.mp second with older | rfl
        · exact free other older
        · exact absurd rfl differ
  | commit transaction =>
    simp only [Overlap.step, bind_ok, demand_ok, written_ok, Except.ok.injEq] at accepted
    obtain ⟨own, found, writing, plan, records, done, rfl⟩ := accepted
    have there := List.mem_of_find?_eq_some found
    have mine := List.find?_some found
    rw [beq_iff_eq] at mine
    have adds := planned_adds sound.shelved plan (sound.holds own there).held done
    obtain ⟨record, its, files⟩ := adds.files
    refine ⟨⟨adds.shelved, ?_, ?_⟩, own, there, mine, record, its, files⟩
    · intro each left
      obtain ⟨member, other⟩ := List.mem_filter.mp left
      refine (sound.holds each member).mono adds.onward fun lock held => files.others lock ?_
      rintro rfl
      rcases its with locked | ⟨-, fresh⟩
      · refine sound.apart own there each member ?_ ⟨lock, locked, held⟩
        rw [mine]
        exact (of_decide_eq_true other).symm
      · exact Nat.ne_of_lt ((sound.holds each member).held lock held).2 fresh
    · intro one first other second
      exact sound.apart one (List.mem_filter.mp first).1 other (List.mem_filter.mp second).1
  | abort transaction =>
    obtain rfl := Except.ok.inj accepted
    refine ⟨⟨sound.shelved, ?_, ?_⟩, fun _ => rfl⟩
    · exact fun each left => sound.holds each (List.mem_filter.mp left).1
    · exact fun one first other second => sound.apart one (List.mem_filter.mp first).1 other (List.mem_filter.mp second).1
  | approve approved =>
    simp only [Overlap.step, bind_ok, require_ok, written_ok, Except.ok.injEq] at accepted
    obtain ⟨_, other, records, done, rfl⟩ := accepted
    have kept := (apply_sealed other).ok done
    exact ⟨sound.sealed kept, history_sealed kept⟩
  | elsewhere records =>
    simp only [Overlap.step, bind_ok, require_ok, Except.ok.injEq] at accepted
    obtain ⟨_, kept, rfl⟩ := accepted
    exact ⟨sound.sealed kept, history_sealed kept⟩

theorem Sound.initial (shelved : Shelved records) : Sound { records } :=
  ⟨shelved, fun _ there => absurd there List.not_mem_nil, fun _ there => absurd there List.not_mem_nil⟩

theorem Sound.run (sound : Sound overlap) (calls : List OverlapStep) : Sound (run (Overlap.step platform) overlap calls) :=
  run_invariant sound (fun _ _ _ sound accepted => (sound.step accepted).1) calls

theorem Advances.extends (advances : Advances overlap next call) (record : Versioned) :
    history overlap.records record <+: history next.records record := by
  cases call with
  | commit transaction =>
    obtain ⟨own, -, -, target, -, files⟩ := advances
    by_cases same : record = target
    · obtain ⟨version, -, filed⟩ := files.filed
      rw [same, filed]
      exact List.prefix_append _ _
    · exact (files.others record same) ▸ List.prefix_rfl
  | _ => exact (advances record) ▸ List.prefix_rfl

theorem Sound.keeps (sound : Sound overlap) (calls : List OverlapStep) (record : Versioned) :
    history overlap.records record <+: history (Lib.run (Overlap.step platform) overlap calls).records record := by
  induction calls generalizing overlap with
  | nil => exact List.prefix_rfl
  | cons call rest ih =>
    cases accepted : Overlap.step platform overlap call with
    | error refused =>
      rw [run_cons, settle_error accepted]
      exact ih sound
    | ok next =>
      rw [run_cons, settle_ok accepted]
      have stepped := sound.step accepted
      exact (stepped.2.extends record).trans (ih stepped.1)

/-- In any overlap of approvals the versions of every record are numbered from 1 without a gap, an approval that commits a version files
exactly the next one, and no version is changed or taken away afterwards. -/
theorem run_numbered (platform : Platform Rule) (records : Records) (shelved : Shelved records) (calls : List OverlapStep) :
    (∀ record, Numbered Version.number (history (Lib.run (step platform) { records } calls).records record)) ∧
      (∀ first call next, first ++ [call] <+: calls → step platform (Lib.run (step platform) { records } first) call = .ok next →
        Advances (Lib.run (step platform) { records } first) next call) ∧
      ∀ first, first <+: calls → ∀ record, history (Lib.run (step platform) { records } first).records record <+:
        history (Lib.run (step platform) { records } calls).records record := by
  have sound := Sound.initial shelved
  refine ⟨(sound.run calls).shelved.numbered, ?_, ?_⟩
  · exact fun first call next _ accepted => ((sound.run first).step accepted).2
  · rintro first ⟨rest, rfl⟩ record
    rw [run_append]
    exact (sound.run first).keeps rest record

def summaryPayload : Dict Json := [("originalLanguage", .text "en"), ("summaries", .dict [("en", .text "Keep a record.")])]

def summaryPlatform : Platform Unit where
  modelValidate kind payload :=
    if kind = .newObligationVersion ∧ payload = summaryPayload then .ok (.obligationVersion {
      summaries := [("en", "Keep a record.")], originalLanguage := "en" })
    else .error ["payload"]
  modelDump _ := []
  scopeValidate _ := .error ["payload"]
  scopeDump _ := []
  isLink _ := false
  slugify := id
  folded := id
  clean _ value := .ok value
  screenAll _ := []
  dateutil := { rrulestr := fun _ _ => none, walk := fun _ => [] }

/-- A person's approval of a new version of the obligation 5. -/
def summaryApproved (id : Id) : Approved where
  now := newYearDay
  filed := { proposedBy id .newObligationVersion summaryPayload .agent with targetId := some 5 }
  actor := { kind := .user }
  reviewer := { actor := { kind := .user }, user := some 20 }

/-- A library that holds one obligation with its first version. -/
def oneObligation : Records where
  languages := ["en"]
  instruments := [{ id := 4, stableKey := "act", shortName := "Act", officialRef := "Act 1", level := 1, jurisdiction := 2, regime := 3 }]
  obligations := [{ id := 5, stableKey := "act-1", instrument := 4, dutyType := 7 }]
  versions := [{ id := 6, obligation := 5, versionNumber := 1, effectiveFrom := none, effectiveFromPrecision := "day" }]
  summaries := [{ holder := 6, language := "en", text := "Keep records.", isOriginal := true, isMachine := false }]
  nextId := 10

theorem oneObligation_shelved : Shelved oneObligation where
  numbered record := by
    cases record with
    | obligation id =>
      by_cases mine : 5 = id
      · subst mine
        decide
      · simp [history, oneObligation, mine, Numbered]
    | provision id => rfl
  versions row there := by
    obtain rfl := List.mem_singleton.mp there
    decide
  provisionVersions := nofun
  obligations := by decide
  provisions := nofun

/-- Two approvals of one obligation: the second waits until the first ends, and is numbered after it. -/
def overlapping : List OverlapStep := [.begin_ 1 (summaryApproved 31), .begin_ 2 (summaryApproved 32), .commit 1,
  .begin_ 2 (summaryApproved 32), .commit 2]

theorem overlapping_numbered :
    (history (Lib.run (step summaryPlatform) { records := oneObligation } overlapping).records (.obligation 5)).map Version.number =
        [1, 2, 3] ∧
      history oneObligation (.obligation 5) <+:
        history (Lib.run (step summaryPlatform) { records := oneObligation } overlapping).records (.obligation 5) :=
  ⟨by decide +kernel, (run_numbered summaryPlatform oneObligation oneObligation_shelved overlapping).2.2 [] List.nil_prefix _⟩

end Overlap
end Grc.Proposals
