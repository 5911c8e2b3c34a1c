import Grc.Cases.Effects
import Grc.Lib.Journal

/-! The transition ledger of a case, over every run of calls on it: a connected path from
`new` to the category the case is in, each row with its one audit row and its own version,
and nothing after a sign-off. -/
namespace Grc.Cases

open Grc.Shared Grc.Lib

def SignsOff (row : CaseTransition) : Prop := row.fromStatus = .signoff ∧ row.toStatus = .closed

def ClosedBySignoff (file : CaseFile) : Prop := ∃ row, file.transitions.getLast? = some row ∧ SignsOff row

/-- Row by row and in order, the ledger and the audit rows of moves say the same, under
strictly rising versions none of which is past the case's own. -/
def Recorded (file : CaseFile) : Prop :=
  ∃ numbered : List (CaseTransition × Nat),
    numbered.map Prod.fst = file.transitions ∧
    List.Forall₂ (fun entry event => Records file.case.id entry.2 entry.1 event) numbered
      (movedEvents file.audit) ∧
    (numbered.map Prod.snd).Pairwise (· < ·) ∧
    ∀ entry ∈ numbered, entry.2 ≤ file.case.version

/-- The invariant of the ledger. The last field is what keeps a signed-off case closed. -/
structure LedgerSound (file : CaseFile) : Prop where
  path : Path CaseTransition.fromStatus CaseTransition.toStatus Edge .new file.transitions file.case.status
  recorded : Recorded file
  final : ∀ row ∈ file.transitions.dropLast, ¬SignsOff row
  reason : ClosedBySignoff file → closeReasonKind file.case = some .signedOff

theorem ClosedBySignoff.status {file : CaseFile} (closed : ClosedBySignoff file)
    (path : Path CaseTransition.fromStatus CaseTransition.toStatus Edge .new file.transitions
      file.case.status) : file.case.status = .closed := by
  obtain ⟨row, last, -, arrived⟩ := closed
  have finish := path.last
  rw [last] at finish
  exact finish.symm.trans arrived

theorem createCase_ledgerSound (id tenantId : Id) (facts : ChangeFacts) (footprintMatch : Bool)
    (triageDueAt : Instant) :
    LedgerSound (createCase id tenantId facts footprintMatch triageDueAt) where
  path := rfl
  recorded := by
    refine ⟨[], rfl, ?_, .nil, by simp⟩
    have none_moved : movedEvents (createCase id tenantId facts footprintMatch triageDueAt).audit = [] :=
      movedEvents_other (single_other "case.created" rfl (by decide))
    rw [none_moved]
    exact .nil
  final := by simp [createCase]
  reason := by
    intro closed
    obtain ⟨row, last, -⟩ := closed
    simp [createCase] at last

variable {file next : CaseFile}

theorem Kept.closedBySignoff (kept : Kept file next) :
    ClosedBySignoff next ↔ ClosedBySignoff file := by
  unfold ClosedBySignoff
  rw [kept.ledger]

theorem Kept.ledgerSound (kept : Kept file next) (sound : LedgerSound file) :
    LedgerSound next where
  path := by
    rw [kept.ledger, kept.status]
    exact sound.path
  recorded := by
    obtain ⟨numbered, rows, aligned, rising, bounded⟩ := sound.recorded
    refine ⟨numbered, rows.trans kept.ledger.symm, ?_, rising, ?_⟩
    · rw [kept.audit, kept.identity]
      exact aligned
    · intro entry member
      exact Nat.le_trans (bounded entry member) kept.version
  final := by
    rw [kept.ledger]
    exact sound.final
  reason := by
    intro closed
    have before := kept.closedBySignoff.mp closed
    rw [closeReasonKind, kept.reason (before.status sound.path)]
    exact sound.reason before

variable {row : CaseTransition} {event : AuditEvent} {facts : CaseFacts}

theorem Move.not_closedBySignoff
    (move : Move file next row event facts) (sound : LedgerSound file) :
    ¬ClosedBySignoff file := by
  intro closed
  have leaving : row.fromStatus = .closed := move.leaves.trans (closed.status sound.path)
  obtain ⟨-, kind, chosen, other⟩ := restorable_of_check (leaving ▸ move.allowed)
  have carried := (move.reason leaving).trans (sound.reason closed)
  rw [chosen] at carried
  exact other (Option.some.inj carried)

theorem Move.recorded
    (move : Move file next row event facts) (recorded : Recorded file) :
    Recorded next := by
  obtain ⟨numbered, rows, aligned, rising, bounded⟩ := recorded
  refine ⟨numbered ++ [(row, file.case.version + 1)], ?_, ?_, ?_, ?_⟩
  · rw [List.map_append, rows, move.ledger]
    rfl
  · rw [move.audit, move.identity]
    exact List.rel_append aligned (.cons move.records .nil)
  · rw [List.map_append, List.pairwise_append]
    refine ⟨rising, List.pairwise_singleton _ _, ?_⟩
    intro earlier member latest isLatest
    obtain ⟨entry, listed, rfl⟩ := List.mem_map.mp member
    have isNew : latest = file.case.version + 1 := by simpa using isLatest
    have before := bounded entry listed
    omega
  · intro entry member
    have grown := move.version
    rcases List.mem_append.mp member with old | new
    · have before := bounded entry old
      omega
    · rw [List.mem_singleton.mp new]
      exact grown

theorem Move.ledgerSound
    (move : Move file next row event facts) (sound : LedgerSound file) :
    LedgerSound next where
  path := by
    rw [move.ledger, move.arrives]
    exact sound.path.snoc move.leaves (checkTransition_ok.mp move.allowed).1
  recorded := move.recorded sound.recorded
  final := by
    rw [move.ledger, List.dropLast_concat]
    intro earlier member signs
    rcases List.eq_nil_or_concat file.transitions with none | ⟨before, latest, split⟩
    · simp [none] at member
    · rw [List.concat_eq_append] at split
      rw [split, List.mem_append] at member
      rcases member with old | isLatest
      · refine sound.final earlier ?_ signs
        rw [split, List.dropLast_concat]
        exact old
      · refine move.not_closedBySignoff sound ⟨latest, ?_, List.mem_singleton.mp isLatest ▸ signs⟩
        rw [split, List.getLast?_concat]
  reason := by
    intro closed
    obtain ⟨latest, last, left, arrived⟩ := closed
    rw [move.ledger, List.getLast?_concat] at last
    cases last
    exact (move.signed left arrived).2

theorem step_ledgerSound {call : Call} (sound : LedgerSound file)
    (accepted : step file call = .ok next) : LedgerSound next := by
  rcases step_effect accepted with kept | ⟨row, event, facts, move⟩
  · exact kept.ledgerSound sound
  · exact move.ledgerSound sound

theorem run_ledgerSound (id tenantId : Id) (facts : ChangeFacts) (footprintMatch : Bool)
    (triageDueAt : Instant) (calls : List Call) :
    LedgerSound (run step (createCase id tenantId facts footprintMatch triageDueAt) calls) :=
  run_invariant (createCase_ledgerSound id tenantId facts footprintMatch triageDueAt)
    (fun _ _ _ => step_ledgerSound) calls

/-- What the ledger of a case says, read from its first row to its last. -/
structure LedgerReplays (file : CaseFile) : Prop where
  starts : ∀ row, file.transitions.head? = some row → row.fromStatus = .new
  connected : file.transitions.IsChain (fun row later => row.toStatus = later.fromStatus)
  drawn : ∀ row ∈ file.transitions, row.toStatus ∈ transitions row.fromStatus
  arrives : (file.transitions.getLast?.map CaseTransition.toStatus).getD .new = file.case.status
  recorded : Recorded file
  final : ∀ row ∈ file.transitions.dropLast, ¬SignsOff row
  /-- A call that moves the case raises its version, and none moves a signed-off case. -/
  moves : ∀ call next, step file call = .ok next → next.transitions ≠ file.transitions →
    file.case.version < next.case.version ∧ ¬ClosedBySignoff file

theorem run_ledgerReplays (id tenantId : Id) (facts : ChangeFacts) (footprintMatch : Bool)
    (triageDueAt : Instant) (calls : List Call) :
    LedgerReplays (run step (createCase id tenantId facts footprintMatch triageDueAt) calls) := by
  have sound := run_ledgerSound id tenantId facts footprintMatch triageDueAt calls
  refine
    { starts := fun row => sound.path.head, connected := sound.path.isChain
      drawn := fun row => sound.path.edge_of_mem, arrives := sound.path.last
      recorded := sound.recorded, final := sound.final, moves := ?_ }
  intro call next accepted changed
  rcases step_effect accepted with kept | ⟨row, event, facts, move⟩
  · exact absurd kept.ledger changed
  · exact ⟨move.version, move.not_closedBySignoff sound⟩

end Grc.Cases

/-! What stands behind a sign-off, over every run: a case that waits for one or was closed by
one has its work done, its evidence passed and its requester named, and is never signed off
by whoever asked. -/
namespace Grc.Cases

open Grc.Shared Grc.Lib

def CoversSignoff (file : CaseFile) : Prop := file.case.status = .signoff ∨ ClosedBySignoff file

/-- What the sign-off covers is done, evidenced and asked for. -/
structure WorkStands (file : CaseFile) : Prop where
  openActions : file.openActionCount = 0
  cleanEvidence : 1 ≤ file.cleanEvidenceCount
  requested : file.case.signoffRequestedBy.isSome = true

structure GateSound (file : CaseFile) : Prop where
  ledger : LedgerSound file
  stands : CoversSignoff file → WorkStands file
  signed : ClosedBySignoff file → file.case.signedOffBy.isSome = true

theorem CoversSignoff.status_locked {file : CaseFile} (covers : CoversSignoff file) (sound : LedgerSound file) :
    file.case.status ∈ locked := by
  rcases covers with waiting | closed
  · simp [waiting, locked]
  · simp [closed.status sound.path, locked]

variable {file next : CaseFile}

theorem Kept.gateSound (kept : Kept file next) (sound : GateSound file) :
    GateSound next where
  ledger := kept.ledgerSound sound.ledger
  stands := by
    intro covers
    have before : CoversSignoff file := by
      rcases covers with waiting | closed
      · exact .inl (kept.status ▸ waiting)
      · exact .inr (kept.closedBySignoff.mp closed)
    have stood := sound.stands before
    obtain ⟨sameOpen, moreClean⟩ := kept.held (before.status_locked sound.ledger)
    exact
      { openActions := sameOpen.trans stood.openActions
        cleanEvidence := Nat.le_trans stood.cleanEvidence moreClean
        requested := by
          rw [kept.signoff.1]
          exact stood.requested }
  signed := by
    intro closed
    rw [kept.signoff.2]
    exact sound.signed (kept.closedBySignoff.mp closed)

variable {row : CaseTransition} {event : AuditEvent} {facts : CaseFacts}

section
variable (move : Move file next row event facts)
include move

theorem Move.stands_of_request (asked : row.toStatus = .signoff) : WorkStands next := by
  obtain ⟨-, noneOpen, someClean⟩ := signoff_of_check (asked ▸ move.allowed)
  obtain ⟨sameOpen, moreClean⟩ := move.held (by simp [asked, locked])
  obtain ⟨countedOpen, countedClean⟩ := move.counted
  exact
    { openActions := by rw [sameOpen, ← countedOpen, noneOpen]
      cleanEvidence := by omega
      requested := move.asked asked }

theorem Move.stands_of_signoff (signs : SignsOff row) (stood : WorkStands file) : WorkStands next := by
  obtain ⟨left, arrived⟩ := signs
  obtain ⟨sameOpen, moreClean⟩ := move.held (by simp [arrived, locked])
  have allowed := move.allowed
  rw [left, arrived] at allowed
  obtain ⟨requester, actor, asked, -, -⟩ := secondPerson_of_check allowed
  exact
    { openActions := sameOpen.trans stood.openActions
      cleanEvidence := Nat.le_trans stood.cleanEvidence moreClean
      requested := by rw [move.asker, asked]; rfl }

theorem Move.closedBySignoff (closed : ClosedBySignoff next) : SignsOff row := by
  obtain ⟨latest, last, signs⟩ := closed
  rw [move.ledger, List.getLast?_concat] at last
  cases last
  exact signs

theorem Move.gateSound (sound : GateSound file) : GateSound next where
  ledger := move.ledgerSound sound.ledger
  stands := by
    intro covers
    rcases covers with waiting | closed
    · exact move.stands_of_request (move.arrives.symm.trans waiting)
    · have signs := move.closedBySignoff closed
      exact move.stands_of_signoff signs (sound.stands (.inl (move.leaves.symm.trans signs.1)))
  signed := by
    intro closed
    have signs := move.closedBySignoff closed
    exact (move.signed signs.1 signs.2).1

end

theorem createCase_gateSound (id tenantId : Id) (facts : ChangeFacts) (footprintMatch : Bool)
    (triageDueAt : Instant) :
    GateSound (createCase id tenantId facts footprintMatch triageDueAt) where
  ledger := createCase_ledgerSound id tenantId facts footprintMatch triageDueAt
  stands := by
    intro covers
    rcases covers with waiting | ⟨row, last, -⟩
    · simp [createCase] at waiting
    · simp [createCase] at last
  signed := by
    intro closed
    obtain ⟨row, last, -⟩ := closed
    simp [createCase] at last

theorem step_gateSound {call : Call} (sound : GateSound file)
    (accepted : step file call = .ok next) : GateSound next := by
  rcases step_effect accepted with kept | ⟨row, event, facts, move⟩
  · exact kept.gateSound sound
  · exact move.gateSound sound

theorem no_open_action {file : CaseFile} (none_open : file.openActionCount = 0) :
    ∀ row ∈ file.actions, row.removedAt = none → row.doneAt ≠ none := by
  intro row member live undone
  have counted : row ∈ file.actions.filter Action.isOpen :=
    List.mem_filter.mpr ⟨member, by simp [Action.isOpen, live, undone]⟩
  rw [List.length_eq_zero_iff.mp none_open] at counted
  simp at counted

theorem clean_evidence {file : CaseFile} (some_clean : 1 ≤ file.cleanEvidenceCount) :
    ∃ row ∈ file.evidence, row.removedAt = none ∧ row.scanState = .clean := by
  obtain ⟨row, member⟩ := List.exists_mem_of_length_pos some_clean
  obtain ⟨listed, clean⟩ := List.mem_filter.mp member
  refine ⟨row, listed, ?_⟩
  simpa [Evidence.isClean, Evidence.live] using clean

/-- In every reachable state, what a sign-off waits on or has closed stands. -/
theorem run_signoff_stands (id tenantId : Id) (facts : ChangeFacts) (footprintMatch : Bool)
    (triageDueAt : Instant) (calls : List Call) :
    let file := run step (createCase id tenantId facts footprintMatch triageDueAt) calls
    (file.case.status = .signoff ∨ ClosedBySignoff file →
      (∀ row ∈ file.actions, row.removedAt = none → row.doneAt ≠ none) ∧
      (∃ row ∈ file.evidence, row.removedAt = none ∧ row.scanState = .clean) ∧
      ∃ requester, file.case.signoffRequestedBy = some requester ∧
        (ClosedBySignoff file → ∃ signer, file.case.signedOffBy = some signer ∧ signer ≠ requester)) := by
  intro file covers
  have sound : GateSound file := run_invariant
    (createCase_gateSound id tenantId facts footprintMatch triageDueAt) (fun _ _ _ => step_gateSound) calls
  have stands := sound.stands covers
  obtain ⟨requester, asked⟩ := Option.isSome_iff_exists.mp stands.requested
  refine ⟨no_open_action stands.openActions, clean_evidence stands.cleanEvidence, requester, asked, ?_⟩
  intro closed
  obtain ⟨signer, signed⟩ := Option.isSome_iff_exists.mp (sound.signed closed)
  obtain ⟨other, asked', different⟩ := file.signer_ne_requester signed
  rw [asked] at asked'
  cases asked'
  exact ⟨signer, signed, different⟩

section Example

def twoPersonBank : Bank where
  urgencies := [{ id := 1, key := "act_now" }]
  closureReasons := [{ id := 2, key := "signed_off", kind := some .signedOff }]
  signedOffKind := by simp
  members := [7, 8]
  caseWorkers := [7]

/-- Person 7 works the case and asks; person 8 signs it off. -/
def signedOffRun : List Call :=
  let sara (version : Nat) : Caller :=
    { actor := { kind := .user, id := some 7, label := "Sara" }, user := 7, expectedVersion := some version }
  let erik (version : Nat) : Caller :=
    { actor := { kind := .user, id := some 8, label := "Erik" }, user := 8, expectedVersion := some version }
  [.command twoPersonBank (.triage (sara 1) { urgency := "act_now", ownerId := 7 }),
   .command twoPersonBank (.startAssessment (sara 2)),
   .command twoPersonBank (.saveAssessment (sara 3)
     { applies := .yes, why := "It changes our reporting.", saysWhy := by decide } true),
   .command twoPersonBank (.addAction (sara 4)
     { title := "Update the policy", titled := by decide, dueDate := 20261010 }),
   .command twoPersonBank (.updateAction (sara 1) 0 { done := some true }),
   .command twoPersonBank (.addEvidence {} (sara 0) { kind := .reference, name := "Policy v2" }),
   .command twoPersonBank (.requestSignoff (sara 5)),
   .command twoPersonBank (.approveSignoff (erik 6) "Checked." 1)]

def signedOffFile : CaseFile :=
  run step (createCase 1 1 { id := 3, urgency := { id := 1, key := "act_now" } } true 0) signedOffRun

theorem signedOffFile_stands :
    (∀ row ∈ signedOffFile.actions, row.removedAt = none → row.doneAt ≠ none) ∧
      (∃ row ∈ signedOffFile.evidence, row.removedAt = none ∧ row.scanState = .clean) ∧
      ∃ requester, signedOffFile.case.signoffRequestedBy = some requester ∧
        ∃ signer, signedOffFile.case.signedOffBy = some signer ∧ signer ≠ requester := by
  have closed : ClosedBySignoff signedOffFile :=
    ⟨{ fromStatus := .signoff, toStatus := .closed, movedAt := 0, byUser := some 8, note := "Checked." },
      by decide +kernel, rfl, rfl⟩
  obtain ⟨done, clean, requester, asked, signed⟩ := run_signoff_stands 1 1
    { id := 3, urgency := { id := 1, key := "act_now" } } true 0 signedOffRun (.inr closed)
  exact ⟨done, clean, requester, asked, signed closed⟩

end Example

end Grc.Cases
