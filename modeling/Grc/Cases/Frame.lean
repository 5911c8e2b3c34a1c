import Grc.Cases.Run

/-! What the workflow calls leave alone: the words of the "So what?" and the cached footprint
verdict, which only their own writers move. -/
namespace Grc.Cases

open Grc.Shared Grc.Lib Grc.Tenants

/-- The columns no workflow call writes are as they were. -/
structure Untouched (before after : ChangeCase) : Prop where
  text : after.soWhatText = before.soWhatText
  decided : after.soWhatConfirmed = before.soWhatConfirmed
  verdict : after.footprintMatch = before.footprintMatch

theorem Untouched.refl (case : ChangeCase) : Untouched case case := ⟨rfl, rfl, rfl⟩

/-- The calls of `so_what.py`. -/
def Command.isSoWhat : Command → Bool
  | .saveSoWhat _ _ _ | .confirmSoWhat _ _ => true
  | _ => false

variable {bank : Bank}

theorem untouched_of_transition {file written next : CaseFile} {case : ChangeCase}
    {toStatus : CaseStatusCategory} {actor : Actor} {user : Option Id} {extras : MoveNote}
    (moved : transition bank written case toStatus actor user extras = .ok next)
    (text : case.soWhatText = file.case.soWhatText)
    (decided : case.soWhatConfirmed = file.case.soWhatConfirmed)
    (verdict : case.footprintMatch = file.case.footprintMatch) : Untouched file.case next.case := by
  obtain ⟨-, checked, rfl⟩ := transition_ok.mp moved
  exact ⟨text, decided, verdict⟩

variable {file next : CaseFile} {command : Command}

theorem execute_untouched
    (accepted : execute bank command file = .ok next) (other : command.isSoWhat = false) :
    Untouched file.case next.case := by
  cases command with
  | triage caller body =>
    obtain ⟨urgency, owner, ownerTeam, subStatus, extras, -, moved⟩ := triageChange_ok accepted
    exact untouched_of_transition moved rfl rfl rfl
  | dismiss caller reasonKey =>
    obtain ⟨reason, extras, moved⟩ := dismissChange_ok accepted
    exact untouched_of_transition moved rfl rfl rfl
  | restore caller =>
    obtain ⟨back, moved, cleared⟩ := restoreChange_ok accepted
    obtain ⟨checked, rfl⟩ := save_ok.mp cleared
    have kept : Untouched file.case back.case := untouched_of_transition moved rfl rfl rfl
    exact ⟨kept.text, kept.decided, kept.verdict⟩
  | closeWithoutAction caller body =>
    obtain ⟨-, reason, extras, moved⟩ := closeWithoutAction_ok accepted
    exact untouched_of_transition moved rfl rfl rfl
  | startAssessment caller =>
    obtain ⟨begun, moved, rfl⟩ := startAssessment_ok accepted
    have kept : Untouched file.case begun.case := untouched_of_transition moved rfl rfl rfl
    exact kept
  | saveAssessment caller body mayClose =>
    obtain ⟨-, assessment, subStatus, settled, event, -, rfl, written⟩ := saveAssessment_ok accepted
    rcases written with ⟨reason, -, moved⟩ | ⟨-, stored⟩
    · have kept : Untouched file.case settled.case := untouched_of_transition moved rfl rfl rfl
      exact kept
    · obtain ⟨checked, rfl⟩ := save_ok.mp stored
      exact ⟨rfl, rfl, rfl⟩
  | addAction caller body =>
    obtain ⟨started, row, event, -, rfl, begun⟩ := addAction_ok accepted
    rcases begun with ⟨-, moved⟩ | ⟨-, rfl⟩
    · have kept : Untouched file.case started.case := untouched_of_transition moved rfl rfl rfl
      exact kept
    · exact .refl _
  | updateAction caller actionId body =>
    obtain ⟨-, saved, event, -, rfl⟩ := updateAction_ok accepted
    exact .refl _
  | deleteAction caller actionId =>
    obtain ⟨-, saved, event, -, rfl⟩ := deleteAction_ok accepted
    exact .refl _
  | addEvidence intake caller form =>
    obtain ⟨-, row, event, -, rfl⟩ := addEvidence_ok accepted
    exact .refl _
  | removeEvidence caller evidenceId =>
    obtain ⟨-, saved, event, -, rfl⟩ := removeEvidence_ok accepted
    exact .refl _
  | scanEvidence evidenceId result =>
    cases accepted
    unfold scanEvidence
    split <;> exact .refl _
  | requestSignoff caller => exact untouched_of_transition (requestSignoff_ok accepted) rfl rfl rfl
  | approveSignoff caller note stepUpAssertionId =>
    obtain ⟨-, reason, extras, -, moved⟩ := approveSignoff_ok accepted
    exact untouched_of_transition moved rfl rfl rfl
  | sendBackSignoff caller note =>
    obtain ⟨extras, moved⟩ := sendBackSignoff_ok accepted
    exact untouched_of_transition moved rfl rfl rfl
  | saveSoWhat caller text seen | confirmSoWhat caller seen => simp [Command.isSoWhat] at other
  | removeMember removal =>
    rcases removeMember_case accepted with same | ⟨person, same⟩
    · exact ⟨by rw [same], by rw [same], by rw [same]⟩
    · exact ⟨by rw [same], by rw [same], by rw [same]⟩

theorem execute_footprintMatch
    (accepted : execute bank command file = .ok next) :
    next.case.footprintMatch = file.case.footprintMatch := by
  cases soWhat : command.isSoWhat with
  | false => exact (execute_untouched accepted soWhat).verdict
  | true =>
    cases command with
    | saveSoWhat caller text seen => rw [(writeSoWhat_ok accepted).1]
    | confirmSoWhat caller seen => rw [(writeSoWhat_ok (confirmSoWhat_ok accepted).2).1]
    | _ => simp [Command.isSoWhat] at soWhat

/-- The one category a command can move a case to. -/
def Command.target : Command → Option CaseStatusCategory
  | .triage _ _ => some .assigned
  | .dismiss _ _ => some .dismissed
  | .restore _ => some .new
  | .closeWithoutAction _ _ | .saveAssessment _ _ _ | .approveSignoff _ _ _ => some .closed
  | .startAssessment _ => some .assessing
  | .addAction _ _ | .sendBackSignoff _ _ => some .implementing
  | .requestSignoff _ => some .signoff
  | _ => none

def Moved (target : Option CaseStatusCategory) (before after : CaseStatusCategory) : Prop :=
  after = before ∨ target = some after ∧ Edge before after

theorem moved_of_transition {file written next : CaseFile} {case : ChangeCase}
    {toStatus : CaseStatusCategory} {actor : Actor} {user : Option Id} {extras : MoveNote}
    (moved : transition bank written case toStatus actor user extras = .ok next)
    (same : case.status = file.case.status) : Moved (some toStatus) file.case.status next.case.status := by
  obtain ⟨allowed, checked, rfl⟩ := transition_ok.mp moved
  exact .inr ⟨rfl, same ▸ (checkTransition_ok.mp allowed).1⟩

theorem execute_moved
    (accepted : execute bank command file = .ok next) :
    Moved command.target file.case.status next.case.status := by
  cases command with
  | triage caller body =>
    obtain ⟨urgency, owner, ownerTeam, subStatus, extras, -, moved⟩ := triageChange_ok accepted
    exact moved_of_transition moved rfl
  | dismiss caller reasonKey =>
    obtain ⟨reason, extras, moved⟩ := dismissChange_ok accepted
    exact moved_of_transition moved rfl
  | restore caller =>
    obtain ⟨back, moved, cleared⟩ := restoreChange_ok accepted
    obtain ⟨checked, rfl⟩ := save_ok.mp cleared
    have arrived : Moved (some .new) file.case.status back.case.status := moved_of_transition moved rfl
    exact arrived
  | closeWithoutAction caller body =>
    obtain ⟨-, reason, extras, moved⟩ := closeWithoutAction_ok accepted
    exact moved_of_transition moved rfl
  | startAssessment caller =>
    obtain ⟨begun, moved, rfl⟩ := startAssessment_ok accepted
    have arrived : Moved (some .assessing) file.case.status begun.case.status :=
      moved_of_transition moved rfl
    exact arrived
  | saveAssessment caller body mayClose =>
    obtain ⟨-, assessment, subStatus, settled, event, -, rfl, written⟩ := saveAssessment_ok accepted
    rcases written with ⟨reason, -, moved⟩ | ⟨-, stored⟩
    · have arrived : Moved (some .closed) file.case.status settled.case.status :=
        moved_of_transition moved rfl
      exact arrived
    · obtain ⟨checked, rfl⟩ := save_ok.mp stored
      exact .inl rfl
  | addAction caller body =>
    obtain ⟨started, row, event, -, rfl, begun⟩ := addAction_ok accepted
    rcases begun with ⟨-, moved⟩ | ⟨-, rfl⟩
    · have arrived : Moved (some .implementing) file.case.status started.case.status :=
        moved_of_transition moved rfl
      exact arrived
    · exact .inl rfl
  | requestSignoff caller => exact moved_of_transition (requestSignoff_ok accepted) rfl
  | approveSignoff caller note stepUpAssertionId =>
    obtain ⟨-, reason, extras, -, moved⟩ := approveSignoff_ok accepted
    exact moved_of_transition moved rfl
  | sendBackSignoff caller note =>
    obtain ⟨extras, moved⟩ := sendBackSignoff_ok accepted
    exact moved_of_transition moved rfl
  | updateAction caller actionId body =>
    obtain ⟨-, saved, event, -, rfl⟩ := updateAction_ok accepted
    exact .inl rfl
  | deleteAction caller actionId =>
    obtain ⟨-, saved, event, -, rfl⟩ := deleteAction_ok accepted
    exact .inl rfl
  | addEvidence intake caller form =>
    obtain ⟨-, row, event, -, rfl⟩ := addEvidence_ok accepted
    exact .inl rfl
  | removeEvidence caller evidenceId =>
    obtain ⟨-, saved, event, -, rfl⟩ := removeEvidence_ok accepted
    exact .inl rfl
  | scanEvidence evidenceId result =>
    cases accepted
    unfold scanEvidence
    split <;> exact .inl rfl
  | saveSoWhat caller text seen => exact .inl (by rw [(writeSoWhat_ok accepted).1])
  | confirmSoWhat caller seen => exact .inl (by rw [(writeSoWhat_ok (confirmSoWhat_ok accepted).2).1])
  | removeMember removal =>
    rcases removeMember_case accepted with same | ⟨person, same⟩
    · exact .inl (by rw [same])
    · exact .inl (by rw [same])

theorem reopened_by_restore
    (accepted : execute bank command file = .ok next) (finished : isOpen file.case.status = false)
    (reopened : isOpen next.case.status = true) : ∃ caller, command = .restore caller := by
  rcases execute_moved accepted with same | ⟨target, drawn⟩
  · rw [same, finished] at reopened
    cases reopened
  · have back : next.case.status = .new := by
      cases left : file.case.status <;> simp_all [isOpen, Edge, transitions]
    rw [back] at target
    cases command with
    | restore caller => exact ⟨caller, rfl⟩
    | _ => simp [Command.target] at target

end Grc.Cases

/-! The "So what?" of one case under concurrent requests. A save and a confirmation read the
row without a lock and commit later, so other commits fall between the two halves. -/
namespace Grc.Cases

open Grc.Shared Grc.Lib Grc.Tenants

/-- What reached the words of a case, in the order it committed. -/
inductive WordsEntry where
  | saved (person : Id) (text : String)
  /-- A confirmation, with the words its person had read. -/
  | confirmed (person : Id) (words : String)
  | drafted (words : String)

/-- The words that should stand, and whether a person stands behind them. -/
structure Words where
  text : String
  decided : Bool

/-- A save is the decision. A confirmation stands behind the words it read, and changes none a
person has decided. A draft replaces only words nobody decided. -/
def Words.enter (words : Words) : WordsEntry → Words
  | .saved _ text => { text, decided := true }
  | .confirmed _ read => if words.decided then words else { text := read, decided := true }
  | .drafted draft => if words.decided then words else { words with text := draft }

def Words.after (words : Words) (log : List WordsEntry) : Words := log.foldl Words.enter words

theorem Words.after_append (words : Words) (first second : List WordsEntry) :
    words.after (first ++ second) = (words.after first).after second := List.foldl_append

/-- The case with the requests in flight on it: what each has read, under its own number, and
what has committed so far. -/
structure Room where
  file : CaseFile
  seen : List (Nat × ChangeCase) := []
  log : List WordsEntry := []

/-- One database statement of one party. -/
inductive Turn where
  /-- `_case_for` of the request with that number. -/
  | read (request : Nat)
  | save (bank : Bank) (request : Nat) (actor : Actor) (user : Id) (text : String)
  | confirm (bank : Bank) (request : Nat) (actor : Actor) (user : Id)
  | draft (words : String)
  /-- A workflow call, made under the case's row lock. -/
  | other (bank : Bank) (command : Command)

def Room.readBy (room : Room) (request : Nat) : Except Refusal ChangeCase :=
  demand (room.seen.lookup request) notFound

def turn (room : Room) : Turn → Except Refusal Room
  | .read request => .ok { room with seen := (request, room.file.case) :: room.seen }
  | .save bank request actor user text => do
    let seen ← room.readBy request
    let file ← saveSoWhat bank actor user text seen room.file
    .ok { room with file, log := room.log ++ [.saved user text] }
  | .confirm bank request actor user => do
    let seen ← room.readBy request
    let file ← confirmSoWhat bank actor user seen room.file
    .ok { room with file, log := room.log ++ [.confirmed user seen.soWhatText] }
  | .draft words =>
    .ok { room with file := applyDraft words room.file, log := room.log ++ [.drafted words] }
  | .other bank command => do
    require (command.isSoWhat = false) internalError
    let file ← execute bank command room.file
    .ok { room with file }

def CaseFile.words (file : CaseFile) : Words := { text := file.case.soWhatText, decided := file.case.soWhatConfirmed }

def WordsStand (opened : CaseFile) (room : Room) : Prop := room.file.words = opened.words.after room.log

/-- A confirmation commits while nobody has decided the words, or over the very words it read. -/
def ReadsWhatStands (room : Room) : Turn → Prop
  | .confirm _ request _ _ => ∀ seen, room.seen.lookup request = some seen →
      room.file.case.soWhatConfirmed = true → room.file.case.soWhatText = seen.soWhatText
  | _ => True

theorem Untouched.words {file next : CaseFile} (untouched : Untouched file.case next.case) :
    next.words = file.words := by
  rw [CaseFile.words, CaseFile.words, untouched.text, untouched.decided]

theorem writeSoWhat_words {bank : Bank} {actor : Actor} {user : Id} {text action : String}
    {seen : ChangeCase} {file next : CaseFile}
    (accepted : writeSoWhat bank actor user text action seen file = .ok next) :
    next.words = { text, decided := true } := by
  rw [CaseFile.words, (writeSoWhat_ok accepted).1]

theorem applyDraft_words (draft : String) (file : CaseFile) :
    (applyDraft draft file).words = file.words.enter (.drafted draft) := by
  unfold applyDraft
  by_cases decided : file.case.soWhatConfirmed = true
  · simp [CaseFile.words, Words.enter, decided]
  · by_cases same : file.case.soWhatText = draft
    · simp [CaseFile.words, Words.enter, decided, same]
    · simp [CaseFile.words, Words.enter, decided, same]

/-- One statement leaves the words as they should stand, a confirmation exactly when it reads
what stands. -/
theorem turn_words_iff {opened : CaseFile} {room next : Room} {statement : Turn}
    (stand : WordsStand opened room) (accepted : turn room statement = .ok next) :
    WordsStand opened next ↔ ReadsWhatStands room statement := by
  unfold WordsStand at stand ⊢
  cases statement with
  | read request =>
    cases accepted
    exact ⟨fun _ => trivial, fun _ => stand⟩
  | save bank request actor user text =>
    simp only [turn, bind_ok] at accepted
    obtain ⟨seen, -, file, written, committed⟩ := accepted
    cases committed
    refine ⟨fun _ => trivial, fun _ => ?_⟩
    rw [Words.after_append, ← stand]
    exact writeSoWhat_words written
  | confirm bank request actor user =>
    simp only [turn, bind_ok, Room.readBy, demand_ok] at accepted
    obtain ⟨seen, read, file, confirmed, committed⟩ := accepted
    cases committed
    have written : file.words = { text := seen.soWhatText, decided := true } :=
      writeSoWhat_words (confirmSoWhat_ok confirmed).2
    rw [Words.after_append, ← stand, written]
    by_cases decided : room.file.case.soWhatConfirmed = true
    · have kept : room.file.words.after [.confirmed user seen.soWhatText] = room.file.words := by
        simp [Words.after, Words.enter, CaseFile.words, decided]
      rw [kept]
      constructor
      · intro same again read_again _
        rw [read] at read_again
        cases read_again
        exact (congrArg Words.text same).symm
      · intro reads
        rw [CaseFile.words, decided, reads seen read decided]
    · constructor
      · intro _ again _ decided_
        exact absurd decided_ decided
      · intro _
        simp [Words.after, Words.enter, CaseFile.words, decided]
  | draft words =>
    cases accepted
    refine ⟨fun _ => trivial, fun _ => ?_⟩
    rw [Words.after_append, ← stand]
    exact applyDraft_words words room.file
  | other bank command =>
    simp only [turn, bind_ok, require_ok] at accepted
    obtain ⟨_, notSoWhat, file, executed, committed⟩ := accepted
    cases committed
    refine ⟨fun _ => trivial, fun _ => ?_⟩
    exact (execute_untouched executed notSoWhat).words.trans stand

/-- Over any interleaving, the words stand as they should after every statement exactly when
each confirmation that commits reads what stands. -/
theorem run_words_iff (opened : CaseFile) (statements : List Turn) :
    (∀ first, first <+: statements → WordsStand opened (run turn { file := opened } first)) ↔
      Meets turn ReadsWhatStands { file := opened } statements := by
  have initial : WordsStand opened { file := opened } := rfl
  refine holds_throughout_iff_meets initial ?_ statements
  intro room statement next stand accepted
  exact turn_words_iff stand accepted

/-- One person opens the draft to confirm it, a second saves the bank's own wording, and the
first one's confirmation commits last. -/
def lateConfirmation : List Turn :=
  let bank : Bank := .bare
  [.read 1, .read 2,
   .save bank 2 { kind := .user, id := some 8, label := "Erik" } 8 "Our own wording.",
   .confirm bank 1 { kind := .user, id := some 7, label := "Sara" } 7]

theorem lateConfirmation_overwrites :
    ¬∀ (opened : CaseFile) (statements : List Turn),
      WordsStand opened (run turn { file := opened } statements) := by
  intro stand
  have same := stand
    (createCase 1 1
      { id := 3, urgency := { id := 1, key := "act_now" }, soWhatDraft := "A drafted answer." } true 0)
    lateConfirmation
  have texts := congrArg Words.text same
  revert texts
  decide +kernel

end Grc.Cases
