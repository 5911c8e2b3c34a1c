import Grc.Shared.Ai

/-! What a streamed call leaves. Whatever the provider sends and whenever the reader stops, the
call comes down to one attempt to write its row; the row is there exactly when what was said, and
the model that is named for it, can be written down. -/
namespace Grc.Shared.Ai

open Grc.Lib
open Grc.Governance.AiLog (AiGeneration Database)
open Grc.Shared.Llm (Answer Attempt Completion Raised Settings)

def leaves (answer : Answer) : Option Nat → Bool
  | none => false
  | some taken => decide (taken ≤ answer.words.length)

def taken (answer : Answer) : Option Nat → List Text
  | none => answer.words
  | some items => answer.words.take items

/-- The row says how the call ended: the provider's own stop reason for an answer handed over,
`failed` for a reader who saw the failure, `aborted` for one who stopped. -/
def SaysHow (answer : Answer) (told : Told) (row : AiGeneration) : Prop :=
  match told.generation, told.seen with
  | some _, _ => ∃ completion, answer.ending = .ok completion ∧ row.stopReason = completion.stopReason.word
  | none, .failed _ => row.stopReason = FAILED
  | none, .closed => row.stopReason = ABORTED
  | none, _ => False

/-- One row under the call's id, holding the capped beginning of the words handed to the reader
and how the call ended, and no failure but an `LlmError`. -/
structure LeavesOneRow (settings : Settings) (call : Call) (answer : Answer) (told : Told) : Prop where
  row : ∃ row, told.database.generations.filter (fun kept => kept.id == call.generationId) = [row] ∧
    row.output = told.words.flatten.take settings.AI_GENERATION_OUTPUT_MAX_CHARS ∧
    SaysHow answer told row
  seen : told.seen ≠ .raised

/-- A stream closed before it is first read asks nothing and writes nothing; any other leaves its
one row. -/
structure LeavesItsRow (settings : Settings) (call : Call) (database : Database) (answer : Answer)
    (reads : Option Nat) (told : Told) : Prop where
  unread : reads = some 0 → told.asked = false ∧ told.database = database
  read : reads ≠ some 0 → told.asked = true ∧ LeavesOneRow settings call answer told

/-- What the row is due to hold can be written: the words taken under the model asked where the
reader left or the model failed, the completion's own where it finished. Nothing is due of an
answer that ended in what is no `LlmError`. -/
def CanBeRecorded (settings : Settings) (call : Call) (answer : Answer) (reads : Option Nat) : Prop :=
  if leaves answer reads then
    Recordable settings call (taken answer reads).flatten settings.LLM_MODEL 0 0
  else match answer.ending with
    | .ok completion =>
      Recordable settings call completion.text completion.model completion.inputTokens
        completion.outputTokens
    | .error (.llmError _) => Recordable settings call answer.words.flatten settings.LLM_MODEL 0 0
    | .error _ => False

variable (hexdigest : Text → Digest)
variable {settings : Settings} {call : Call} {database : Database} {answer : Answer}

section Listening

theorem listen_left {items : Nat} {written : List Text} (one : 1 ≤ items)
    (within : items ≤ answer.words.length) :
    listen hexdigest settings call database answer (some items) written =
      cutShort hexdigest settings call database (written ++ answer.words.take items) ABORTED .closed := by
  induction answer generalizing items written with
  | word said rest ih =>
    unfold listen
    by_cases last : items = 1
    · subst last
      simp [Answer.words]
    · obtain ⟨items, rfl⟩ : ∃ fewer, items = fewer + 2 := ⟨items - 2, by omega⟩
      have fewer : items + 1 ≤ rest.words.length := by simpa [Answer.words] using within
      rw [if_neg (by simp)]
      have heard := @ih (items + 1) (written ++ [said]) (by omega) fewer
      rw [List.append_assoc] at heard
      simpa [Answer.words] using heard
  | whole completion | raises raised => simp [Answer.words] at within; omega

def lastOf : Except Raised Completion → Answer
  | .ok completion => .whole completion
  | .error raised => .raises raised

theorem listen_heard {reads : Option Nat} {written : List Text} (stays : leaves answer reads = false) :
    listen hexdigest settings call database answer reads written =
      listen hexdigest settings call database (lastOf answer.ending)
        (reads.map (· - answer.words.length)) (written ++ answer.words) := by
  induction answer generalizing reads written with
  | word said rest ih =>
    have more : reads ≠ some 1 := by
      rintro rfl
      simp [leaves, Answer.words] at stays
    have restStays : leaves rest (reads.map (· - 1)) = false := by
      cases reads with
      | none => rfl
      | some items =>
        have beyond : ¬ items ≤ rest.words.length + 1 := of_decide_eq_false stays
        apply decide_eq_false
        change ¬ items - 1 ≤ rest.words.length
        omega
    have heard := @ih (reads.map (· - 1)) (written ++ [said]) restStays
    rw [List.append_assoc] at heard
    rw [listen, if_neg more, heard]
    have fewer : (reads.map (· - 1)).map (· - rest.words.length) =
        reads.map (· - (Answer.word said rest).words.length) := by
      cases reads with
      | none => rfl
      | some items => simp [Answer.words]; omega
    rw [fewer]
    rfl
  | whole completion | raises raised => cases reads <;> simp [Answer.words, Answer.ending, lastOf]

end Listening

section Rows

theorem cutShort_leavesOneRow {written : List Text} {stopReason : Text} {seen : Seen}
    (fits : stopReason.fits 64 = true) (shown : seen ≠ .raised)
    (how : ∀ after row, row.stopReason = stopReason → SaysHow answer ⟨true, written, none, seen, after⟩ row) :
    LeavesOneRow settings call answer
        (cutShort hexdigest settings call database written stopReason seen) ↔
      call.Sound database ∧ Recordable settings call written.flatten settings.LLM_MODEL 0 0 := by
  have logs := @log_isSome_iff hexdigest settings call database (unfinished settings written stopReason) rfl fits
  unfold cutShort
  constructor
  · intro kept
    apply logs.mp
    split at kept
    · exact absurd rfl kept.seen
    · rename_i row after logged
      exact ⟨row, after, logged⟩
  · intro recordable
    obtain ⟨row, after, logged⟩ := logs.mpr recordable
    rw [logged]
    obtain ⟨only, output, reason⟩ := log_writes hexdigest logged
    exact ⟨⟨row, only, output, how after row reason⟩, shown⟩

theorem whole_leavesOneRow {written : List Text} {completion : Completion} {reads : Option Nat}
    (ended : answer.ending = .ok completion) (said : completion.text = written.flatten)
    (version : completion.modelVersion = Llm.ANTHROPIC_API_VERSION) :
    LeavesOneRow settings call answer
        (listen hexdigest settings call database (.whole completion) reads written) ↔
      call.Sound database ∧
        Recordable settings call completion.text completion.model completion.inputTokens
          completion.outputTokens := by
  have logs := @log_isSome_iff hexdigest settings call database (finished completion) version
    completion.stopReason.fits
  unfold listen
  constructor
  · intro kept
    apply logs.mp
    split at kept
    · exact absurd rfl kept.seen
    · rename_i row after logged
      exact ⟨row, after, logged⟩
  · intro recordable
    obtain ⟨row, after, logged⟩ := logs.mpr recordable
    rw [logged]
    obtain ⟨only, output, reason⟩ := log_writes hexdigest logged
    refine ⟨⟨row, only, ?_, completion, ended, reason⟩, ?_⟩
    · rw [output]
      exact congrArg _ said
    · dsimp only
      split <;> nofun

end Rows

/-- Once read, an answer leaves its one row exactly when the row due can be written. -/
theorem listen_leavesOneRow {reads : Option Nat} (read : reads ≠ some 0)
    (whole : ∀ completion, answer.ending = .ok completion →
      completion.text = answer.words.flatten ∧ completion.modelVersion = Llm.ANTHROPIC_API_VERSION) :
    LeavesOneRow settings call answer (listen hexdigest settings call database answer reads []) ↔
      call.Sound database ∧ CanBeRecorded settings call answer reads := by
  unfold CanBeRecorded
  split
  · rename_i left
    cases reads with
    | none => cases left
    | some items =>
      have within : items ≤ answer.words.length := by simpa [leaves] using left
      have one : 1 ≤ items := Nat.one_le_iff_ne_zero.mpr fun zero => read (congrArg some zero)
      rw [listen_left hexdigest one within]
      exact cutShort_leavesOneRow hexdigest (by decide) nofun fun _ _ reason => reason
  · rename_i stays
    rw [listen_heard hexdigest (Bool.not_eq_true _ ▸ stays)]
    split
    · rename_i completion ended
      rw [ended]
      obtain ⟨said, version⟩ := whole completion ended
      exact whole_leavesOneRow hexdigest ended said version
    · rename_i error ended
      rw [ended]
      exact cutShort_leavesOneRow hexdigest (by decide) nofun fun _ _ reason => reason
    · rename_i raised other ended
      rw [ended]
      constructor
      · intro kept
        cases raised with
        | llmError error => exact absurd rfl (other error)
        | unreadable exc | recursionError => exact absurd rfl kept.seen
      · exact fun impossible => impossible.2.elim

theorem listen_asked (reads : Option Nat) (written : List Text) :
    (listen hexdigest settings call database answer reads written).asked = true := by
  induction answer generalizing reads written with
  | word said rest ih =>
    unfold listen
    split
    · unfold cutShort; split <;> rfl
    · exact ih _ _
  | whole completion => unfold listen; split <;> rfl
  | raises raised =>
    cases raised with
    | llmError error => unfold listen cutShort; split <;> rfl
    | unreadable exc | recursionError => rfl

/-- Every streamed call leaves its row, except where the row cannot be written: the caller's own
part is refused, the words kept hold what no column holds or `cite` raises on them, the model named
is blank or too long, a count is none, or an event nests deeper than the interpreter reads. -/
theorem stream_leavesItsRow_iff (attempts : Nat → Attempt) (reads : Option Nat) :
    LeavesItsRow settings call database (Llm.stream settings attempts) reads
        (stream hexdigest settings call database attempts reads) ↔
      reads = some 0 ∨
        call.Sound database ∧ CanBeRecorded settings call (Llm.stream settings attempts) reads := by
  by_cases unread : reads = some 0
  · subst unread
    constructor
    · exact fun _ => .inl rfl
    · exact fun _ => ⟨fun _ => ⟨rfl, rfl⟩, fun read => absurd rfl read⟩
  · have rows := @listen_leavesOneRow hexdigest settings call database (Llm.stream settings attempts)
      reads unread fun completion ended => Llm.stream_whole ended
    unfold stream streamed
    rw [if_neg unread]
    constructor
    · intro kept
      exact .inr (rows.mp (kept.read unread).2)
    · intro recorded
      have due := recorded.resolve_left unread
      exact ⟨fun zero => absurd zero unread, fun _ => ⟨listen_asked hexdigest _ _, rows.mpr due⟩⟩

section NulWord

/-- An ordinary answer but for one letter: its only word ends in an escaped NUL. -/
def nulWordLines : List String :=
  ["data: \x7b\"type\": \"message_start\", \"message\": \x7b\"model\": \"claude-opus-5\"\x7d\x7d\n",
    "data: \x7b\"type\": \"content_block_delta\", \"delta\": \x7b\"type\": \"text_delta\", \"text\": \"a\\u0000\"\x7d\x7d\n",
    "data: \x7b\"type\": \"message_delta\", \"delta\": \x7b\"stop_reason\": \"end_turn\"\x7d, \"usage\": \x7b\"output_tokens\": 2\x7d\x7d\n",
    "data: \x7b\"type\": \"message_stop\"\x7d\n"]

def nulWordAttempts : Nat → Attempt := fun _ =>
  .response (nulWordLines.map fun line => .chunk (line.toList.map fun letter => Fin.ofNat 256 letter.toNat))

def nulWordCall : Call where
  purpose := .answer
  system := letters "Answer from the passages."
  prompt := letters "What applies?"
  promptTemplate := letters "ask.v1"
  cite := fun _ => some []
  tenantId := some 1
  askerId := some 2
  generationId := 3

def nulWordDatabase : Database where
  generations := []
  tenants := [1]
  users := [2]

def nulWordDigest : Text → Digest := fun _ =>
  ⟨letters "cece48d9cce47ef9dbdfd46a9903183607f72c0b16c358c788ccdf4664b66695", by decide, by decide⟩

/-- The word is handed to the reader, PostgreSQL refuses the row of it, and the reader sees that
refusal: no row is left. -/
theorem nulWord_leaves_no_row :
    ¬ LeavesItsRow { levels := 100 } nulWordCall nulWordDatabase
        (Llm.stream { levels := 100 } nulWordAttempts) none
        (stream nulWordDigest { levels := 100 } nulWordCall nulWordDatabase nulWordAttempts none) := by
  intro kept
  have refused : (stream nulWordDigest { levels := 100 } nulWordCall nulWordDatabase
      nulWordAttempts none).seen = .raised := by decide +kernel
  exact (kept.read nofun).2.seen refused

end NulWord

end Grc.Shared.Ai
