import Grc.Shared.Llm

/-! However a response is cut into reads, the adapter hands on the same events; a stream that does not end in its `Completion` ends in an
`LlmError`, an event or an error nested deeper than the interpreter reads JSON apart. -/
namespace Grc.Shared.Llm

open Grc.Lib

theorem splitLines_append (front back : List Octet) :
    splitLines (front ++ back) =
      ((splitLines front).1 ++ (splitLines ((splitLines front).2 ++ back)).1, (splitLines ((splitLines front).2 ++ back)).2) := by
  induction front with
  | nil => rfl
  | cons octet rest ih =>
    simp only [List.cons_append, splitLines]
    rw [ih]
    by_cases ends : octet.val = 10
    · simp only [ends, if_true, List.cons_append]
    · simp only [ends, if_false]
      cases (splitLines rest).1 with
      | nil => simp only [List.nil_append, List.cons_append, splitLines, ends, if_false]
      | cons first others => rfl

/-- Reads within the limit give the lines of what they read, taken together. -/
theorem linesOf_chunks {budget : Nat} {pending : List Octet} {chunks : List (List Octet)} (open_ : splitLines pending = ([], pending))
    (some_ : ∀ chunk ∈ chunks, chunk ≠ []) (within : chunks.flatten.length ≤ budget) :
    linesOf budget pending (chunks.map .chunk) =
      .before (splitLines (pending ++ chunks.flatten)).1 (linesOf 0 (splitLines (pending ++ chunks.flatten)).2 []) := by
  induction chunks generalizing budget pending with
  | nil => simp only [List.map_nil, List.flatten_nil, List.append_nil, open_, linesOf, Lines.before, List.nil_append]
  | cons chunk rest ih =>
    rw [List.flatten_cons, List.length_append] at within
    simp only [List.map_cons, linesOf, some_ chunk (.head rest), if_false, Nat.not_lt.mpr (by omega : chunk.length ≤ budget)]
    have left : splitLines (splitLines (pending ++ chunk)).2 = ([], (splitLines (pending ++ chunk)).2) := by
      have again := splitLines_append (pending ++ chunk) []
      rw [List.append_nil, List.append_nil] at again
      have first := congrArg Prod.fst again
      have second := congrArg Prod.snd again
      exact Prod.ext (List.append_right_eq_self.mp first.symm) second.symm
    rw [ih left (fun other later => some_ other (.tail _ later)) (by omega), List.flatten_cons, ← List.append_assoc,
      splitLines_append (pending ++ chunk) rest.flatten]
    simp only [Lines.before, List.append_assoc, linesOf]

/-- Two attempts that came to the same: the same one, or the same body cut into reads in two ways, within the limit. -/
def SameBody (settings : Settings) (one two : Attempt) : Prop :=
  one = two ∨ ∃ first second : List (List Octet), one = .response (first.map .chunk) ∧ two = .response (second.map .chunk) ∧
    (∀ chunk ∈ first, chunk ≠ []) ∧ (∀ chunk ∈ second, chunk ≠ []) ∧ first.flatten = second.flatten ∧
    first.flatten.length ≤ settings.LLM_MAX_RESPONSE_BYTES

/-- What the generator comes to once the body has started. -/
def answerTo (settings : Settings) (turns : List Turn) : Answer :=
  (readEvents settings { model := settings.LLM_MODEL } (linesOf settings.LLM_MAX_RESPONSE_BYTES [] turns).stops
    (linesOf settings.LLM_MAX_RESPONSE_BYTES [] turns).whole).asLlmError

/-- The attempt is one after which the request is sent again, where a retry is left. -/
def Attempt.Again : Attempt → Prop
  | .response _ => False
  | .status code inTime _ => code ∈ RETRYABLE_STATUSES ∧ inTime = true
  | .unreachable inTime => inTime = true

/-- What the adapter makes of the attempt it does not send the request again after. -/
def lastly (settings : Settings) : Attempt → Answer
  | .response turns => answerTo settings turns
  | .status code _ body =>
    match errorType settings body with
    | .ok kind => .raises (.llmError (.status code kind))
    | .error raised => .raises raised
  | .unreachable _ => .raises (.llmError .unreachable)

variable {settings : Settings} {attempts : Nat → Attempt}

/-- The attempt that decides the call: those before it were worth a retry, and this one is not or there is none left. -/
structure Decides (settings : Settings) (attempts : Nat → Attempt) (last : Nat) : Prop where
  few : last ≤ settings.LLM_MAX_RETRIES
  earlier : ∀ k < last, (attempts k).Again
  ends : (attempts last).Again → last = settings.LLM_MAX_RETRIES

theorem Decides.eq {one two : Nat} (first : Decides settings attempts one) (second : Decides settings attempts two) : one = two := by
  rcases Nat.lt_trichotomy one two with before | same | after
  · have := first.ends (second.earlier one before)
    have := second.few
    omega
  · exact same
  · have := second.ends (first.earlier two after)
    have := first.few
    omega

theorem openWithRetries_spec (left attempt : Nat) : ∃ last, attempt ≤ last ∧ last ≤ attempt + left ∧
    (∀ k, attempt ≤ k → k < last → (attempts k).Again) ∧ ((attempts last).Again → last = attempt + left) ∧
    (match openWithRetries settings attempts left attempt with
      | .ok turns => answerTo settings turns
      | .error raised => .raises raised) = lastly settings (attempts last) := by
  induction left generalizing attempt with
  | zero =>
    refine ⟨attempt, Nat.le_refl _, Nat.le_refl _, fun k from_ before => by omega, fun _ => rfl, ?_⟩
    unfold openWithRetries
    cases attempts attempt with
    | response turns => rfl
    | status code inTime body =>
      simp only [ite_self, openWithRetries.refused, lastly]
      cases errorType settings body <;> rfl
    | unreachable inTime => cases inTime <;> rfl
  | succ left ih =>
    by_cases again : (attempts attempt).Again
    · obtain ⟨last, from_, few, earlier, ends, decided⟩ := ih (attempt + 1)
      refine ⟨last, by omega, by omega, fun k after before => ?_, fun worth => by have := ends worth; omega, ?_⟩
      · by_cases this_ : k = attempt
        · exact this_ ▸ again
        · exact earlier k (by omega) before
      · rw [← decided, openWithRetries]
        cases tried : attempts attempt with
        | response turns =>
          rw [tried] at again
          cases again
        | status code inTime body =>
          rw [tried] at again
          have worth : code ∈ RETRYABLE_STATUSES ∧ inTime = true := again
          simp only [worth, and_self, if_true]
        | unreachable inTime =>
          rw [tried] at again
          have worth : inTime = true := again
          simp only [worth]
    · refine ⟨attempt, Nat.le_refl _, by omega, fun k from_ before => by omega, fun worth => absurd worth again, ?_⟩
      rw [openWithRetries]
      cases tried : attempts attempt with
      | response turns => rfl
      | status code inTime body =>
        have worthless : ¬(code ∈ RETRYABLE_STATUSES ∧ inTime = true) := fun worth => again (by rw [tried]; exact worth)
        simp only [worthless, if_false, openWithRetries.refused, lastly]
        cases errorType settings body <;> rfl
      | unreachable inTime =>
        cases inTime with
        | true => exact absurd (by rw [tried]; exact rfl) again
        | false => rfl

/-- One attempt decides the call, and what the adapter makes of it is what the call comes to. -/
theorem stream_decided (settings : Settings) (attempts : Nat → Attempt) :
    ∃ last, Decides settings attempts last ∧ stream settings attempts = lastly settings (attempts last) := by
  obtain ⟨last, -, few, earlier, ends, decided⟩ := @openWithRetries_spec settings attempts settings.LLM_MAX_RETRIES 0
  rw [Nat.zero_add] at few ends
  refine ⟨last, ⟨few, fun k => earlier k (Nat.zero_le k), ends⟩, ?_⟩
  rw [← decided, stream]
  cases openWithRetries settings attempts settings.LLM_MAX_RETRIES 0 <;> rfl

theorem lastly_sameBody {one two : Attempt} (same : SameBody settings one two) : lastly settings one = lastly settings two := by
  rcases same with rfl | ⟨first, second, rfl, rfl, some_, some_', whole, within⟩
  · rfl
  · simp only [lastly, answerTo]
    rw [linesOf_chunks rfl some_ within, linesOf_chunks rfl some_' (whole ▸ within), whole]

theorem again_sameBody {one two : Attempt} (same : SameBody settings one two) : one.Again ↔ two.Again := by
  rcases same with rfl | ⟨first, second, rfl, rfl, -⟩ <;> rfl

/-- The JSON on a line, for an event's line. -/
def Carries (settings : Settings) (line : List Octet) (read : Except Raised JsonText.Value) : Prop :=
  ∃ text data, decode line = .ok text ∧ (letters "data:").isPrefixOf? text.strip = some data ∧ loads settings data = read

/-- The event on a line nests deeper than the interpreter reads. -/
def Deep (settings : Settings) (line : List Octet) : Prop := Carries settings line (.error .recursionError)

/-- The line's event says why the model stopped. -/
def Names (settings : Settings) (line : List Octet) (kind : Kind) : Prop :=
  ∃ event delta reason, Carries settings line (.ok event) ∧ get event "type" = .ok (some (.str (letters "message_delta"))) ∧
    getOr event "delta" (.object []) = .ok delta ∧ get delta "stop_reason" = .ok (some reason) ∧ reason ≠ .null ∧ kindOf (some reason) = kind

/-- Lines after each of which the loop goes on. -/
inductive Passed (settings : Settings) : Heard → List (List Octet) → Heard → Prop where
  | nil (heard : Heard) : Passed settings heard [] heard
  | quiet {heard after last : Heard} {line : List Octet} {rest : List (List Octet)} (went : hear settings heard line = .ok (.quiet after))
      (further : Passed settings after rest last) : Passed settings heard (line :: rest) last
  | part {heard after last : Heard} {line : List Octet} {said : Text} {rest : List (List Octet)}
      (went : hear settings heard line = .ok (.part said after)) (further : Passed settings after rest last) :
      Passed settings heard (line :: rest) last

/-- An event that the loop comes to, or the error it ends with, nests deeper than the interpreter reads. -/
def TooDeep (settings : Settings) : Attempt → Prop
  | .response turns => ∃ before line after heard, (linesOf settings.LLM_MAX_RESPONSE_BYTES [] turns).whole = before ++ line :: after ∧
      Passed settings { model := settings.LLM_MODEL } before heard ∧ Deep settings line
  | .status _ _ body => ∃ octets, body = some octets ∧
      (decode (octets.take settings.LLM_MAX_ERROR_BODY_BYTES) >>= loads settings) = .error .recursionError
  | .unreachable _ => False

section Shallow

/-- Nothing here nests too deep. -/
def Shallow {α : Type} (done : Except Raised α) : Prop := done ≠ .error .recursionError

theorem Shallow.bind {α β : Type} {done : Except Raised α} {next : α → Except Raised β} (first : Shallow done)
    (then_ : ∀ value, Shallow (next value)) : Shallow (done >>= next) := by
  cases done with
  | error raised => exact fun deep => first (congrArg Except.error (Except.error.inj deep))
  | ok value => exact then_ value

variable {value default : JsonText.Value} {name : String}

theorem get_shallow : Shallow (get value name) := by
  unfold get
  split <;> nofun

theorem getOr_shallow : Shallow (getOr value name default) := by
  unfold getOr get
  split <;> nofun

theorem typedStr_shallow : Shallow (typedStr value) := by
  unfold typedStr
  split <;> nofun

theorem typedInt_shallow : Shallow (typedInt value) := by
  unfold typedInt
  split <;> nofun

variable {heard : Heard}

theorem messageStart_shallow : Shallow (messageStart heard value) :=
  .bind getOr_shallow fun _ => .bind getOr_shallow fun _ => .bind typedStr_shallow fun _ =>
    .bind getOr_shallow fun _ => .bind getOr_shallow fun _ => .bind typedInt_shallow nofun

theorem contentBlockDelta_shallow : Shallow (contentBlockDelta heard value) := by
  refine .bind getOr_shallow fun delta => .bind get_shallow fun kind => ?_
  split
  · exact .bind getOr_shallow fun _ => .bind typedStr_shallow nofun
  · nofun

theorem messageDelta_shallow : Shallow (messageDelta heard value) := by
  refine .bind getOr_shallow fun _ => .bind getOr_shallow fun _ => .bind typedInt_shallow fun _ =>
    .bind getOr_shallow fun _ => .bind get_shallow fun _ => ?_
  split <;> nofun

theorem errorEvent_shallow : Shallow (errorEvent value) := .bind getOr_shallow fun _ => .bind get_shallow nofun

theorem messageStop_shallow : Shallow (messageStop heard) := by
  unfold messageStop
  split <;> nofun

end Shallow

/-- What one pass of the loop does with an event of some kind. -/
def dispatch (heard : Heard) (event : JsonText.Value) (kind : Option JsonText.Value) : Except Raised Event :=
  if isWord kind "message_start" then messageStart heard event
  else if isWord kind "content_block_delta" then contentBlockDelta heard event
  else if isWord kind "message_delta" then messageDelta heard event
  else if isWord kind "error" then errorEvent event
  else if isWord kind "message_stop" then messageStop heard
  else return .quiet heard

variable {heard : Heard}

theorem dispatch_shallow {event : JsonText.Value} {kind : Option JsonText.Value} : Shallow (dispatch heard event kind) := by
  unfold dispatch
  repeat' split
  · exact messageStart_shallow
  · exact contentBlockDelta_shallow
  · exact messageDelta_shallow
  · exact errorEvent_shallow
  · exact messageStop_shallow
  · nofun

variable {line : List Octet}

theorem hear_carries {read : Except Raised JsonText.Value} (carries : Carries settings line read) :
    hear settings heard line = read >>= fun event => get event "type" >>= dispatch heard event := by
  obtain ⟨text, data, decoded, from_, rfl⟩ := carries
  simp only [hear, decoded, bind, Except.bind, from_]
  rfl

/-- A line without an event is passed over, or is not text. -/
theorem hear_plain (plain : ∀ read, ¬Carries settings line read) :
    (∀ heard, hear settings heard line = .ok (.quiet heard)) ∨ ∀ heard, hear settings heard line = .error (.unreadable .valueError) := by
  cases decoded : decode line with
  | error raised =>
    refine .inr fun heard => ?_
    unfold decode at decoded
    split at decoded <;> cases decoded
    simp only [hear, decode]
    rename_i none_
    rw [none_]
    rfl
  | ok text =>
    cases from_ : (letters "data:").isPrefixOf? text.strip with
    | none =>
      refine .inl fun heard => ?_
      simp only [hear, decoded, bind, Except.bind, from_]
      rfl
    | some data => exact absurd ⟨text, data, decoded, from_, rfl⟩ (plain (loads settings data))

theorem hear_deep_iff : hear settings heard line = .error .recursionError ↔ Deep settings line := by
  constructor
  · intro deep
    by_cases carries : ∃ read, Carries settings line read
    · obtain ⟨read, carries⟩ := carries
      rw [hear_carries carries] at deep
      cases read with
      | error raised => exact (congrArg (fun done => Carries settings line done) (Except.error.inj deep ▸ rfl)).mp carries
      | ok event => exact absurd deep (@Shallow.bind _ _ (get event "type") (dispatch heard event) get_shallow fun _ => dispatch_shallow)
    · rcases hear_plain fun read its => carries ⟨read, its⟩ with quiet | unreadable
      · cases (quiet heard).symm.trans deep
      · cases (unreadable heard).symm.trans deep
  · exact fun deep => hear_carries deep

theorem isWord_message {word : String} (other : letters "message_delta" ≠ letters word) :
    isWord (some (.str (letters "message_delta"))) word = false := decide_eq_false other

/-- The reason to stop that a line names is kept, and is no refusal. -/
theorem hear_names {kind : Kind} {came : Event} (names : Names settings line kind)
    (went : hear settings heard line = .ok came) : ∃ after, came = .quiet after ∧ after.stopReason = some kind ∧ kind.word ≠ letters "refusal" := by
  obtain ⟨event, delta, reason, carries, typed, deltaIs, reasonIs, some_, rfl⟩ := names
  rw [hear_carries carries] at went
  change get event "type" >>= dispatch heard event = .ok came at went
  rw [typed] at went
  change dispatch heard event (some (.str (letters "message_delta"))) = .ok came at went
  simp only [dispatch, isWord_message (show letters "message_delta" ≠ letters "message_start" by decide),
    isWord_message (show letters "message_delta" ≠ letters "content_block_delta" by decide), Bool.false_eq_true, if_false] at went
  rw [if_pos (show isWord (some (.str (letters "message_delta"))) "message_delta" = true from by decide)] at went
  obtain ⟨tokens, delta', reason', its, its', answers, rfl⟩ := messageDelta_ok went
  obtain rfl := Except.ok.inj (deltaIs.symm.trans its)
  obtain rfl := Except.ok.inj (reasonIs.symm.trans its')
  have stops : stopReasonAfter heard (some reason) = some (kindOf (some reason)) := by
    cases reason <;> first | rfl | exact absurd rfl some_
  rw [stops] at answers
  exact ⟨_, rfl, stops, fun refuses => answers (congrArg some refuses)⟩

/-- Where the reason to stop comes from: what was kept, or the line. -/
def StopsFor (settings : Settings) (heard : Heard) (line : List Octet) : Event → Prop
  | .quiet after | .part _ after => after.stopReason = heard.stopReason ∨ ∃ kind, after.stopReason = some kind ∧ Names settings line kind
  | .whole completion => heard.stopReason = some completion.stopReason

theorem hear_stops {came : Event} (went : hear settings heard line = .ok came) :
    StopsFor settings heard line came := by
  by_cases carries : ∃ read, Carries settings line read
  · obtain ⟨read, carries⟩ := carries
    rw [hear_carries carries] at went
    cases read with
    | error raised => cases went
    | ok event =>
    obtain ⟨kind, typed, went⟩ := bind_ok.mp (show get event "type" >>= dispatch heard event = .ok came from went)
    unfold dispatch at went
    split at went
    · obtain ⟨model, tokens, rfl⟩ := messageStart_ok went
      exact .inl rfl
    · split at went
      · rcases contentBlockDelta_ok went with rfl | ⟨part, rfl⟩ <;> exact .inl rfl
      · split at went
        · rename_i worded
          obtain ⟨tokens, delta, reason, deltaIs, reasonIs, -, rfl⟩ := messageDelta_ok went
          have named : kind = some (.str (letters "message_delta")) := by
            unfold isWord at worded
            split at worded
            · exact congrArg (fun said => some (JsonText.Value.str said)) (of_decide_eq_true worded)
            · cases worded
          rw [named] at typed
          rcases reason with - | reason
          · exact .inl rfl
          · by_cases null : reason = .null
            · exact .inl (null ▸ rfl)
            · refine .inr ⟨kindOf (some reason), ?_, event, delta, reason, carries, typed, deltaIs, reasonIs, null, rfl⟩
              cases reason <;> first | rfl | exact absurd rfl null
        · split at went
          · exact absurd went errorEvent_raises
          · split at went
            · obtain ⟨completion, rfl, kept, -⟩ := messageStop_ok went
              exact kept
            · cases went
              exact .inl rfl
  · rcases hear_plain fun read its => carries ⟨read, its⟩ with quiet | unreadable
    · cases (quiet heard).symm.trans went
      exact .inl rfl
    · cases (unreadable heard).symm.trans went

/-- A whole answer comes after lines none of which names a refusal, the last reason among them being its own. -/
theorem readEvents_stops {stops : Option Raised} {completion : Completion} {lines : List (List Octet)}
    (ended : (readEvents settings heard stops lines).ending = .ok completion) : ∃ before stop after, lines = before ++ stop :: after ∧
      (∀ line ∈ before, ∀ kind, Names settings line kind → kind.word ≠ letters "refusal") ∧
      (heard.stopReason = some completion.stopReason ∨ ∃ line ∈ before, Names settings line completion.stopReason) := by
  induction lines generalizing heard with
  | nil => cases ended
  | cons line rest ih =>
    have goes : ∀ after : Heard, (hear settings heard line = .ok (.quiet after) ∨ ∃ said, hear settings heard line = .ok (.part said after)) →
        (readEvents settings after stops rest).ending = .ok completion → ∃ before stop after, line :: rest = before ++ stop :: after ∧
          (∀ line ∈ before, ∀ kind, Names settings line kind → kind.word ≠ letters "refusal") ∧
          (heard.stopReason = some completion.stopReason ∨ ∃ line ∈ before, Names settings line completion.stopReason) := by
      intro after went ended
      obtain ⟨before, stop, last, rfl, answers, reason⟩ := ih ended
      refine ⟨line :: before, stop, last, rfl, fun other among kind names => ?_, ?_⟩
      · rcases List.mem_cons.mp among with rfl | among
        · rcases went with went | ⟨said, went⟩
          · exact (hear_names names went).choose_spec.2.2
          · exact (hear_names names went).choose_spec.2.2
        · exact answers other among kind names
      · rcases reason with kept | ⟨other, among, names⟩
        · have source : after.stopReason = heard.stopReason ∨ ∃ kind, after.stopReason = some kind ∧ Names settings line kind := by
            rcases went with went | ⟨said, went⟩
            · exact hear_stops went
            · exact hear_stops went
          rcases source with same | ⟨kind, its, names⟩
          · exact .inl (same ▸ kept)
          · exact .inr ⟨line, .head before, Option.some.inj (its.symm.trans kept) ▸ names⟩
        · exact .inr ⟨other, .tail line among, names⟩
    unfold readEvents at ended
    split at ended
    · cases ended
    · rename_i after went
      exact goes after (.inl went) ended
    · rename_i said after went
      exact goes after (.inr ⟨said, went⟩) ended
    · rename_i finished went
      cases ended
      exact ⟨[], line, rest, rfl, nofun, .inl (hear_stops went)⟩

theorem readEvents_deep_iff {stops : Option Raised} (shallow : stops ≠ some .recursionError) {lines : List (List Octet)} :
    (readEvents settings heard stops lines).ending = .error .recursionError ↔
      ∃ before line after last, lines = before ++ line :: after ∧ Passed settings heard before last ∧ Deep settings line := by
  constructor
  · intro ended
    induction lines generalizing heard with
    | nil =>
      cases stops with
      | none => cases ended
      | some raised => exact absurd (congrArg some (Except.error.inj ended)) shallow
    | cons line rest ih =>
      unfold readEvents at ended
      split at ended
      · rename_i raised went
        exact ⟨[], line, rest, heard, rfl, .nil heard, hear_deep_iff.mp (Except.error.inj ended ▸ went)⟩
      · rename_i after went
        obtain ⟨before, deep, further, last, rfl, passed, nested⟩ := ih ended
        exact ⟨line :: before, deep, further, last, rfl, .quiet went passed, nested⟩
      · rename_i said after went
        obtain ⟨before, deep, further, last, rfl, passed, nested⟩ := ih ended
        exact ⟨line :: before, deep, further, last, rfl, .part went passed, nested⟩
      · cases ended
  · rintro ⟨before, line, after, last, rfl, passed, nested⟩
    induction passed with
    | nil heard =>
      simp only [List.nil_append, readEvents, hear_deep_iff.mpr nested]
      rfl
    | quiet went _ ih | part went _ ih =>
      simp only [List.cons_append, readEvents, went]
      exact ih

theorem linesOf_shallow {budget : Nat} {pending : List Octet} {turns : List Turn} :
    (linesOf budget pending turns).stops ≠ some .recursionError := by
  induction turns generalizing budget pending with
  | nil => nofun
  | cons turn rest ih =>
    cases turn with
    | late | failed exc => nofun
    | chunk octets =>
      unfold linesOf
      split
      · nofun
      · split
        · nofun
        · exact ih

theorem ending_asLlmError {answer : Answer} : answer.asLlmError.ending = answer.ending.mapError Raised.asLlmError := by
  induction answer with
  | word said rest ih => exact ih
  | whole completion | raises raised => rfl

variable {raised : Raised}

theorem asLlmError_eq : raised.asLlmError = .recursionError ∧ raised = .recursionError ∨
    raised ≠ .recursionError ∧ ∃ error, raised.asLlmError = .llmError error := by
  cases raised with
  | llmError error => exact .inr ⟨nofun, error, rfl⟩
  | unreadable exc => exact .inr ⟨nofun, .unreadable exc, rfl⟩
  | recursionError => exact .inl ⟨rfl, rfl⟩

/-- What the adapter promises of one call, whatever the provider answers. -/
structure ReadTheSame (settings : Settings) (attempts : Nat → Attempt) : Prop where
  cut : ∀ others : Nat → Attempt, (∀ k, SameBody settings (attempts k) (others k)) → stream settings others = stream settings attempts
  ends : match (stream settings attempts).ending with
    | .ok completion => completion.text = (stream settings attempts).words.flatten
    | .error raised => ∃ error, raised = .llmError error
  stopped : ∀ completion, (stream settings attempts).ending = .ok completion →
    ∃ last turns before stop after, Decides settings attempts last ∧ attempts last = .response turns ∧
      (linesOf settings.LLM_MAX_RESPONSE_BYTES [] turns).whole = before ++ stop :: after ∧
      (∀ line ∈ before, ∀ kind, Names settings line kind → kind.word ≠ letters "refusal") ∧
      ∃ line ∈ before, Names settings line completion.stopReason
  opened : ∃ last ≤ settings.LLM_MAX_RETRIES, (∀ k < last, ∀ turns, attempts k ≠ .response turns) ∧
    ∀ others : Nat → Attempt, (∀ k ≤ last, others k = attempts k) → stream settings others = stream settings attempts

theorem Decides.of_same {last : Nat} {others : Nat → Attempt} (decides : Decides settings attempts last)
    (same : ∀ k ≤ last, SameBody settings (attempts k) (others k)) : Decides settings others last where
  few := decides.few
  earlier := fun k before => (again_sameBody (same k (Nat.le_of_lt before))).mp (decides.earlier k before)
  ends := fun worth => decides.ends ((again_sameBody (same last (Nat.le_refl last))).mpr worth)

theorem stream_sameBody {last : Nat} {others : Nat → Attempt} (decides : Decides settings attempts last)
    (same : ∀ k ≤ last, SameBody settings (attempts k) (others k)) : stream settings others = stream settings attempts := by
  obtain ⟨one, mine, comes⟩ := stream_decided settings attempts
  obtain ⟨two, theirs, goes⟩ := stream_decided settings others
  obtain rfl := mine.eq decides
  obtain rfl := theirs.eq (decides.of_same same)
  rw [comes, goes, lastly_sameBody (same two (Nat.le_refl two))]

theorem errorType_error_iff {body : Option (List Octet)} : errorType settings body = .error raised ↔
    raised = .recursionError ∧ ∃ octets, body = some octets ∧
      (decode (octets.take settings.LLM_MAX_ERROR_BODY_BYTES) >>= loads settings) = .error .recursionError := by
  cases body with
  | none => exact ⟨nofun, fun meets => (nomatch meets.2.choose_spec.1)⟩
  | some octets =>
    unfold errorType
    dsimp only
    split
    · rename_i deep
      exact ⟨fun same => ⟨(Except.error.inj same).symm, octets, rfl, deep⟩, fun meets => congrArg Except.error meets.1.symm⟩
    · rename_i other its
      exact ⟨nofun, fun meets => by
        obtain ⟨octets', same, deep⟩ := meets.2
        cases same
        exact absurd (Except.error.inj (its.symm.trans deep)) (by assumption)⟩
    all_goals
      rename_i its
      refine ⟨?_, fun meets => ?_⟩
      · repeat' split
        all_goals nofun
      · obtain ⟨octets', same, deep⟩ := meets.2
        cases same
        cases its.symm.trans deep

theorem lastly_deep_iff {attempt : Attempt} : (lastly settings attempt).ending = .error .recursionError ↔ TooDeep settings attempt := by
  cases attempt with
  | response turns =>
    rw [lastly, answerTo, ending_asLlmError]
    refine Iff.trans (b := (readEvents settings { model := settings.LLM_MODEL } (linesOf settings.LLM_MAX_RESPONSE_BYTES [] turns).stops
      (linesOf settings.LLM_MAX_RESPONSE_BYTES [] turns).whole).ending = .error .recursionError) ?_ (readEvents_deep_iff linesOf_shallow)
    cases (readEvents settings { model := settings.LLM_MODEL } (linesOf settings.LLM_MAX_RESPONSE_BYTES [] turns).stops
      (linesOf settings.LLM_MAX_RESPONSE_BYTES [] turns).whole).ending with
    | ok completion => exact ⟨nofun, nofun⟩
    | error raised =>
      cases raised with
      | recursionError => exact ⟨fun _ => rfl, fun _ => rfl⟩
      | llmError error | unreadable exc => exact ⟨nofun, nofun⟩
  | status code inTime body =>
    refine Iff.trans ?_ (and_iff_right rfl : Raised.recursionError = .recursionError ∧ TooDeep settings (.status code inTime body) ↔ _)
    refine Iff.trans ?_ errorType_error_iff
    simp only [lastly]
    cases errorType settings body with
    | ok kind => exact ⟨nofun, nofun⟩
    | error raised =>
      exact ⟨fun same => congrArg Except.error (Except.error.inj same), fun same => congrArg Except.error (Except.error.inj same)⟩
  | unreachable inTime => exact ⟨nofun, nofun⟩

theorem lastly_llmError {attempt : Attempt} (ended : (lastly settings attempt).ending = .error raised) :
    raised = .recursionError ∨ ∃ error, raised = .llmError error := by
  cases attempt with
  | response turns =>
    rw [lastly, answerTo, ending_asLlmError] at ended
    cases done : (readEvents settings { model := settings.LLM_MODEL } (linesOf settings.LLM_MAX_RESPONSE_BYTES [] turns).stops
      (linesOf settings.LLM_MAX_RESPONSE_BYTES [] turns).whole).ending with
    | ok completion => cases done ▸ ended
    | error was =>
      rw [done] at ended
      obtain rfl := Except.error.inj ended
      exact asLlmError_eq.imp (·.1) (·.2)
  | status code inTime body =>
    simp only [lastly] at ended
    split at ended
    · exact .inr ⟨_, (Except.error.inj ended).symm⟩
    · rename_i deep
      obtain rfl := Except.error.inj ended
      exact .inl (errorType_error_iff.mp deep).1
  | unreachable inTime => exact .inr ⟨_, (Except.error.inj ended).symm⟩

theorem ReadTheSame.shallow (same : ReadTheSame settings attempts) : (stream settings attempts).ending ≠ .error .recursionError := by
  intro deep
  have ends := same.ends
  rw [deep] at ends
  exact (nomatch ends.choose_spec)

/-- The adapter keeps its promise exactly on the calls that are not decided by JSON nested deeper than the interpreter reads. -/
theorem readTheSame_iff (settings : Settings) (attempts : Nat → Attempt) :
    ReadTheSame settings attempts ↔ ∀ last, Decides settings attempts last → ¬TooDeep settings (attempts last) := by
  obtain ⟨last, decides, comes⟩ := stream_decided settings attempts
  constructor
  · intro same other decided deep
    obtain rfl := decided.eq decides
    exact same.shallow (comes ▸ lastly_deep_iff.mpr deep)
  · intro shallow
    refine ⟨fun others same => stream_sameBody decides fun k _ => same k, ?_, fun completion ended => ?_, last, decides.few, ?_, ?_⟩
    · cases ended : (stream settings attempts).ending with
      | ok completion => exact (stream_whole ended).1
      | error raised =>
        rw [comes] at ended
        rcases lastly_llmError ended with rfl | known
        · exact absurd (lastly_deep_iff.mp ended) (shallow last decides)
        · exact known
    · rw [comes] at ended
      cases tried : attempts last with
      | response turns =>
        rw [tried] at ended
        obtain ⟨before, stop, after, cut, answers, reason⟩ := readEvents_stops (Answer.ending_asLlmError ended)
        exact ⟨last, turns, before, stop, after, decides, tried, cut, answers, reason.resolve_left nofun⟩
      | status code inTime body =>
        simp only [tried, lastly] at ended
        split at ended <;> cases ended
      | unreachable inTime =>
        rw [tried] at ended
        cases ended
    · intro k before turns came
      have again := decides.earlier k before
      rw [came] at again
      exact again
    · exact fun others same => stream_sameBody decides fun k within => .inl (same k within).symm

/-- A body of one event, whose arrays nest deeper than the interpreter reads. -/
def nestedTurns : List Turn :=
  [.chunk ((letters "data:").map (fun point => Fin.ofNat 256 point.val) ++ List.replicate 101 91 ++ [10])]

theorem nested_notLlmError : ¬ReadTheSame { levels := 100 } fun _ => .response nestedTurns := by
  intro same
  exact same.shallow (by decide +kernel)

end Grc.Shared.Llm
