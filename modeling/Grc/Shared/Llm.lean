import Grc.Lib.Checks
import Grc.Lib.JsonText

/-! The language model adapter: the body is read a socket read at a time, cut into lines, and
each line heard as an event. What a failure says beyond its kind is never copied out. -/
namespace Grc.Shared.Llm

open Grc.Lib

/-- The deployment's settings, and how deep the interpreter reads JSON. -/
structure Settings where
  LLM_MODEL : Text := letters "claude-opus-5"
  LLM_MAX_RETRIES : Nat := 2
  LLM_MAX_RESPONSE_BYTES : Nat := 4 * 1024 * 1024
  LLM_MAX_ERROR_BODY_BYTES : Nat := 64 * 1024
  AI_GENERATION_OUTPUT_MAX_CHARS : Nat := 20000
  levels : Nat

def ANTHROPIC_API_VERSION : Text := letters "2023-06-01"

def RETRYABLE_STATUSES : List Nat := [408, 409, 429, 500, 502, 503, 504, 529]

/-- `_KIND`: the letters a provider kind is written in. -/
def isKindLetter (point : CodePoint) : Bool := decide (97 ≤ point.val ∧ point.val ≤ 122 ∨ point.val = 95)

/-- A provider kind: `[a-z_]{1,64}`. -/
structure Kind where
  word : Text
  short : 1 ≤ word.length ∧ word.length ≤ 64
  plain : word.all isKindLetter = true
  deriving DecidableEq

def Kind.unknown : Kind := ⟨letters "unknown", by decide, by decide⟩

theorem Kind.fits (kind : Kind) : kind.word.fits 64 = true := by
  have stored : kind.word.isStorable = true := by
    apply List.all_eq_true.mpr
    intro point found
    have letter := List.all_eq_true.mp kind.plain point found
    simp only [isKindLetter, decide_eq_true_eq] at letter
    simp only [CodePoint.isSurrogate, Bool.and_eq_true, bne_iff_ne, ne_eq, Bool.not_eq_true',
      decide_eq_false_iff_not]
    omega
  simp [Text.fits, kind.short.2, stored]

/-- `_UNREADABLE`: what reading a body off the network can raise. -/
inductive Unreadable where
  | osError
  | httpException
  | valueError
  | attributeError
  | typeError
  deriving DecidableEq

/-- Why the model could not answer. -/
inductive LlmError where
  | deadline
  | responseLimit
  | refusal
  | midStream (kind : Kind)
  | noStopReason
  | endedEarly
  | unreadable (exc : Unreadable)
  | status (code : Nat) (kind : Option Kind)
  | unreachable
  deriving DecidableEq

/-- What a step of the adapter raises. `RecursionError` is neither an `LlmError` nor one of
`_UNREADABLE`. -/
inductive Raised where
  | llmError (error : LlmError)
  | unreadable (exc : Unreadable)
  | recursionError
  deriving DecidableEq

/-- A whole answer. -/
structure Completion where
  text : Text
  model : Text
  modelVersion : Text
  inputTokens : Int
  outputTokens : Int
  stopReason : Kind
  deriving DecidableEq

/-- `json.loads`, its trouble raised. -/
def loads (settings : Settings) (source : Text) : Except Raised JsonText.Value :=
  match JsonText.loads settings.levels source with
  | .ok value => .ok value
  | .error .invalid => .error (.unreadable .valueError)
  | .error .tooDeep => .error .recursionError

/-- `bytes.decode("utf-8")`. -/
def decode (octets : List Octet) : Except Raised Text :=
  match Utf8.decode octets with
  | some decoded => .ok decoded
  | none => .error (.unreadable .valueError)

/-- `value.get(name)`: only an object has one. -/
def get (value : JsonText.Value) (name : String) : Except Raised (Option JsonText.Value) :=
  match value with
  | .object members => .ok (JsonText.member (letters name) members)
  | _ => .error (.unreadable .attributeError)

/-- `value.get(name, default)`. -/
def getOr (value : JsonText.Value) (name : String) (default : JsonText.Value) :
    Except Raised JsonText.Value :=
  (get value name).map (·.getD default)

/-- `_kind`. -/
def kindOf : Option JsonText.Value → Kind
  | some (.str word) =>
    if shaped : (1 ≤ word.length ∧ word.length ≤ 64) ∧ word.all isKindLetter = true then
      ⟨word, shaped.1, shaped.2⟩
    else .unknown
  | _ => .unknown

/-- `_typed(value, str)`. -/
def typedStr : JsonText.Value → Except Raised Text
  | .str value => .ok value
  | _ => .error (.unreadable .typeError)

/-- `_typed(value, int)`: a boolean is one. -/
def typedInt : JsonText.Value → Except Raised Int
  | .int value => .ok value
  | .bool value => .ok (if value then 1 else 0)
  | _ => .error (.unreadable .typeError)

/-- The `str` a value is, for a comparison with a name. -/
def isWord (value : Option JsonText.Value) (word : String) : Bool :=
  match value with
  | some (.str said) => decide (said = letters word)
  | _ => false

section Lines

/-- One turn of the reading loop: the deadline has passed, the read failed, or it answered so
many octets; none of them is the end of the body. -/
inductive Turn where
  | late
  | failed (exc : Unreadable)
  | chunk (octets : List Octet)

/-- `split(b"\n")`: the complete lines, and the one still open. -/
def splitLines : List Octet → List (List Octet) × List Octet
  | [] => ([], [])
  | octet :: rest =>
    let split := splitLines rest
    if octet.val = 10 then ([] :: split.1, split.2)
    else match split.1 with
      | [] => ([], octet :: split.2)
      | first :: others => ((octet :: first) :: others, split.2)

/-- A body's lines, and what stops the reading short of its end. -/
structure Lines where
  whole : List (List Octet)
  stops : Option Raised

def Lines.before (complete : List (List Octet)) (rest : Lines) : Lines :=
  ⟨complete ++ rest.whole, rest.stops⟩

/-- `_lines`. -/
def linesOf (budget : Nat) (pending : List Octet) : List Turn → Lines
  | [] => ⟨if pending = [] then [] else [pending], none⟩
  | .late :: _ => ⟨[], some (.llmError .deadline)⟩
  | .failed exc :: _ => ⟨[], some (.unreadable exc)⟩
  | .chunk octets :: rest =>
    if octets = [] then ⟨if pending = [] then [] else [pending], none⟩
    else if budget < octets.length then ⟨[], some (.llmError .responseLimit)⟩
    else
      let split := splitLines (pending ++ octets)
      .before split.1 (linesOf (budget - octets.length) split.2 rest)

end Lines

section Events

/-- What `_read_events` keeps between lines. -/
structure Heard where
  model : Text
  inputTokens : Int := 0
  outputTokens : Int := 0
  stopReason : Option Kind := none
  parts : List Text := []

/-- What one line comes to: nothing to hand on, a word of the answer, or the whole of it. -/
inductive Event where
  | quiet (heard : Heard)
  | part (part : Text) (heard : Heard)
  | whole (completion : Completion)

def messageStart (heard : Heard) (event : JsonText.Value) : Except Raised Event := do
  let message ← getOr event "message" (.object [])
  let model ← typedStr (← getOr message "model" (.str heard.model))
  let inputTokens ← typedInt (← getOr (← getOr message "usage" (.object [])) "input_tokens" (.int 0))
  return .quiet { heard with model, inputTokens }

def contentBlockDelta (heard : Heard) (event : JsonText.Value) : Except Raised Event := do
  let delta ← getOr event "delta" (.object [])
  if isWord (← get delta "type") "text_delta" then
    let part ← typedStr (← getOr delta "text" (.str []))
    return .part part { heard with parts := heard.parts ++ [part] }
  else return .quiet heard

def stopReasonAfter (heard : Heard) : Option JsonText.Value → Option Kind
  | none | some .null => heard.stopReason
  | reason => some (kindOf reason)

def messageDelta (heard : Heard) (event : JsonText.Value) : Except Raised Event := do
  let outputTokens ← typedInt
    (← getOr (← getOr event "usage" (.object [])) "output_tokens" (.int heard.outputTokens))
  let reason ← get (← getOr event "delta" (.object [])) "stop_reason"
  if (stopReasonAfter heard reason).map (·.word) = some (letters "refusal") then
    throw (.llmError .refusal)
  else return .quiet { heard with outputTokens, stopReason := stopReasonAfter heard reason }

def errorEvent (event : JsonText.Value) : Except Raised Event := do
  let kind := kindOf (← get (← getOr event "error" (.object [])) "type")
  throw (.llmError (.midStream kind))

def messageStop (heard : Heard) : Except Raised Event :=
  match heard.stopReason with
  | none => .error (.llmError .noStopReason)
  | some stopReason => .ok (.whole
    { text := heard.parts.flatten
      model := heard.model
      modelVersion := ANTHROPIC_API_VERSION
      inputTokens := heard.inputTokens
      outputTokens := heard.outputTokens
      stopReason })

/-- One pass of the loop of `_read_events`. -/
def hear (settings : Settings) (heard : Heard) (line : List Octet) : Except Raised Event := do
  let line := (← decode line).strip
  match (letters "data:").isPrefixOf? line with
  | none => return .quiet heard
  | some data =>
    let event ← loads settings data
    let kind ← get event "type"
    if isWord kind "message_start" then messageStart heard event
    else if isWord kind "content_block_delta" then contentBlockDelta heard event
    else if isWord kind "message_delta" then messageDelta heard event
    else if isWord kind "error" then errorEvent event
    else if isWord kind "message_stop" then messageStop heard
    else return .quiet heard

/-- What the adapter's generator comes to: words, then the one `Completion` or what was raised. -/
inductive Answer where
  | word (said : Text) (rest : Answer)
  | whole (completion : Completion)
  | raises (raised : Raised)

def readEvents (settings : Settings) (heard : Heard) (stops : Option Raised) :
    List (List Octet) → Answer
  | [] => .raises (stops.getD (.llmError .endedEarly))
  | line :: rest =>
    match hear settings heard line with
    | .error raised => .raises raised
    | .ok (.quiet heard) => readEvents settings heard stops rest
    | .ok (.part said heard) => .word said (readEvents settings heard stops rest)
    | .ok (.whole completion) => .whole completion

def Answer.words : Answer → List Text
  | .word said rest => said :: rest.words
  | .whole _ => []
  | .raises _ => []

def Answer.ending : Answer → Except Raised Completion
  | .word _ rest => rest.ending
  | .whole completion => .ok completion
  | .raises raised => .error raised

/-- A line hands on the word it keeps, and a whole answer is the words kept. -/
def Event.Keeps (heard : Heard) : Event → Prop
  | .quiet after => after.parts = heard.parts
  | .part said after => after.parts = heard.parts ++ [said]
  | .whole completion =>
    completion.text = heard.parts.flatten ∧ completion.modelVersion = ANTHROPIC_API_VERSION

variable {heard : Heard} {event : JsonText.Value} {came : Event}

theorem messageStart_ok (done : messageStart heard event = .ok came) :
    ∃ model inputTokens, came = .quiet { heard with model, inputTokens } := by
  obtain ⟨message, _, done⟩ := bind_ok.mp done
  obtain ⟨model, _, done⟩ := bind_ok.mp done
  obtain ⟨named, _, done⟩ := bind_ok.mp done
  obtain ⟨usage, _, done⟩ := bind_ok.mp done
  obtain ⟨tokens, _, done⟩ := bind_ok.mp done
  obtain ⟨counted, _, done⟩ := bind_ok.mp done
  exact ⟨named, counted, (Except.ok.inj done).symm⟩

theorem contentBlockDelta_ok (done : contentBlockDelta heard event = .ok came) :
    came = .quiet heard ∨ ∃ part, came = .part part { heard with parts := heard.parts ++ [part] } := by
  obtain ⟨delta, _, done⟩ := bind_ok.mp done
  obtain ⟨kind, _, done⟩ := bind_ok.mp done
  split at done
  · obtain ⟨text, _, done⟩ := bind_ok.mp done
    obtain ⟨part, _, done⟩ := bind_ok.mp done
    exact .inr ⟨part, (Except.ok.inj done).symm⟩
  · exact .inl (Except.ok.inj done).symm

theorem messageDelta_ok (done : messageDelta heard event = .ok came) :
    ∃ outputTokens delta reason, getOr event "delta" (.object []) = .ok delta ∧ get delta "stop_reason" = .ok reason ∧
      (stopReasonAfter heard reason).map (·.word) ≠ some (letters "refusal") ∧
      came = .quiet { heard with outputTokens, stopReason := stopReasonAfter heard reason } := by
  obtain ⟨usage, _, done⟩ := bind_ok.mp done
  obtain ⟨tokens, _, done⟩ := bind_ok.mp done
  obtain ⟨counted, _, done⟩ := bind_ok.mp done
  obtain ⟨delta, deltaIs, done⟩ := bind_ok.mp done
  obtain ⟨reason, reasonIs, done⟩ := bind_ok.mp done
  split at done
  · cases done
  · rename_i answers
    exact ⟨counted, delta, reason, deltaIs, reasonIs, answers, (Except.ok.inj done).symm⟩

theorem errorEvent_raises : errorEvent event ≠ .ok came := by
  intro done
  obtain ⟨error, _, done⟩ := bind_ok.mp done
  obtain ⟨kind, _, done⟩ := bind_ok.mp done
  cases done

theorem messageStop_ok (done : messageStop heard = .ok came) : ∃ completion, came = .whole completion ∧
    heard.stopReason = some completion.stopReason ∧ completion.text = heard.parts.flatten ∧ completion.modelVersion = ANTHROPIC_API_VERSION := by
  unfold messageStop at done
  split at done
  · cases done
  · rename_i reason its
    exact ⟨_, (Except.ok.inj done).symm, its, rfl, rfl⟩

theorem hear_keeps {settings : Settings} {line : List Octet}
    (done : hear settings heard line = .ok came) : came.Keeps heard := by
  obtain ⟨line, _, done⟩ := bind_ok.mp done
  dsimp only at done
  split at done
  · cases done
    rfl
  · obtain ⟨event, _, done⟩ := bind_ok.mp done
    obtain ⟨kind, _, done⟩ := bind_ok.mp done
    split at done
    · obtain ⟨model, tokens, rfl⟩ := messageStart_ok done
      rfl
    · split at done
      · rcases contentBlockDelta_ok done with rfl | ⟨part, rfl⟩ <;> rfl
      · split at done
        · obtain ⟨tokens, delta, reason, -, -, -, rfl⟩ := messageDelta_ok done
          rfl
        · split at done
          · exact absurd done errorEvent_raises
          · split at done
            · obtain ⟨completion, rfl, -, text, version⟩ := messageStop_ok done
              exact ⟨text, version⟩
            · cases done
              rfl

theorem readEvents_whole {settings : Settings} {stops : Option Raised} {completion : Completion}
    {lines : List (List Octet)}
    (ended : (readEvents settings heard stops lines).ending = .ok completion) :
    completion.text = (heard.parts ++ (readEvents settings heard stops lines).words).flatten ∧
      completion.modelVersion = ANTHROPIC_API_VERSION := by
  induction lines generalizing heard with
  | nil => cases ended
  | cons line rest ih =>
    unfold readEvents at ended ⊢
    split at ended
    · cases ended
    · rename_i after heardSo
      have kept : after.parts = heard.parts := hear_keeps heardSo
      rw [← kept]
      exact ih ended
    · rename_i said after heardSo
      have kept : after.parts = heard.parts ++ [said] := hear_keeps heardSo
      have whole := ih ended
      rw [kept, List.append_assoc] at whole
      exact whole
    · rename_i finished heardSo
      cases ended
      obtain ⟨kept, version⟩ : Event.Keeps heard (.whole completion) := hear_keeps heardSo
      simpa [Answer.words] using ⟨kept, version⟩

/-- `except _UNREADABLE`: what could not be read is raised as an `LlmError`. -/
def Raised.asLlmError : Raised → Raised
  | .unreadable exc => .llmError (.unreadable exc)
  | raised => raised

def Answer.asLlmError : Answer → Answer
  | .word said rest => .word said rest.asLlmError
  | .whole completion => .whole completion
  | .raises raised => .raises raised.asLlmError

theorem Answer.words_asLlmError (answer : Answer) : answer.asLlmError.words = answer.words := by
  induction answer with
  | word said rest ih => simp [Answer.asLlmError, Answer.words, ih]
  | whole completion | raises raised => rfl

theorem Answer.ending_asLlmError {answer : Answer} {completion : Completion}
    (ended : answer.asLlmError.ending = .ok completion) : answer.ending = .ok completion := by
  induction answer with
  | word said rest ih => exact ih ended
  | whole finished => exact ended
  | raises raised => cases ended

end Events

section Opening

/-- One attempt to open the request. `inTime`: the wait before the next would end before the
call's deadline. An error's body is `none` where it cannot be read. -/
inductive Attempt where
  | response (turns : List Turn)
  | status (code : Nat) (inTime : Bool) (body : Option (List Octet))
  | unreachable (inTime : Bool)

/-- `_error_type`: `none` for a body that cannot be read. -/
def errorType (settings : Settings) (body : Option (List Octet)) : Except Raised (Option Kind) :=
  match body with
  | none => .ok none
  | some octets =>
    match decode (octets.take settings.LLM_MAX_ERROR_BODY_BYTES) >>= loads settings with
    | .error .recursionError => .error .recursionError
    | .error _ => .ok none
    | .ok (.object members) =>
      match JsonText.member (letters "error") members with
      | some (.object reported) => .ok (some (kindOf (JsonText.member (letters "type") reported)))
      | _ => .ok (some .unknown)
    | .ok _ => .ok (some .unknown)

/-- `_open_with_retries`, with so many retries left. -/
def openWithRetries (settings : Settings) (attempts : Nat → Attempt) :
    (left attempt : Nat) → Except Raised (List Turn)
  | left, attempt =>
    match attempts attempt with
    | .response turns => .ok turns
    | .status code inTime body =>
      if code ∈ RETRYABLE_STATUSES ∧ inTime = true then
        match left with
        | 0 => refused code body
        | left + 1 => openWithRetries settings attempts left (attempt + 1)
      else refused code body
    | .unreachable inTime =>
      match inTime, left with
      | true, left + 1 => openWithRetries settings attempts left (attempt + 1)
      | _, _ => .error (.llmError .unreachable)
where
  refused (code : Nat) (body : Option (List Octet)) : Except Raised (List Turn) :=
    (errorType settings body).bind fun kind => .error (.llmError (.status code kind))

/-- `AnthropicLlm.stream`. -/
def stream (settings : Settings) (attempts : Nat → Attempt) : Answer :=
  match openWithRetries settings attempts settings.LLM_MAX_RETRIES 0 with
  | .error raised => .raises raised
  | .ok turns =>
    let lines := linesOf settings.LLM_MAX_RESPONSE_BYTES [] turns
    (readEvents settings { model := settings.LLM_MODEL } lines.stops lines.whole).asLlmError

theorem stream_whole {settings : Settings} {attempts : Nat → Attempt} {completion : Completion}
    (ended : (stream settings attempts).ending = .ok completion) :
    completion.text = (stream settings attempts).words.flatten ∧
      completion.modelVersion = ANTHROPIC_API_VERSION := by
  unfold stream at ended ⊢
  split at ended
  · cases ended
  · rename_i turns _
    dsimp only
    rw [Answer.words_asLlmError]
    exact readEvents_whole (Answer.ending_asLlmError ended)

/-- `AnthropicLlm.asked_model`. -/
def askedModel (settings : Settings) : Text × Text := (settings.LLM_MODEL, ANTHROPIC_API_VERSION)

end Opening

end Grc.Shared.Llm
