import Grc.Shared.Llm

/-! The one writer of `ai_generation`: what a row of it says, and what the table refuses. -/
namespace Grc.Governance.AiLog

open Grc.Lib

abbrev Id := Nat

inductive AiPurpose where
  | soWhat
  | changeSummary
  | scopeSuggestion
  | linkSuggestion
  | translation
  | answer
  | agentReview
  | whatApplies
  deriving DecidableEq

structure AiCitation where
  label : Text
  url : Text

/-- A row of a call made outside any run and about no record. -/
structure AiGeneration where
  id : Id
  tenantId : Option Id
  askerId : Option Id
  purpose : AiPurpose
  model : Text
  modelVersion : Text
  promptTemplate : Text
  promptHash : Text
  output : Text
  citations : List AiCitation
  inputTokens : Int
  outputTokens : Int
  stopReason : Text

structure Database where
  generations : List AiGeneration
  tenants : List Id
  users : List Id

/-- What a `PositiveIntegerField` holds. -/
def isCount (value : Int) : Prop := 0 ≤ value ∧ value ≤ 2147483647

def AiCitation.IsStorable (citation : AiCitation) : Prop :=
  citation.label.isStorable = true ∧ citation.url.isStorable = true

/-- What the table takes: columns that hold their values, a purpose that names no run, rows that
the keys point at, and an id of its own. -/
structure Takes (database : Database) (row : AiGeneration) : Prop where
  purpose : row.purpose ≠ .agentReview
  tenant : ∀ tenant ∈ row.tenantId, tenant ∈ database.tenants
  asker : ∀ asker ∈ row.askerId, asker ∈ database.users
  fresh : ∀ earlier ∈ database.generations, earlier.id ≠ row.id
  model : row.model.fits 200 = true
  modelVersion : row.modelVersion.fits 120 = true
  promptTemplate : row.promptTemplate.fits 200 = true
  promptHash : row.promptHash.fits 128 = true
  output : row.output.isStorable = true
  citations : ∀ citation ∈ row.citations, citation.IsStorable
  inputTokens : isCount row.inputTokens
  outputTokens : isCount row.outputTokens
  stopReason : row.stopReason.fits 64 = true

instance (value : Int) : Decidable (isCount value) := inferInstanceAs (Decidable (_ ∧ _))

instance (citation : AiCitation) : Decidable citation.IsStorable := inferInstanceAs (Decidable (_ ∧ _))

instance (database : Database) (row : AiGeneration) : Decidable (Takes database row) :=
  decidable_of_iff
    (row.purpose ≠ .agentReview ∧ (∀ tenant ∈ row.tenantId, tenant ∈ database.tenants) ∧
      (∀ asker ∈ row.askerId, asker ∈ database.users) ∧
      (∀ earlier ∈ database.generations, earlier.id ≠ row.id) ∧ row.model.fits 200 = true ∧
      row.modelVersion.fits 120 = true ∧ row.promptTemplate.fits 200 = true ∧
      row.promptHash.fits 128 = true ∧ row.output.isStorable = true ∧
      (∀ citation ∈ row.citations, citation.IsStorable) ∧ isCount row.inputTokens ∧
      isCount row.outputTokens ∧ row.stopReason.fits 64 = true)
    ⟨fun ⟨a, b, c, d, e, f, g, h, i, j, k, l, m⟩ => ⟨a, b, c, d, e, f, g, h, i, j, k, l, m⟩,
      fun ⟨a, b, c, d, e, f, g, h, i, j, k, l, m⟩ => ⟨a, b, c, d, e, f, g, h, i, j, k, l, m⟩⟩

/-- Why no row is written: a call that names no model, or a row the table does not take. -/
inductive Refused where
  | validationError
  | database

/-- `AiGeneration.objects.create`. -/
def create (database : Database) (row : AiGeneration) : Except Refused (AiGeneration × Database) :=
  if Takes database row then
    .ok (row, { database with generations := database.generations ++ [row] })
  else .error .database

/-- `log_generation`, of a call whose output is still whole. -/
def logGeneration (maxChars : Nat) (database : Database) (call : AiGeneration) :
    Except Refused (AiGeneration × Database) :=
  if call.model.strip = [] ∨ call.modelVersion.strip = [] then .error .validationError
  else create database { call with output := call.output.take maxChars }

/-- A row is written exactly when the call names a model and a version and the table takes it:
the call's own row, its output capped, and nothing else. -/
theorem logGeneration_eq_ok_iff {maxChars : Nat} {database after : Database} {call row : AiGeneration} :
    logGeneration maxChars database call = .ok (row, after) ↔
      (call.model.isBlank = false ∧ call.modelVersion.isBlank = false) ∧
        Takes database { call with output := call.output.take maxChars } ∧
        row = { call with output := call.output.take maxChars } ∧
        after = { database with generations := database.generations ++ [row] } := by
  unfold logGeneration create
  split
  · rename_i nameless
    rw [Text.strip_eq_nil_iff, Text.strip_eq_nil_iff] at nameless
    constructor
    · intro refused; cases refused
    · intro ⟨⟨model, version⟩, _⟩
      rw [model, version] at nameless
      simp at nameless
  · rename_i named
    rw [Text.strip_eq_nil_iff, Text.strip_eq_nil_iff, not_or, Bool.not_eq_true,
      Bool.not_eq_true] at named
    split
    · rename_i taken
      constructor
      · intro same
        cases same
        exact ⟨named, taken, rfl, rfl⟩
      · rintro ⟨-, -, rfl, rfl⟩
        rfl
    · rename_i refused
      constructor
      · intro same; cases same
      · intro ⟨_, taken, _⟩
        exact absurd taken refused

theorem filter_written {database : Database} {row : AiGeneration} (taken : Takes database row) :
    (database.generations ++ [row]).filter (fun kept => kept.id == row.id) = [row] := by
  have others : database.generations.filter (fun kept => kept.id == row.id) = [] := by
    apply List.filter_eq_nil_iff.mpr
    intro earlier found
    simpa using taken.fresh earlier found
  rw [List.filter_append, others]
  simp

end Grc.Governance.AiLog

/-! The one door to a model. A streamed call writes its row on three paths: the model finished,
the model failed, or the reader stopped first. -/
namespace Grc.Shared.Ai

open Grc.Lib
open Grc.Governance.AiLog (AiPurpose AiCitation AiGeneration Database Takes logGeneration isCount
  filter_written logGeneration_eq_ok_iff)
open Grc.Shared.Llm (Answer Attempt Completion LlmError Raised Settings)

def ABORTED : Text := letters "aborted"
def FAILED : Text := letters "failed"

/-- A SHA-256 in hexadecimal. -/
structure Digest where
  hex : Text
  whole : hex.length = 64
  plain : hex.isStorable = true

theorem Digest.fits (digest : Digest) : digest.hex.fits 128 = true := by
  simp [Text.fits, digest.whole, digest.plain]

/-- What a caller gives a streamed call. `cite` is `none` where it raises. -/
structure Call where
  purpose : AiPurpose
  system : Text
  prompt : Text
  promptTemplate : Text
  cite : Text → Option (List AiCitation)
  tenantId : Option Governance.AiLog.Id
  askerId : Option Governance.AiLog.Id
  generationId : Governance.AiLog.Id

variable (hexdigest : Text → Digest)

/-- What `prompt_hash` hashes. -/
def Call.asked (call : Call) : Text := call.system ++ letters "\n\n" ++ call.prompt

/-- `prompt_hash`: a text with a lone surrogate cannot be encoded. -/
def promptHash (call : Call) : Option Digest :=
  if call.asked.any CodePoint.isSurrogate then none else some (hexdigest call.asked)

/-- How the reader's side of the call ended. `raised` is a failure that is no `LlmError`. -/
inductive Seen where
  | finished
  | closed
  | failed (error : LlmError)
  | raised
  deriving DecidableEq

/-- What a streamed call came to: whether the model was asked, the words and the generation
handed to the reader, what the reader saw last, and what the database holds. -/
structure Told where
  asked : Bool
  words : List Text
  generation : Option AiGeneration
  seen : Seen
  database : Database

/-- What the row of a call is written of. -/
structure Said where
  text : Text
  model : Text
  modelVersion : Text
  inputTokens : Int
  outputTokens : Int
  stopReason : Text

section Stream
variable (settings : Settings) (call : Call) (database : Database)

/-- The row before its output is capped. -/
def rowOf (said : Said) (citations : List AiCitation) (hash : Digest) : AiGeneration where
  id := call.generationId
  tenantId := call.tenantId
  askerId := call.askerId
  purpose := call.purpose
  model := said.model
  modelVersion := said.modelVersion
  promptTemplate := call.promptTemplate
  promptHash := hash.hex
  output := said.text
  citations
  inputTokens := said.inputTokens
  outputTokens := said.outputTokens
  stopReason := said.stopReason

/-- `log`, in a transaction of its own: `none` where it raises, which writes nothing. -/
def log (said : Said) : Option (AiGeneration × Database) := do
  let citations ← call.cite said.text
  let hash ← promptHash hexdigest call
  (logGeneration settings.AI_GENERATION_OUTPUT_MAX_CHARS database (rowOf call said citations hash)).toOption

/-- What `cut_short` logs. -/
def unfinished (written : List Text) (stopReason : Text) : Said where
  text := written.flatten
  model := (Llm.askedModel settings).1
  modelVersion := (Llm.askedModel settings).2
  inputTokens := 0
  outputTokens := 0
  stopReason

/-- `cut_short` before anything is logged, and the exception raised on. -/
def cutShort (written : List Text) (stopReason : Text) (seen : Seen) : Told :=
  match log hexdigest settings call database (unfinished settings written stopReason) with
  | none => ⟨true, written, none, .raised, database⟩
  | some (_, after) => ⟨true, written, none, seen, after⟩

/-- What a finished call is logged with. -/
def finished (completion : Completion) : Said where
  text := completion.text
  model := completion.model
  modelVersion := completion.modelVersion
  inputTokens := completion.inputTokens
  outputTokens := completion.outputTokens
  stopReason := completion.stopReason.word

/-- The loop of `streamed`, with the items its reader still takes before closing it: `none` for
a reader who stays to the end. -/
def listen : Answer → (reads : Option Nat) → (written : List Text) → Told
  | .word said rest, reads, written =>
    -- closed at this yield: `GeneratorExit`
    if reads = some 1 then cutShort hexdigest settings call database (written ++ [said]) ABORTED .closed
    else listen rest (reads.map (· - 1)) (written ++ [said])
  | .whole completion, reads, written =>
    match log hexdigest settings call database (finished completion) with
    | none => ⟨true, written, none, .raised, database⟩
    | some (row, after) =>
      ⟨true, written, some row, if reads = some 1 then .closed else .finished, after⟩
  | .raises (.llmError error), _, written =>
    cutShort hexdigest settings call database written FAILED (.failed error)
  | .raises _, _, written => ⟨true, written, none, .raised, database⟩

/-- `streamed`: nothing runs before the first read. -/
def streamed (answer : Answer) (reads : Option Nat) : Told :=
  if reads = some 0 then ⟨false, [], none, .closed, database⟩
  else listen hexdigest settings call database answer reads []

/-- `stream`, of a bank whose AI features are on. -/
def stream (attempts : Nat → Attempt) (reads : Option Nat) : Told :=
  streamed hexdigest settings call database (Llm.stream settings attempts) reads

end Stream

section Log
variable {settings : Settings} {call : Call} {database : Database}

/-- What the caller gave the row: a purpose that names no run, a tenant and an asker that exist,
a template that fits, a prompt that can be hashed, and an id no row has. -/
structure Call.Sound (call : Call) (database : Database) : Prop where
  purpose : call.purpose ≠ .agentReview
  tenant : ∀ tenant ∈ call.tenantId, tenant ∈ database.tenants
  asker : ∀ asker ∈ call.askerId, asker ∈ database.users
  fresh : ∀ earlier ∈ database.generations, earlier.id ≠ call.generationId
  promptTemplate : call.promptTemplate.fits 200 = true
  encoded : call.asked.any CodePoint.isSurrogate = false

/-- What the provider's words and values must be for a row of them: words that a column holds as
far as they are kept and that `cite` answers on, a model with a name that fits, and counts. -/
structure Recordable (settings : Settings) (call : Call) (words model : Text)
    (inputTokens outputTokens : Int) : Prop where
  cited : ∃ citations, call.cite words = some citations ∧ ∀ citation ∈ citations, citation.IsStorable
  output : Text.isStorable (words.take settings.AI_GENERATION_OUTPUT_MAX_CHARS) = true
  named : model.isBlank = false
  model : model.fits 200 = true
  inputTokens : isCount inputTokens
  outputTokens : isCount outputTokens

theorem version_named : Llm.ANTHROPIC_API_VERSION.isBlank = false := by decide

theorem version_fits : Llm.ANTHROPIC_API_VERSION.fits 120 = true := by decide

theorem promptHash_eq_some_iff {digest : Digest} :
    promptHash hexdigest call = some digest ↔
      call.asked.any CodePoint.isSurrogate = false ∧ hexdigest call.asked = digest := by
  unfold promptHash
  split <;> simp_all

theorem log_eq_some_iff {said : Said} {row : AiGeneration} {after : Database} :
    log hexdigest settings call database said = some (row, after) ↔
      ∃ citations, call.cite said.text = some citations ∧
        ∃ hash, promptHash hexdigest call = some hash ∧
          logGeneration settings.AI_GENERATION_OUTPUT_MAX_CHARS database
            (rowOf call said citations hash) = .ok (row, after) := by
  simp only [log, bind, Option.bind_eq_some_iff, toOption_eq_some_iff]

theorem log_writes {said : Said} {row : AiGeneration} {after : Database}
    (logged : log hexdigest settings call database said = some (row, after)) :
    after.generations.filter (fun kept => kept.id == call.generationId) = [row] ∧
      row.output = said.text.take settings.AI_GENERATION_OUTPUT_MAX_CHARS ∧
      row.stopReason = said.stopReason := by
  obtain ⟨citations, _, hash, _, written⟩ := (log_eq_some_iff hexdigest).mp logged
  obtain ⟨_, taken, rfl, rfl⟩ := logGeneration_eq_ok_iff.mp written
  exact ⟨filter_written taken, rfl, rfl⟩

/-- A row is written exactly when the caller's part of it is sound and what was said can be
recorded. -/
theorem log_isSome_iff {said : Said} (version : said.modelVersion = Llm.ANTHROPIC_API_VERSION)
    (reason : said.stopReason.fits 64 = true) :
    (∃ row after, log hexdigest settings call database said = some (row, after)) ↔
      call.Sound database ∧
        Recordable settings call said.text said.model said.inputTokens said.outputTokens := by
  constructor
  · intro ⟨row, after, logged⟩
    obtain ⟨citations, cited, hash, hashed, written⟩ := (log_eq_some_iff hexdigest).mp logged
    obtain ⟨named, taken, _⟩ := logGeneration_eq_ok_iff.mp written
    have encoded := ((promptHash_eq_some_iff hexdigest).mp hashed).1
    exact ⟨⟨taken.purpose, taken.tenant, taken.asker, taken.fresh, taken.promptTemplate, encoded⟩,
      ⟨citations, cited, taken.citations⟩, taken.output, named.1, taken.model, taken.inputTokens,
      taken.outputTokens⟩
  · intro ⟨sound, recordable⟩
    obtain ⟨citations, cited, storable⟩ := recordable.cited
    have versioned : said.modelVersion.isBlank = false := by rw [version]; exact version_named
    have fitting : said.modelVersion.fits 120 = true := by rw [version]; exact version_fits
    have hashed : promptHash hexdigest call = some (hexdigest call.asked) :=
      (promptHash_eq_some_iff hexdigest).mpr ⟨sound.encoded, rfl⟩
    let row := rowOf call said citations (hexdigest call.asked)
    let kept := { row with output := row.output.take settings.AI_GENERATION_OUTPUT_MAX_CHARS }
    have taken : Takes database kept :=
      { purpose := sound.purpose
        tenant := sound.tenant
        asker := sound.asker
        fresh := sound.fresh
        model := recordable.model
        modelVersion := fitting
        promptTemplate := sound.promptTemplate
        promptHash := Digest.fits _
        output := recordable.output
        citations := storable
        inputTokens := recordable.inputTokens
        outputTokens := recordable.outputTokens
        stopReason := reason }
    have written : logGeneration settings.AI_GENERATION_OUTPUT_MAX_CHARS database row =
        .ok (kept, { database with generations := database.generations ++ [kept] }) :=
      logGeneration_eq_ok_iff.mpr ⟨⟨recordable.named, versioned⟩, taken, rfl, rfl⟩
    exact ⟨_, _, (log_eq_some_iff hexdigest).mpr ⟨citations, cited, _, hashed, written⟩⟩

end Log

end Grc.Shared.Ai
