import Grc.Lib.Lists
import Grc.Search.StreamedAnswers

/-! What a reader of Ask is told of a model's stream: the statements, their citations and the answer, against the whole text. -/
namespace Grc.Search.Ask

open Grc.Lib

variable {letters : Letters} {passages : List Passage} {telling other : Telling} {numbers cited : List Nat}

/-! ## The numbers of citations -/

/-- Citation numbers as they come, up to the last: each was given before, or is the next. -/
inductive InOrder : List Nat → Nat → Prop where
  | nothing : InOrder [] 0
  | again {indexes : List Nat} {last index : Nat} (before : InOrder indexes last) (positive : 1 ≤ index) (given : index ≤ last) :
      InOrder (indexes ++ [index]) last
  | next {indexes : List Nat} {last : Nat} (before : InOrder indexes last) : InOrder (indexes ++ [last + 1]) (last + 1)

theorem foldl_numbers (nodup : cited.Nodup) (numbers : List Nat) :
    cited.foldl setDefault numbers = numbers ++ cited.filter (· ∉ numbers) := by
  induction cited generalizing numbers with
  | nil => rw [List.foldl_nil, List.filter_nil, List.append_nil]
  | cons first rest ih =>
    obtain ⟨new, others⟩ := List.nodup_cons.mp nodup
    rw [List.foldl_cons, ih others]
    by_cases known : first ∈ numbers
    · rw [setDefault, if_pos known, List.filter_cons_of_neg (by simpa using known)]
    · have same : rest.filter (· ∉ numbers ++ [first]) = rest.filter (· ∉ numbers) := by
        refine List.filter_congr fun n there => ?_
        have apart : n ≠ first := fun equal => new (equal ▸ there)
        simp [apart]
      rw [setDefault, if_neg known, List.filter_cons_of_pos (by simpa using known), same, List.append_assoc]
      rfl

theorem foldl_inOrder (cited : List Nat) {indexes : List Nat} {numbers : List Nat} (order : InOrder indexes numbers.length) :
    InOrder (indexes ++ cited.map fun n => (cited.foldl setDefault numbers).idxOf n + 1) (cited.foldl setDefault numbers).length := by
  have grows (rest : List Nat) (numbers : List Nat) : ∃ more, rest.foldl setDefault numbers = numbers ++ more := by
    induction rest generalizing numbers with
    | nil => exact ⟨[], (List.append_nil _).symm⟩
    | cons first rest ih =>
      obtain ⟨more, same⟩ := ih (setDefault numbers first)
      rw [List.foldl_cons, same, setDefault]
      split
      · exact ⟨more, rfl⟩
      · exact ⟨first :: more, by rw [List.append_assoc]; rfl⟩
  induction cited generalizing indexes numbers with
  | nil => simpa using order
  | cons first rest ih =>
    rw [List.foldl_cons, List.map_cons, ← List.singleton_append, ← List.append_assoc]
    refine ih ?_
    obtain ⟨more, same⟩ := grows rest (setDefault numbers first)
    have there : first ∈ setDefault numbers first := by
      rw [setDefault]
      split
      · next known => exact known
      · exact List.mem_append_right _ List.mem_cons_self
    rw [same, List.idxOf_append_of_mem there]
    by_cases known : first ∈ numbers
    · rw [setDefault, if_pos known]
      exact order.again (Nat.succ_pos _) (List.idxOf_lt_length_of_mem known)
    · rw [setDefault, if_neg known, List.idxOf_append_of_notMem known, List.idxOf_cons_self, List.length_append]
      exact order.next

theorem grounded_cited {sentence text : Text} {count : Nat} (found : grounded sentence count = some (text, cited)) :
    cited ≠ [] ∧ cited.Nodup ∧ ∀ n ∈ cited, 1 ≤ n ∧ n ≤ count := by
  unfold grounded at found
  dsimp only at found
  split at found
  · next some_ =>
    obtain ⟨rfl, rfl⟩ := Prod.mk.inj (Option.some.inj found)
    refine ⟨some_.1, nodup_eraseDups _, fun n there => ?_⟩
    rw [List.mem_eraseDups, List.mem_filter] at there
    exact of_decide_eq_true there.2
  · cases found

/-! ## What is told -/

/-- What holds of a telling: every statement cites, the numbers come in order, and each is a passage of the prompt. -/
structure Cited (passages : List Passage) (telling : Telling) : Prop where
  cites : ∀ statement ∈ telling.statements, statement.citationIndexes ≠ []
  order : InOrder (telling.statements.flatMap (·.citationIndexes)) telling.numbers.length
  given : ∀ n ∈ telling.numbers, 1 ≤ n ∧ n ≤ passages.length

theorem Cited.start : Cited passages {} where
  cites := nofun
  order := .nothing
  given := nofun

theorem Cited.tell (before : Cited passages telling) (sentence : Text) : Cited passages (telling.tell passages sentence) := by
  unfold Telling.tell
  cases told : statement passages telling.numbers sentence with
  | none => exact before
  | some its =>
    obtain ⟨⟨text, cited⟩, found, rfl⟩ := Option.map_eq_some_iff.mp told
    obtain ⟨some_, nodup, valid⟩ := grounded_cited found
    constructor
    · refine List.forall_mem_append.mpr ⟨before.cites, List.forall_mem_singleton.mpr ?_⟩
      exact fun none_ => some_ (List.map_eq_nil_iff.mp none_)
    · rw [List.flatMap_append, List.flatMap_singleton]
      exact foldl_inOrder cited before.order
    · intro n there
      dsimp only at there
      rw [foldl_numbers nodup] at there
      rcases List.mem_append.mp there with old | new
      · exact before.given n old
      · exact valid n (List.mem_filter.mp new).1

theorem Cited.tells (sentences : List Text) (before : Cited passages telling) :
    Cited passages (sentences.foldl (Telling.tell passages) telling) := by
  induction sentences generalizing telling with
  | nil => exact before
  | cons first rest ih => exact ih (before.tell first)

/-- Two tellings that have told the same. -/
structure Alike (telling other : Telling) : Prop where
  numbers : telling.numbers = other.numbers
  statements : telling.statements = other.statements

theorem Alike.tell (passages : List Passage) (alike : Alike telling other) (sentence : Text) : Alike (telling.tell passages sentence) (other.tell passages sentence) := by
  unfold Telling.tell
  rw [alike.numbers]
  split
  · exact alike
  · exact ⟨rfl, congrArg (· ++ _) alike.statements⟩

theorem Alike.tells (passages : List Passage) (sentences : List Text) (alike : Alike telling other) :
    Alike (sentences.foldl (Telling.tell passages) telling) (sentences.foldl (Telling.tell passages) other) := by
  induction sentences generalizing telling other with
  | nil => exact alike
  | cons first rest ih => exact ih (alike.tell passages first)

theorem tells_written (sentences : List Text) : (sentences.foldl (Telling.tell passages) telling).written = telling.written := by
  induction sentences generalizing telling with
  | nil => rfl
  | cons first rest ih =>
    rw [List.foldl_cons, ih, Telling.tell]
    split
    · rfl
    · rfl

def wordsOf (heard : List ModelEvent) : List Text :=
  heard.filterMap fun event => match event with
    | .words text => some text
    | .generation .. => none

theorem heard_tells (letters : Letters) (passages : List Passage) (heard : List ModelEvent) (telling : Telling) :
    ∃ done, letters.streamed telling.written (wordsOf heard) = done ++ [(heard.foldl (Telling.hear letters passages) telling).written] ∧
      Alike (heard.foldl (Telling.hear letters passages) telling) (done.foldl (Telling.tell passages) telling) := by
  induction heard generalizing telling with
  | nil => exact ⟨[], rfl, rfl, rfl⟩
  | cons event rest ih =>
    cases event with
    | generation model stopReason =>
      obtain ⟨done, same, alike⟩ := ih (telling.hear letters passages (.generation model stopReason))
      have kept : Alike (telling.hear letters passages (.generation model stopReason)) telling := ⟨rfl, rfl⟩
      refine ⟨done, same, ?_⟩
      have next := kept.tells passages done
      exact ⟨alike.numbers.trans next.numbers, alike.statements.trans next.statements⟩
    | words text =>
      obtain ⟨done, same, alike⟩ := ih (telling.hear letters passages (.words text))
      have written : (telling.hear letters passages (.words text)).written = (letters.split (telling.written ++ text)).2 := tells_written _
      have kept : Alike (telling.hear letters passages (.words text)) ((letters.split (telling.written ++ text)).1.foldl (Telling.tell passages) telling) :=
        Alike.tells _ _ ⟨rfl, rfl⟩
      have next := kept.tells passages done
      refine ⟨(letters.split (telling.written ++ text)).1 ++ done, ?_, ?_⟩
      · rw [written] at same
        rw [List.append_assoc, List.foldl_cons, ← same]
        rfl
      · rw [List.foldl_append]
        exact ⟨alike.numbers.trans next.numbers, alike.statements.trans next.statements⟩

/-! ## The answer -/

theorem answerCitations_from (given : ∀ n ∈ numbers, 1 ≤ n ∧ n ≤ passages.length) (first : Nat) :
    ((numbers.zipIdx first).filterMap (citationOf passages)).map (·.index) = List.range' first numbers.length ∧
      ((numbers.zipIdx first).filterMap (citationOf passages)).map (·.passage) = numbers.filterMap fun n => passages[n - 1]? := by
  induction numbers generalizing first with
  | nil => exact ⟨rfl, rfl⟩
  | cons n rest ih =>
    obtain ⟨valid, others⟩ := List.forall_mem_cons.mp given
    obtain ⟨indexes, itsPassages⟩ := ih others (first + 1)
    have within : n - 1 < passages.length := by omega
    have there : passages[n - 1]? = some (passages.get ⟨n - 1, within⟩) := List.getElem?_eq_getElem within
    have here : citationOf passages (n, first) = some { index := first, passage := passages.get ⟨n - 1, within⟩ } :=
      congrArg (Option.map _) there
    constructor
    · rw [List.zipIdx_cons, List.filterMap_cons_some here, List.map_cons, indexes]
      rfl
    · have next : (n :: rest).filterMap (fun n => passages[n - 1]?) =
          passages.get ⟨n - 1, within⟩ :: rest.filterMap fun n => passages[n - 1]? := List.filterMap_cons_some there
      rw [List.zipIdx_cons, List.filterMap_cons_some here, List.map_cons, itsPassages, next]

theorem tells_cited (pieces : List Text) (telling : Telling) : (pieces.foldl (Telling.tell passages) telling).numbers =
    pieces.foldl (fun found sentence => match grounded sentence passages.length with
      | none => found
      | some (_, cited) => found ++ cited.filter (· ∉ found)) telling.numbers := by
  induction pieces generalizing telling with
  | nil => rfl
  | cons first rest ih =>
    rw [List.foldl_cons, ih, List.foldl_cons]
    congr 1
    unfold Telling.tell statement
    cases found : grounded first passages.length with
    | none => rfl
    | some its => exact foldl_numbers (grounded_cited found).2.1 _

def Unbroken (chunks : List Text) : Prop := ∀ before after, chunks = before ++ after → ¬Torn before.flatten after.flatten

def AskEvent.said : AskEvent → Option AnswerStatement
  | .statement its => some its
  | _ => none

def statementsOf (told : List AskEvent) : List AnswerStatement := told.filterMap AskEvent.said

def Letters.wholeStatements (letters : Letters) (passages : List Passage) (text : Text) (fails : Bool) : List AnswerStatement :=
  ((if fails then (letters.split text).1 else letters.pieces text).foldl (Telling.tell passages) {}).statements

/-- What a reader is told, as it should be: the statements of the whole text, each of which cites, with numbers in the order first
cited; and an answer of these statements, whose citations are numbered from one and are those the call's row records. -/
structure TellsWhole (letters : Letters) (answer : Answer) (passages : List Passage) (heard : List ModelEvent) (fails : Bool) : Prop where
  told : statementsOf (events letters answer passages heard fails) = letters.wholeStatements passages (wordsOf heard).flatten fails
  cites : ∀ statement ∈ statementsOf (events letters answer passages heard fails), statement.citationIndexes ≠ []
  order : ∃ last, InOrder ((statementsOf (events letters answer passages heard fails)).flatMap (·.citationIndexes)) last ∧
    ∀ closing stopReason, .answer closing stopReason ∈ events letters answer passages heard fails →
      closing.statements = statementsOf (events letters answer passages heard fails) ∧
      closing.citations.map (·.index) = List.range' 1 last ∧
      closing.citations.map (·.passage) = letters.logged passages (wordsOf heard).flatten

theorem streamed_iff_unbroken (chunks : List Text) : letters.streamed [] chunks = letters.pieces chunks.flatten ↔ Unbroken chunks := by
  have settled : letters.nextSentence false [] = none := by rw [Letters.nextSentence]
  refine (streamed_eq_iff chunks settled).trans ⟨fun apart before after same => ?_, fun unbroken before after same _ => unbroken before after same⟩
  cases before with
  | nil =>
    rintro ⟨front, stop, body, none_, -⟩
    simp at none_
  | cons first rest => exact apart _ after same (List.cons_ne_nil _ _)

theorem statementsOf_told (id : Id) (statements : List AnswerStatement) {last : AskEvent} (other : last.said = none) :
    statementsOf (.start id :: statements.map .statement ++ [last]) = statements := by
  have each : (statements.map AskEvent.statement).filterMap AskEvent.said = statements := by
    rw [List.filterMap_map]
    exact List.filterMap_some
  rw [statementsOf, List.cons_append, List.filterMap_cons_none rfl, List.filterMap_append, each, List.filterMap_cons_none other]
  exact List.append_nil _

variable {answer : Answer}

theorem tellsWhole (heard : List ModelEvent) (whole : letters.streamed [] (wordsOf heard) = letters.pieces (wordsOf heard).flatten)
    (fails : Bool) : TellsWhole letters answer passages heard fails := by
  obtain ⟨done, pieces, alike⟩ := heard_tells letters passages heard {}
  rw [whole, Letters.pieces] at pieces
  obtain ⟨rfl, rest⟩ := List.append_inj' pieces rfl
  have cited : Cited passages (((letters.split (wordsOf heard).flatten).1).foldl (Telling.tell passages) {}) := Cited.start.tells _
  cases fails with
  | true =>
    have told : statementsOf (events letters answer passages heard true) = (heard.foldl (Telling.hear letters passages) {}).statements :=
      statementsOf_told answer.id _ rfl
    refine ⟨told.trans alike.statements, ?_, ((letters.split (wordsOf heard).flatten).1.foldl (Telling.tell passages) {}).numbers.length, ?_, ?_⟩
    · rw [told, alike.statements]
      exact cited.cites
    · rw [told, alike.statements]
      exact cited.order
    · intro closing stopReason there
      simp [events] at there
  | false =>
    have last := alike.tell passages (heard.foldl (Telling.hear letters passages) {}).written
    have all : (letters.pieces (wordsOf heard).flatten).foldl (Telling.tell passages) {} =
        ((letters.split (wordsOf heard).flatten).1.foldl (Telling.tell passages) {}).tell passages
          (heard.foldl (Telling.hear letters passages) {}).written := by
      rw [Letters.pieces, List.foldl_append, ← (List.cons.inj rest).1]
      rfl
    rw [← all] at last
    have cited : Cited passages ((letters.pieces (wordsOf heard).flatten).foldl (Telling.tell passages) {}) := Cited.start.tells _
    have told : statementsOf (events letters answer passages heard false) = _ := (statementsOf_told answer.id _ rfl).trans last.statements
    refine ⟨told, ?_, ((letters.pieces (wordsOf heard).flatten).foldl (Telling.tell passages) {}).numbers.length, ?_, ?_⟩
    · rw [told]
      exact cited.cites
    · rw [told]
      exact cited.order
    · intro closing stopReason there
      rw [told]
      obtain ⟨rfl, -⟩ : closing = _ ∧ _ := by simpa [events] using there
      have numbered := answerCitations_from cited.given 1
      refine ⟨last.statements, ?_, ?_⟩
      · exact (congrArg (fun numbers => (answerCitations passages numbers).map (·.index)) last.numbers).trans numbered.1
      · refine (congrArg (fun numbers => (answerCitations passages numbers).map (·.passage)) last.numbers).trans (numbered.2.trans ?_)
        rw [tells_cited]
        rfl

/-- A stream is judged by the pieces of the whole text exactly when no chunk ends where the text is torn; and then the reader is told what
the whole text says, with the citations the call's row records. -/
theorem streamed_tells (heard : List ModelEvent) :
    (letters.streamed [] (wordsOf heard) = letters.pieces (wordsOf heard).flatten ↔ Unbroken (wordsOf heard)) ∧
      (Unbroken (wordsOf heard) → ∀ fails, TellsWhole letters answer passages heard fails) :=
  ⟨streamed_iff_unbroken _, fun unbroken => tellsWhole heard ((streamed_iff_unbroken _).mpr unbroken)⟩

/-! ## A line break before a citation -/

def asciiLetters : Letters where
  isLower := fun point => decide (0x61 ≤ point.val ∧ point.val ≤ 0x7A)
  isDigit := fun point => decide (0x30 ≤ point.val ∧ point.val ≤ 0x39)

def costsPassage : Passage where
  obligationId := 1
  versionNo := 1
  instrumentShortName := Grc.Lib.letters "MiFID II"
  refLabel := Grc.Lib.letters "Article 24"
  sourceUrl := []
  pending := none

def costsAnswer : Answer := { id := 1, question := Grc.Lib.letters "What must we disclose about costs?", asOf := 1 }

def brokenOff : List ModelEvent :=
  [.words (Grc.Lib.letters "Costs must be disclosed.\n[1]"), .words (Grc.Lib.letters " Nothing else."),
    .generation (Grc.Lib.letters "mock") (Grc.Lib.letters "end_turn")]

/-- The whole text grounds its first sentence; the stream drops it, and tells the next as grounded. -/
theorem brokenOff_mistold : ¬TellsWhole asciiLetters costsAnswer [costsPassage] brokenOff false := by
  have streamed : (statementsOf (events asciiLetters costsAnswer [costsPassage] brokenOff false)).map (·.text) =
      [Grc.Lib.letters "Nothing else."] := by decide +kernel
  have whole : (asciiLetters.wholeStatements [costsPassage] (wordsOf brokenOff).flatten false).map (·.text) =
      [Grc.Lib.letters "Costs must be disclosed."] := by decide +kernel
  intro tells
  rw [tells.told, whole] at streamed
  exact absurd streamed (by decide)

end Grc.Search.Ask
