import Grc.Lib.Texts

/-! Ask's answer: the model's words cut into sentences as they arrive, and a statement for every sentence that cites a passage the
prompt gave. -/
namespace Grc.Search.Ask

open Grc.Lib
open Grc.Lib.CodePoint (isSpace isDecimal)

abbrev Id := Nat

/-! ## Where a sentence ends -/

def newline : CodePoint := 0x0A

def openBracket : CodePoint := 0x5B

def closeBracket : CodePoint := 0x5D

/-- `[.!?]`. -/
def isStop (point : CodePoint) : Bool := point == 0x2E || point == 0x21 || point == 0x3F

/-- `[ \t]`. -/
def isBlank (point : CodePoint) : Bool := point == 0x20 || point == 0x09

/-- What follows `\[\d++\]`, and its digits. -/
def bracketed : Text → Option (Text × Text)
  | [] => none
  | first :: rest =>
    if first = openBracket ∧ rest.takeWhile isDecimal ≠ [] then
      match rest.dropWhile isDecimal with
      | [] => none
      | last :: after => if last = closeBracket then some (rest.takeWhile isDecimal, after) else none
    else none

/-- What follows `\s*+\[\d++\]`. -/
def marker (text : Text) : Option Text := (bracketed (text.dropWhile isSpace)).map Prod.snd

theorem bracketed_eq_some {text digits after : Text} : bracketed text = some (digits, after) ↔
    text = openBracket :: digits ++ closeBracket :: after ∧ digits ≠ [] ∧ ∀ point ∈ digits, isDecimal point = true := by
  constructor
  · intro found
    unfold bracketed at found
    split at found
    · cases found
    · next first rest =>
      split at found
      · next opens =>
        split at found
        · cases found
        · next last later dropped =>
          split at found
          · next closes =>
            obtain ⟨rfl, rfl⟩ := Prod.mk.inj (Option.some.inj found)
            refine ⟨?_, opens.2, fun point there => List.mem_takeWhile_imp there⟩
            rw [opens.1, List.cons_append, ← closes, ← dropped, List.takeWhile_append_dropWhile]
          · cases found
      · cases found
  · rintro ⟨rfl, some_, digits_⟩
    have close : isDecimal closeBracket = false := by decide +kernel
    have front : (digits ++ closeBracket :: after).takeWhile isDecimal = digits := by
      rw [List.takeWhile_append_of_pos digits_, List.takeWhile_cons_of_neg (Bool.eq_false_iff.mp close), List.append_nil]
    have back : (digits ++ closeBracket :: after).dropWhile isDecimal = closeBracket :: after := by
      rw [List.dropWhile_append_of_pos digits_, List.dropWhile_cons_of_neg (Bool.eq_false_iff.mp close)]
    simp only [bracketed, List.cons_append, front, back, some_, ne_eq, not_false_eq_true, and_self, if_true]

theorem marker_eq_some {text after : Text} (found : marker text = some after) :
    ∃ blanks digits, text = blanks ++ openBracket :: digits ++ closeBracket :: after ∧ (∀ point ∈ blanks, isSpace point = true) ∧
      digits ≠ [] ∧ ∀ point ∈ digits, isDecimal point = true := by
  obtain ⟨⟨digits, _⟩, its, rfl⟩ := Option.map_eq_some_iff.mp found
  obtain ⟨same, rest⟩ := bracketed_eq_some.mp its
  refine ⟨text.takeWhile isSpace, digits, ?_, fun point there => List.mem_takeWhile_imp there, rest⟩
  rw [List.append_assoc, ← same, List.takeWhile_append_dropWhile]

theorem marker_shorter {text after : Text} (found : marker text = some after) : after.length < text.length := by
  obtain ⟨blanks, digits, rfl, -⟩ := marker_eq_some found
  simp only [List.length_append, List.length_cons]
  omega

/-- What `(?:\s*+\[\d++\])*+` leaves. -/
def markers (text : Text) : Text :=
  match _found : marker text with
  | some after => markers after
  | none => text
termination_by text.length
decreasing_by exact marker_shorter _found

/-- What follows `\s++(?=\S)`. -/
def gap : Text → Option Text
  | [] => none
  | first :: rest => if isSpace first = true ∧ rest.dropWhile isSpace ≠ [] then some (rest.dropWhile isSpace) else none

/-- `SENTENCE_END`, its first branch: a closing mark, the markers after it, and white space. -/
def stopEnd : Text → Option Text
  | [] => none
  | first :: rest => if isStop first then gap (markers rest) else none

def lineEnd (text : Text) : Option Text :=
  match text.dropWhile isBlank with
  | [] => none
  | first :: rest => if first = newline ∧ rest.dropWhile isSpace ≠ [] then some (rest.dropWhile isSpace) else none

/-- What follows a match of `SENTENCE_END`, where `solid` says the character before is not space. -/
def sentenceEnd (solid : Bool) (text : Text) : Option Text := stopEnd text <|> if solid then lineEnd text else none

/-- `ARRIVING_CITATION.fullmatch`. -/
def isArriving : Text → Bool
  | [] => false
  | first :: rest => first == openBracket && rest.all isDecimal

/-- `str.islower` and `str.isdigit`, of one character. -/
structure Letters where
  isLower : CodePoint → Bool
  isDigit : CodePoint → Bool

/-- Whether a match that begins so ends a sentence: after a closing mark, unless a lower-case letter or a digit follows. -/
def Letters.endsSentence (letters : Letters) (first : CodePoint) (after : Text) : Bool :=
  !isStop first || !(after.head?.any fun following => letters.isLower following || letters.isDigit following)

/-! ## What a match takes -/

theorem isStop_of_space {point : CodePoint} (space : isSpace point = true) : isStop point = false := by
  refine Bool.eq_false_iff.mpr fun stop => ?_
  simp only [isStop, Bool.or_eq_true, beq_iff_eq] at stop
  obtain (rfl | rfl) | rfl := stop
  · exact absurd space (by decide)
  · exact absurd space (by decide)
  · exact absurd space (by decide)

theorem isStop_of_decimal {point : CodePoint} (decimal : isDecimal point = true) : isStop point = false := by
  refine Bool.eq_false_iff.mpr fun stop => ?_
  simp only [isStop, Bool.or_eq_true, beq_iff_eq] at stop
  obtain (rfl | rfl) | rfl := stop
  · exact absurd decimal (by decide +kernel)
  · exact absurd decimal (by decide +kernel)
  · exact absurd decimal (by decide +kernel)

theorem isSpace_of_blank {point : CodePoint} (blank : isBlank point = true) : isSpace point = true := by
  simp only [isBlank, Bool.or_eq_true, beq_iff_eq] at blank
  obtain rfl | rfl := blank
  · rfl
  · rfl

def Unstopped (text : Text) : Prop := ∀ point ∈ text, isStop point = false

theorem unstopped_append {front back : Text} : Unstopped (front ++ back) ↔ Unstopped front ∧ Unstopped back := List.forall_mem_append

def Solid : Text → Prop
  | [] => False
  | first :: _ => isSpace first = false

theorem solid_dropWhile {text : Text} (some_ : text.dropWhile isSpace ≠ []) : Solid (text.dropWhile isSpace) := by
  have first := List.head_dropWhile_not isSpace some_
  cases dropped : text.dropWhile isSpace with
  | nil => exact some_ dropped
  | cons head rest =>
    simp only [dropped, List.head_cons] at first
    exact first

theorem gap_eq_some {text after : Text} : gap text = some after ↔
    ∃ blanks, text = blanks ++ after ∧ blanks ≠ [] ∧ (∀ point ∈ blanks, isSpace point = true) ∧ Solid after := by
  constructor
  · intro found
    unfold gap at found
    split at found
    · cases found
    · next first rest =>
      split at found
      · next opens =>
        obtain rfl := Option.some.inj found
        refine ⟨first :: rest.takeWhile isSpace, ?_, List.cons_ne_nil _ _, ?_, solid_dropWhile opens.2⟩
        · rw [List.cons_append, List.takeWhile_append_dropWhile]
        · exact List.forall_mem_cons.mpr ⟨opens.1, fun point there => List.mem_takeWhile_imp there⟩
      · cases found
  · rintro ⟨blanks, rfl, some_, spaces, solid⟩
    cases blanks with
    | nil => exact absurd rfl some_
    | cons first rest =>
      obtain ⟨space, others⟩ := List.forall_mem_cons.mp spaces
      cases after with
      | nil => cases solid
      | cons next later =>
        have dropped : (rest ++ next :: later).dropWhile isSpace = next :: later := by
          rw [List.dropWhile_append_of_pos others, List.dropWhile_cons_of_neg (Bool.eq_false_iff.mp solid)]
        simp only [gap, List.cons_append, space, dropped, ne_eq, reduceCtorEq, not_false_eq_true, and_self, if_true]

theorem markers_eq {text : Text} : markers text = (marker text).elim text markers := by
  rw [markers]
  split
  · next found => rw [found]; rfl
  · next found => rw [found]; rfl

theorem markers_suffix (text : Text) : ∃ taken, text = taken ++ markers text ∧ Unstopped taken := by
  rw [markers_eq]
  cases found : marker text with
  | none => exact ⟨[], rfl, nofun⟩
  | some after =>
    have shorter := marker_shorter found
    obtain ⟨taken, same, unstopped⟩ := markers_suffix after
    obtain ⟨blanks, digits, rfl, spaces, -, decimals⟩ := marker_eq_some found
    refine ⟨blanks ++ openBracket :: digits ++ closeBracket :: taken, ?_, ?_⟩
    · simp only [Option.elim_some, List.append_assoc, List.cons_append, ← same]
    · refine unstopped_append.mpr ⟨unstopped_append.mpr ⟨fun point there => isStop_of_space (spaces point there), ?_⟩, ?_⟩
      · exact List.forall_mem_cons.mpr ⟨rfl, fun point there => isStop_of_decimal (decimals point there)⟩
      · exact List.forall_mem_cons.mpr ⟨rfl, unstopped⟩
termination_by text.length

theorem lineEnd_iff {text after : Text} : lineEnd text = some after ↔
    ∃ blanks spaces, text = blanks ++ newline :: spaces ++ after ∧ (∀ point ∈ blanks, isBlank point = true) ∧
      (∀ point ∈ spaces, isSpace point = true) ∧ Solid after := by
  constructor
  · intro found
    unfold lineEnd at found
    split at found
    · cases found
    · next first rest dropped =>
      split at found
      · next breaks =>
        obtain rfl := Option.some.inj found
        refine ⟨text.takeWhile isBlank, rest.takeWhile isSpace, ?_, fun point there => List.mem_takeWhile_imp there,
          fun point there => List.mem_takeWhile_imp there, solid_dropWhile breaks.2⟩
        rw [List.append_assoc, List.cons_append, List.takeWhile_append_dropWhile, ← breaks.1, ← dropped,
          List.takeWhile_append_dropWhile]
      · cases found
  · rintro ⟨blanks, spaces, rfl, blank, space, solid⟩
    cases after with
    | nil => cases solid
    | cons next later =>
      have front : (blanks ++ newline :: spaces ++ next :: later).dropWhile isBlank = newline :: (spaces ++ next :: later) := by
        rw [List.append_assoc, List.dropWhile_append_of_pos blank, List.cons_append, List.dropWhile_cons_of_neg (by decide)]
      have back : (spaces ++ next :: later).dropWhile isSpace = next :: later := by
        rw [List.dropWhile_append_of_pos space, List.dropWhile_cons_of_neg (Bool.eq_false_iff.mp solid)]
      simp only [lineEnd, front, back, ne_eq, reduceCtorEq, not_false_eq_true, and_self, if_true]

theorem lineEnd_eq_some {text after : Text} (found : lineEnd text = some after) :
    ∃ blanks, text = blanks ++ after ∧ blanks ≠ [] ∧ (∀ point ∈ blanks, isSpace point = true) ∧ Solid after := by
  obtain ⟨blanks, spaces, same, blank, space, solid⟩ := lineEnd_iff.mp found
  refine ⟨blanks ++ newline :: spaces, same, by simp, ?_, solid⟩
  refine List.forall_mem_append.mpr ⟨fun point there => isSpace_of_blank (blank point there), ?_⟩
  exact List.forall_mem_cons.mpr ⟨rfl, space⟩

theorem sentenceEnd_eq_some {solid : Bool} {text after : Text} : sentenceEnd solid text = some after ↔
    stopEnd text = some after ∨ (stopEnd text = none ∧ solid = true ∧ lineEnd text = some after) := by
  unfold sentenceEnd
  cases stopEnd text with
  | some =>
    simp
  | none =>
    cases solid with
    | true | false => simp

theorem sentenceEnd_takes {solid : Bool} {text after : Text} (found : sentenceEnd solid text = some after) :
    ∃ first more, text = first :: more ++ after ∧ Unstopped more ∧ Solid after := by
  rcases sentenceEnd_eq_some.mp found with stop | ⟨-, -, line⟩
  · unfold stopEnd at stop
    split at stop
    · cases stop
    · next first rest =>
      split at stop
      · obtain ⟨taken, same, unstopped⟩ := markers_suffix rest
        obtain ⟨blanks, left, -, spaces, solid⟩ := gap_eq_some.mp stop
        refine ⟨first, taken ++ blanks, ?_, unstopped_append.mpr ⟨unstopped, fun point there => isStop_of_space (spaces point there)⟩, solid⟩
        rw [List.cons_append, List.append_assoc, ← left, ← same]
      · cases stop
  · obtain ⟨blanks, rfl, some_, spaces, solid⟩ := lineEnd_eq_some line
    cases blanks with
    | nil => exact absurd rfl some_
    | cons first more => exact ⟨first, more, rfl, fun point there => isStop_of_space (spaces point (List.mem_cons_of_mem _ there)), solid⟩

theorem sentenceEnd_shorter {solid : Bool} {text after : Text} (found : sentenceEnd solid text = some after) : after.length < text.length := by
  obtain ⟨first, more, rfl, -⟩ := sentenceEnd_takes found
  simp only [List.length_append, List.length_cons]
  omega

/-! ## Sentences -/

/-- The loop of `_split` up to the next sentence it finishes: the sentence, and the text after it. -/
def Letters.nextSentence (letters : Letters) (solid : Bool) : Text → Option (Text × Text)
  | [] => none
  | first :: rest =>
    match _found : sentenceEnd solid (first :: rest) with
    | none => (letters.nextSentence (!isSpace first) rest).map fun next => (first :: next.1, next.2)
    | some after =>
      let matched := (first :: rest).take (rest.length + 1 - after.length)
      if isArriving after then none
      else if letters.endsSentence first after then some (matched, after)
      -- An abbreviation: the search goes on after the match.
      else (letters.nextSentence false after).map fun next => (matched ++ next.1, next.2)
termination_by text => text.length
decreasing_by
  · exact Nat.lt_succ_self _
  · exact sentenceEnd_shorter _found

variable {letters : Letters} {solid : Bool} {text sentence after : Text}

theorem take_matched {first : CodePoint} {rest more : Text} (same : first :: rest = first :: more ++ after) :
    (first :: rest).take (rest.length + 1 - after.length) = first :: more := by
  have length : rest.length + 1 - after.length = (first :: more).length := by
    have counted := congrArg List.length same
    simp only [List.length_append, List.length_cons] at counted ⊢
    omega
  rw [length, same, List.take_left]

theorem nextSentence_cons {first : CodePoint} {rest : Text} (found : letters.nextSentence solid (first :: rest) = some (sentence, after)) :
    (sentenceEnd solid (first :: rest) = none ∧ ∃ more, sentence = first :: more ∧
      letters.nextSentence (!isSpace first) rest = some (more, after)) ∨
    ∃ more matched, sentenceEnd solid (first :: rest) = some matched ∧ first :: rest = first :: more ++ matched ∧
      isArriving matched = false ∧ Unstopped more ∧ Solid matched ∧
      ((letters.endsSentence first matched = true ∧ sentence = first :: more ∧ after = matched) ∨
        (letters.endsSentence first matched = false ∧ ∃ later, sentence = first :: more ++ later ∧
          letters.nextSentence false matched = some (later, after))) := by
  rw [Letters.nextSentence] at found
  split at found
  · next none_ =>
    obtain ⟨⟨more, _⟩, next, same⟩ := Option.map_eq_some_iff.mp found
    obtain ⟨rfl, rfl⟩ := Prod.mk.inj same
    exact .inl ⟨none_, more, rfl, next⟩
  · next matched there =>
    obtain ⟨first_, more, same, unstopped, solid_⟩ := sentenceEnd_takes there
    obtain rfl := (List.cons.inj same).1
    rw [take_matched same] at found
    dsimp only at found
    cases arriving : isArriving matched with
    | true =>
      rw [if_pos arriving] at found
      cases found
    | false =>
      rw [if_neg (Bool.eq_false_iff.mp arriving)] at found
      refine .inr ⟨more, matched, there, same, arriving, unstopped, solid_, ?_⟩
      cases ends : letters.endsSentence first matched with
      | true =>
        rw [if_pos ends] at found
        obtain ⟨rfl, rfl⟩ := Prod.mk.inj (Option.some.inj found)
        exact .inl ⟨rfl, rfl, rfl⟩
      | false =>
        rw [if_neg (Bool.eq_false_iff.mp ends)] at found
        obtain ⟨⟨later, _⟩, next, same⟩ := Option.map_eq_some_iff.mp found
        obtain ⟨rfl, rfl⟩ := Prod.mk.inj same
        exact .inr ⟨rfl, later, rfl, next⟩

theorem nextSentence_parts (text : Text) {solid : Bool} {sentence : Text} (found : letters.nextSentence solid text = some (sentence, after)) :
    text = sentence ++ after ∧ sentence ≠ [] ∧ Solid after := by
  cases text with
  | nil =>
    rw [Letters.nextSentence] at found
    cases found
  | cons first rest =>
    rcases nextSentence_cons found with ⟨-, more, rfl, next⟩ | ⟨more, matched, there, same, -, -, solid_, ends⟩
    · obtain ⟨rfl, -, solid_⟩ := nextSentence_parts rest next
      exact ⟨rfl, List.cons_ne_nil _ _, solid_⟩
    · rcases ends with ⟨-, rfl, rfl⟩ | ⟨-, later, rfl, next⟩
      · exact ⟨same, List.cons_ne_nil _ _, solid_⟩
      · have shorter := sentenceEnd_shorter there
        obtain ⟨rfl, -, last⟩ := nextSentence_parts matched next
        exact ⟨by rw [same, List.append_assoc], List.cons_ne_nil _ _, last⟩
termination_by text.length

theorem nextSentence_shorter (found : letters.nextSentence solid text = some (sentence, after)) : after.length < text.length := by
  obtain ⟨rfl, some_, -⟩ := nextSentence_parts text found
  have := List.length_pos_iff.mpr some_
  rw [List.length_append]
  omega

/-- `_split`: the sentences the text has finished, and the rest. A sentence ends in white space, so the next begins after it. -/
def Letters.split (letters : Letters) (text : Text) : List Text × Text :=
  match _found : letters.nextSentence false text with
  | none => ([], text)
  | some (sentence, after) => (sentence :: (letters.split after).1, (letters.split after).2)
termination_by text.length
decreasing_by exact nextSentence_shorter _found

/-! ## What a sentence cites -/

/-- `" ".join(text.split())`. -/
def spaced (text : Text) : Text := [0x20].intercalate ((text.splitOnP isSpace).filter (· ≠ []))

/-- What follows `CITATION` where it matches, and its number. -/
def citationAt : Text → Option (Text × Text)
  | [] => none
  | first :: rest => bracketed (if first = 0x20 then rest else first :: rest)

theorem citationAt_shorter {digits : Text} (found : citationAt text = some (digits, after)) : after.length < text.length := by
  unfold citationAt at found
  split at found
  · cases found
  · next first rest =>
    obtain ⟨same, -⟩ := bracketed_eq_some.mp found
    have length := congrArg List.length same
    simp only [List.length_append, List.length_cons] at length ⊢
    split at length
    · omega
    · rw [List.length_cons] at length
      omega

/-- `CITATION.findall`, and what `CITATION.sub` leaves. -/
def citations : Text → List Text × Text
  | [] => ([], [])
  | first :: rest =>
    match _found : citationAt (first :: rest) with
    | none => ((citations rest).1, first :: (citations rest).2)
    | some (digits, after) => (digits :: (citations after).1, (citations after).2)
termination_by text => text.length
decreasing_by
  · exact Nat.lt_succ_self _
  · exact citationAt_shorter _found

/-- `int`. -/
def number (digits : Text) : Nat := digits.foldl (fun value digit => 10 * value + (CodePoint.decimalValue digit).getD 0) 0

/-- `_grounded`: the words of a sentence and the passages it cites, each once. -/
def grounded (sentence : Text) (count : Nat) : Option (Text × List Nat) :=
  let (numbers, left) := citations (spaced sentence)
  let short := numbers.filter fun digits => digits.length ≤ (Nat.toDigits 10 count).length
  let cited := ((short.map number).filter fun n => decide (1 ≤ n ∧ n ≤ count)).eraseDups
  if cited ≠ [] ∧ left.strip ≠ [] then some (left.strip, cited) else none

/-- `_cited`: every passage the finished text cites, in the order first cited. -/
def Letters.cited (letters : Letters) (text : Text) (count : Nat) : List Nat :=
  let (sentences, rest) := letters.split text
  (sentences ++ [rest]).foldl (fun found sentence => match grounded sentence count with
    | none => found
    | some (_, cited) => found ++ cited.filter (· ∉ found)) []

/-! ## Statements -/

structure Pending where
  changeId : Id
  title : Text
  /-- The day, and how exactly it is known. -/
  inForceOn : Nat
  precision : Text

structure Passage where
  obligationId : Id
  versionNo : Nat
  instrumentShortName : Text
  refLabel : Text
  sourceUrl : Text
  pending : Option Pending

structure AnswerStatement where
  text : Text
  citationIndexes : List Nat
  pending : Option Pending

structure AnswerCitation where
  index : Nat
  passage : Passage

/-- The pending change that is in force first. -/
def earliest (pendings : List Pending) : Option Pending :=
  pendings.foldl (fun found next => match found with
    | none => some next
    | some best => if next.inForceOn < best.inForceOn ∨ (next.inForceOn = best.inForceOn ∧ next.changeId < best.changeId)
        then some next else some best) none

/-- `numbers.setdefault(n, len(numbers) + 1)`, of a dict kept as its keys in order. -/
def setDefault (numbers : List Nat) (n : Nat) : List Nat := if n ∈ numbers then numbers else numbers ++ [n]

/-- `_statement`, and the numbers after it. -/
def statement (passages : List Passage) (numbers : List Nat) (sentence : Text) : Option (AnswerStatement × List Nat) :=
  (grounded sentence passages.length).map fun (text, cited) =>
    let numbers := cited.foldl setDefault numbers
    ({ text
       citationIndexes := cited.map fun n => numbers.idxOf n + 1
       pending := earliest (cited.filterMap fun n => passages[n - 1]? >>= (·.pending)) }, numbers)

/-! ## The stream -/

/-- What the model's stream hands back: words, or the call it has logged. -/
inductive ModelEvent where
  | words (text : Text)
  | generation (model stopReason : Text)

structure Answer where
  id : Id
  question : Text
  asOf : Nat
  statements : List AnswerStatement := []
  citations : List AnswerCitation := []
  noAnswer : Bool := true
  model : Text := []

inductive AskEvent where
  | start (id : Id)
  | statement (statement : AnswerStatement)
  | answer (answer : Answer) (stopReason : Option Text)
  | problem

/-- The variables of `_events`. -/
structure Telling where
  numbers : List Nat := []
  statements : List AnswerStatement := []
  written : Text := []
  name : Text := []
  stopReason : Text := []

def Telling.tell (passages : List Passage) (telling : Telling) (sentence : Text) : Telling :=
  match statement passages telling.numbers sentence with
  | none => telling
  | some (statement, numbers) => { telling with numbers, statements := telling.statements ++ [statement] }

/-- One turn of the loop of `_events`. -/
def Telling.hear (letters : Letters) (passages : List Passage) (telling : Telling) : ModelEvent → Telling
  | .generation model stopReason => { telling with name := model, stopReason }
  | .words text =>
    let (sentences, written) := letters.split (telling.written ++ text)
    sentences.foldl (Telling.tell passages) { telling with written }

def citationOf (passages : List Passage) (numbered : Nat × Nat) : Option AnswerCitation :=
  passages[numbered.1 - 1]?.map fun passage => { index := numbered.2, passage }

def answerCitations (passages : List Passage) (numbers : List Nat) : List AnswerCitation :=
  (numbers.zipIdx 1).filterMap (citationOf passages)

/-- `_events`: what a reader is told of a model's stream, which ends or fails. A statement is told when it is added. -/
def events (letters : Letters) (answer : Answer) (passages : List Passage) (heard : List ModelEvent) (fails : Bool) : List AskEvent :=
  let telling := heard.foldl (Telling.hear letters passages) {}
  if fails then .start answer.id :: telling.statements.map .statement ++ [.problem]
  else
    let last := telling.tell passages telling.written
    .start answer.id :: last.statements.map .statement ++
      [.answer { answer with
          statements := last.statements
          citations := answerCitations passages last.numbers
          noAnswer := last.statements.isEmpty
          model := last.name } (if last.stopReason = [] then none else some last.stopReason)]

def Letters.logged (letters : Letters) (passages : List Passage) (text : Text) : List Passage :=
  (letters.cited text passages.length).filterMap fun n => passages[n - 1]?

end Grc.Search.Ask
