import Grc.Lib.Texts

/-! What changed between two versions of a text, sentence by sentence. -/
namespace Grc.Library

open Grc.Lib

/-- A word of a text, with the white space after it. -/
structure Piece where
  word : Text
  gap : Text

def Piece.whole (piece : Piece) : Text := piece.word ++ piece.gap

/-- A text in words. Only the first piece may have no word, where the text begins with white space, and only the last
no gap. -/
def pieces : Text → List Piece
  | [] => []
  | point :: rest =>
    if point.isSpace then
      match pieces rest with
      | ⟨[], gap⟩ :: more => ⟨[], point :: gap⟩ :: more
      | more => ⟨[], [point]⟩ :: more
    else
      match pieces rest with
      | ⟨word, gap⟩ :: more => ⟨point :: word, gap⟩ :: more
      | [] => [⟨[point], []⟩]

/-- `_SENTENCE_END` at a word: no white space comes inside it, so the lazy part of the pattern runs up to its last letter,
which is ".", "!" or "?", and white space follows. -/
def Piece.ends (piece : Piece) : Bool :=
  piece.word.getLast?.any (fun last => (letters ".!?").contains last) && !piece.gap.isEmpty

def abbreviations : List Text := ["kap.", "art.", "p.", "nr.", "t.ex.", "bl.a.", "m.m.", "jfr.", "e.g.", "i.e."].map letters

section Split
/- `str.isupper` of one character, and `str.lower`. -/
variable (isupper : CodePoint → Bool) (lower : Text → Text)

def isBoundary (piece : Piece) (rest : List Piece) : Bool :=
  let next := (rest.head?.bind (·.word.head?)).any isupper
  piece.ends && next && !abbreviations.contains (lower (piece.word.dropWhile (letters "(").contains))

/-- The loop of `split_sentences`: the text since the last boundary, and the words to come. -/
def sentencesFrom (current : Text) : List Piece → List Text
  | [] => if current.strip = [] then [] else [current.strip]
  | piece :: rest =>
    if isBoundary isupper lower piece rest then (current ++ piece.word).strip :: sentencesFrom [] rest
    else sentencesFrom (current ++ piece.whole) rest

def splitSentences (text : Text) : List Text := sentencesFrom isupper lower [] (pieces text)

def wholeText (old new : Text) : List (DiffOp × Text) :=
  let before := old.strip
  let after := new.strip
  if before = after then if before = [] then [] else [(.equal, before)]
  else [(.delete, before), (.insert, after)].filter fun segment => segment.2 ≠ []

/-- `LIBRARY_TEXT_MAX_CHARS` and `LIBRARY_DIFF_MAX_SENTENCES`. -/
structure DiffCaps where
  textMaxChars : Nat
  diffMaxSentences : Nat

/- `SequenceMatcher(a=…, b=…, autojunk=False).get_opcodes()`. -/
variable (getOpcodes : List Text → List Text → List Opcode) (caps : DiffCaps)

def sentenceDiff (old new : Text) : List (DiffOp × Text) :=
  if max old.length new.length > caps.textMaxChars then wholeText old new
  else
    let before := splitSentences isupper lower old
    let after := splitSentences isupper lower new
    if before = after then before.map (.equal, ·)
    else if max before.length after.length > caps.diffMaxSentences then wholeText old new
    else (getOpcodes before after).flatMap (·.segments before after)

def IsCoarse (old new : Text) : Prop :=
  max old.length new.length > caps.textMaxChars ∨
    splitSentences isupper lower old ≠ splitSentences isupper lower new ∧
      max (splitSentences isupper lower old).length (splitSentences isupper lower new).length > caps.diffMaxSentences

end Split

/-- A text is these sentences in order, with nothing but white space before, between and after them. -/
inductive Spaced : List Text → Text → Prop
  | blank {text : Text} (space : text.isBlank = true) : Spaced [] text
  | next {gap sentence rest : Text} {sentences : List Text} (space : gap.isBlank = true) (later : Spaced sentences rest) :
      Spaced (sentence :: sentences) (gap ++ sentence ++ rest)

def wholeOf (text : Text) : List Text := if text.strip = [] then [] else [text.strip]

def Trimmed (sentences : List Text) : Prop := ∀ sentence ∈ sentences, sentence ≠ [] ∧ sentence.strip = sentence

variable {isupper : CodePoint → Bool} {lower : Text → Text} {getOpcodes : List Text → List Text → List Opcode} {caps : DiffCaps}
  {text rest gap current old new : Text} {sentences : List Text}

/-! ## The pieces of a text -/

theorem pieces_whole (text : Text) : (pieces text).flatMap Piece.whole = text := by
  induction text with
  | nil => rfl
  | cons point rest ih =>
    rw [pieces]
    split
    · split
      · next gap more same =>
        rw [same] at ih
        rw [← ih]
        rfl
      · rw [List.flatMap_cons, ih]
        rfl
    · split
      · next word gap more same =>
        rw [same] at ih
        rw [← ih]
        rfl
      · next same =>
        rw [same] at ih
        rw [← ih]
        rfl

/-- Words have no white space, gaps nothing else. -/
structure Piece.Sound (piece : Piece) : Prop where
  word : ∀ point ∈ piece.word, point.isSpace = false
  gap : piece.gap.isBlank = true

theorem pieces_sound (text : Text) : ∀ piece ∈ pieces text, piece.Sound := by
  induction text with
  | nil => exact nofun
  | cons point rest ih =>
    rw [pieces]
    split
    · next space =>
      split
      · next gap more same =>
        rw [same] at ih
        obtain ⟨first, later⟩ := List.forall_mem_cons.mp ih
        refine List.forall_mem_cons.mpr ⟨⟨first.word, ?_⟩, later⟩
        exact Bool.and_eq_true_iff.mpr ⟨space, first.gap⟩
      · refine List.forall_mem_cons.mpr ⟨⟨nofun, ?_⟩, ih⟩
        exact Bool.and_eq_true_iff.mpr ⟨space, rfl⟩
    · next letter =>
      split
      · next word gap more same =>
        rw [same] at ih
        obtain ⟨first, later⟩ := List.forall_mem_cons.mp ih
        refine List.forall_mem_cons.mpr ⟨⟨List.forall_mem_cons.mpr ⟨Bool.eq_false_iff.mpr letter, first.word⟩, first.gap⟩, later⟩
      · exact List.forall_mem_singleton.mpr ⟨List.forall_mem_singleton.mpr (Bool.eq_false_iff.mpr letter), rfl⟩

/-! ## What stripping takes off -/

theorem blank_append (first second : Text) : (first ++ second).isBlank = (first.isBlank && second.isBlank) := List.all_append

theorem exists_strip (text : Text) : ∃ lead trail, text = lead ++ text.strip ++ trail ∧ lead.isBlank = true ∧ trail.isBlank = true := by
  refine ⟨text.takeWhile CodePoint.isSpace, (text.dropWhile CodePoint.isSpace).rtakeWhile CodePoint.isSpace, ?_, ?_, ?_⟩
  · rw [List.append_assoc, Text.strip, List.rdropWhile_append_rtakeWhile, List.takeWhile_append_dropWhile]
  · exact List.all_takeWhile
  · exact List.all_eq_true.mpr fun _ => List.mem_rtakeWhile_imp

theorem strip_strip (text : Text) : text.strip.strip = text.strip := by
  have begins : text.strip.dropWhile CodePoint.isSpace = text.strip := by
    cases kept : text.strip with
    | nil => rfl
    | cons first rest =>
      -- the first letter left is the first one that is no white space
      have shorter : text.strip <+: text.dropWhile CodePoint.isSpace := List.rdropWhile_prefix _ _
      rw [kept] at shorter
      obtain ⟨more, same⟩ := shorter
      have some_ : text.dropWhile CodePoint.isSpace ≠ [] := by simp [← same]
      have letter := List.head_dropWhile_not CodePoint.isSpace some_
      simp only [← same, List.cons_append, List.head_cons] at letter
      rw [List.dropWhile_cons_of_neg (by simp [letter])]
  calc text.strip.strip = text.strip.rdropWhile CodePoint.isSpace := by rw [Text.strip, begins]
    _ = text.strip := List.rdropWhile_idempotent _ _

/-! ## The sentences of a text -/

theorem Spaced.after_gap (spaced : Spaced sentences rest) (space : gap.isBlank = true) : Spaced sentences (gap ++ rest) := by
  cases spaced with
  | blank blank => exact .blank (by rw [blank_append, space, blank]; rfl)
  | @next lead sentence last more blank later =>
    have joined := @Spaced.next (gap ++ lead) sentence last more (by rw [blank_append, space, blank]; rfl) later
    rwa [List.append_assoc gap, List.append_assoc gap] at joined

theorem Spaced.strip_next (spaced : Spaced sentences rest) : Spaced (current.strip :: sentences) (current ++ rest) := by
  obtain ⟨lead, trail, same, before, after⟩ := exists_strip current
  have joined := @Spaced.next lead current.strip _ _ before (spaced.after_gap after)
  rw [← List.append_assoc, ← same] at joined
  exact joined

theorem wholeOf_spaced (text : Text) : Spaced (wholeOf text) text := by
  unfold wholeOf
  split
  · next blank => exact .blank ((Text.strip_eq_nil_iff text).mp blank)
  · have joined : Spaced [text.strip] (text ++ []) := Spaced.strip_next (.blank rfl)
    rwa [List.append_nil] at joined

theorem sentencesFrom_spaced (rest : List Piece) (sound : ∀ piece ∈ rest, piece.Sound) (current : Text) :
    Spaced (sentencesFrom isupper lower current rest) (current ++ rest.flatMap Piece.whole) := by
  induction rest generalizing current with
  | nil =>
    rw [List.flatMap_nil, List.append_nil]
    exact wholeOf_spaced current
  | cons piece rest ih =>
    obtain ⟨first, later⟩ := List.forall_mem_cons.mp sound
    rw [sentencesFrom, List.flatMap_cons]
    split
    · have joined := @Spaced.strip_next _ (current ++ piece.word) _ ((ih later []).after_gap first.gap)
      rw [List.nil_append, List.append_assoc, ← List.append_assoc piece.word] at joined
      exact joined
    · rw [← List.append_assoc]
      exact ih later _

theorem splitSentences_spaced (text : Text) : Spaced (splitSentences isupper lower text) text := by
  have spaced := @sentencesFrom_spaced isupper lower (pieces text) (pieces_sound text) []
  rwa [List.nil_append, pieces_whole] at spaced

theorem wholeOf_trimmed (text : Text) : Trimmed (wholeOf text) := by
  unfold wholeOf
  split
  · exact nofun
  · next kept => exact List.forall_mem_singleton.mpr ⟨kept, strip_strip text⟩

theorem strip_of_ends {piece : Piece} (ends : piece.ends = true) : (current ++ piece.word).strip ≠ [] := by
  intro empty
  have blank := List.all_eq_true.mp ((Text.strip_eq_nil_iff _).mp empty)
  obtain ⟨last, found, mark⟩ := (Option.any_eq_true _ _).mp (Bool.and_eq_true_iff.mp ends).1
  have space := blank last (List.mem_append_right _ (List.mem_of_getLast? found))
  have marks : ∀ mark ∈ letters ".!?", mark.isSpace = false := by simp [letters, CodePoint.isSpace]
  rw [marks last (List.contains_iff_mem.mp mark)] at space
  cases space

theorem sentencesFrom_trimmed (rest : List Piece) (current : Text) : Trimmed (sentencesFrom isupper lower current rest) := by
  induction rest generalizing current with
  | nil => exact wholeOf_trimmed current
  | cons piece rest ih =>
    rw [sentencesFrom]
    split
    · next boundary =>
      have ends := (Bool.and_eq_true_iff.mp (Bool.and_eq_true_iff.mp boundary).1).1
      exact List.forall_mem_cons.mpr ⟨⟨strip_of_ends ends, strip_strip _⟩, ih []⟩
    · exact ih _

/-! ## The script -/

theorem wholeText_sides (old new : Text) : oldSide (wholeText old new) = wholeOf old ∧ newSide (wholeText old new) = wholeOf new := by
  unfold wholeText wholeOf
  dsimp only
  by_cases same : old.strip = new.strip
  · rw [if_pos same, ← same]
    split
    · exact ⟨rfl, rfl⟩
    · exact ⟨rfl, rfl⟩
  · rw [if_neg same]
    by_cases before : old.strip = []
    · by_cases after : new.strip = []
      · exact absurd (before.trans after.symm) same
      · simp [before, after, oldSide, newSide]
    · by_cases after : new.strip = []
      · simp [before, after, oldSide, newSide]
      · simp [before, after, oldSide, newSide]

/-- What is promised of a diff: without its inserts it is the old text's sentences and without its deletes the new one's, of the
whole texts where a cap applies; and the sentences of a text are that text but for white space. -/
structure DiffFaithful (isupper : CodePoint → Bool) (lower : Text → Text) (caps : DiffCaps) (old new : Text) (segments : List (DiffOp × Text)) :
    Prop where
  fine : ¬IsCoarse isupper lower caps old new →
    oldSide segments = splitSentences isupper lower old ∧ newSide segments = splitSentences isupper lower new
  coarse : IsCoarse isupper lower caps old new → oldSide segments = wholeOf old ∧ newSide segments = wholeOf new
  split : ∀ text, Spaced (splitSentences isupper lower text) text ∧ Trimmed (splitSentences isupper lower text)
  whole : ∀ text, Spaced (wholeOf text) text ∧ Trimmed (wholeOf text)

/-- Over any aligner whose opcodes turn one list into the other, the diff of any two texts is a faithful edit script. -/
theorem sentenceDiff_faithful (valid : ∀ before after, Turns before after 0 0 (getOpcodes before after)) (old new : Text) :
    DiffFaithful isupper lower caps old new (sentenceDiff isupper lower getOpcodes caps old new) where
  fine := by
    intro fine
    obtain ⟨short, few⟩ := not_or.mp fine
    unfold sentenceDiff
    rw [if_neg short]
    dsimp only
    split
    · next same =>
      rw [← same]
      exact ⟨oldSide_equal _, newSide_equal _⟩
    · next differ =>
      rw [if_neg fun many => few ⟨differ, many⟩]
      exact (valid _ _).whole
  coarse := by
    intro coarse
    unfold sentenceDiff
    split
    · exact wholeText_sides old new
    · next short =>
      obtain ⟨differ, many⟩ := coarse.resolve_left short
      dsimp only
      rw [if_neg differ, if_pos many]
      exact wholeText_sides old new
  split := fun text => ⟨splitSentences_spaced text, sentencesFrom_trimmed _ _⟩
  whole := fun text => ⟨wholeOf_spaced text, wholeOf_trimmed text⟩

/-- An aligner that keeps the sentences two texts begin with and replaces the rest. -/
def openingOpcodes (before after : List Text) : List Opcode :=
  let kept := ((before.zip after).takeWhile fun pair => pair.1 == pair.2).length
  [⟨.equal, 0, kept, 0, kept⟩, ⟨.replace, kept, before.length, kept, after.length⟩]

theorem take_zip_takeWhile (before after : List Text) :
    before.take ((before.zip after).takeWhile fun pair => pair.1 == pair.2).length =
      after.take ((before.zip after).takeWhile fun pair => pair.1 == pair.2).length := by
  induction before generalizing after with
  | nil => simp
  | cons first rest ih =>
    cases after with
    | nil => simp
    | cons other more =>
      rw [List.zip_cons_cons, List.takeWhile_cons]
      split
      · next same =>
        obtain rfl : first = other := beq_iff_eq.mp same
        rw [List.length_cons, List.take_succ_cons, List.take_succ_cons, ih more]
      · rfl

theorem openingOpcodes_turns (before after : List Text) : Turns before after 0 0 (openingOpcodes before after) := by
  have few : ((before.zip after).takeWhile fun pair => pair.1 == pair.2).length ≤ min before.length after.length := by
    rw [← List.length_zip]
    exact (List.takeWhile_prefix _).length_le
  have onOld := few.trans (Nat.min_le_left _ _)
  have onNew := few.trans (Nat.min_le_right _ _)
  refine .next (Nat.zero_le _) (Nat.zero_le _) (fun _ => ?_) nofun nofun (.next onOld onNew nofun nofun nofun .done)
  exact take_zip_takeWhile before after

def capital (point : CodePoint) : Bool := decide (0x41 ≤ point.val ∧ point.val ≤ 0x5A)

def smallLetters (text : Text) : Text := text.map fun point => if capital point then point + 0x20 else point

/-- One of two sentences changed. -/
theorem changedSentence_faithful :
    DiffFaithful capital smallLetters ⟨20000, 50⟩ (letters "Warn the client. Keep the record.") (letters "Warn the client. Keep both records.")
      [(.equal, letters "Warn the client."), (.delete, letters "Keep the record."), (.insert, letters "Keep both records.")] := by
  have same : sentenceDiff capital smallLetters openingOpcodes ⟨20000, 50⟩ (letters "Warn the client. Keep the record.")
      (letters "Warn the client. Keep both records.") =
      [(.equal, letters "Warn the client."), (.delete, letters "Keep the record."), (.insert, letters "Keep both records.")] := by
    decide +kernel
  rw [← same]
  exact sentenceDiff_faithful openingOpcodes_turns _ _

end Grc.Library
