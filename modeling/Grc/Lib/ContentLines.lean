import Grc.Lib.Lists
import Mathlib.Data.List.Basic

/-! Content lines: a text whose lines are folded at a number of octets and end with CRLF, its properties, their values
and its components, as a reader of the octets has them. -/
namespace Grc.Lib

/-! ## Octets of characters -/

namespace Octets

def encode (text : List Char) : List UInt8 := text.flatMap String.utf8EncodeChar

def decode (octets : List UInt8) : Option (List Char) := octets.toByteArray.utf8Decode?.map Array.toList

def isContinuation (octet : UInt8) : Bool := octet &&& 0xC0 == 0x80

@[simp] theorem encode_nil : encode [] = [] := rfl

@[simp] theorem encode_cons (char : Char) (text : List Char) : encode (char :: text) = String.utf8EncodeChar char ++ encode text := rfl

@[simp] theorem encode_append (front back : List Char) : encode (front ++ back) = encode front ++ encode back :=
  List.flatMap_append

theorem decode_encode (text : List Char) : decode (encode text) = some text := by
  have whole : (encode text).toByteArray = text.utf8Encode := rfl
  rw [decode, whole, List.utf8Decode?_utf8Encode]
  rfl

theorem later_octet (bits : Nat) :
    isContinuation (UInt8.ofNat (bits % 64 + 128)) = true ∧ 128 ≤ (UInt8.ofNat (bits % 64 + 128)).toNat := by
  have all : ∀ low < 64, isContinuation (UInt8.ofNat (low + 128)) = true ∧ 128 ≤ (UInt8.ofNat (low + 128)).toNat := by decide
  exact all _ (Nat.mod_lt _ (by decide))

/-- A character of several octets: the first continues nothing, up to three more do, and all are from 128 on. -/
def Wide (octets : List UInt8) : Prop :=
  ∃ first more, octets = first :: more ∧ (isContinuation first = false ∧ 128 ≤ first.toNat) ∧ more.length ≤ 3 ∧
    ∀ octet ∈ more, isContinuation octet = true ∧ 128 ≤ octet.toNat

theorem wide_encodeChar {char : Char} (wide : 127 < char.val.toNat) : Wide (String.utf8EncodeChar char) := by
  have two : ∀ bits < 32, isContinuation (UInt8.ofNat (bits + 192)) = false ∧ 128 ≤ (UInt8.ofNat (bits + 192)).toNat := by decide
  have three : ∀ bits < 16, isContinuation (UInt8.ofNat (bits + 224)) = false ∧ 128 ≤ (UInt8.ofNat (bits + 224)).toNat := by decide
  have four : ∀ bits < 8, isContinuation (UInt8.ofNat (bits + 240)) = false ∧ 128 ≤ (UInt8.ofNat (bits + 240)).toNat := by decide
  unfold String.utf8EncodeChar
  simp only [if_neg (Nat.not_le.mpr wide)]
  by_cases isTwo : char.val.toNat ≤ 2047
  · rw [if_pos isTwo]
    refine ⟨_, _, rfl, two _ (Nat.mod_lt _ (by decide)), by simp, ?_⟩
    exact List.forall_mem_singleton.mpr (later_octet _)
  · rw [if_neg isTwo]
    by_cases isThree : char.val.toNat ≤ 65535
    · rw [if_pos isThree]
      refine ⟨_, _, rfl, three _ (Nat.mod_lt _ (by decide)), by simp, ?_⟩
      exact List.forall_mem_cons.mpr ⟨later_octet _, List.forall_mem_singleton.mpr (later_octet _)⟩
    · rw [if_neg isThree]
      refine ⟨_, _, rfl, four _ (Nat.mod_lt _ (by decide)), by simp, ?_⟩
      exact List.forall_mem_cons.mpr ⟨later_octet _, List.forall_mem_cons.mpr ⟨later_octet _, List.forall_mem_singleton.mpr (later_octet _)⟩⟩

theorem encodeChar_ascii {char : Char} (low : char.val.toNat ≤ 127) : String.utf8EncodeChar char = [UInt8.ofNat char.val.toNat] := by
  unfold String.utf8EncodeChar
  rw [if_pos low]

theorem encodeChar_low {char : Char} {octet : UInt8} (there : octet ∈ String.utf8EncodeChar char) (low : octet.toNat < 128) :
    String.utf8EncodeChar char = [octet] ∧ octet.toNat = char.val.toNat := by
  rcases Nat.lt_or_ge 127 char.val.toNat with wide | ascii
  · obtain ⟨first, more, shape, head, -, tail⟩ := wide_encodeChar wide
    rw [shape, List.mem_cons] at there
    rcases there with rfl | there
    · omega
    · have := (tail octet there).2
      omega
  · rw [encodeChar_ascii ascii, List.mem_singleton] at there
    subst there
    refine ⟨encodeChar_ascii ascii, ?_⟩
    rw [UInt8.toNat_ofNat']
    exact Nat.mod_eq_of_lt (by omega)

theorem encodeChar_cons (char : Char) : ∃ first more, String.utf8EncodeChar char = first :: more ∧ isContinuation first = false ∧
    more.length ≤ 3 ∧ ∀ octet ∈ more, isContinuation octet = true := by
  rcases Nat.lt_or_ge 127 char.val.toNat with wide | ascii
  · obtain ⟨first, more, shape, head, short, tail⟩ := wide_encodeChar wide
    exact ⟨first, more, shape, head.1, short, fun octet there => (tail octet there).1⟩
  · have all : ∀ low ≤ 127, isContinuation (UInt8.ofNat low) = false := by decide
    exact ⟨_, [], encodeChar_ascii ascii, all _ ascii, by decide, nofun⟩

/-- Where a character of a text starts: exactly at the octets that continue nothing. -/
theorem starts_at : ∀ {text : List Char} {place : Nat} {octet : UInt8}, (encode text)[place]? = some octet → isContinuation octet = false →
    ∃ front back, text = front ++ back ∧ (encode front).length = place
  | [], _, _, found, _ => by simp at found
  | char :: rest, place, octet, found, fresh => by
    obtain ⟨first, more, shape, -, -, tail⟩ := encodeChar_cons char
    rcases Nat.lt_or_ge place (String.utf8EncodeChar char).length with within | after
    · cases place with
      | zero => exact ⟨[], char :: rest, rfl, rfl⟩
      | succ inner =>
        rw [encode_cons, List.getElem?_append_left within, shape, List.getElem?_cons_succ] at found
        rw [tail octet (List.mem_of_getElem? found)] at fresh
        cases fresh
    · rw [encode_cons, List.getElem?_append_right after] at found
      obtain ⟨front, back, parts, size⟩ := starts_at found fresh
      refine ⟨char :: front, back, congrArg (char :: ·) parts, ?_⟩
      rw [encode_cons, List.length_append, size]
      omega

end Octets

/-! ## Lines and their folding -/

section Lines

variable {α : Type} [DecidableEq α]

/-- The lines of a text that ends each with the two marks, after what the first of them has so far. -/
def linesFrom (cr lf : α) (line : List α) : List α → List (List α)
  | [] => if line = [] then [] else [line]
  | [last] => [line ++ [last]]
  | first :: next :: rest =>
    if first = cr ∧ next = lf then line :: linesFrom cr lf [] rest else linesFrom cr lf (line ++ [first]) (next :: rest)

variable {cr lf : α}

theorem linesFrom_ended (apart : cr ≠ lf) (line front rest : List α) :
    linesFrom cr lf line (front ++ cr :: lf :: rest) = linesFrom cr lf line (front ++ [cr, lf]) ++ linesFrom cr lf [] rest := by
  fun_induction linesFrom cr lf line front with
  | case1 | case2 line some_ => simp [linesFrom]
  | case3 line last => simp [linesFrom, apart]
  | case4 line first next rest' marks ih =>
    have below : ∀ back, linesFrom cr lf line (first :: next :: rest' ++ back) = line :: linesFrom cr lf [] (rest' ++ back) :=
      fun back => if_pos marks
    rw [below, below, ih, List.cons_append]
  | case5 line first next rest' other ih =>
    have below : ∀ back, linesFrom cr lf line (first :: next :: rest' ++ back) = linesFrom cr lf (line ++ [first]) (next :: rest' ++ back) :=
      fun back => if_neg other
    rw [below, below, ih]

theorem linesFrom_plain {more : List α} (plain : cr ∉ more) (line rest : List α) :
    linesFrom cr lf line (more ++ rest) = linesFrom cr lf (line ++ more) rest := by
  induction more generalizing line with
  | nil => rw [List.nil_append, List.append_nil]
  | cons first more ih =>
    have one : linesFrom cr lf line (first :: (more ++ rest)) = linesFrom cr lf (line ++ [first]) (more ++ rest) := by
      cases inner : more ++ rest with
      | nil => simp [linesFrom]
      | cons next after =>
        have other : ¬(first = cr ∧ next = lf) := fun marks => plain (marks.1 ▸ List.mem_cons_self)
        exact if_neg other
    rw [List.cons_append, one, ih (fun there => plain (List.mem_cons_of_mem _ there)), List.append_assoc, List.singleton_append]

theorem linesFrom_line {line : List α} (plain : cr ∉ line) (rest : List α) :
    linesFrom cr lf [] (line ++ cr :: lf :: rest) = line :: linesFrom cr lf [] rest := by
  rw [linesFrom_plain plain, List.nil_append]
  exact if_pos ⟨rfl, rfl⟩

/-- A line of an ended text lies within it, before the two marks. -/
theorem linesFrom_infix (apart : cr ≠ lf) (line text : List α) :
    ∀ part ∈ linesFrom cr lf line (text ++ [cr, lf]), part <:+: line ++ text := by
  fun_induction linesFrom cr lf line text with
  | case1 | case2 line some_ => simp [linesFrom]
  | case3 line last => simp [linesFrom, apart]
  | case4 line first next rest marks ih =>
    have below : linesFrom cr lf line (first :: next :: rest ++ [cr, lf]) = line :: linesFrom cr lf [] (rest ++ [cr, lf]) := if_pos marks
    rw [below]
    refine List.forall_mem_cons.mpr ⟨(List.prefix_append ..).isInfix, fun part there => (ih part there).trans ?_⟩
    exact (List.suffix_append (line ++ [first, next]) rest).isInfix.trans (by simp)
  | case5 line first next rest other ih =>
    have below : linesFrom cr lf line (first :: next :: rest ++ [cr, lf]) = linesFrom cr lf (line ++ [first]) (next :: rest ++ [cr, lf]) :=
      if_neg other
    intro part there
    rw [below] at there
    have within := ih part there
    rwa [List.append_assoc, List.singleton_append] at within

end Lines

section Joins

variable {α : Type} (blank : α → Bool)

/-- Lines joined where one begins with a blank, after what the first of them has so far. -/
def unfoldFrom (line : List α) : List (List α) → List (List α)
  | [] => [line]
  | [] :: more => line :: unfoldFrom [] more
  | (first :: rest) :: more =>
    if blank first then unfoldFrom (line ++ rest) more else line :: unfoldFrom (first :: rest) more

def unfoldLines : List (List α) → List (List α)
  | [] => []
  | line :: more => unfoldFrom blank line more

variable {blank : α → Bool}

/-- A line that begins with no blank is joined to nothing. -/
theorem unfoldFrom_append {next : List α} (fresh : next.head?.any blank = false) (line : List α) (block more : List (List α)) :
    unfoldFrom blank line (block ++ next :: more) = unfoldFrom blank line block ++ unfoldFrom blank next more := by
  fun_induction unfoldFrom blank line block with
  | case1 line =>
    cases next with
    | nil => rfl
    | cons first rest =>
      have other : ¬blank first = true := by simpa using fresh
      exact if_neg other
  | case2 line block ih =>
    have below : ∀ back, unfoldFrom blank line ([] :: block ++ back) = line :: unfoldFrom blank [] (block ++ back) := fun _ => rfl
    rw [below, ih, List.cons_append]
  | case3 line first rest block joined ih =>
    have below : ∀ back, unfoldFrom blank line ((first :: rest) :: block ++ back) = unfoldFrom blank (line ++ rest) (block ++ back) :=
      fun _ => if_pos joined
    rw [below, ih]
  | case4 line first rest block apart ih =>
    have below : ∀ back, unfoldFrom blank line ((first :: rest) :: block ++ back) =
        line :: unfoldFrom blank (first :: rest) (block ++ back) := fun _ => if_neg apart
    rw [below, ih, List.cons_append]

theorem unfoldLines_append {block : List (List α)} (some_ : block ≠ []) {next : List α} (fresh : next.head?.any blank = false)
    (more : List (List α)) : unfoldLines blank (block ++ next :: more) = unfoldLines blank block ++ unfoldLines blank (next :: more) := by
  cases block with
  | nil => exact absurd rfl some_
  | cons line block => exact unfoldFrom_append fresh line block more

theorem unfoldFrom_folded {mark : α} (isBlank : blank mark = true) (line : List α) (rest : List (List α)) :
    unfoldFrom blank line (rest.map (mark :: ·)) = [line ++ rest.flatten] := by
  induction rest generalizing line with
  | nil => rw [List.map_nil, List.flatten_nil, List.append_nil, unfoldFrom]
  | cons piece rest ih =>
    have joined : unfoldFrom blank line ((mark :: piece) :: rest.map (mark :: ·)) = unfoldFrom blank (line ++ piece) (rest.map (mark :: ·)) :=
      if_pos isBlank
    rw [List.map_cons, joined, ih, List.append_assoc, List.flatten_cons]

end Joins

/-- A line cut into pieces of at most so many octets, all but the first behind a space. -/
def Folded (limit : Nat) (line : List Char) (pieces : List (List Char)) : Prop :=
  ∃ (first : List Char) (rest : List (List Char)), pieces = first :: rest.map (' ' :: ·) ∧ line = first ++ rest.flatten ∧
    ∀ piece ∈ pieces, (Octets.encode piece).length ≤ limit

def isBlank (char : Char) : Bool := char == ' ' || char == '\t'

def isBlankOctet (octet : UInt8) : Bool := octet == 32 || octet == 9

def contentLines (text : List Char) : List (List Char) := unfoldLines isBlank (linesFrom '\r' '\n' [] text)

def physicalLines (octets : List UInt8) : List (List UInt8) := linesFrom 13 10 [] octets

def readLines (octets : List UInt8) : Option (List (List Char)) :=
  (unfoldLines isBlankOctet (physicalLines octets)).mapM Octets.decode

namespace Octets

theorem char_of_octet {char other : Char} {octet : UInt8} (there : octet ∈ String.utf8EncodeChar char)
    (same : octet.toNat = other.val.toNat) (low : other.val.toNat < 128) : char = other := by
  have value := (encodeChar_low there (same ▸ low)).2
  exact Char.ext (UInt32.toNat_inj.mp (value.symm.trans same))

/-- Unless it is the first mark before the second, a character joins the line. -/
theorem linesFrom_encode_cons {first : Char} {rest : List Char} (other : ∀ more, ¬(first = '\r' ∧ rest = '\n' :: more)) (line : List UInt8) :
    linesFrom 13 10 line (encode (first :: rest)) = linesFrom 13 10 (line ++ encode [first]) (encode rest) := by
  by_cases mark : first = '\r'
  · subst mark
    cases rest with
    | nil => simp [linesFrom, encode, String.utf8EncodeChar]
    | cons next more =>
      obtain ⟨head, tail, shape, -⟩ := encodeChar_cons next
      have differ : ¬((13 : UInt8) = 13 ∧ head = 10) := by
        rintro ⟨-, rfl⟩
        have there : (10 : UInt8) ∈ String.utf8EncodeChar next := shape ▸ List.mem_cons_self
        exact other more ⟨rfl, congrArg (· :: more) (char_of_octet there rfl (by decide))⟩
      have parts : encode ('\r' :: next :: more) = 13 :: head :: (tail ++ encode more) := by
        rw [encode_cons, encode_cons, shape]
        rfl
      have parts' : encode (next :: more) = head :: (tail ++ encode more) := by
        rw [encode_cons, shape]
        rfl
      rw [parts, parts']
      exact if_neg differ
  · have plain : (13 : UInt8) ∉ String.utf8EncodeChar first := fun there => mark (char_of_octet there rfl (by decide))
    rw [encode_cons, linesFrom_plain plain]
    rw [encode_cons, encode_nil, List.append_nil]

theorem encode_ne_nil {text : List Char} (some_ : text ≠ []) : encode text ≠ [] := by
  cases text with
  | nil => exact absurd rfl some_
  | cons char rest =>
    obtain ⟨first, more, shape, -⟩ := encodeChar_cons char
    rw [encode_cons, shape]
    exact List.cons_ne_nil _ _

/-- The lines of a text's octets are the octets of its lines. -/
theorem linesFrom_encode (line text : List Char) :
    linesFrom 13 10 (encode line) (encode text) = (linesFrom '\r' '\n' line text).map encode := by
  fun_induction linesFrom '\r' '\n' line text with
  | case1 => rfl
  | case2 line some_ =>
    exact if_neg (encode_ne_nil some_)
  | case3 line last =>
    have some_ : encode (line ++ [last]) ≠ [] := encode_ne_nil (List.append_ne_nil_of_right_ne_nil _ (List.cons_ne_nil _ _))
    have alone : ∀ more, ¬(last = '\r' ∧ ([] : List Char) = '\n' :: more) := fun _ marks => nomatch marks.2
    rw [linesFrom_encode_cons alone, ← encode_append]
    exact if_neg some_
  | case4 line first next rest marks ih =>
    obtain ⟨rfl, rfl⟩ := marks
    have parts : encode ('\r' :: '\n' :: rest) = 13 :: 10 :: encode rest := rfl
    rw [parts, List.map_cons, ← ih]
    exact if_pos ⟨rfl, rfl⟩
  | case5 line first next rest other ih =>
    rw [linesFrom_encode_cons (fun more marks => other ⟨marks.1, (List.cons.inj marks.2).1⟩), ← encode_append, ih]

theorem isBlankOctet_first {char : Char} {first : UInt8} {more : List UInt8} (shape : String.utf8EncodeChar char = first :: more) :
    isBlankOctet first = isBlank char ∧ (isBlank char = true → more = []) := by
  by_cases spaced : char = ' ' ∨ char = '\t'
  · rcases spaced with rfl | rfl
    · obtain ⟨rfl, rfl⟩ := List.cons.inj (shape : [(32 : UInt8)] = first :: more)
      exact ⟨rfl, fun _ => rfl⟩
    · obtain ⟨rfl, rfl⟩ := List.cons.inj (shape : [(9 : UInt8)] = first :: more)
      exact ⟨rfl, fun _ => rfl⟩
  · have there : first ∈ String.utf8EncodeChar char := shape ▸ List.mem_cons_self
    have plain : isBlank char = false := by
      rw [isBlank, Bool.or_eq_false_iff, beq_eq_false_iff_ne, beq_eq_false_iff_ne]
      exact not_or.mp spaced
    have octet : isBlankOctet first = false := by
      rw [isBlankOctet, Bool.or_eq_false_iff, beq_eq_false_iff_ne, beq_eq_false_iff_ne]
      constructor
      · rintro rfl
        exact spaced (.inl (char_of_octet there rfl (by decide)))
      · rintro rfl
        exact spaced (.inr (char_of_octet there rfl (by decide)))
    exact ⟨octet.trans plain.symm, fun blank => absurd (plain.symm.trans blank) Bool.false_ne_true⟩

/-- Joining the octets of lines joins the lines. -/
theorem unfoldFrom_encode (line : List Char) (block : List (List Char)) :
    unfoldFrom isBlankOctet (encode line) (block.map encode) = (unfoldFrom isBlank line block).map encode := by
  fun_induction unfoldFrom isBlank line block with
  | case1 line => rfl
  | case2 line block ih => exact congrArg (encode line :: ·) ih
  | case3 line first rest block joined ih =>
    obtain ⟨head, more, shape, -⟩ := encodeChar_cons first
    obtain ⟨same, alone⟩ := isBlankOctet_first shape
    have parts : encode (first :: rest) = head :: encode rest := by
      rw [encode_cons, shape, alone joined]
      rfl
    rw [List.map_cons, parts, ← ih, encode_append]
    exact if_pos (same.trans joined)
  | case4 line first rest block apart ih =>
    obtain ⟨head, more, shape, -⟩ := encodeChar_cons first
    obtain ⟨same, -⟩ := isBlankOctet_first shape
    have parts : encode (first :: rest) = head :: (more ++ encode rest) := by
      rw [encode_cons, shape]
      rfl
    rw [List.map_cons, parts, List.map_cons, ← ih, parts]
    exact if_neg (same ▸ apart)

theorem mapM_decode (texts : List (List Char)) : (texts.map encode).mapM decode = some texts := by
  induction texts with
  | nil => rfl
  | cons text texts ih =>
    rw [List.map_cons, List.mapM_cons, decode_encode, ih]
    rfl

theorem physicalLines_encode (text : List Char) : physicalLines (encode text) = (linesFrom '\r' '\n' [] text).map encode :=
  linesFrom_encode [] text

theorem readLines_encode (text : List Char) : readLines (encode text) = some (contentLines text) := by
  have joined : unfoldLines isBlankOctet ((linesFrom '\r' '\n' [] text).map encode) = (contentLines text).map encode := by
    unfold contentLines
    cases linesFrom '\r' '\n' [] text with
    | nil => rfl
    | cons line block => exact unfoldFrom_encode line block
  rw [readLines, physicalLines_encode, joined, mapM_decode]

end Octets

def ended (lines : List (List Char)) : List Char := lines.flatMap (· ++ ['\r', '\n'])

theorem ended_append (front back : List (List Char)) : ended (front ++ back) = ended front ++ ended back := List.flatMap_append

theorem ended_cons (line : List Char) (lines : List (List Char)) : ended (line :: lines) = line ++ '\r' :: '\n' :: ended lines := by
  rw [ended, List.flatMap_cons, List.append_assoc]
  rfl

variable {lines : List (List Char)}

theorem linesFrom_ended_plain (plain : ∀ line ∈ lines, '\r' ∉ line) :
    linesFrom '\r' '\n' [] (ended lines) = lines := by
  induction lines with
  | nil => rfl
  | cons line lines ih =>
    rw [ended_cons, linesFrom_line (plain line List.mem_cons_self), ih fun other there => plain other (List.mem_cons_of_mem _ there)]

theorem linesFrom_ended_append (lines : List (List Char)) (rest : List Char) :
    linesFrom '\r' '\n' [] (ended lines ++ rest) = linesFrom '\r' '\n' [] (ended lines) ++ linesFrom '\r' '\n' [] rest := by
  induction lines with
  | nil => rfl
  | cons line lines ih =>
    rw [ended_cons, List.append_assoc, List.cons_append, List.cons_append, linesFrom_ended (by decide), linesFrom_ended (by decide) [] line (ended lines),
      ih, List.append_assoc]

theorem mem_linesFrom_ended : ∀ part ∈ linesFrom '\r' '\n' [] (ended lines), ∃ line ∈ lines, part <:+: line := by
  induction lines with
  | nil => exact nofun
  | cons line lines ih =>
    intro part there
    rw [ended_cons, linesFrom_ended (by decide), List.mem_append] at there
    rcases there with there | there
    · exact ⟨line, List.mem_cons_self, linesFrom_infix (by decide) [] line part there⟩
    · obtain ⟨other, found, within⟩ := ih part there
      exact ⟨other, List.mem_cons_of_mem _ found, within⟩

namespace Folded

variable {limit : Nat} {line : List Char} {pieces : List (List Char)}

theorem plain (folded : Folded limit line pieces) (whole : '\r' ∉ line) : ∀ piece ∈ pieces, '\r' ∉ piece := by
  obtain ⟨first, more, rfl, rfl, -⟩ := folded
  refine List.forall_mem_cons.mpr ⟨fun there => whole (List.mem_append_left _ there), fun piece there => ?_⟩
  obtain ⟨text, inside, rfl⟩ := List.mem_map.mp there
  intro mark
  rcases List.mem_cons.mp mark with space | mark
  · exact absurd space (by decide)
  · exact whole (List.mem_append_right _ (List.mem_flatten.mpr ⟨text, inside, mark⟩))

theorem joined (folded : Folded limit line pieces) : unfoldLines isBlank pieces = [line] := by
  obtain ⟨first, more, rfl, rfl, -⟩ := folded
  exact unfoldFrom_folded rfl first more

theorem head (folded : Folded limit line pieces) (fresh : line.head?.any isBlank = false) :
    ∃ first more, pieces = first :: more ∧ first.head?.any isBlank = false := by
  obtain ⟨first, more, rfl, rfl, -⟩ := folded
  refine ⟨first, _, rfl, ?_⟩
  cases first with
  | nil => rfl
  | cons char rest => exact fresh

end Folded

variable {pieces : List (List (List Char))}

section
variable {limit : Nat} (folded : List.Forall₂ (Folded limit) lines pieces)
include folded

/-- The pieces of lines that begin with no blank are read as these lines. -/
theorem unfoldLines_folded (fresh : ∀ line ∈ lines, line.head?.any isBlank = false) : unfoldLines isBlank pieces.flatten = lines := by
  induction folded with
  | nil => rfl
  | @cons line piece lines pieces first rest ih =>
    have after := ih fun other there => fresh other (List.mem_cons_of_mem _ there)
    cases rest with
    | nil => rw [List.flatten_cons, List.flatten_nil, List.append_nil, first.joined]
    | @cons next nextPiece lines pieces second rest =>
      obtain ⟨lead, more, rfl, start⟩ := second.head (fresh next (List.mem_cons_of_mem _ List.mem_cons_self))
      have parts : (piece :: (lead :: more) :: pieces).flatten = piece ++ lead :: (more ++ pieces.flatten) := rfl
      have below : ((lead :: more) :: pieces).flatten = lead :: (more ++ pieces.flatten) := rfl
      obtain ⟨begun, _, some_, -⟩ := first.head (fresh line List.mem_cons_self)
      rw [below] at after
      rw [parts, unfoldLines_append (some_ ▸ List.cons_ne_nil _ _) start, first.joined, after]
      rfl

/-- Folded lines that begin with no blank are read as these lines, after whatever lines stand before them. -/
theorem contentLines_folded (plain : ∀ line ∈ lines, '\r' ∉ line)
    (fresh : ∀ line ∈ lines, line.head?.any isBlank = false) (front : List (List Char)) :
    contentLines (ended front ++ ended pieces.flatten) = contentLines (ended front) ++ lines := by
  have pieces_plain : ∀ piece ∈ pieces.flatten, '\r' ∉ piece := by
    intro piece there
    obtain ⟨parts, inside, there⟩ := List.mem_flatten.mp there
    obtain ⟨line, found, cut⟩ := source_of_forall₂ folded inside
    exact cut.plain (plain line found) piece there
  have joined := unfoldLines_folded folded fresh
  unfold contentLines
  rw [linesFrom_ended_append, linesFrom_ended_plain pieces_plain]
  cases folded with
  | nil =>
    rw [List.flatten_nil, List.append_nil, List.append_nil]
  | @cons line piece lines pieces first rest =>
    obtain ⟨lead, more, rfl, start⟩ := first.head (fresh line List.mem_cons_self)
    have parts : ((lead :: more) :: pieces).flatten = lead :: (more ++ pieces.flatten) := rfl
    rw [parts] at joined ⊢
    by_cases none_ : linesFrom '\r' '\n' [] (ended front) = []
    · rw [none_, List.nil_append, joined]
      rfl
    · rw [unfoldLines_append none_ start, joined]

theorem physicalLines_folded :
    ∀ octets ∈ physicalLines (Octets.encode (ended pieces.flatten)), octets.length ≤ limit ∧ ∃ text, Octets.decode octets = some text := by
  intro octets there
  rw [Octets.physicalLines_encode] at there
  obtain ⟨text, found, rfl⟩ := List.mem_map.mp there
  refine ⟨?_, text, Octets.decode_encode text⟩
  obtain ⟨piece, inside, before, after, rfl⟩ := mem_linesFrom_ended text found
  obtain ⟨parts, there, inside⟩ := List.mem_flatten.mp inside
  obtain ⟨line, -, first, rest, cut, -, small⟩ := source_of_forall₂ folded there
  have within := small _ inside
  rw [Octets.encode_append, Octets.encode_append, List.length_append, List.length_append] at within
  omega

end

end Grc.Lib
