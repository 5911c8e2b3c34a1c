import Mathlib.Data.Fin.Basic
import Mathlib.Data.List.Basic
import Mathlib.Data.List.DropRight
import Mathlib.Data.List.SplitOn
import Mathlib.Data.List.TakeWhile

/-! Text as a list of code points. A lone surrogate is one of them, so this is every text a
program can hold and not only what can be encoded. -/
namespace Grc.Lib

abbrev Octet := Fin 256

abbrev CodePoint := Fin 0x110000

instance octetNeZero : @NeZero Nat Zero.ofOfNat0 256 := ⟨by decide⟩

instance codePointNeZero : @NeZero Nat Zero.ofOfNat0 0x110000 := ⟨by decide⟩

abbrev Text := List CodePoint

def letters (literal : String) : Text := literal.toList.map fun letter => Fin.ofNat 0x110000 letter.toNat

namespace CodePoint

def isSurrogate (point : CodePoint) : Bool := decide (0xD800 ≤ point.val ∧ point.val < 0xE000)

/-- Whitespace as Unicode counts it, the separators 0x1C to 0x1F included. -/
def isSpace (point : CodePoint) : Bool :=
  decide (0x9 ≤ point.val ∧ point.val ≤ 0xD ∨ 0x1C ≤ point.val ∧ point.val ≤ 0x20 ∨
    point.val = 0x85 ∨ point.val = 0xA0 ∨ point.val = 0x1680 ∨
    0x2000 ≤ point.val ∧ point.val ≤ 0x200A ∨
    point.val = 0x2028 ∨ point.val = 0x2029 ∨ point.val = 0x202F ∨
    point.val = 0x205F ∨ point.val = 0x3000)

/-- Where each run of ten decimal digits starts. -/
def decimalZeros : List Nat :=
  [0x30, 0x660, 0x6F0, 0x7C0, 0x966, 0x9E6, 0xA66, 0xAE6, 0xB66, 0xBE6, 0xC66, 0xCE6, 0xD66, 0xDE6, 0xE50, 0xED0,
    0xF20, 0x1040, 0x1090, 0x17E0, 0x1810, 0x1946, 0x19D0, 0x1A80, 0x1A90, 0x1B50, 0x1BB0, 0x1C40, 0x1C50, 0xA620,
    0xA8D0, 0xA900, 0xA9D0, 0xA9F0, 0xAA50, 0xABF0, 0xFF10, 0x104A0, 0x10D30, 0x11066, 0x110F0, 0x11136, 0x111D0,
    0x112F0, 0x11450, 0x114D0, 0x11650, 0x116C0, 0x11730, 0x118E0, 0x11950, 0x11C50, 0x11D50, 0x11DA0, 0x11F50,
    0x16A60, 0x16AC0, 0x16B50, 0x1D7CE, 0x1D7D8, 0x1D7E2, 0x1D7EC, 0x1D7F6, 0x1E140, 0x1E2F0, 0x1E4F0, 0x1E950,
    0x1FBF0]

def decimalValue (point : CodePoint) : Option Nat :=
  (decimalZeros.find? fun zero => zero ≤ point.val && point.val < zero + 10).map (point.val - ·)

def isDecimal (point : CodePoint) : Bool := (decimalValue point).isSome

end CodePoint

namespace Text

def strip (whole : Text) : Text := (whole.dropWhile CodePoint.isSpace).rdropWhile CodePoint.isSpace

def isBlank (whole : Text) : Bool := whole.all CodePoint.isSpace

def isStorable (whole : Text) : Bool := whole.all fun point => point.val != 0 && !CodePoint.isSurrogate point

def fits (length : Nat) (whole : Text) : Bool := decide (whole.length ≤ length) && isStorable whole

theorem strip_eq_nil_iff (whole : Text) : strip whole = [] ↔ isBlank whole = true := by
  unfold strip isBlank
  rw [List.rdropWhile_eq_nil_iff, List.all_eq_true]
  constructor
  · intro spaces
    by_contra letter
    have kept : whole.dropWhile CodePoint.isSpace ≠ [] := by
      rwa [Ne, List.dropWhile_eq_nil_iff]
    have first := List.head_dropWhile_not CodePoint.isSpace kept
    rw [spaces _ (List.head_mem kept)] at first
    cases first
  · intro spaces point found
    rw [List.dropWhile_eq_nil_iff.mpr spaces] at found
    cases found

end Text

namespace Utf8

/-- The octets a character still owes: how many, what the next one may be, and its bits so far. -/
structure Owed where
  octets : Nat
  least : Nat
  greatest : Nat
  bits : Nat

/-- What a character's first octet owes; none where no character begins so. -/
def opening (octet : Octet) : Option Owed :=
  let first := octet.val
  if first ≤ 0x7F then some ⟨0, 0x80, 0xBF, first⟩
  else if 0xC2 ≤ first ∧ first ≤ 0xDF then some ⟨1, 0x80, 0xBF, first - 0xC0⟩
  else if first = 0xE0 then some ⟨2, 0xA0, 0xBF, 0⟩
  else if first = 0xED then some ⟨2, 0x80, 0x9F, 0xD⟩
  else if 0xE1 ≤ first ∧ first ≤ 0xEF then some ⟨2, 0x80, 0xBF, first - 0xE0⟩
  else if first = 0xF0 then some ⟨3, 0x90, 0xBF, 0⟩
  else if 0xF1 ≤ first ∧ first ≤ 0xF3 then some ⟨3, 0x80, 0xBF, first - 0xF0⟩
  else if first = 0xF4 then some ⟨3, 0x80, 0x8F, 4⟩
  else none

def Owed.next (owed : Owed) (octet : Octet) : Option Owed :=
  if owed.least ≤ octet.val ∧ octet.val ≤ owed.greatest then
    some ⟨owed.octets - 1, 0x80, 0xBF, owed.bits * 64 + octet.val % 64⟩
  else none

/-- Strict decoding: `none` at the first octet that no text has there. -/
def decodeFrom : Option Owed → List Octet → Option Text
  | none, [] => some []
  | some _, [] => none
  | owed, octet :: rest =>
    match owed.elim (opening octet) (·.next octet) with
    | none => none
    | some after =>
      if after.octets = 0 then (decodeFrom none rest).map (Fin.ofNat 0x110000 after.bits :: ·)
      else decodeFrom (some after) rest

def decode (octets : List Octet) : Option Text := decodeFrom none octets

example : decode [0xC3, 0xA5, 0x41] = some [0xE5, 0x41] := by decide
example : decode [0xED, 0xA0, 0x80] = none := by decide

end Utf8

/-! Host names: the labels of a name, the domain it is in, and the host an address names. -/

def labels (name : List Char) : List (List Char) := name.splitOn '.'

def InDomain (domain name : List Char) : Prop := labels domain <:+ labels name

variable {domain name front : List Char}

theorem labels_below (front domain : List Char) : labels (front ++ '.' :: domain) = labels front ++ labels domain :=
  List.splitOn_append_cons_self front domain

theorem joined_labels (name : List Char) : ['.'].intercalate (labels name) = name := List.intercalate_splitOn '.'

theorem joined_below {above below : List (List Char)} (some_ : above ≠ []) (more : below ≠ []) :
    ['.'].intercalate (above ++ below) = ['.'].intercalate above ++ '.' :: ['.'].intercalate below := by
  induction above with
  | nil => exact absurd rfl some_
  | cons first rest ih =>
    cases rest with
    | nil =>
      rw [List.singleton_append, List.intercalate_cons_of_ne_nil more, List.intercalate_singleton, List.append_assoc,
        List.singleton_append]
    | cons second rest =>
      have later := ih (List.cons_ne_nil second rest)
      rw [List.cons_append] at later
      rw [List.cons_append, List.cons_append, List.intercalate_cons_cons, later, List.intercalate_cons_cons]
      simp only [List.append_assoc]

/-- A name is in a domain where it is the domain's, or ends in a dot and the domain's. -/
theorem inDomain_iff : InDomain domain name ↔ name = domain ∨ '.' :: domain <:+ name := by
  constructor
  · rintro ⟨above, same⟩
    cases above with
    | nil =>
      rw [List.nil_append] at same
      rw [← joined_labels name, ← same]
      exact .inl (joined_labels domain)
    | cons first rest =>
      have split := joined_below (List.cons_ne_nil first rest) (List.splitOn_ne_nil '.' domain)
      change ['.'].intercalate (first :: rest ++ labels domain) = _ ++ '.' :: ['.'].intercalate (labels domain) at split
      rw [same, joined_labels, joined_labels] at split
      exact .inr ⟨_, split.symm⟩
  · rintro (rfl | ⟨front, rfl⟩)
    · exact List.suffix_refl _
    · exact ⟨labels front, (labels_below front domain).symm⟩

def rootless (name : List Char) : List Char := name.rdropWhile (· == '.')

def lowerName (name : List Char) : List Char := name.map Char.toLower

/-- An address as `urlsplit` reads it: without leading blanks, and without tabs and line ends. -/
def cleanAddress (address : List Char) : List Char :=
  (address.dropWhile (· ≤ ' ')).filter fun char => char != '\t' && char != '\r' && char != '\n'

def schemeChar (char : Char) : Bool := char.isAlphanum || char == '+' || char == '-' || char == '.'

/-- What follows an address's scheme. -/
def afterScheme (address : List Char) : List Char :=
  let scheme := address.takeWhile (· != ':')
  if (scheme.head?.any Char.isAlpha && scheme.all schemeChar) = true ∧ scheme.length < address.length then
    address.drop (scheme.length + 1)
  else address

def netloc (address : List Char) : List Char :=
  match afterScheme (cleanAddress address) with
  | '/' :: '/' :: rest => rest.takeWhile fun char => char != '/' && char != '?' && char != '#'
  | _ => []

/-- The host's text as an address has it, after the user part and before the port. -/
def hostText (address : List Char) : List Char :=
  let hostinfo := (netloc address).rtakeWhile (· != '@')
  if '[' ∈ hostinfo then ((hostinfo.dropWhile (· != '[')).drop 1).takeWhile (· != ']')
  else hostinfo.takeWhile (· != ':')

/-- `urlsplit(…).hostname`: in lower case, up to the zone of a scoped address. -/
def hostname (address : List Char) : List Char :=
  lowerName ((hostText address).takeWhile (· != '%')) ++ (hostText address).dropWhile (· != '%')

theorem hostname_eq {address : List Char} (plain : '%' ∉ hostText address) : hostname address = lowerName (hostText address) := by
  have whole : ∀ char ∈ hostText address, (char != '%') = true := by
    intro char there
    rw [bne_iff_ne]
    rintro rfl
    exact plain there
  rw [hostname, List.takeWhile_eq_self_iff.mpr whole, List.dropWhile_eq_nil_iff.mpr whole, List.append_nil]

theorem toLower_ne {char mark : Char} (low : mark.val.toNat < 65) (other : char ≠ mark) : char.toLower ≠ mark := by
  unfold Char.toLower
  split
  · rename_i upper
    intro same
    have value := congrArg (fun letter : Char => letter.val.toNat) same
    have least := UInt32.le_iff_toNat_le.mp upper.1
    have greatest := UInt32.le_iff_toNat_le.mp upper.2
    have sum : (char.val + ('a'.val - 'A'.val)).toNat = char.val.toNat + 32 := by
      rw [UInt32.toNat_add]
      have capital : 'Z'.val.toNat = 90 := rfl
      have shift : ('a'.val - 'A'.val).toNat = 32 := rfl
      rw [shift]
      omega
    have capital : 'A'.val.toNat = 65 := rfl
    simp only at value
    omega
  · exact other

/-- A host holds no letter that is not in its address, below the capitals. -/
theorem notMem_hostname {address : List Char} {mark : Char} (low : mark.val.toNat < 65) (absent : mark ∉ cleanAddress address) :
    mark ∉ hostname address := by
  have inScheme : mark ∉ afterScheme (cleanAddress address) := by
    unfold afterScheme
    simp only
    split
    · exact fun there => absent (List.mem_of_mem_drop there)
    · exact absent
  have inNetloc : mark ∉ netloc address := by
    unfold netloc
    split
    · rename_i rest found
      rw [found] at inScheme
      exact fun there => inScheme (.tail _ (.tail _ ((List.takeWhile_prefix _).subset there)))
    · exact List.not_mem_nil
  have inHost : mark ∉ hostText address := by
    unfold hostText
    have tail : mark ∉ (netloc address).rtakeWhile (· != '@') := fun there => inNetloc ((List.rtakeWhile_suffix ..).subset there)
    simp only
    split
    · exact fun there => tail ((List.dropWhile_suffix _).subset (List.mem_of_mem_drop ((List.takeWhile_prefix _).subset there)))
    · exact fun there => tail ((List.takeWhile_prefix _).subset there)
  unfold hostname
  intro there
  rcases List.mem_append.mp there with lower | zone
  · obtain ⟨char, inside, same⟩ := List.mem_map.mp lower
    refine toLower_ne low ?_ same
    rintro rfl
    exact inHost ((List.takeWhile_prefix _).subset inside)
  · exact inHost ((List.dropWhile_suffix _).subset zone)

/-- The user part, the port and the case of a host are no part of its name. -/
example : hostname "https://user:pw@WWW.Iso.org.:443/standards?q=1".toList = "www.iso.org.".toList := by decide +kernel

end Grc.Lib

/-! Edit scripts from one list to another: opcodes over positions, as an aligner answers them, and the segments they spell out. -/
namespace Grc.Lib

inductive EditTag where
  | equal
  | replace
  | delete
  | insert
  deriving DecidableEq

/-- `before[i1:i2]` becomes `after[j1:j2]`. -/
structure Opcode where
  tag : EditTag
  i1 : Nat
  i2 : Nat
  j1 : Nat
  j2 : Nat

inductive DiffOp where
  | equal
  | insert
  | delete
  deriving DecidableEq

variable {Item : Type} {before after : List Item} {i j : Nat} {opcodes : List Opcode}

def slice (items : List Item) (start stop : Nat) : List Item := (items.drop start).take (stop - start)

/-- Opcodes that turn what is left of a list from a position on into what is left of the other: each begins where the one
before it ended, an `equal` names equal slices, an `insert` takes nothing out and a `delete` puts nothing in. -/
inductive Turns (before after : List Item) : Nat → Nat → List Opcode → Prop
  | done : Turns before after before.length after.length []
  | next {tag : EditTag} {i1 i2 j1 j2 : Nat} {rest : List Opcode} (onOld : i1 ≤ i2) (onNew : j1 ≤ j2)
      (equal : tag = .equal → slice before i1 i2 = slice after j1 j2) (insert : tag = .insert → i1 = i2) (delete : tag = .delete → j1 = j2)
      (later : Turns before after i2 j2 rest) : Turns before after i1 j1 (⟨tag, i1, i2, j1, j2⟩ :: rest)

/-- The items of one opcode, one segment each: what changed is deleted, then inserted. -/
def Opcode.segments (before after : List Item) (opcode : Opcode) : List (DiffOp × Item) :=
  if opcode.tag = .equal then (slice before opcode.i1 opcode.i2).map (.equal, ·)
  else (slice before opcode.i1 opcode.i2).map (.delete, ·) ++ (slice after opcode.j1 opcode.j2).map (.insert, ·)

def oldSide (segments : List (DiffOp × Item)) : List Item := (segments.filter (·.1 ≠ .insert)).map (·.2)

def newSide (segments : List (DiffOp × Item)) : List Item := (segments.filter (·.1 ≠ .delete)).map (·.2)

@[simp] theorem oldSide_nil : oldSide ([] : List (DiffOp × Item)) = [] := rfl

@[simp] theorem newSide_nil : newSide ([] : List (DiffOp × Item)) = [] := rfl

@[simp] theorem oldSide_append (first second : List (DiffOp × Item)) : oldSide (first ++ second) = oldSide first ++ oldSide second := by
  simp [oldSide]

@[simp] theorem newSide_append (first second : List (DiffOp × Item)) : newSide (first ++ second) = newSide first ++ newSide second := by
  simp [newSide]

section
variable (items : List Item)
include items

@[simp] theorem oldSide_equal : oldSide (items.map (.equal, ·)) = items := by
  simp [oldSide, List.filter_map, Function.comp_def]

@[simp] theorem newSide_equal : newSide (items.map (.equal, ·)) = items := by
  simp [newSide, List.filter_map, Function.comp_def]

@[simp] theorem oldSide_delete : oldSide (items.map (.delete, ·)) = items := by
  simp [oldSide, List.filter_map, Function.comp_def]

@[simp] theorem newSide_delete : newSide (items.map (.delete, ·)) = [] := by
  simp [newSide, List.filter_map, Function.comp_def]

@[simp] theorem oldSide_insert : oldSide (items.map (.insert, ·)) = [] := by
  simp [oldSide, List.filter_map, Function.comp_def]

@[simp] theorem newSide_insert : newSide (items.map (.insert, ·)) = items := by
  simp [newSide, List.filter_map, Function.comp_def]

theorem slice_append_drop {start stop : Nat} (onward : start ≤ stop) : slice items start stop ++ items.drop stop = items.drop start := by
  have same : items.drop stop = (items.drop start).drop (stop - start) := by
    rw [List.drop_drop, Nat.add_sub_cancel' onward]
  rw [slice, same, List.take_append_drop]

end

theorem oldSide_segments (opcode : Opcode) : oldSide (opcode.segments before after) = slice before opcode.i1 opcode.i2 := by
  unfold Opcode.segments
  split
  · exact oldSide_equal _
  · rw [oldSide_append, oldSide_delete, oldSide_insert, List.append_nil]

theorem Turns.sides (turns : Turns before after i j opcodes) :
    oldSide (opcodes.flatMap (·.segments before after)) = before.drop i ∧ newSide (opcodes.flatMap (·.segments before after)) = after.drop j := by
  induction turns with
  | done =>
    rw [List.drop_length, List.drop_length]
    exact ⟨rfl, rfl⟩
  | @next tag i1 i2 j1 j2 rest onOld onNew equal insert delete later ih =>
    have given : newSide (Opcode.segments before after ⟨tag, i1, i2, j1, j2⟩) = slice after j1 j2 := by
      unfold Opcode.segments
      split
      · next same => rw [newSide_equal, equal same]
      · rw [newSide_append, newSide_delete, newSide_insert, List.nil_append]
    rw [List.flatMap_cons, oldSide_append, newSide_append, oldSide_segments, given, ih.1, ih.2]
    exact ⟨slice_append_drop before onOld, slice_append_drop after onNew⟩

theorem Turns.whole (turns : Turns before after 0 0 opcodes) :
    oldSide (opcodes.flatMap (·.segments before after)) = before ∧ newSide (opcodes.flatMap (·.segments before after)) = after := turns.sides

end Grc.Lib

/-! Replacing a text within another, from the left and never within what it put there. -/
namespace Grc.Lib

section Replacing

variable {α : Type} [DecidableEq α]

/-- The replacement, over so many items of the last find first. -/
def replaceFrom (old new : List α) : Nat → List α → List α
  | _, [] => []
  | skip + 1, _ :: rest => replaceFrom old new skip rest
  | 0, first :: rest =>
    if old <+: first :: rest then new ++ replaceFrom old new (old.length - 1) rest else first :: replaceFrom old new 0 rest

/-- `text.replace(old, new)`, of a text that is not empty. -/
def replace (old new text : List α) : List α := replaceFrom old new 0 text

theorem replace_single (mark : α) (new text : List α) : replace [mark] new text = text.flatMap fun item => if item = mark then new else [item] := by
  unfold replace
  induction text with
  | nil => rfl
  | cons first rest ih =>
    rw [List.flatMap_cons, ← ih]
    by_cases found : first = mark
    · subst found
      rw [if_pos rfl]
      exact if_pos (List.cons_prefix_cons.mpr ⟨rfl, List.nil_prefix⟩)
    · rw [if_neg found]
      exact if_neg fun begun => found (List.cons_prefix_cons.mp begun).1.symm

theorem replace_pair_found (cr lf : α) (new rest : List α) : replace [cr, lf] new (cr :: lf :: rest) = new ++ replace [cr, lf] new rest :=
  if_pos (List.cons_prefix_cons.mpr ⟨rfl, List.cons_prefix_cons.mpr ⟨rfl, List.nil_prefix⟩⟩)

theorem replace_pair_passed {cr lf first : α} {rest : List α} (apart : ¬(first = cr ∧ rest.head? = some lf)) (new : List α) :
    replace [cr, lf] new (first :: rest) = first :: replace [cr, lf] new rest := by
  refine if_neg fun begun => ?_
  obtain ⟨same, next⟩ := List.cons_prefix_cons.mp begun
  cases rest with
  | nil => exact absurd (List.prefix_nil.mp next) (List.cons_ne_nil _ _)
  | cons other rest =>
    refine apart ⟨same.symm, ?_⟩
    rw [List.head?_cons, (List.cons_prefix_cons.mp next).1]

end Replacing

end Grc.Lib
