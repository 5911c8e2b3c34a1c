import Grc.Home.Roadmap
import Grc.Lib.Components
import Mathlib.Data.Nat.Digits.Defs

/-! The calendar a subscription serves: the bank's dated changes as events, every text escaped and every line folded. -/
namespace Grc.Home

open Grc.Lib

def foldOctets : Nat := 75

structure Settings where
  productName : String
  appBaseUrl : String

/-- A moment as a clock in UTC shows it. -/
structure UtcClock where
  day : Day
  hour : Fin 24
  minute : Fin 60
  second : Fin 60

/-- `roadmap.calendar_items`: the dates the outside world set, stated to the day, each beside its change's stable key. -/
def Bank.calendarItems (bank : Bank) (stableKey : Uuid → String) : List (String × HomeRoadmapItem) :=
  ((casesAhead bank.records { kind := .regulatory } bank.today).filter fun row => row.2.change.keyDatePrecision = .day).map fun row =>
    (stableKey row.2.change.id, caseItem bank.names row)

def uidDomain (settings : Settings) : List Char :=
  let host := hostname settings.appBaseUrl.toList
  if host = [] then "bleqq".toList else host

def escape (text : List Char) : List Char :=
  text |> replace ['\\'] ['\\', '\\']
    |> replace [';'] ['\\', ';']
    |> replace [','] ['\\', ',']
    |> replace ['\r', '\n'] ['\\', 'n']
    |> replace ['\n'] ['\\', 'n']
    |> replace ['\r'] ['\\', 'n']

/-- Where a line is cut: stepping back from the limit over what continues a character. -/
def stepBack (raw : List UInt8) : Nat → Nat
  | 0 => 0
  | cut + 1 =>
    match raw[cut + 1]? with
    | none => cut + 1
    | some octet => if Octets.isContinuation octet then stepBack raw cut else cut + 1

/-- The loop of `_fold`; `none` where a piece is no text, or the loop does not come to its end. -/
def foldLoop : Nat → List (List Char) → List UInt8 → Option (List (List Char))
  | _, pieces, [] => some pieces
  | 0, _, _ => none
  | fuel + 1, pieces, raw =>
    let cut := stepBack raw (if pieces = [] then foldOctets else foldOctets - 1)
    match Octets.decode (raw.take cut) with
    | none => none
    | some piece => foldLoop fuel (pieces ++ [if pieces = [] then piece else ' ' :: piece]) (raw.drop cut)

def fold (line : List Char) : Option (List (List Char)) :=
  let raw := Octets.encode line
  if raw.length ≤ foldOctets then some [line] else foldLoop raw.length [] raw

def twoDigits (number : Nat) : List Char := [Nat.digitChar (number / 10), Nat.digitChar (number % 10)]

/-- A day as `%Y%m%d`. -/
def compactDate (day : Day) : List Char := Nat.toDigits 10 day.year ++ twoDigits day.month ++ twoDigits day.day

/-- A moment as `%Y%m%dT%H%M%SZ`. -/
def compactTime (now : UtcClock) : List Char :=
  compactDate now.day ++ 'T' :: (twoDigits now.hour ++ twoDigits now.minute ++ twoDigits now.second ++ ['Z'])

/-- What an event is about: what the date is, where that is said, and the reform. -/
def summary (item : HomeRoadmapItem) : List Char :=
  match item.label with
  | none => item.title.toList
  | some label => if label.toList = [] then item.title.toList else label.toList ++ ": ".toList ++ item.title.toList

def link (settings : Settings) (item : HomeRoadmapItem) : List Char :=
  settings.appBaseUrl.toList.rdropWhile (· == '/') ++ "/watch/".toList ++
    (match item.changeId with | none => "None".toList | some change => change.text.toList)

def event (settings : Settings) (now : UtcClock) (entry : String × HomeRoadmapItem) : List (List Char) :=
  ["BEGIN:VEVENT".toList,
    "UID:".toList ++ escape entry.1.toList ++ '@' :: uidDomain settings,
    "DTSTAMP:".toList ++ compactTime now,
    "DTSTART;VALUE=DATE:".toList ++ compactDate entry.2.date,
    "SUMMARY:".toList ++ escape (summary entry.2),
    "DESCRIPTION:".toList ++ escape (entry.2.sourceLabel.getD "").toList,
    "URL:".toList ++ escape (link settings entry.2),
    "END:VEVENT".toList]

def opening (settings : Settings) : List (List Char) :=
  ["BEGIN:VCALENDAR".toList, "VERSION:2.0".toList, "PRODID:-//bleqq//".toList ++ settings.productName.toList ++ "//EN".toList]

def written (lines : List (List Char)) : Option (List Char) := (lines.mapM fold).map fun pieces => ended pieces.flatten

/-- `_ics_document`, of the items it read. -/
def icsDocument (settings : Settings) (items : List (String × HomeRoadmapItem)) (now : UtcClock) : Option (List Char) :=
  written (opening settings ++ items.flatMap (event settings now) ++ ["END:VCALENDAR".toList])

/-- `_ics_document`, of a bank. -/
def Bank.icsDocument (bank : Bank) (settings : Settings) (stableKey : Uuid → String) (now : UtcClock) : Option (List Char) :=
  Home.icsDocument settings (bank.calendarItems stableKey) now

/-! ## Escaping -/

def marked (char : Char) : List Char := if char = '\\' ∨ char = ';' ∨ char = ',' then ['\\', char] else [char]

def unbroken (char : Char) : List Char := if char = '\n' ∨ char = '\r' then ['\\', 'n'] else [char]

theorem escape_stages (text : List Char) :
    escape text = (replace ['\r', '\n'] ['\\', 'n'] (text.flatMap marked)).flatMap unbroken := by
  have first : ∀ char : Char, ((if char = '\\' then ['\\', '\\'] else [char]).flatMap fun item => if item = ';' then ['\\', ';'] else [item]).flatMap
      (fun item => if item = ',' then ['\\', ','] else [item]) = marked char := by
    intro char
    unfold marked
    by_cases backslash : char = '\\'
    · subst backslash
      rfl
    · by_cases semicolon : char = ';'
      · subst semicolon
        rfl
      · by_cases comma : char = ','
        · subst comma
          rfl
        · simp [backslash, semicolon, comma]
  have last : ∀ char : Char, ((if char = '\n' then ['\\', 'n'] else [char]).flatMap fun item => if item = '\r' then ['\\', 'n'] else [item]) =
      unbroken char := by
    intro char
    unfold unbroken
    by_cases newline : char = '\n'
    · subst newline
      rfl
    · by_cases back : char = '\r'
      · subst back
        rfl
      · simp [newline, back]
  unfold escape
  simp only [replace_single, List.flatMap_assoc]
  simp only [← List.flatMap_assoc, first, last]

theorem marked_newline {text : List Char} (newline : (text.flatMap marked).head? = some '\n') : text.head? = some '\n' := by
  cases text with
  | nil => exact nomatch newline
  | cons char rest =>
    rw [List.flatMap_cons] at newline
    unfold marked at newline
    split at newline
    · exact absurd (Option.some.inj newline) (by decide)
    · exact newline

theorem stages_passed {char : Char} {rest : List Char} (apart : ¬(char = '\r' ∧ rest.head? = some '\n')) :
    (replace ['\r', '\n'] ['\\', 'n'] (marked char ++ rest.flatMap marked)).flatMap unbroken =
      escapeChar (if char = '\r' then '\n' else char) ++ (replace ['\r', '\n'] ['\\', 'n'] (rest.flatMap marked)).flatMap unbroken := by
  have passed : ∀ {first : Char} {more : List Char}, ¬(first = '\r' ∧ more.head? = some '\n') →
      (replace ['\r', '\n'] ['\\', 'n'] (first :: more)).flatMap unbroken =
        unbroken first ++ (replace ['\r', '\n'] ['\\', 'n'] more).flatMap unbroken := by
    intro first more other
    rw [replace_pair_passed other, List.flatMap_cons]
  by_cases special : char = '\\' ∨ char = ';' ∨ char = ','
  · have inner : char ≠ '\r' ∧ marked char = ['\\', char] ∧ escapeChar char = ['\\', char] ∧ unbroken char = [char] := by
      rcases special with rfl | rfl | rfl <;> decide
    obtain ⟨notBack, first, second, kept⟩ := inner
    rw [if_neg notBack, first, second, List.cons_append, passed fun marks => absurd marks.1 (by decide), List.singleton_append, passed fun marks => notBack marks.1, kept]
    rfl
  · have alone : marked char = [char] := if_neg special
    have one : unbroken char = escapeChar (if char = '\r' then '\n' else char) := by
      unfold unbroken
      by_cases back : char = '\r'
      · rw [if_pos (.inr back), if_pos back]
        rfl
      · rw [if_neg back, escapeChar, if_neg special]
        by_cases newline : char = '\n'
        · rw [if_pos (.inl newline), if_pos newline]
        · rw [if_neg (not_or.mpr ⟨newline, back⟩), if_neg newline]
    rw [alone, List.singleton_append, passed fun marks => apart ⟨marks.1, marked_newline marks.2⟩, one]

theorem escape_eq (text : List Char) : escape text = escapeText text := by
  rw [escape_stages, escapeText]
  fun_induction lineEnds text with
  | case1 => rfl
  | case2 last =>
    have apart : ¬(last = '\r' ∧ ([] : List Char).head? = some '\n') := by
      rintro ⟨-, none_⟩
      cases none_
    have step := stages_passed apart
    rw [List.flatMap_singleton, List.flatMap_singleton]
    rw [List.flatMap_nil, List.append_nil] at step
    exact step.trans (List.append_nil _)
  | case3 first next rest marks ih =>
    obtain ⟨rfl, rfl⟩ := marks
    have parts : ('\r' :: '\n' :: rest).flatMap marked = '\r' :: '\n' :: rest.flatMap marked := rfl
    rw [parts, replace_pair_found, List.flatMap_append, ih]
    rfl
  | case4 first next rest other ih =>
    have apart : ¬(first = '\r' ∧ (next :: rest).head? = some '\n') := fun marks => other ⟨marks.1, Option.some.inj marks.2⟩
    rw [List.flatMap_cons, stages_passed apart, ih, List.flatMap_cons]

/-! ## Folding -/

theorem stepBack_le (raw : List UInt8) (cut : Nat) : stepBack raw cut ≤ cut := by
  fun_induction stepBack raw cut with
  | case1 => exact Nat.le_refl 0
  | case2 cut ended => exact Nat.le_refl _
  | case3 cut octet found inside ih => exact Nat.le_succ_of_le ih
  | case4 cut octet found fresh => exact Nat.le_refl _

theorem le_stepBack {raw : List UInt8} {place : Nat} {octet : UInt8} (found : raw[place]? = some octet)
    (fresh : Octets.isContinuation octet = false) (cut : Nat) (below : place ≤ cut) : place ≤ stepBack raw cut := by
  fun_induction stepBack raw cut with
  | case1 | case2 cut ended => exact below
  | case3 cut other there inside ih =>
    refine ih (Nat.le_of_lt_succ (Nat.lt_of_le_of_ne below ?_))
    rintro rfl
    rw [found] at there
    rw [Option.some.inj there, inside] at fresh
    cases fresh
  | case4 cut other there fresh' => exact below

theorem stepBack_fresh {raw : List UInt8} {cut : Nat} {octet : UInt8} (some_ : stepBack raw cut ≠ 0)
    (found : raw[stepBack raw cut]? = some octet) : Octets.isContinuation octet = false := by
  fun_induction stepBack raw cut with
  | case1 => exact absurd rfl some_
  | case2 cut ended =>
    rw [ended] at found
    cases found
  | case3 cut other there inside ih => exact ih some_ found
  | case4 cut other there fresh =>
    rw [there] at found
    rw [← Option.some.inj found]
    exact Bool.eq_false_iff.mpr fresh

/-- A text is cut between two characters, after the first of them and within the limit. -/
theorem cut_between {text : List Char} (some_ : text ≠ []) {limit : Nat} (room : 4 ≤ limit) :
    ∃ front back, text = front ++ back ∧ front ≠ [] ∧ (Octets.encode front).length ≤ limit ∧
      (Octets.encode text).take (stepBack (Octets.encode text) limit) = Octets.encode front ∧
      (Octets.encode text).drop (stepBack (Octets.encode text) limit) = Octets.encode back := by
  rcases Nat.lt_or_ge limit (Octets.encode text).length with long | short
  · cases text with
    | nil => exact absurd rfl some_
    | cons char rest =>
      obtain ⟨first, more, shape, -, few, -⟩ := Octets.encodeChar_cons char
      have width : (String.utf8EncodeChar char).length = more.length + 1 := by rw [shape, List.length_cons]
      have total : (Octets.encode (char :: rest)).length = more.length + 1 + (Octets.encode rest).length := by
        rw [Octets.encode_cons, List.length_append, width]
      cases rest with
      | nil =>
        rw [Octets.encode_nil, List.length_nil] at total
        omega
      | cons next after =>
        obtain ⟨head, tail, nextShape, fresh, -⟩ := Octets.encodeChar_cons next
        have second : (Octets.encode (char :: next :: after))[more.length + 1]? = some head := by
          rw [Octets.encode_cons, ← width, List.getElem?_append_right (Nat.le_refl _), Nat.sub_self, Octets.encode_cons, nextShape]
          rfl
        have beyond := le_stepBack second fresh limit (by omega)
        have below := stepBack_le (Octets.encode (char :: next :: after)) limit
        have within := Nat.lt_of_le_of_lt below long
        have start := stepBack_fresh (by omega) (List.getElem?_eq_getElem within)
        obtain ⟨front, back, parts, size⟩ := Octets.starts_at (List.getElem?_eq_getElem within) start
        refine ⟨front, back, parts, ?_, by omega, ?_, ?_⟩
        · rintro rfl
          rw [Octets.encode_nil, List.length_nil] at size
          omega
        · rw [← size, parts, Octets.encode_append, List.take_left]
        · rw [← size, parts, Octets.encode_append, List.drop_left]
  · have whole : stepBack (Octets.encode text) limit = limit := by
      cases limit with
      | zero => rfl
      | succ cut =>
        rw [stepBack, List.getElem?_eq_none short]
    refine ⟨text, [], (List.append_nil text).symm, some_, short, ?_, ?_⟩
    · rw [whole, List.take_of_length_le short]
    · rw [whole, List.drop_eq_nil_of_le short]
      rfl

theorem foldLoop_step (fuel : Nat) (pieces : List (List Char)) {text : List Char} (some_ : text ≠ []) :
    ∃ front back, text = front ++ back ∧ (Octets.encode back).length < (Octets.encode text).length ∧
      (Octets.encode front).length ≤ (if pieces = [] then foldOctets else foldOctets - 1) ∧
      foldLoop (fuel + 1) pieces (Octets.encode text) =
        foldLoop fuel (pieces ++ [if pieces = [] then front else ' ' :: front]) (Octets.encode back) := by
  have room : 4 ≤ (if pieces = [] then foldOctets else foldOctets - 1) := by
    split <;> decide
  obtain ⟨front, back, parts, notEmpty, within, taken, dropped⟩ := cut_between some_ room
  have octets := Octets.encode_ne_nil some_
  refine ⟨front, back, parts, ?_, within, ?_⟩
  · have width := List.length_pos_iff.mpr (Octets.encode_ne_nil notEmpty)
    rw [parts, Octets.encode_append, List.length_append]
    omega
  · generalize Octets.encode text = raw at taken dropped octets
    cases raw with
    | nil => exact absurd rfl octets
    | cons octet more =>
      rw [foldLoop, taken, dropped, Octets.decode_encode]
      exact octets

theorem foldLoop_rest (fuel : Nat) {text : List Char} (enough : (Octets.encode text).length ≤ fuel) {pieces : List (List Char)}
    (started : pieces ≠ []) :
    ∃ rest : List (List Char), foldLoop fuel pieces (Octets.encode text) = some (pieces ++ rest.map (' ' :: ·)) ∧ rest.flatten = text ∧
      ∀ piece ∈ rest, (Octets.encode piece).length ≤ foldOctets - 1 := by
  by_cases ended : text = []
  · subst ended
    refine ⟨[], ?_, rfl, List.forall_mem_nil _⟩
    rw [List.map_nil, List.append_nil, Octets.encode_nil, foldLoop]
  · induction fuel generalizing text pieces with
    | zero => exact absurd (List.length_eq_zero_iff.mp (Nat.le_zero.mp enough)) (Octets.encode_ne_nil ended)
    | succ fuel ih =>
      obtain ⟨front, back, rfl, shorter, within, step⟩ := foldLoop_step fuel pieces ended
      rw [if_neg started] at within step
      have later : pieces ++ [' ' :: front] ≠ [] := List.append_ne_nil_of_left_ne_nil started _
      by_cases last : back = []
      · subst last
        refine ⟨[front], ?_, by simp, List.forall_mem_singleton.mpr within⟩
        rw [step, Octets.encode_nil, foldLoop]
        rfl
      · obtain ⟨rest, found, whole, small⟩ := ih (by omega) later last
        refine ⟨front :: rest, ?_, congrArg (front ++ ·) whole, List.forall_mem_cons.mpr ⟨within, small⟩⟩
        rw [step, found, List.append_assoc]
        rfl

theorem fold_folded (line : List Char) : ∃ pieces, fold line = some pieces ∧ Folded foldOctets line pieces := by
  unfold fold
  rcases Nat.lt_or_ge foldOctets (Octets.encode line).length with long | short
  · have some_ : line ≠ [] := by
      rintro rfl
      exact absurd long (by decide)
    have positive : (Octets.encode line).length = (Octets.encode line).length - 1 + 1 := by omega
    obtain ⟨front, back, parts, shorter, within, step⟩ := foldLoop_step ((Octets.encode line).length - 1) [] some_
    have enough : (Octets.encode back).length ≤ (Octets.encode line).length - 1 := by omega
    obtain ⟨rest, found, whole, small⟩ := foldLoop_rest ((Octets.encode line).length - 1) enough (List.cons_ne_nil front [])
    refine ⟨front :: rest.map (' ' :: ·), ?_, front, rest, rfl, whole ▸ parts, ?_⟩
    · rw [if_neg (Nat.not_le.mpr long), positive, step]
      exact found
    · refine List.forall_mem_cons.mpr ⟨within, List.forall_mem_map.mpr fun piece there => ?_⟩
      have := small piece there
      rw [Octets.encode_cons, List.length_append]
      have space : (String.utf8EncodeChar ' ').length = 1 := rfl
      have limit : foldOctets - 1 + 1 = foldOctets := rfl
      omega
  · refine ⟨[line], if_pos short, line, [], rfl, (List.append_nil line).symm, List.forall_mem_singleton.mpr short⟩

/-! ## The document -/

theorem mapM_fold (lines : List (List Char)) :
    ∃ pieces, List.Forall₂ (Folded foldOctets) lines pieces ∧ lines.mapM fold = some pieces := by
  induction lines with
  | nil => exact ⟨[], .nil, rfl⟩
  | cons line lines ih =>
    obtain ⟨piece, found, folded⟩ := fold_folded line
    obtain ⟨pieces, others, rest⟩ := ih
    refine ⟨piece :: pieces, .cons folded others, ?_⟩
    rw [List.mapM_cons, found, rest]
    rfl

end Grc.Home
