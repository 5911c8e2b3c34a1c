import Grc.Lib.ContentLines
import Grc.Lib.Texts

/-! What content lines say: properties with their parameters and values, the texts of values, and components one within another. -/
namespace Grc.Lib

/-! ## Properties -/

structure Property where
  name : List Char
  parameters : List Char
  value : List Char
  deriving DecidableEq

/-- What stands before a line's first colon outside quotes, and what stands after it. -/
def splitAtColon (quoted : Bool) : List Char → Option (List Char × List Char)
  | [] => none
  | char :: rest =>
    if char = ':' ∧ quoted = false then some ([], rest)
    else (splitAtColon (quoted ^^ (char == '"')) rest).map fun parts => (char :: parts.1, parts.2)

/-- A line as a property: its name in capitals, its parameters from their semicolon on, and its value. -/
def readProperty (line : List Char) : Option Property :=
  (splitAtColon false line).map fun parts =>
    { name := (parts.1.takeWhile (· != ';')).map Char.toUpper, parameters := parts.1.dropWhile (· != ';'), value := parts.2 }

def isLead (lead : List Char) : Bool := lead.all fun char => char != ':' && char != '"'

theorem splitAtColon_lead {lead : List Char} (plain : isLead lead = true) (value : List Char) :
    splitAtColon false (lead ++ ':' :: value) = some (lead, value) := by
  induction lead with
  | nil => rfl
  | cons char lead ih =>
    rw [isLead, List.all_cons, Bool.and_eq_true, Bool.and_eq_true, bne_iff_ne, bne_iff_ne] at plain
    obtain ⟨⟨colon, quote⟩, rest⟩ := plain
    have unquoted : (char == '"') = false := beq_eq_false_iff_ne.mpr quote
    have step : splitAtColon false (char :: (lead ++ ':' :: value)) =
        (splitAtColon (false ^^ (char == '"')) (lead ++ ':' :: value)).map fun parts => (char :: parts.1, parts.2) :=
      if_neg fun marks => colon marks.1
    rw [List.cons_append, step, unquoted, Bool.xor_false, ih rest]
    rfl

theorem readProperty_lead {lead : List Char} (plain : isLead lead = true) (value : List Char) :
    readProperty (lead ++ ':' :: value) = some
      { name := (lead.takeWhile (· != ';')).map Char.toUpper, parameters := lead.dropWhile (· != ';'), value } := by
  rw [readProperty, splitAtColon_lead plain]
  rfl

/-! ## Texts -/

/-- A text with each of its line ends as one. -/
def lineEnds : List Char → List Char
  | [] => []
  | [last] => [if last = '\r' then '\n' else last]
  | first :: next :: rest =>
    if first = '\r' ∧ next = '\n' then '\n' :: lineEnds rest else (if first = '\r' then '\n' else first) :: lineEnds (next :: rest)

def escapeChar (char : Char) : List Char :=
  if char = '\\' ∨ char = ';' ∨ char = ',' then ['\\', char] else if char = '\n' then ['\\', 'n'] else [char]

def escapeText (text : List Char) : List Char := (lineEnds text).flatMap escapeChar

/-- The text of a value: a backslash before an n is a line end, before another letter it is nothing. -/
def unescape : List Char → List Char
  | [] => []
  | [last] => [last]
  | first :: next :: rest =>
    if first = '\\' then (if next = 'n' ∨ next = 'N' then '\n' else next) :: unescape rest else first :: unescape (next :: rest)

/-- A value as the values it lists, cut at each comma and semicolon that no backslash stands before. -/
def values : List Char → List (List Char)
  | [] => [[]]
  | [last] => if last = ',' ∨ last = ';' then [[], []] else [[last]]
  | first :: next :: rest =>
    if first = '\\' then (values rest).modifyHead fun value => first :: next :: value
    else if first = ',' ∨ first = ';' then [] :: values (next :: rest)
    else (values (next :: rest)).modifyHead (first :: ·)

theorem lineEnds_plain (text : List Char) : '\r' ∉ lineEnds text := by
  fun_induction lineEnds text with
  | case1 => exact List.not_mem_nil
  | case2 last =>
    by_cases mark : last = '\r'
    · rw [if_pos mark]
      decide
    · rw [if_neg mark, List.mem_singleton]
      exact fun same => mark same.symm
  | case3 first next rest marks ih =>
    intro there
    rcases List.mem_cons.mp there with newline | there
    · exact absurd newline (by decide)
    · exact ih there
  | case4 first next rest other ih =>
    intro there
    rcases List.mem_cons.mp there with mark | there
    · by_cases isFirst : first = '\r'
      · rw [if_pos isFirst] at mark
        exact absurd mark (by decide)
      · rw [if_neg isFirst] at mark
        exact isFirst mark.symm
    · exact ih there

theorem mem_escapeChar {char mark : Char} (there : mark ∈ escapeChar char) : mark = '\\' ∨ mark = 'n' ∨ mark = char ∧ char ≠ '\n' := by
  unfold escapeChar at there
  split at there
  · rename_i special
    rcases List.mem_cons.mp there with rfl | there
    · exact .inl rfl
    · refine .inr (.inr ⟨List.mem_singleton.mp there, ?_⟩)
      rintro rfl
      exact absurd special (by decide)
  · split at there
    · rcases List.mem_cons.mp there with rfl | there
      · exact .inl rfl
      · exact .inr (.inl (List.mem_singleton.mp there))
    · rename_i notEnd
      exact .inr (.inr ⟨List.mem_singleton.mp there, notEnd⟩)

theorem escapeText_plain (text : List Char) : '\r' ∉ escapeText text ∧ '\n' ∉ escapeText text := by
  have each : ∀ mark ∈ escapeText text, mark ≠ '\r' ∧ mark ≠ '\n' := by
    intro mark there
    obtain ⟨char, inside, there⟩ := List.mem_flatMap.mp there
    rcases mem_escapeChar there with rfl | rfl | ⟨rfl, other⟩
    · decide
    · decide
    · exact ⟨fun same => lineEnds_plain text (same ▸ inside), other⟩
  exact ⟨fun there => (each _ there).1 rfl, fun there => (each _ there).2 rfl⟩

theorem unescape_plain {char : Char} (other : char ≠ '\\') (rest : List Char) : unescape (char :: rest) = char :: unescape rest := by
  cases rest with
  | nil => rfl
  | cons next rest => exact if_neg other

theorem unescape_escapeChar (char : Char) (rest : List Char) : unescape (escapeChar char ++ rest) = char :: unescape rest := by
  unfold escapeChar
  split
  · rename_i special
    have below : unescape ('\\' :: char :: rest) = (if char = 'n' ∨ char = 'N' then '\n' else char) :: unescape rest := if_pos rfl
    have other : ¬(char = 'n' ∨ char = 'N') := by
      rcases special with rfl | rfl | rfl <;> decide
    rw [if_neg other] at below
    exact below
  · split
    · rename_i newline
      subst newline
      rfl
    · rename_i special _
      exact unescape_plain (fun same => special (.inl same)) rest

theorem unescape_escapeText (text rest : List Char) : unescape (escapeText text ++ rest) = lineEnds text ++ unescape rest := by
  unfold escapeText
  induction lineEnds text with
  | nil => rfl
  | cons char more ih => rw [List.flatMap_cons, List.append_assoc, unescape_escapeChar, ih, List.cons_append]

theorem values_plain {char : Char} (escape : char ≠ '\\') (mark : ¬(char = ',' ∨ char = ';')) (rest : List Char) :
    values (char :: rest) = (values rest).modifyHead (char :: ·) := by
  cases rest with
  | nil => exact if_neg mark
  | cons next rest => exact (if_neg escape).trans (if_neg mark)

theorem values_escapeChar (char : Char) (rest : List Char) :
    values (escapeChar char ++ rest) = (values rest).modifyHead fun value => escapeChar char ++ value := by
  have escaped : ∀ next, values ('\\' :: next :: rest) = (values rest).modifyHead fun value => '\\' :: next :: value := fun _ => if_pos rfl
  unfold escapeChar
  split
  · exact escaped char
  · rename_i plain
    split
    · exact escaped 'n'
    · exact values_plain (fun same => plain (.inl same)) (fun mark => plain (.inr mark.symm)) rest

theorem values_escapeText (text rest : List Char) :
    values (escapeText text ++ rest) = (values rest).modifyHead fun value => escapeText text ++ value := by
  unfold escapeText
  induction lineEnds text with
  | nil =>
    have same : (fun value : List Char => [] ++ value) = id := rfl
    rw [List.flatMap_nil, same, List.modifyHead_id]
    rfl
  | cons char more ih =>
    rw [List.flatMap_cons, List.append_assoc, values_escapeChar, ih, List.modifyHead_modifyHead]
    congr 1
    funext value
    exact (List.append_assoc ..).symm

def Property.texts (property : Property) : List (List Char) := (values property.value).map unescape

theorem values_unmarked {value : List Char} (unmarked : ∀ char ∈ value, char ≠ '\\' ∧ ¬(char = ',' ∨ char = ';')) :
    (values value).map unescape = [value] := by
  have parts : values value = [value] ∧ unescape value = value := by
    induction value with
    | nil => exact ⟨rfl, rfl⟩
    | cons char rest ih =>
      obtain ⟨here, later⟩ := List.forall_mem_cons.mp unmarked
      obtain ⟨one, same⟩ := ih later
      rw [values_plain here.1 here.2, unescape_plain here.1, one, same]
      exact ⟨rfl, rfl⟩
  rw [parts.1, List.map_singleton, parts.2]

theorem texts_escapeText (text rest : List Char) :
    (values (escapeText text ++ rest)).map unescape = ((values rest).map unescape).modifyHead (lineEnds text ++ ·) := by
  rw [values_escapeText]
  cases values rest with
  | nil => rfl
  | cons first more =>
    rw [List.modifyHead_cons, List.map_cons, unescape_escapeText]
    rfl

theorem texts_escaped (text : List Char) : (values (escapeText text)).map unescape = [lineEnds text] := by
  have whole := texts_escapeText text []
  rw [List.append_nil] at whole
  rw [whole]
  exact congrArg (fun value => [value]) (List.append_nil _)

/-! ## Components -/

inductive Component where
  | mk (name : List Char) (properties : List Property) (parts : List Component)

namespace Component

def name : Component → List Char
  | mk name _ _ => name

def properties : Component → List Property
  | mk _ properties _ => properties

def parts : Component → List Component
  | mk _ _ parts => parts

def withProperty : Component → Property → Component
  | mk name properties parts, property => mk name (properties ++ [property]) parts

def withPart : Component → Component → Component
  | mk name properties parts, part => mk name properties (parts ++ [part])

end Component

/-- A reader of properties: the component it is in, and those around it. -/
structure Reader where
  current : Component
  outside : List Component

namespace Reader

def start : Reader := ⟨.mk [] [] [], []⟩

/-- One property further: a BEGIN enters a component, the END of the same name leaves it. -/
def read (reader : Reader) (property : Property) : Option Reader :=
  if property.name = "BEGIN".toList then some ⟨.mk property.value [] [], reader.current :: reader.outside⟩
  else if property.name = "END".toList then
    match reader.outside with
    | [] => none
    | outer :: more => if property.value = reader.current.name then some ⟨outer.withPart reader.current, more⟩ else none
  else some { reader with current := reader.current.withProperty property }

def readLine (reader : Reader) (line : List Char) : Option Reader := (readProperty line).bind reader.read

def readAll (reader : Reader) (lines : List (List Char)) : Option Reader := lines.foldlM readLine reader

def withPart (reader : Reader) (part : Component) : Reader := { reader with current := reader.current.withPart part }

theorem readAll_cons (reader : Reader) (line : List Char) (lines : List (List Char)) :
    reader.readAll (line :: lines) = (reader.readLine line).bind (·.readAll lines) := rfl

theorem readAll_append (reader : Reader) (front back : List (List Char)) :
    reader.readAll (front ++ back) = (reader.readAll front).bind (·.readAll back) := List.foldlM_append

end Reader

def readOctets (octets : List UInt8) : Option Reader := (readLines octets).bind Reader.start.readAll

def Saying (line : List Char) (property : Property) : Prop :=
  readProperty line = some property ∧ property.name ≠ "BEGIN".toList ∧ property.name ≠ "END".toList

namespace Reader

theorem readAll_saying {lines : List (List Char)} {properties : List Property} (say : List.Forall₂ Saying lines properties) :
    ∀ (name : List Char) (before : List Property) (parts : List Component) (outside : List Component),
      readAll ⟨.mk name before parts, outside⟩ lines = some ⟨.mk name (before ++ properties) parts, outside⟩ := by
  induction say with
  | nil =>
    intro name before parts outside
    rw [List.append_nil]
    rfl
  | @cons line property lines properties first rest ih =>
    intro name before parts outside
    obtain ⟨found, notBegin, notEnd⟩ := first
    have step : readLine ⟨.mk name before parts, outside⟩ line = some ⟨.mk name (before ++ [property]) parts, outside⟩ := by
      rw [readLine, found, Option.bind_some, read, if_neg notBegin, if_neg notEnd]
      rfl
    have after := ih name (before ++ [property]) parts outside
    rw [List.append_assoc, List.singleton_append] at after
    rw [readAll_cons, step, Option.bind_some, after]

theorem readAll_component {opening closing : List Char} {name : List Char} {lines : List (List Char)} {properties : List Property}
    (begun : readProperty opening = some ⟨"BEGIN".toList, [], name⟩) (ended : readProperty closing = some ⟨"END".toList, [], name⟩)
    (say : List.Forall₂ Saying lines properties) (reader : Reader) :
    reader.readAll (opening :: (lines ++ [closing])) = some (reader.withPart (.mk name properties [])) := by
  have enter : reader.readLine opening = some ⟨.mk name [] [], reader.current :: reader.outside⟩ := by
    rw [readLine, begun, Option.bind_some]
    exact if_pos rfl
  have within := readAll_saying say name [] [] (reader.current :: reader.outside)
  have leave : readLine ⟨.mk name properties [], reader.current :: reader.outside⟩ closing = some (reader.withPart (.mk name properties [])) := by
    have other : "END".toList ≠ "BEGIN".toList := by decide
    rw [readLine, ended, Option.bind_some, read, if_neg other, if_pos rfl]
    exact if_pos rfl
  rw [readAll_cons, enter, Option.bind_some, readAll_append, within, List.nil_append, Option.bind_some, readAll_cons, leave, Option.bind_some]
  rfl

end Reader

end Grc.Lib
