import Grc.Lib.Calendar
import Grc.Lib.Checks
import Grc.Shared.Audit
import Mathlib.Data.List.DropRight

/-! The recurrence rule of a recurring duty: its grammar, its expansion over a span of days and
the check a rule passes before the library stores it. -/
namespace Grc.Library

open Grc.Shared Grc.Lib

def ruleMaxChars : Nat := 500

/-- `HORIZON`, in years. -/
def horizon : Nat := 10

def frequencies : List String := ["DAILY", "MONTHLY", "WEEKLY", "YEARLY"]

def parts : List String :=
  ["BYDAY", "BYMONTH", "BYMONTHDAY", "BYSETPOS", "BYWEEKNO", "BYYEARDAY", "COUNT", "FREQ", "INTERVAL",
    "UNTIL", "WKST"]

def refused (rule why : String) : Refusal where
  code := "invalid_recurrence"
  detail := quoted rule ++ " is not a recurrence rule: " ++ why

/-- What `str.strip` takes off. -/
def isSpace (letter : Char) : Bool :=
  letter.toNat ∈ [9, 10, 11, 12, 13, 28, 29, 30, 31, 32, 133, 160, 5760, 8232, 8233, 8239, 8287, 12288] ||
    (8192 ≤ letter.toNat && letter.toNat ≤ 8202)

/-- `str.upper`, of the letters whose upper case is plain; a rule with any other is refused. -/
def upper (letter : Char) : List Char :=
  match letter.toNat with
  | 223 => ['S', 'S']
  | 305 => ['I']
  | 383 => ['S']
  | 64256 => ['F', 'F']
  | 64257 => ['F', 'I']
  | 64258 => ['F', 'L']
  | 64259 => ['F', 'F', 'I']
  | 64260 => ['F', 'F', 'L']
  | 64261 => ['S', 'T']
  | 64262 => ['S', 'T']
  | _ => [letter.toUpper]

/-- `[A-Z0-9=;,+\-]`. -/
def allowed (letter : Char) : Bool :=
  letter.isUpper || letter.isDigit || letter ∈ ['=', ';', ',', '+', '-']

/-- `removeprefix`. -/
def withoutPrefix (lead text : List Char) : List Char :=
  if lead.isPrefixOf text then text.drop lead.length else text

/-- `rule.strip().upper().removeprefix("RRULE:")`. -/
def spelled (rule : String) : List Char :=
  withoutPrefix "RRULE:".toList
    (((rule.toList.dropWhile isSpace).rdropWhile isSpace).flatMap upper)

/-- `part.partition("=")`: the name, and what stands after the sign. -/
def partition (part : List Char) : String × List Char :=
  (String.ofList (part.takeWhile (· != '=')), (part.dropWhile (· != '=')).drop 1)

def partsOf (text : List Char) : List (String × List Char) := (text.splitOn ';').map partition

/-- `[1-9][0-9]{0,3}`. -/
def isPositive : List Char → Bool
  | [] => false
  | first :: rest => first.isDigit && first != '0' && rest.length ≤ 3 && rest.all (·.isDigit)

def valueOf (found : List (String × List Char)) (name : String) : Option (List Char) :=
  (found.find? (·.1 == name)).map Prod.snd

/-- `normalised`: the rule in the one spelling the library stores. -/
def normalised (rule : String) : Except Refusal String := do
  let text := spelled rule
  require (text ≠ [] ∧ text.length ≤ ruleMaxChars ∧ text.all allowed = true)
    (refused rule ("write one RRULE line of at most " ++ toString ruleMaxChars ++
      " characters, such as FREQ=YEARLY;BYMONTH=3;BYMONTHDAY=31."))
  let found := partsOf text
  require ((∀ part ∈ found, part.1 ∈ parts ∧ part.2 ≠ []) ∧ (found.map Prod.fst).Nodup)
    (refused rule ("use each of " ++ ", ".intercalate parts ++ " at most once, each with a value."))
  require (∃ frequency ∈ frequencies, valueOf found "FREQ" = some frequency.toList)
    (refused rule ("FREQ is one of " ++ ", ".intercalate frequencies ++ "; a duty falls due on a day."))
  require (∀ name ∈ ["INTERVAL", "COUNT"], ∀ value ∈ valueOf found name, isPositive value = true)
    (refused rule "INTERVAL and COUNT are whole numbers from 1 to 9999.")
  require (¬((valueOf found "COUNT").isSome = true ∧ (valueOf found "UNTIL").isSome = true))
    (refused rule "give COUNT or UNTIL, not both.")
  .ok (String.ofList text)

/-- A rule as `rrulestr` parsed it, with its anchor and what ends it. -/
structure Rrule (Rule : Type) where
  rule : Rule
  dtstart : Day
  lastDay : Option Day := none
  count : Option Nat := none

/-- `python-dateutil`: parsing a text at an anchor, and the days a parsed rule walks. -/
structure Dateutil (Rule : Type) where
  rrulestr : String → Day → Option (Rrule Rule)
  walk : Rrule Rule → List Day

/-- The search of `_shift`, from the most years down. -/
def searchShift (first last : Nat) : Nat → Nat
  | 0 => 0
  | shift + 1 => if sameCalendar first last (shift + 1) then shift + 1 else searchShift first last shift

/-- `_shift`: the most years a span moves toward 9999 with its calendar unchanged. -/
def shiftOf (first last : Nat) : Nat :=
  let first := max (first - 1) 1
  let last := min (last + 1) 9999
  searchShift first last (9999 - last)

def tooOften (rule : String) (cap : Nat) : Refusal where
  code := "invalid_recurrence"
  detail := quoted rule ++ " falls due more than " ++ toString cap ++
    " times in ten years: a duty recurs at most that often."

/-- The loop of `expand` over the walked days, up to the last one and the cap. -/
def collect (cap : Nat) (rule : String) (shift : Nat) (last : Day) :
    List Day → List Day → Except Refusal (List Day)
  | [], days => .ok days
  | due :: rest, days =>
    if last < due then .ok days
    else if days.length = cap then .error (tooOften rule cap)
    else
      match due.earlier shift with
      | none => .error internalError
      | some day => collect cap rule shift last rest (days ++ [day])

/-- A parsed rule, walked over a span moved toward 9999. A rule with a count takes no last day. -/
def expandShifted {Rule : Type} (dateutil : Dateutil Rule) (cap : Nat) (rule : String) (shift : Nat)
    (parsed : Rrule Rule) (last : Day) : Except Refusal (List Day) := do
  let shiftedLast ← demand (last.later shift) internalError
  let dtstart ← demand (parsed.dtstart.later shift) internalError
  let lastDay := if parsed.count.isSome then none else some shiftedLast
  collect cap rule shift shiftedLast (dateutil.walk { parsed with dtstart, lastDay }) []

def lastOf (finish : Day) : Option Day → Day
  | none => finish
  | some lastDay => min finish lastDay

def expandParsed {Rule : Type} (dateutil : Dateutil Rule) (cap : Nat) (rule : String) (shift : Nat)
    (parsed : Rrule Rule) (finish : Day) : Except Refusal (List Day) :=
  let last := lastOf finish parsed.lastDay
  if last < parsed.dtstart then .ok [] else expandShifted dateutil cap rule shift parsed last

/-- `expand`: the days a rule falls due in a span, both ends included. -/
def expand {Rule : Type} (dateutil : Dateutil Rule) (cap : Nat) (rule : String) (start finish : Day) :
    Except Refusal (List Day) := do
  let text ← normalised rule
  let parsed ← demand (dateutil.rrulestr text start)
    (refused rule "check each part's value against RFC 5545.")
  expandParsed dateutil cap rule (shiftOf start.year finish.year) parsed finish

def neverFallsDue (rule : String) : Refusal where
  code := "invalid_recurrence"
  detail := quoted rule ++ " never falls due in the next ten years."

/-- `validated`: the stored spelling of a rule that falls due in the ten years from a day, and
not too often. -/
def validated {Rule : Type} (dateutil : Dateutil Rule) (cap : Nat) (rule : String) (start : Day) :
    Except Refusal String := do
  let finish ← demand ((start.addYears horizon).bind Day.yesterday) internalError
  let days ← expand dateutil cap rule start finish
  require (days ≠ []) (neverFallsDue rule)
  normalised rule

end Grc.Library
