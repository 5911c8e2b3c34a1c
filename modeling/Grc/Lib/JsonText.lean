import Grc.Lib.Texts

/-! JSON read off a text the way `json.loads` reads it: strings keep lone surrogates, a whole
number has a limit on its digits, a later member of one name wins, and each array or object
opened inside another takes one level of the interpreter's own stack. -/
namespace Grc.Lib.JsonText

/-- `ValueError`, or `RecursionError` where the text nests deeper than the stack goes. -/
inductive Trouble where
  | invalid
  | tooDeep

inductive Value where
  | null
  | bool (value : Bool)
  | int (value : Int)
  | float
  | str (value : Text)
  | array (items : List Value)
  | object (members : List (Text × Value))

/-- A value read off the front of a text, and what follows it. -/
abbrev Reading := Except Trouble (Value × Text)

def isBlank (point : CodePoint) : Bool :=
  decide (point.val = 0x20 ∨ point.val = 0x9 ∨ point.val = 0xA ∨ point.val = 0xD)

def skip (source : Text) : Text := source.dropWhile isBlank

def isDigit (point : CodePoint) : Bool := decide (48 ≤ point.val ∧ point.val ≤ 57)

def hexDigit (point : CodePoint) : Option Nat :=
  if 48 ≤ point.val ∧ point.val ≤ 57 then some (point.val - 48)
  else if 65 ≤ point.val ∧ point.val ≤ 70 then some (point.val - 55)
  else if 97 ≤ point.val ∧ point.val ≤ 102 then some (point.val - 87)
  else none

/-- The letter a one-letter escape stands for. -/
def unescaped (point : CodePoint) : Option CodePoint :=
  match point.val with
  | 34 => some 34
  | 92 => some 92
  | 47 => some 47
  | 98 => some 8
  | 102 => some 12
  | 110 => some 10
  | 114 => some 13
  | 116 => some 9
  | _ => none

/-- Where a string's reader stands: between letters, after a backslash, or inside the four
digits of a `\u` escape. -/
inductive Inside where
  | plain
  | escape
  | digits (left value : Nat)

/-- A letter of a string, and whether a `\u` escape wrote it. -/
abbrev Letter := CodePoint × Bool

/-- The letters of a string after its opening quote, and what follows its closing one. -/
def scan : Inside → Text → Except Trouble (List Letter × Text)
  | _, [] => .error .invalid
  | .plain, point :: rest =>
    if point.val = 34 then .ok ([], rest)
    else if point.val = 92 then scan .escape rest
    else if point.val < 0x20 then .error .invalid
    else (scan .plain rest).map fun read => ((point, false) :: read.1, read.2)
  | .escape, point :: rest =>
    if point.val = 117 then scan (.digits 4 0) rest
    else match unescaped point with
      | none => .error .invalid
      | some letter => (scan .plain rest).map fun read => ((letter, false) :: read.1, read.2)
  | .digits left value, point :: rest =>
    match hexDigit point with
    | none => .error .invalid
    | some digit =>
      if left ≤ 1 then
        (scan .plain rest).map fun read =>
          ((Fin.ofNat 0x110000 (value * 16 + digit), true) :: read.1, read.2)
      else scan (.digits (left - 1) (value * 16 + digit)) rest

/-- An escaped high surrogate and the escaped low one right after it are one letter; any other
surrogate stays as it is. -/
def joined : List Letter → Text
  | [] => []
  | [(point, _)] => [point]
  | (high, true) :: (low, true) :: rest =>
    if 0xD800 ≤ high.val ∧ high.val < 0xDC00 ∧ 0xDC00 ≤ low.val ∧ low.val < 0xE000 then
      Fin.ofNat 0x110000 (0x10000 + (high.val - 0xD800) * 0x400 + (low.val - 0xDC00)) :: joined rest
    else high :: joined ((low, true) :: rest)
  | (point, _) :: next :: rest => point :: joined (next :: rest)

def string (source : Text) : Except Trouble (Text × Text) :=
  (scan .plain source).map fun read => (joined read.1, read.2)

/-- The digits `int` reads at most. -/
def maxDigits : Nat := 4300

def number (digits : Text) : Nat := digits.foldl (fun value digit => value * 10 + (digit.val - 48)) 0

def fraction : Text → Option Text
  | point :: digit :: rest =>
    if point.val = 46 ∧ isDigit digit = true then some (rest.dropWhile isDigit) else none
  | _ => none

/-- An exponent, where its letter and a digit begin one. -/
def exponent : Text → Option Text
  | letter :: sign :: digit :: rest =>
    if letter.val = 101 ∨ letter.val = 69 then
      if isDigit sign then some ((digit :: rest).dropWhile isDigit)
      else if (sign.val = 43 ∨ sign.val = 45) ∧ isDigit digit = true then some (rest.dropWhile isDigit)
      else none
    else none
  | [letter, digit] =>
    if (letter.val = 101 ∨ letter.val = 69) ∧ isDigit digit = true then some [] else none
  | _ => none

/-- A number after its sign. -/
def unsigned (negative : Bool) (source : Text) : Reading :=
  let whole := match source with
    | 48 :: _ => [48]
    | _ => source.takeWhile isDigit
  let rest := source.drop whole.length
  if whole = [] then .error .invalid
  else match fraction rest, exponent ((fraction rest).getD rest) with
    | none, none =>
      if maxDigits < whole.length then .error .invalid
      else .ok (.int (if negative then - (number whole : Int) else number whole), rest)
    | _, some after => .ok (.float, after)
    | some after, none => .ok (.float, after)

def named : List (Text × Value) :=
  [(letters "null", .null), (letters "true", .bool true), (letters "false", .bool false),
    (letters "NaN", .float), (letters "Infinity", .float), (letters "-Infinity", .float)]

def scalar (source : Text) : Reading :=
  match named.findSome? fun entry => (entry.1.isPrefixOf? source).map fun rest => (entry.2, rest) with
  | some read => .ok read
  | none =>
    match source with
    | 45 :: rest => unsigned true rest
    | _ => unsigned false source

/-- The items of an array after its bracket. Each takes a letter at least, so the length of the
text is turns enough. -/
def items (value : Text → Reading) : (turns : Nat) → Text → Except Trouble (List Value × Text)
  | 0, _ => .error .invalid
  | turns + 1, source => do
    let (first, rest) ← value (skip source)
    match skip rest with
    | 44 :: rest => do
      let (others, rest) ← items value turns rest
      return (first :: others, rest)
    | 93 :: rest => return ([first], rest)
    | _ => .error .invalid

def array (value : Text → Reading) (source : Text) : Reading :=
  match skip source with
  | 93 :: rest => .ok (.array [], rest)
  | _ => (items value source.length source).map fun read => (.array read.1, read.2)

def members (value : Text → Reading) : (turns : Nat) → Text → Except Trouble (List (Text × Value) × Text)
  | 0, _ => .error .invalid
  | turns + 1, source =>
    match skip source with
    | 34 :: rest => do
      let (name, rest) ← string rest
      match skip rest with
      | 58 :: rest => do
        let (first, rest) ← value (skip rest)
        match skip rest with
        | 44 :: rest => do
          let (others, rest) ← members value turns rest
          return ((name, first) :: others, rest)
        | 125 :: rest => return ([(name, first)], rest)
        | _ => .error .invalid
      | _ => .error .invalid
    | _ => .error .invalid

def object (value : Text → Reading) (source : Text) : Reading :=
  match skip source with
  | 125 :: rest => .ok (.object [], rest)
  | _ => (members value source.length source).map fun read => (.object read.1, read.2)

/-- One value, its array or object read by the two readers given. -/
def oneOf (array object : Text → Reading) : Text → Reading
  | 34 :: rest => (string rest).map fun read => (.str read.1, read.2)
  | 91 :: rest => array rest
  | 123 :: rest => object rest
  | source => scalar source

def value : (levels : Nat) → Text → Reading
  | 0 => oneOf (fun _ => .error .tooDeep) (fun _ => .error .tooDeep)
  | levels + 1 => oneOf (array (value levels)) (object (value levels))

/-- `json.loads`, with a stack of so many levels. -/
def loads (levels : Nat) (source : Text) : Except Trouble Value := do
  let (read, rest) ← value levels (skip source)
  match skip rest with
  | [] => return read
  | _ => .error .invalid

def member (name : Text) : List (Text × Value) → Option Value
  | [] => none
  | (key, value) :: rest => (member name rest).or (if key = name then some value else none)

end Grc.Lib.JsonText
