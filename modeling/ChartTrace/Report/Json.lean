import ChartTrace.Text.Numeral

namespace ChartTrace

/-!
# JSON reports

The values that reports are made of, and how they are printed: two blanks per level, one item a line, fields
in the order in which they are given.

* `JsonValue`: a value.
* `escapeChar`, `quoteJson`: strings.  Only quotes, backslashes and control characters are escaped.
* `JsonValue.render`: the printed form.
-/

/-- A value of a report. -/
inductive JsonValue where
  | null
  | bool (b : Bool)
  | nat (n : Nat)
  | string (s : String)
  | array (items : List JsonValue)
  | object (fields : List (String × JsonValue))
deriving Repr

namespace JsonValue

/-- The value, or `null` without one. -/
def ofOption (write : α → JsonValue) : Option α → JsonValue
  | none => null
  | some a => write a

/-- A list of strings. -/
def strings (ss : List String) : JsonValue := array (ss.map string)

/-! ### Printing -/

/-- A hexadecimal digit in lower case. -/
def hexDigit (n : Nat) : Char := if n < 10 then Char.ofNat (48 + n) else Char.ofNat (87 + n)

/-- A character within a string. -/
def escapeChar (c : Char) : List Char :=
  match c with
  | '\x22' => ['\\', '\x22']
  | '\\' => ['\\', '\\']
  | '\x08' => ['\\', 'b']
  | '\x0c' => ['\\', 'f']
  | '\n' => ['\\', 'n']
  | '\r' => ['\\', 'r']
  | '\t' => ['\\', 't']
  | c =>
    if c.toNat < 32 then ['\\', 'u', '0', '0', hexDigit (c.toNat / 16), hexDigit (c.toNat % 16)]
    else [c]

/-- A string in quotes. -/
def quoteJson (s : String) : List Char := '\x22' :: (s.toList.flatMap escapeChar ++ ['\x22'])

/-- A new line at a level. -/
def newLine (level : Nat) : List Char := '\n' :: List.replicate (2 * level) ' '

mutual

/-- The printed form of a value that starts at a level. -/
def renderAt (level : Nat) : JsonValue → List Char
  | null => "null".toList
  | bool true => "true".toList
  | bool false => "false".toList
  | nat n => decimal n
  | string s => quoteJson s
  | array [] => "[]".toList
  | array (v :: vs) =>
    '[' :: (newLine (level + 1) ++ renderAt (level + 1) v ++ renderItems (level + 1) vs ++ newLine level
      ++ [']'])
  | object [] => ['\x7b', '\x7d']
  | object ((k, v) :: fs) =>
    '\x7b' :: (newLine (level + 1) ++ quoteJson k ++ ": ".toList ++ renderAt (level + 1) v
      ++ renderFields (level + 1) fs ++ newLine level ++ ['\x7d'])

/-- The items of an array after the first. -/
def renderItems (level : Nat) : List JsonValue → List Char
  | [] => []
  | v :: vs => ',' :: (newLine level ++ renderAt level v ++ renderItems level vs)

/-- The fields of an object after the first. -/
def renderFields (level : Nat) : List (String × JsonValue) → List Char
  | [] => []
  | (k, v) :: fs =>
    ',' :: (newLine level ++ quoteJson k ++ ": ".toList ++ renderAt level v ++ renderFields level fs)

end

/-- The printed form of a value. -/
def render (v : JsonValue) : List Char := renderAt 0 v

end JsonValue

end ChartTrace
