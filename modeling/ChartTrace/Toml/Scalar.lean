import ChartTrace.Decimal.Numeral
import ChartTrace.Toml.Value

namespace ChartTrace.Toml

/-!
# TOML scalars

The values that are written without quotes and brackets.

* `readInteger?`: whole numbers, decimal with a sign or in another base.
* `isFloat`: numbers with a point or an exponent, infinity and what is not a number.
* `isDateTime`: dates, times of day, and both together.
* `readScalar?`: the value of a word.
-/

/-! ### Numbers -/

/-- The digits of a numeral without the underscores, each of which stands between two digits. -/
def ungroup? (isDigit : Char → Bool) : List Char → Option (List Char)
  | [] => none
  | [c] => if isDigit c then some [c] else none
  | c :: d :: cs =>
    if isDigit c then
      if d = '_' then (ungroup? isDigit cs).map (c :: ·) else (ungroup? isDigit (d :: cs)).map (c :: ·)
    else none

/-- Whether a character is a digit of a base. -/
def isDigitOf (base : Nat) (c : Char) : Bool := (digitValue? c).any (· < base)

/-- The number of grouped digits. -/
def readGroups? (base : Nat) (cs : List Char) : Option Nat := do
  readNumeral? base (← ungroup? (isDigitOf base) cs)

/-- The digits of a decimal numeral.  It does not start with a zero, unless it is one. -/
def wholeDigits? (cs : List Char) : Option (List Char) := do
  let digits ← ungroup? (isDigitOf 10) cs
  match digits with
  | '0' :: _ :: _ => none
  | _ => some digits

/-- Whether a text has a minus sign, and what follows the sign. -/
def splitSign : List Char → Bool × List Char
  | '+' :: cs => (false, cs)
  | '-' :: cs => (true, cs)
  | cs => (false, cs)

/-- Whether a number has at most 128 bits, with a sign or without. -/
def isWide (i : Int) : Bool := -(wideLimit / 2 : Nat) ≤ i && i < wideLimit

/-- A whole number. -/
def readInteger? (cs : List Char) : Option Int := do
  let i ← match cs with
    | '0' :: 'x' :: rest => (readGroups? 16 rest).map Int.ofNat
    | '0' :: 'o' :: rest => (readGroups? 8 rest).map Int.ofNat
    | '0' :: 'b' :: rest => (readGroups? 2 rest).map Int.ofNat
    | cs => do
      let (negative, rest) := splitSign cs
      let n ← readNumeral? 10 (← wholeDigits? rest)
      return if negative then -(n : Int) else n
  if isWide i then some i else none

/-- The digits behind a point, if there is one. -/
def fractionDigits? : List Char → Option (List Char)
  | '.' :: cs => ungroup? (isDigitOf 10) cs
  | [] => some []
  | _ => none

/-- The exponent behind its mark, if there is one. -/
def exponentValue? : List Char → Option Int
  | [] => some 0
  | _ :: cs => do
    let (negative, rest) := splitSign cs
    let n ← readGroups? 10 rest
    return if negative then -(n : Int) else n

/-- Whether a character marks an exponent. -/
def isExponentMark (c : Char) : Bool := c = 'e' || c = 'E'

/-- Whether a text is a float.  One that is too large for a double is none. -/
def isFloat (cs : List Char) : Bool :=
  let magnitude := (splitSign cs).2
  if magnitude = "inf".toList || magnitude = "nan".toList then true
  else
    let mantissa := magnitude.takeWhile fun c => !isExponentMark c
    let number? : Option DecimalNumber := do
      let whole ← wholeDigits? (mantissa.takeWhile (· ≠ '.'))
      let fraction ← fractionDigits? (mantissa.dropWhile (· ≠ '.'))
      let exponent ← exponentValue? (magnitude.dropWhile fun c => !isExponentMark c)
      let digits ← readNumeral? 10 (whole ++ fraction)
      return ⟨digits, exponent - fraction.length⟩
    (mantissa.contains '.' || magnitude.any isExponentMark) &&
      (number?.bind DecimalNumber.finiteBits?).isSome

/-! ### Dates and times -/

/-- A number of two digits between two bounds. -/
def isPair (lo hi : Nat) (a b : Char) : Bool := (readNumeral? 10 [a, b]).any fun n => lo ≤ n && n ≤ hi

/-- The days of a month. -/
def daysOf (year month : Nat) : Nat :=
  if month = 2 then
    if year % 4 = 0 && (year % 100 ≠ 0 || year % 400 = 0) then 29 else 28
  else if month = 4 || month = 6 || month = 9 || month = 11 then 30
  else 31

/-- What follows a date. -/
def skipDate? : List Char → Option (List Char)
  | y₁ :: y₂ :: y₃ :: y₄ :: '-' :: m₁ :: m₂ :: '-' :: d₁ :: d₂ :: rest => do
    let year ← readNumeral? 10 [y₁, y₂, y₃, y₄]
    let month ← readNumeral? 10 [m₁, m₂]
    if isPair 1 12 m₁ m₂ && isPair 1 (daysOf year month) d₁ d₂ then some rest else none
  | _ => none

/-- What follows the seconds of a time of day and their fraction, if there are any. -/
def skipSeconds? : List Char → Option (List Char)
  | ':' :: s₁ :: s₂ :: rest =>
    if isPair 0 60 s₁ s₂ then
      match rest with
      | '.' :: more =>
        if (more.takeWhile (isDigitOf 10)).isEmpty then none else some (more.dropWhile (isDigitOf 10))
      | rest => some rest
    else none
  | ':' :: _ => none
  | rest => some rest

/-- What follows a time of day. -/
def skipTime? : List Char → Option (List Char)
  | h₁ :: h₂ :: ':' :: m₁ :: m₂ :: rest =>
    if isPair 0 23 h₁ h₂ && isPair 0 59 m₁ m₂ then skipSeconds? rest else none
  | _ => none

/-- Whether a text is the offset of a time zone, or nothing. -/
def isOffset : List Char → Bool
  | [] | ['Z'] | ['z'] => true
  | [s, h₁, h₂, ':', m₁, m₂] => (s = '+' || s = '-') && isPair 0 23 h₁ h₂ && isPair 0 59 m₁ m₂
  | _ => false

/-- Whether a text is a date, a time of day, or both, with an offset or without. -/
def isDateTime (cs : List Char) : Bool :=
  match skipDate? cs with
  | some [] => true
  | some (c :: rest) => (c = 'T' || c = 't' || c = ' ') && (skipTime? rest).any isOffset
  | none => skipTime? cs == some []

/-! ### Words -/

/-- The value of a word. -/
def readScalar? (cs : List Char) : Option Value :=
  if cs = "true".toList then some (.boolean true)
  else if cs = "false".toList then some (.boolean false)
  else
    match readInteger? cs with
    | some i => some (.integer i)
    | none => if isFloat cs then some .float else if isDateTime cs then some .dateTime else none

/-- Whether a character may stand in a word. -/
def isWordChar (c : Char) : Bool := c.isAlphanum || ['+', '-', '_', '.', ':'].contains c

/-- A word and what follows it.  A date goes on behind a space when digits follow there. -/
def splitWord (cs : List Char) : List Char × List Char :=
  let word := cs.takeWhile isWordChar
  let rest := cs.dropWhile isWordChar
  match rest with
  | ' ' :: d :: more =>
    if skipDate? word = some [] && isDigitOf 10 d then
      (word ++ ' ' :: (d :: more).takeWhile isWordChar, (d :: more).dropWhile isWordChar)
    else (word, rest)
  | rest => (word, rest)

end ChartTrace.Toml
