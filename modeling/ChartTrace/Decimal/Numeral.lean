import ChartTrace.Decimal.Shortest
import ChartTrace.Text.Numeral

namespace ChartTrace

/-!
# Written numbers

* `readNumeral?`: the number of one or more digits of a base.
* `readDecimal?`: the number of digits with a point and an exponent.
* `DecimalNumber.finiteBits?`: the double nearest to it.
-/

/-- The value of a digit in bases up to sixteen. -/
def digitValue? (c : Char) : Option Nat :=
  if '0' ≤ c ∧ c ≤ '9' then some (c.toNat - 48)
  else if 'a' ≤ c ∧ c ≤ 'f' then some (c.toNat - 87)
  else if 'A' ≤ c ∧ c ≤ 'F' then some (c.toNat - 55)
  else none

/-- The number of some digits behind a number. -/
def readDigits? (base : Nat) : Nat → List Char → Option Nat
  | n, [] => some n
  | n, c :: cs => do
    let d ← digitValue? c
    if d < base then readDigits? base (base * n + d) cs else none

/-- The number of one or more digits. -/
def readNumeral? (base : Nat) (cs : List Char) : Option Nat :=
  if cs.isEmpty then none else readDigits? base 0 cs

/-- The exponent behind a mantissa: nothing, or a mark, perhaps a sign, and digits. -/
def readExponent? : List Char → Option Int
  | [] => some 0
  | c :: cs =>
    if c = 'e' ∨ c = 'E' then
      match cs with
      | '-' :: ds => (readNumeral? 10 ds).map fun n => -(n : Int)
      | '+' :: ds => (readNumeral? 10 ds).map Int.ofNat
      | ds => (readNumeral? 10 ds).map Int.ofNat
    else none

/-- The digits behind a point, and what follows them. -/
def takeFraction : List Char → List Char × List Char
  | '.' :: cs => (cs.takeWhile isAsciiDigit, cs.dropWhile isAsciiDigit)
  | cs => ([], cs)

/-- The decimal number that a text writes without a sign. -/
def readDecimal? (cs : List Char) : Option DecimalNumber := do
  let whole := cs.takeWhile isAsciiDigit
  let (fraction, rest) := takeFraction (cs.dropWhile isAsciiDigit)
  let digits ← readNumeral? 10 (whole ++ fraction)
  let exponent ← readExponent? rest
  return ⟨digits, exponent - fraction.length⟩

/-- The bits nearest to a decimal number, if they are finite.  Exponents far beyond the range of doubles are
decided by the number of digits. -/
def DecimalNumber.finiteBits? (d : DecimalNumber) : Option Nat :=
  let size : Int := (decimal d.digits).length
  if d.digits = 0 ∨ size + d.exponent < -400 then some 0
  else if 400 < size + d.exponent then none
  else
    let bits := d.round
    if isFiniteBits bits then some bits else none

end ChartTrace
