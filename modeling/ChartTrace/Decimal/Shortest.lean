import ChartTrace.Decimal.Double
import ChartTrace.Text.Numeral

namespace ChartTrace

/-!
# Shortest decimals

The decimal with the fewest digits that rounds to a given double, and of several the nearest to it.

* `shortestDecimal`: its digits and its exponent of ten.
* `shortestText`: how it is written: positional from 10⁻⁵ to below 10¹⁶, with an exponent beyond.
-/

/-- A decimal number `digits * 10 ^ exponent`. -/
structure DecimalNumber where
  digits : Nat
  exponent : Int
deriving DecidableEq, Repr

/-- The bits of the double nearest to a decimal number. -/
def DecimalNumber.round (d : DecimalNumber) : Nat :=
  roundDouble (d.digits * Nat.pow 10 d.exponent.toNat) (Nat.pow 10 (-d.exponent).toNat)

/-- How often a fraction below 1 is multiplied by ten until it is 1 or more. -/
def leadingZeros : Nat → Nat → Nat → Nat
  | 0, _, _ => 0
  | fuel + 1, num, den => if den ≤ num then 0 else 1 + leadingZeros fuel (10 * num) den

/-- The exponent of ten of the first digit of a fraction. -/
def fractionLog10 (num den : Nat) : Int :=
  if den ≤ num then ((decimal (num / den)).length : Int) - 1 else -(leadingZeros 400 num den : Int)

/-- The decimal of `n` digits that is nearest to a fraction and rounds to some bits, if one of its two
neighbours does. -/
def nearestDecimal? (bits num den n : Nat) : Option DecimalNumber :=
  let k := fractionLog10 num den - ((n : Int) - 1)
  let scaledNum := num * Nat.pow 10 (-k).toNat
  let scaledDen := den * Nat.pow 10 k.toNat
  let low := scaledNum / scaledDen
  let twice := 2 * (scaledNum % scaledDen)
  let near := if twice > scaledDen || (twice == scaledDen && low % 2 == 1) then low + 1 else low
  let far := if near = low then low + 1 else low
  if (DecimalNumber.mk near k).round = bits then some ⟨near, k⟩
  else if (DecimalNumber.mk far k).round = bits then some ⟨far, k⟩
  else none

/-- The decimal without zeros at its end. -/
def DecimalNumber.trim : Nat → DecimalNumber → DecimalNumber
  | 0, d => d
  | fuel + 1, d =>
    if d.digits % 10 = 0 ∧ d.digits ≠ 0 then trim fuel ⟨d.digits / 10, d.exponent + 1⟩ else d

/-- The shortest decimal that rounds to the double of positive bits.  Seventeen digits always do. -/
def shortestDecimal (bits : Nat) : DecimalNumber :=
  let m := significand bits
  let q := binaryExponent bits
  let num := m * Nat.pow 2 q.toNat
  let den := Nat.pow 2 (-q).toNat
  (((List.range 17).findSome? fun n => nearestDecimal? bits num den (n + 1)).getD ⟨0, 0⟩).trim 20

/-- The text of a positive decimal number. -/
def DecimalNumber.text (d : DecimalNumber) : List Char :=
  let digits := decimal d.digits
  let size : Int := digits.length
  let point := size + d.exponent
  if 0 ≤ d.exponent ∧ point ≤ 16 then digits ++ List.replicate d.exponent.toNat '0' ++ ".0".toList
  else if 0 < point ∧ point ≤ 16 then digits.take point.toNat ++ '.' :: digits.drop point.toNat
  else if -5 < point ∧ point ≤ 0 then "0.".toList ++ List.replicate (-point).toNat '0' ++ digits
  else
    let mantissa := if digits.length = 1 then digits else digits.take 1 ++ '.' :: digits.drop 1
    mantissa ++ 'e' :: (signedText (point - 1)).toList

/-- The text of the finite double of some bits. -/
def shortestText (bits : Nat) : List Char :=
  let sign := if signBit ≤ bits then ['-'] else []
  let bits := bits % signBit
  sign ++ if bits = 0 then "0.0".toList else (shortestDecimal bits).text

end ChartTrace
