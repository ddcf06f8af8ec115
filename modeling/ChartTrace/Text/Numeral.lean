namespace ChartTrace

/-!
# Decimal numerals and 64-bit words

Line numbers, offsets and lengths are 64-bit words.  A sum that leaves the range is refused, never
wrapped.

* `decimal`: the ASCII numeral of a number.
* `readWord?`: the number of an ASCII numeral, when it is a word.
* `addWord?`: the sum of two words, when it is one.
-/

/-- One past the largest word. -/
def wordLimit : Nat := 18446744073709551616

/-- Numbers below this have at most 128 bits. -/
def wideLimit : Nat := 340282366920938463463374607431768211456

/-- The decimal digits of `n`, most significant first, without leading zeros. -/
def decimal (n : Nat) : List Char := Nat.toDigits 10 n

/-- The decimal digits of `n` as a string. -/
def decimalText (n : Nat) : String := String.ofList (decimal n)

/-- The decimal text of an integer, with a sign when it is negative. -/
def signedText (i : Int) : String :=
  match i with
  | .ofNat n => decimalText n
  | .negSucc n => "-" ++ decimalText (n + 1)

/-- Whether `c` is one of the ten ASCII digits. -/
def isAsciiDigit (c : Char) : Bool := '0' ≤ c && c ≤ '9'

/-- The number written by a non-empty run of ASCII digits, when it is below `wordLimit`.  Leading zeros
are allowed. -/
def readWord? (cs : List Char) : Option Nat :=
  if cs.isEmpty || !cs.all isAsciiDigit then none
  else
    let n := Nat.ofDigitChars 10 cs 0
    if n < wordLimit then some n else none

/-- The sum of two words, when it is a word. -/
def addWord? (a b : Nat) : Option Nat :=
  if a + b < wordLimit then some (a + b) else none

end ChartTrace
