namespace ChartTrace

/-!
# Doubles

A double is given by its 64 bits.  A positive one is `m * 2 ^ q` for a whole `m`.

* `roundDouble`: the double nearest to a fraction; of two equally near ones that with the even bits.
* `significand`, `exponent`: the parts `m` and `q` of a positive double.
* `isFinite`: whether bits stand for a number.
-/

/-- The least exponent of two; doubles are multiples of its power. -/
def leastExponent : Int := -1074

/-- Fractions of doubles have 52 bits and lie below this. -/
def fractionLimit : Nat := 0x10000000000000

/-- The quotient of two numbers, rounded to the nearest whole number, halves to the even one. -/
def divideToEven (num den : Nat) : Nat :=
  let k := num / den
  let twice := 2 * (num % den)
  if twice > den || (twice == den && k % 2 == 1) then k + 1 else k

/-- The whole part of the binary logarithm of a fraction. -/
def fractionLog2 (num den : Nat) : Int :=
  let e : Int := (num.log2 : Int) - den.log2
  if num * Nat.pow 2 (-e).toNat < den * Nat.pow 2 e.toNat then e - 1 else e

/-- The bits of the double nearest to `num / den`.  What is too big becomes the bits of infinity or more. -/
def roundDouble (num den : Nat) : Nat :=
  if num = 0 then 0
  else
    let q := max leastExponent (fractionLog2 num den - 52)
    let k := divideToEven (num * Nat.pow 2 (-q).toNat) (den * Nat.pow 2 q.toNat)
    (q - leastExponent).toNat * fractionLimit + k

/-- The bits of infinity; those of larger positive numbers are greater. -/
def infinityBits : Nat := 0x7FF0000000000000

/-- The bit of a minus sign. -/
def signBit : Nat := 0x8000000000000000

/-- Whether positive bits stand for a number. -/
def isFiniteBits (bits : Nat) : Bool := bits < infinityBits

/-- The significand of positive bits. -/
def significand (bits : Nat) : Nat :=
  if bits / fractionLimit = 0 then bits else fractionLimit + bits % fractionLimit

/-- The exponent of positive bits. -/
def binaryExponent (bits : Nat) : Int :=
  if bits / fractionLimit = 0 then leastExponent else leastExponent + (bits / fractionLimit : Nat) - 1

end ChartTrace
