import ChartTrace.Text.Numeral
import ChartTrace.Text.Utf8

namespace ChartTrace.Wire

/-!
# Numbers and keys on the wire

A number travels in groups of seven bits, the lowest first; each byte but the last has its top bit set.
A field starts with a key: its number and its wire type.

* `writeVarint`, `readVarint`: a word in one to ten bytes.
* `writeKey`, `readKey`: the key of a field.
* `takeBytes`: a given number of bytes.
-/

/-- How the value of a field is laid out. -/
inductive WireType where
  | varint
  | sixtyFourBit
  | delimited
  | startGroup
  | endGroup
  | thirtyTwoBit
deriving DecidableEq, Repr

/-- The number of a wire type in a key. -/
def WireType.code : WireType → Nat
  | .varint => 0
  | .sixtyFourBit => 1
  | .delimited => 2
  | .startGroup => 3
  | .endGroup => 4
  | .thirtyTwoBit => 5

/-- The wire type of a number in a key. -/
def WireType.ofCode? : Nat → Option WireType
  | 0 => some .varint
  | 1 => some .sixtyFourBit
  | 2 => some .delimited
  | 3 => some .startGroup
  | 4 => some .endGroup
  | 5 => some .thirtyTwoBit
  | _ => none

/-- The name of a wire type in messages. -/
def WireType.name : WireType → String
  | .varint => "Varint"
  | .sixtyFourBit => "SixtyFourBit"
  | .delimited => "LengthDelimited"
  | .startGroup => "StartGroup"
  | .endGroup => "EndGroup"
  | .thirtyTwoBit => "ThirtyTwoBit"

/-- Why bytes are no message. -/
inductive Fault where
  /-- A number is cut off, or has more than 64 bits. -/
  | invalidVarint
  /-- A key has more than 32 bits. -/
  | invalidKey (key : Nat)
  /-- A key has a wire type that does not exist. -/
  | invalidWireType (code : Nat)
  /-- A key has field number 0. -/
  | invalidNumber
  /-- A field has another wire type than its kind. -/
  | unexpectedWireType (actual expected : WireType)
  /-- A length exceeds what is left of the whole input. -/
  | underflow
  /-- A nested message was read past its own end. -/
  | lengthExceeded
  /-- A string is not UTF-8. -/
  | notUtf8
  /-- A group ends that did not start, or not with this number. -/
  | unexpectedEndGroup
  /-- Messages or groups are nested too deeply. -/
  | recursionLimit
deriving DecidableEq, Repr

/-- The wording of a fault. -/
def Fault.message : Fault → String
  | .invalidVarint => "invalid varint"
  | .invalidKey key => "invalid key value: " ++ decimalText key
  | .invalidWireType code => "invalid wire type value: " ++ decimalText code
  | .invalidNumber => "invalid tag value: 0"
  | .unexpectedWireType actual expected =>
    "invalid wire type: " ++ actual.name ++ " (expected " ++ expected.name ++ ")"
  | .underflow => "buffer underflow"
  | .lengthExceeded => "delimited length exceeded"
  | .notUtf8 => "invalid string value: data is not UTF-8 encoded"
  | .unexpectedEndGroup => "unexpected end group tag"
  | .recursionLimit => "recursion limit reached"

/-! ### Numbers -/

/-- A number in groups of seven bits. -/
def writeVarint (n : Nat) : Bytes :=
  if n < 128 then [UInt8.ofNat n]
  else UInt8.ofNat (n % 128 + 128) :: writeVarint (n / 128)

/-- Reads the groups of a number from group `k` on, `acc` being what the groups before it say. -/
def readVarintFrom : Nat → Nat → Bytes → Except Fault (Nat × Bytes)
  | _, _, [] => .error .invalidVarint
  | k, acc, b :: bs =>
    let acc := acc + b.toNat % 128 * Nat.pow 128 k
    if b.toNat < 128 then
      if k = 9 ∧ 2 ≤ b.toNat then .error .invalidVarint else .ok (acc, bs)
    else if 9 ≤ k then .error .invalidVarint
    else readVarintFrom (k + 1) acc bs

/-- Reads a word, and gives the bytes after it. -/
def readVarint (bs : Bytes) : Except Fault (Nat × Bytes) := readVarintFrom 0 0 bs

/-! ### Keys -/

/-- The key of a field. -/
structure Key where
  number : Nat
  wireType : WireType
deriving DecidableEq, Repr

/-- The bytes of a key. -/
def writeKey (number : Nat) (wireType : WireType) : Bytes := writeVarint (number * 8 + wireType.code)

/-- Reads a key. -/
def readKey (bs : Bytes) : Except Fault (Key × Bytes) := do
  let (key, rest) ← readVarint bs
  if 4294967296 ≤ key then throw (.invalidKey key)
  match WireType.ofCode? (key % 8) with
  | none => throw (.invalidWireType (key % 8))
  | some wireType =>
    if key / 8 = 0 then throw .invalidNumber
    return (⟨key / 8, wireType⟩, rest)

/-! ### Runs of bytes -/

/-- The first `n` bytes and the rest, when there are as many. -/
def takeBytes (n : Nat) (bs : Bytes) : Except Fault (Bytes × Bytes) :=
  if bs.length < n then .error .underflow else .ok (bs.take n, bs.drop n)

/-- Reads a length and as many bytes. -/
def readDelimited (bs : Bytes) : Except Fault (Bytes × Bytes) := do
  let (n, rest) ← readVarint bs
  takeBytes n rest

/-- Bytes behind their length. -/
def writeDelimited (bs : Bytes) : Bytes := writeVarint bs.length ++ bs

end ChartTrace.Wire
