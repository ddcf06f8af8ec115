import ChartTrace.Wire.Varint

namespace ChartTrace.Wire

/-!
# Message layouts

A message is a sequence of fields in any order.  The last value of a scalar counts, repeated fields
collect theirs, a repeated occurrence of a nested message merges into the first, and fields that the
layout does not name are skipped.

* `Layout`: the fields of a message type, each with the reader and the writer of its value.
* `Layout.decode`, `Layout.encode`: a message from its bytes and to them.
* `Field.int64`, `Field.string`, `Field.message`, …: the kinds of fields, over a part of the message
  given by how to get and how to set it.
* `DecodeError`: a fault and the fields it happened in, the innermost first.
-/

/-- A fault, and the message types and fields around it, innermost first. -/
structure DecodeError where
  path : List (String × String)
  fault : Fault
deriving DecidableEq, Repr

/-- The wording of a decoding error. -/
def DecodeError.message (e : DecodeError) : String :=
  "failed to decode Protobuf message: "
    ++ String.join (e.path.map fun p => p.1 ++ "." ++ p.2 ++ ": ") ++ e.fault.message

/-- A fault outside any field. -/
def DecodeError.ofFault (f : Fault) : DecodeError := ⟨[], f⟩

/-- The error seen from a field around it. -/
def DecodeError.within (e : DecodeError) (message field : String) : DecodeError :=
  { e with path := e.path ++ [(message, field)] }

/-- A faulty reader as one that names no field. -/
def liftFault (r : Except Fault α) : Except DecodeError α := r.mapError DecodeError.ofFault

/-- How many messages or groups may be nested in each other. -/
def depthLimit : Nat := 100

/-! ### Skipping unknown fields -/

/-- Skips the fields of a group up to its end, each by `skip`. -/
def skipGroup (skip : Key → Bytes → Except Fault Bytes) (number : Nat) :
    Nat → Bytes → Except Fault Bytes
  | 0, _ => .error .invalidVarint
  | fuel + 1, bs => do
    let (key, rest) ← readKey bs
    if key.wireType = .endGroup then
      if key.number = number then return rest else throw .unexpectedEndGroup
    else skipGroup skip number fuel (← skip key rest)

/-- Skips the value of a field.  `depth` bounds the nesting of groups. -/
def skipField : Nat → Key → Bytes → Except Fault Bytes
  | 0, _, _ => .error .recursionLimit
  | depth + 1, key, bs =>
    match key.wireType with
    | .varint => (·.2) <$> readVarint bs
    | .sixtyFourBit => (·.2) <$> takeBytes 8 bs
    | .thirtyTwoBit => (·.2) <$> takeBytes 4 bs
    | .delimited => (·.2) <$> readDelimited bs
    | .startGroup => skipGroup (skipField depth) key.number bs.length bs
    | .endGroup => .error .unexpectedEndGroup

/-! ### Layouts -/

/-- A field of messages of type `α`. -/
structure Field (α : Type) where
  number : Nat
  name : String
  /-- Reads one occurrence of the field into a message.  The first argument bounds the nesting. -/
  merge : Nat → WireType → α → Bytes → Except DecodeError (α × Bytes)
  /-- All occurrences of the field, keys included. -/
  encode : α → Bytes

/-- The fields of a message type, in the order in which they are written. -/
structure Layout (α : Type) where
  name : String
  /-- The message without fields. -/
  empty : α
  fields : List (Field α)

namespace Layout

/-- Reads one field into a message, or skips it. -/
def mergeField (l : Layout α) (depth : Nat) (key : Key) (a : α) (bs : Bytes) :
    Except DecodeError (α × Bytes) :=
  match l.fields.find? fun f => f.number == key.number with
  | some f => (f.merge depth key.wireType a bs).mapError fun e => e.within l.name f.name
  | none => (fun rest => (a, rest)) <$> liftFault (skipField depth key bs)

/-- Reads fields into a message until at most `limit` bytes are left. -/
def mergeFields (l : Layout α) (depth limit : Nat) : Nat → α → Bytes → Except DecodeError (α × Bytes)
  | 0, a, bs => .ok (a, bs)
  | fuel + 1, a, bs =>
    if bs.length ≤ limit then .ok (a, bs)
    else do
      let (key, rest) ← liftFault (readKey bs)
      let (a, rest) ← l.mergeField depth key a rest
      l.mergeFields depth limit fuel a rest

/-- The message of given bytes. -/
def decode (l : Layout α) (bs : Bytes) : Except DecodeError α :=
  (·.1) <$> l.mergeFields depthLimit 0 bs.length l.empty bs

/-- The bytes of a message: its fields in the order of the layout, those with default values left out. -/
def encode (l : Layout α) (a : α) : Bytes := l.fields.flatMap fun f => f.encode a

/-- Reads a nested message behind its length into `a`.  The length is held against all bytes that are
left, and only afterwards against what was read. -/
def mergeNested (l : Layout α) (depth : Nat) (a : α) (bs : Bytes) : Except DecodeError (α × Bytes) :=
  match depth with
  | 0 => .error (.ofFault .recursionLimit)
  | depth + 1 => do
    let (n, rest) ← liftFault (readVarint bs)
    if rest.length < n then throw (.ofFault .underflow)
    let limit := rest.length - n
    let (a, rest) ← l.mergeFields depth limit rest.length a rest
    if rest.length ≠ limit then throw (.ofFault .lengthExceeded)
    return (a, rest)

end Layout

/-! ### Kinds of fields -/

namespace Field

/-- Refuses a field whose wire type is not that of its kind. -/
def expect (expected actual : WireType) : Except DecodeError Unit :=
  if actual = expected then .ok () else .error (.ofFault (.unexpectedWireType actual expected))

/-- A field whose value is a number, given by what it is as a word and back.  Zero is not written. -/
def varint (number : Nat) (name : String) (get : α → β) (set : α → β → α) (ofWord : Nat → β)
    (toWord : β → Nat) : Field α where
  number := number
  name := name
  merge := fun _ wireType a bs => do
    expect .varint wireType
    let (n, rest) ← liftFault (readVarint bs)
    return (set a (ofWord n), rest)
  encode := fun a =>
    let n := toWord (get a)
    if n = 0 then [] else writeKey number .varint ++ writeVarint n

/-- A signed 64-bit number; negative ones take ten bytes. -/
def int64 (number : Nat) (name : String) (get : α → Int64) (set : α → Int64 → α) : Field α :=
  varint number name get set (fun n => (UInt64.ofNat n).toInt64) fun i => i.toUInt64.toNat

/-- A signed 32-bit number; negative ones are extended to 64 bits. -/
def enum (number : Nat) (name : String) (get : α → Int32) (set : α → Int32 → α) : Field α :=
  varint number name get set (fun n => (UInt32.ofNat n).toInt32) fun i => i.toInt64.toUInt64.toNat

/-- An unsigned 64-bit number. -/
def uint64 (number : Nat) (name : String) (get : α → UInt64) (set : α → UInt64 → α) : Field α :=
  varint number name get set UInt64.ofNat UInt64.toNat

/-- A truth value; any number but zero is true. -/
def bool (number : Nat) (name : String) (get : α → Bool) (set : α → Bool → α) : Field α :=
  varint number name get set (fun n => n != 0) Bool.toNat

/-- Reads the bytes of a string. -/
def readString (wireType : WireType) (bs : Bytes) : Except DecodeError (String × Bytes) := do
  expect .delimited wireType
  let (value, rest) ← liftFault (readDelimited bs)
  match readUtf8? value with
  | some s => return (s, rest)
  | none => throw (.ofFault .notUtf8)

/-- A string; the empty one is not written. -/
def string (number : Nat) (name : String) (get : α → String) (set : α → String → α) : Field α where
  number := number
  name := name
  merge := fun _ wireType a bs => do
    let (s, rest) ← readString wireType bs
    return (set a s, rest)
  encode := fun a =>
    let bs := utf8 (get a)
    if bs.isEmpty then [] else writeKey number .delimited ++ writeDelimited bs

/-- A run of bytes; the empty one is not written. -/
def bytes (number : Nat) (name : String) (get : α → Bytes) (set : α → Bytes → α) : Field α where
  number := number
  name := name
  merge := fun _ wireType a bs => do
    expect .delimited wireType
    let (value, rest) ← liftFault (readDelimited bs)
    return (set a value, rest)
  encode := fun a =>
    if (get a).isEmpty then [] else writeKey number .delimited ++ writeDelimited (get a)

/-- A sequence of strings, one occurrence for each. -/
def strings (number : Nat) (name : String) (get : α → List String) (set : α → List String → α) :
    Field α where
  number := number
  name := name
  merge := fun _ wireType a bs => do
    let (s, rest) ← readString wireType bs
    return (set a (get a ++ [s]), rest)
  encode := fun a => (get a).flatMap fun s => writeKey number .delimited ++ writeDelimited (utf8 s)

/-- A nested message that may be missing.  A second occurrence is read into the first. -/
def message (number : Nat) (name : String) (l : Layout β) (get : α → Option β)
    (set : α → Option β → α) : Field α where
  number := number
  name := name
  merge := fun depth wireType a bs => do
    expect .delimited wireType
    let (b, rest) ← l.mergeNested depth ((get a).getD l.empty) bs
    return (set a (some b), rest)
  encode := fun a =>
    match get a with
    | none => []
    | some b => writeKey number .delimited ++ writeDelimited (l.encode b)

/-- A sequence of nested messages, one occurrence for each. -/
def messages (number : Nat) (name : String) (l : Layout β) (get : α → List β) (set : α → List β → α) :
    Field α where
  number := number
  name := name
  merge := fun depth wireType a bs => do
    expect .delimited wireType
    let (b, rest) ← l.mergeNested depth l.empty bs
    return (set a (get a ++ [b]), rest)
  encode := fun a =>
    (get a).flatMap fun b => writeKey number .delimited ++ writeDelimited (l.encode b)

end Field

end ChartTrace.Wire
