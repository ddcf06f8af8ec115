import ChartTrace.Decimal.Shortest
import ChartTrace.Text.Quoted

namespace ChartTrace.Yaml

/-!
# YAML values

* `Value`: what a document stands for.  Floats are given by their bits.
* `Value.same`: whether two values are one key.  Whole numbers differ from floats, a float that is no number
  equals itself, and the order of a mapping does not count.
* `Value.keyText`: how a key is named in messages.
-/

/-- A value. -/
inductive Value where
  | null
  | bool (b : Bool)
  | int (i : Int)
  | float (bits : Nat)
  | string (text : List Char)
  | sequence (items : List Value)
  /-- The entries in the order of the document. -/
  | mapping (entries : List (Value × Value))
  /-- A value with a tag of its own. -/
  | tagged (tag : List Char) (value : Value)
deriving Repr

/-- The bits of the float that is no number. -/
def nanBits : Nat := 0x7FF8000000000000

/-- Whether bits stand for a float that is no number. -/
def isNan (bits : Nat) : Bool := infinityBits < bits % signBit

/-- Whether two floats are equal.  Zero has two signs. -/
def sameFloat (a b : Nat) : Bool :=
  (isNan a && isNan b) || a == b || (a % signBit == 0 && b % signBit == 0)

mutual

/-- Whether two values are one key. -/
def Value.same : Value → Value → Bool
  | .null, .null => true
  | .bool a, .bool b => a == b
  | .int a, .int b => a == b
  | .float a, .float b => sameFloat a b
  | .string a, .string b => a == b
  | .sequence as, .sequence bs => sameItems as bs
  | .mapping as, .mapping bs => as.length == bs.length && sameEntries as bs
  | .tagged t a, .tagged u b => t == u && a.same b
  | _, _ => false

/-- Whether two lists hold the same values. -/
def sameItems : List Value → List Value → Bool
  | [], [] => true
  | a :: as, b :: bs => a.same b && sameItems as bs
  | _, _ => false

/-- Whether all entries of one list are in the other. -/
def sameEntries : List (Value × Value) → List (Value × Value) → Bool
  | [], _ => true
  | (k, v) :: as, bs => (bs.any fun b => k.same b.1 && v.same b.2) && sameEntries as bs

end

/-- The text of a float. -/
def floatText (bits : Nat) : List Char :=
  if isNan bits then ".nan".toList
  else if bits = infinityBits then ".inf".toList
  else if bits = signBit + infinityBits then "-.inf".toList
  else shortestText bits

/-- A key as messages name it. -/
def Value.keyText : Value → String
  | .null => "with null key"
  | .bool b => "with key \x60" ++ (if b then "true" else "false") ++ "\x60"
  | .int i => "with key " ++ signedText i
  | .float bits => "with key " ++ String.ofList (floatText bits)
  | .string text => "with key " ++ String.ofList (quoteText text)
  | .sequence _ | .mapping _ | .tagged _ _ => "in YAML map"

end ChartTrace.Yaml
