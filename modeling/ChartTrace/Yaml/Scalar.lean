import ChartTrace.Decimal.Numeral
import ChartTrace.Yaml.Token
import ChartTrace.Yaml.Value

namespace ChartTrace.Yaml

/-!
# The values of scalars

A plain scalar without a tag is read as null, a truth value, a whole number or a float where it has that form,
and as text otherwise.  The standard tags for these types apply to scalars of every style.

* `readUnsigned?`, `readNegative?`: whole numbers, decimal or with a base.
* `readFloat?`: floats.
* `plainValue`: the value of a plain scalar.
* `taggedScalar`: the value of a scalar with a standard tag.
-/

/-- The types that the standard tags name. -/
inductive Expected where
  | boolean
  | integer
  | float
  | null
deriving DecidableEq, Repr

/-- The wording of a type. -/
def Expected.message : Expected → String
  | .boolean => "a boolean"
  | .integer => "an integer"
  | .float => "a float"
  | .null => "null"

/-- Why a value cannot be built. -/
inductive ValueProblem where
  /-- A whole number of more than 64 bits. -/
  | bigInteger (i : Int)
  /-- A text that is not of the type of its tag. -/
  | wrongType (text : List Char) (expected : Expected)
  | duplicateKey (key : Value)

/-- The wording of a problem with a value. -/
def ValueProblem.message : ValueProblem → String
  | .bigInteger i =>
    "invalid type: integer \x60" ++ signedText i ++ "\x60 as " ++ (if i < 0 then "i128" else "u128")
      ++ ", expected any YAML value"
  | .wrongType text expected =>
    "invalid value: string " ++ String.ofList (quoteText text) ++ ", expected " ++ expected.message
  | .duplicateKey key => "duplicate entry " ++ key.keyText

/-! ### Words -/

/-- Whether a text is a word for null. -/
def isNullWord (cs : List Char) : Bool :=
  ["null".toList, "Null".toList, "NULL".toList, "~".toList].contains cs

/-- The truth value of a word. -/
def readBool? (cs : List Char) : Option Bool :=
  if ["true".toList, "True".toList, "TRUE".toList].contains cs then some true
  else if ["false".toList, "False".toList, "FALSE".toList].contains cs then some false
  else none

/-! ### Whole numbers -/

/-- The text without a sign. -/
def dropSign : List Char → List Char
  | '+' :: cs => cs
  | '-' :: cs => cs
  | cs => cs

/-- Whether a text is a zero and further digits, perhaps behind a sign.  Such a text is no number. -/
def isZeroPadded (cs : List Char) : Bool :=
  match dropSign cs with
  | '0' :: c :: cs => (c :: cs).all isAsciiDigit
  | _ => false

/-- The number of a numeral without a sign, decimal or with a base. -/
def readMagnitude? (cs : List Char) : Option Nat :=
  match cs with
  | '0' :: 'x' :: rest => readNumeral? 16 rest
  | '0' :: 'o' :: rest => readNumeral? 8 rest
  | '0' :: 'b' :: rest => readNumeral? 2 rest
  | cs => if isZeroPadded cs then none else readNumeral? 10 cs

/-- The number of a numeral, perhaps behind a plus sign. -/
def readUnsigned? : List Char → Option Nat
  | '+' :: cs => readMagnitude? cs
  | cs => readMagnitude? cs

/-- The absolute value of a numeral behind a minus sign. -/
def readNegative? : List Char → Option Nat
  | '-' :: cs => readMagnitude? cs
  | _ => none

/-- The whole number of a text, if it is one.  Numbers of 65 to 128 bits are refused, longer ones are none. -/
def readInteger? (cs : List Char) : Option (Except ValueProblem Value) :=
  match readUnsigned? cs, readNegative? cs with
  | some n, _ =>
    if n < wordLimit then some (.ok (.int n))
    else if n < wideLimit then some (.error (.bigInteger n))
    else none
  | none, some n =>
    if n ≤ wordLimit / 2 then some (.ok (.int (-(n : Int))))
    else if n ≤ wideLimit / 2 then some (.error (.bigInteger (-(n : Int))))
    else none
  | none, none => none

/-! ### Floats -/

/-- The bits of the float that a text writes. -/
def readFloat? (cs : List Char) : Option Nat :=
  if [".nan".toList, ".NaN".toList, ".NAN".toList].contains cs then some nanBits
  else
    let (negative, magnitude) :=
      match cs with
      | '+' :: rest => (false, rest)
      | '-' :: rest => (true, rest)
      | cs => (false, cs)
    let bits? :=
      if [".inf".toList, ".Inf".toList, ".INF".toList].contains magnitude then some infinityBits
      else (readDecimal? magnitude).bind DecimalNumber.finiteBits?
    bits?.map fun bits => if negative then signBit + bits else bits

/-! ### Scalars -/

/-- The value of a plain scalar without a tag. -/
def plainValue (cs : List Char) : Except ValueProblem Value :=
  if cs.isEmpty || isNullWord cs then .ok .null
  else
    match readBool? cs, readInteger? cs with
    | some b, _ => .ok (.bool b)
    | none, some r => r
    | none, none =>
      if isZeroPadded cs then .ok (.string cs)
      else
        match readFloat? cs with
        | some bits => .ok (.float bits)
        | none => .ok (.string cs)

/-- The value of an untagged scalar. -/
def scalarValue (cs : List Char) (style : ScalarStyle) : Except ValueProblem Value :=
  if style = .plain then plainValue cs else .ok (.string cs)

/-- The standard tag of a name. -/
def standardTag (name : String) : Bytes := utf8 ("tag:yaml.org,2002:" ++ name)

/-- The value of a scalar with a tag that is not local. -/
def taggedScalar (tag : Bytes) (cs : List Char) : Except ValueProblem Value :=
  let wanted (expected : Expected) (v : Option Value) : Except ValueProblem Value :=
    match v with
    | some v => .ok v
    | none => .error (.wrongType cs expected)
  if tag = standardTag "bool" then wanted .boolean ((readBool? cs).map .bool)
  else if tag = standardTag "int" then (readInteger? cs).getD (.error (.wrongType cs .integer))
  else if tag = standardTag "float" then wanted .float ((readFloat? cs).map .float)
  else if tag = standardTag "null" then wanted .null (if isNullWord cs then some .null else none)
  else .ok (.string cs)

end ChartTrace.Yaml
