import ChartTrace.Text.Line
import ChartTrace.Text.Numeral

namespace ChartTrace

/-!
# Places in a text

The template engine gives places as byte offsets; findings are reported by line and character.

* `Location`: a byte offset and a length.  `Location.end?` is refused when it is not a word.
* `Pointer`, `Range`: lines from 1 and character offsets from 0.
* `Location.toRange`, `Location.ofRange`: from one to the other, or a `LocationError`.
-/

/-- A point of a text. -/
structure Pointer where
  /-- Line, from 1. -/
  line : Nat
  /-- Characters before it on its line. -/
  column : Nat
deriving DecidableEq, Repr

/-- The part of a text between two points. -/
structure Range where
  start : Pointer
  stop : Pointer
deriving DecidableEq, Repr

/-- The bytes of a text from an offset on. -/
structure Location where
  position : Nat
  length : Nat
deriving DecidableEq, Repr

/-- Why a place does not exist in a text. -/
inductive LocationError where
  /-- The line lies beyond the line after the last. -/
  | lineTooBig (line : Nat)
  /-- The line is the one after the last, or an empty last line. -/
  | missingLine (line : Nat)
  /-- The line has fewer characters. -/
  | offsetTooBig (line offset : Nat)
  /-- The location ends after the text. -/
  | outOfBounds (position length size : Nat)
  /-- The end of the location is not a word. -/
  | overflow
deriving DecidableEq, Repr

/-- The text of an addition that leaves the range of words. -/
def overflowMessage : String := "attempt to add with overflow"

/-- The wording of a location error. -/
def LocationError.message : LocationError → String
  | .lineTooBig line =>
    "Unable to calculate position from TextRange, line number " ++ decimalText line ++ " is too big"
  | .missingLine line =>
    "Unable to calculate position from TextRange, line " ++ decimalText line ++ " doesn't exist"
  | .offsetTooBig line offset =>
    "Unable to calculate position from TextRange, line offset " ++ decimalText offset
      ++ " is too big for line " ++ decimalText line
  | .outOfBounds position length size =>
    "Location " ++ decimalText position ++ "+" ++ decimalText length ++ " is outside of a source of "
      ++ decimalText size ++ " bytes"
  | .overflow => overflowMessage

/-- A pointer as `line:column`. -/
def Pointer.text (p : Pointer) : String := decimalText p.line ++ ":" ++ decimalText p.column

/-- A range as `[start-stop]`. -/
def Range.text (r : Range) : String := "[" ++ r.start.text ++ "-" ++ r.stop.text ++ "]"

/-- A location with its two fields named. -/
def Location.text (l : Location) : String :=
  "Location\x7bposition=" ++ decimalText l.position ++ ", length=" ++ decimalText l.length ++ "\x7d"

/-- One past the last byte of a location, when that is a word. -/
def Location.end? (l : Location) : Option Nat := addWord? l.position l.length

/-! ### From bytes to lines -/

/-- How many characters start within the first `bytes` bytes. -/
def charsStarting : List Char → Nat → Nat
  | [], _ => 0
  | c :: cs, bytes => if bytes = 0 then 0 else charsStarting cs (bytes - c.utf8Size) + 1

/-- The point of byte `offset` in the lines that start at byte `start` with line `number`.  An offset in
a terminator is the end of its line, and one past the text the end of the last line. -/
def pointerIn (offset : Nat) : Nat → Nat → List Line → Pointer
  | _, number, [] => ⟨number, 0⟩
  | start, number, l :: ls =>
    let stop := start + byteLength l.text
    if offset < stop || l.terminator.isEmpty then ⟨number, charsStarting l.content (offset - start)⟩
    else pointerIn offset stop (number + 1) ls

/-- The point of a byte offset. -/
def pointerAt (source : List Char) (offset : Nat) : Pointer := pointerIn offset 0 1 (splitLines source)

/-- The range of a location that lies within the text. -/
def Location.toRange (l : Location) (source : List Char) : Except LocationError Range :=
  match l.end? with
  | none => .error .overflow
  | some stop =>
    if stop > byteLength source then
      .error (.outOfBounds l.position l.length (byteLength source))
    else .ok ⟨pointerAt source l.position, pointerAt source stop⟩

/-! ### From lines to bytes -/

/-- The byte offset of a point.  Line 0 counts as line 1. -/
def positionOf (p : Pointer) (text : List Char) : Except LocationError Nat :=
  let lines := splitLines text
  let preceding := p.line - 1
  if preceding > lines.length then .error (.lineTooBig p.line)
  else
    let before := byteLength (joinLines (lines.take preceding))
    if before = byteLength text then .error (.missingLine p.line)
    else
      let line := joinLines ((lines.drop preceding).take 1)
      if p.column > line.length then .error (.offsetTooBig p.line p.column)
      else .ok (before + byteLength (line.take p.column))

/-- The location of a range; the error of the start comes first. -/
def Location.ofRange (r : Range) (text : List Char) : Except LocationError Location := do
  let start ← positionOf r.start text
  let stop ← positionOf r.stop text
  return ⟨start, stop - start⟩

end ChartTrace
