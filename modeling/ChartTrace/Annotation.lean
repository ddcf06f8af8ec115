import ChartTrace.Marker
import ChartTrace.Text.Line

namespace ChartTrace

/-!
# Annotated templates

Rendering deletes, merges and repeats lines, and the template engine reports no way back.  So each
template line gets a trailing comment that names it, before the engine sees the template.

* `braceBalance`: how many actions a line opens less how many it closes.
* `scanStep`, `lineMarkers`: the marker of each line.  A line outside an action gets ` #N`.  An action
  over several lines gets one ` #first:last`, on the line that closes it; the lines before carry none.
* `annotate`: the template with its markers.
-/

/-- The character that opens an action when it is doubled. -/
def openBrace : Char := '\x7b'

/-- The character that closes an action when it is doubled. -/
def closeBrace : Char := '\x7d'

/-- How many times `c` occurs doubled, reading from the left and without overlap. -/
def countDoubled (c : Char) : List Char → Nat
  | a :: b :: cs => if a = c ∧ b = c then countDoubled c cs + 1 else countDoubled c (b :: cs)
  | _ => 0

/-- The opening delimiters of a line less its closing ones. -/
def braceBalance (line : List Char) : Int :=
  (countDoubled openBrace line : Int) - (countDoubled closeBrace line : Int)

/-- One line of the scan.  `pending` is the first line of an action that is still open; the result is the
same for the next line, and the marker of this one. -/
def scanStep (pending : Option Nat) (number : Nat) (balance : Int) : Option Nat × Option Marker :=
  match pending with
  | none => if balance > 0 then (some number, none) else (none, some (.line number))
  | some start => if balance < 0 then (none, some (.span start number)) else (some start, none)

/-- The marker of each of the lines numbered from `number` on.  An action that is still open after the
last line is taken to end on the line after it. -/
def lineMarkers : Option Nat → Nat → List Line → List (Option Marker)
  | _, _, [] => []
  | pending, number, [l] =>
    match scanStep pending number (braceBalance l.content) with
    | (some start, _) => [some (.span start (number + 1))]
    | (none, m) => [m]
  | pending, number, l :: ls =>
    let s := scanStep pending number (braceBalance l.content)
    s.2 :: lineMarkers s.1 (number + 1) ls

/-- A line with its marker, in front of the terminator. -/
def Line.mark (l : Line) (m : Option Marker) : Line := ⟨l.content ++ markerText m, l.terminator⟩

/-- The lines of an annotated template. -/
def annotateLines (ls : List Line) : List Line :=
  List.zipWith Line.mark ls (lineMarkers none 1 ls)

/-- The template with a marker on each line outside an action. -/
def annotate (source : List Char) : List Char := joinLines (annotateLines (splitLines source))

end ChartTrace
