import ChartTrace.Text.CharSet
import ChartTrace.Text.Numeral

namespace ChartTrace

/-!
# Line markers

A marker is a trailing comment that names the template lines a line came from.

* `Marker`, `Marker.text`: the marker that annotation writes, ` #N` or ` #first:last`.
* `isMarkerGroup`: what may stand at the end of a rendered line, tokens `#D` or `#D:D` with at most one
  blank between two of them.  Merged lines leave several tokens, and the first one counts.
* `stripMarker`: a rendered line without its trailing group, and the lines the group names.
-/

/-- What a marker names. -/
inductive Marker where
  /-- One template line. -/
  | line (n : Nat)
  /-- The template lines of an action that spans several. -/
  | span (first last : Nat)
deriving DecidableEq, Repr

/-- The comment that annotation appends to a line. -/
def Marker.text : Marker → List Char
  | .line n => ' ' :: '#' :: decimal n
  | .span first last => ' ' :: '#' :: (decimal first ++ ':' :: decimal last)

/-- The comment of a line that may have none. -/
def markerText : Option Marker → List Char
  | none => []
  | some m => m.text

/-! ### Recognising the markers of a rendered line -/

/-- Where a left-to-right reading of a marker group stands. -/
inductive GroupState where
  /-- A token must start here. -/
  | token
  /-- After the `#` of a token: a digit must follow. -/
  | sharp
  /-- In the first number of a token. -/
  | first
  /-- After the `:` of a token: a digit must follow. -/
  | colon
  /-- In the second number of a token. -/
  | second
deriving DecidableEq, Repr

/-- What may follow a complete token: another token, or one blank and another token. -/
def GroupState.afterToken (c : Char) : Option GroupState :=
  if c = '#' then some .sharp else if isBlank c then some .token else none

/-- The state after one more character, when the group can go on with it. -/
def GroupState.next : GroupState → Char → Option GroupState
  | .token, c => if c = '#' then some .sharp else none
  | .sharp, c => if isDecimalDigit c then some .first else none
  | .first, c =>
    if isDecimalDigit c then some .first
    else if c = ':' then some .colon
    else afterToken c
  | .colon, c => if isDecimalDigit c then some .second else none
  | .second, c => if isDecimalDigit c then some .second else afterToken c

/-- Whether a text completes a marker group from a given state. -/
def completesGroup : GroupState → List Char → Bool
  | s, [] => s = .first || s = .second
  | s, c :: cs =>
    match s.next c with
    | some t => completesGroup t cs
    | none => false

/-- Whether a text is a sequence of one or more marker tokens. -/
def isMarkerGroup (cs : List Char) : Bool := completesGroup .token cs

/-- Cuts a text in front of its longest suffix that is a marker group. -/
def splitMarkerGroup : List Char → Option (List Char × List Char)
  | [] => none
  | c :: cs =>
    if isMarkerGroup (c :: cs) then some ([], c :: cs)
    else (splitMarkerGroup cs).map fun p => (c :: p.1, p.2)

/-- The template lines named by the first token of a marker group.  A token whose first number is not a
word names nothing; a second number that is not a word counts as absent. -/
def groupLines? (group : List Char) : Option (Nat × Nat) :=
  let afterSharp := group.drop 1
  let rest := afterSharp.dropWhile isDecimalDigit
  (readWord? (afterSharp.takeWhile isDecimalDigit)).map fun first =>
    match rest with
    | ':' :: more => (first, (readWord? (more.takeWhile isDecimalDigit)).getD first)
    | _ => (first, first)

/-- A text without the blank it may end in. -/
def dropLastBlank (cs : List Char) : List Char :=
  match cs.getLast? with
  | some c => if isBlank c then cs.dropLast else cs
  | none => cs

/-- The content of a rendered line and the template lines that its trailing marker names.  The blank in
front of the marker goes with it.  A line whose marker names nothing is left as it is. -/
def stripMarker (line : List Char) : List Char × Option (Nat × Nat) :=
  match splitMarkerGroup line with
  | none => (line, none)
  | some (before, group) =>
    match groupLines? group with
    | none => (line, none)
    | some lines => (dropLastBlank before, some lines)

end ChartTrace
