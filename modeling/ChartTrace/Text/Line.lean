namespace ChartTrace

/-!
# Lines and their terminators

A line ends at CRLF, LF, CR, U+2028 or U+2029, and keeps the terminator it had.

* `splitLines`: the lines of a text.  What follows the last terminator is a line too, even when it is
  empty, and it alone has no terminator.
* `joinLines`: the text of a list of lines.
* `dropTrailingTerminators`: a text without the terminators at its end.
* `byteLength`: the length of a text in UTF-8 bytes, the unit of template offsets.
* `occursIn`, `beforeLast`: whether one text is a part of another, and what stands before it where it occurs
  last.
-/

/-- A line of a text. -/
structure Line where
  /-- The line without its terminator. -/
  content : List Char
  /-- What ended the line; empty for the last line of a text. -/
  terminator : List Char
deriving DecidableEq, Repr

/-- Whether `c` ends a line on its own. -/
def isTerminator (c : Char) : Bool :=
  c == '\n' || c == '\r' || c == '\u2028' || c == '\u2029'

/-- The text of a line, with its terminator. -/
def Line.text (l : Line) : List Char := l.content ++ l.terminator

/-- Puts a character in front of the first line. -/
def consToFirst (c : Char) : List Line → List Line
  | [] => [⟨[c], []⟩]
  | l :: ls => ⟨c :: l.content, l.terminator⟩ :: ls

/-- The lines of a text. -/
def splitLines : List Char → List Line
  | [] => [⟨[], []⟩]
  | '\r' :: '\n' :: cs => ⟨[], ['\r', '\n']⟩ :: splitLines cs
  | c :: cs =>
    if isTerminator c then ⟨[], [c]⟩ :: splitLines cs
    else consToFirst c (splitLines cs)

/-- The text that a list of lines spells. -/
def joinLines (ls : List Line) : List Char := ls.flatMap Line.text

/-- The text up to the last character that does not satisfy `p`. -/
def dropTrailing (p : Char → Bool) (cs : List Char) : List Char :=
  (cs.reverse.dropWhile p).reverse

/-- The text without the line terminators at its end. -/
def dropTrailingTerminators (cs : List Char) : List Char := dropTrailing isTerminator cs

/-- The length of a text in UTF-8 bytes. -/
def byteLength : List Char → Nat
  | [] => 0
  | c :: cs => c.utf8Size + byteLength cs

/-! ### Parts of a text -/

/-- Whether `part` occurs in a text. -/
def occursIn (part : List Char) : List Char → Bool
  | [] => part.isEmpty
  | c :: cs => part.isPrefixOf (c :: cs) || occursIn part cs

/-- The text before the last occurrence of `part`, or all of it. -/
def beforeLast (part : List Char) : List Char → List Char
  | [] => []
  | c :: cs =>
    if occursIn part cs then c :: beforeLast part cs
    else if part.isPrefixOf (c :: cs) then []
    else c :: cs

end ChartTrace
