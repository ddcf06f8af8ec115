namespace ChartTrace.Yaml

/-!
# Positions in YAML text

Lines end at CR, LF, CRLF, U+0085, U+2028 and U+2029.  Positions count characters.

* `Position`: a place in the text.
* `isBreak`, `isBlank`, `endsWord`: the characters that separate.
* `Cursor`: the text that is left and the position of its first character.
* `Cursor.skip`, `Cursor.skipBreak`, `Cursor.takeWhile`: moving on.
-/

/-- A place in the text: characters before it, lines before it, characters before it on its line. -/
structure Position where
  index : Nat
  line : Nat
  column : Nat
deriving DecidableEq, Repr

/-- The beginning of the text. -/
def Position.origin : Position := ⟨0, 0, 0⟩

/-- Whether a position is the beginning of the first line. -/
def Position.isOrigin (p : Position) : Bool := p.line == 0 && p.column == 0

/-- The position after a character that ends no line. -/
def Position.next (p : Position) : Position := ⟨p.index + 1, p.line, p.column + 1⟩

/-- The position after a line break of `n` characters. -/
def Position.nextLine (p : Position) (n : Nat) : Position := ⟨p.index + n, p.line + 1, 0⟩

/-! ### Characters -/

/-- The characters that end a line. -/
def isBreak (c : Char) : Bool :=
  c == '\n' || c == '\r' || c == '\u0085' || c == '\u2028' || c == '\u2029'

/-- A blank or a tab. -/
def isBlank (c : Char) : Bool := c == ' ' || c == '\t'

/-- The characters of names: ASCII letters, digits, underscore and hyphen. -/
def isNameChar (c : Char) : Bool := c.isAlphanum || c == '_' || c == '-'

/-- Whether a text starts with a line break. -/
def atBreak : List Char → Bool
  | [] => false
  | c :: _ => isBreak c

/-- Whether a text is over or starts with a line break. -/
def atLineEnd : List Char → Bool
  | [] => true
  | c :: _ => isBreak c

/-- Whether a text is over or starts with a blank or a line break. -/
def endsWord : List Char → Bool
  | [] => true
  | c :: _ => isBlank c || isBreak c

/-- Whether a text starts with a blank. -/
def atBlank : List Char → Bool
  | [] => false
  | c :: _ => isBlank c

/-- Whether a text starts with a given character. -/
def startsWith (c : Char) : List Char → Bool
  | [] => false
  | d :: _ => c == d

/-- Whether a text starts with one of some characters. -/
def startsWithAny (cs : List Char) : List Char → Bool
  | [] => false
  | d :: _ => cs.contains d

/-- Whether a text starts with three times `c` that stand alone. -/
def startsWithTriple (c : Char) : List Char → Bool
  | c1 :: c2 :: c3 :: rest => c1 == c && c2 == c && c3 == c && endsWord rest
  | _ => false

/-! ### Cursors -/

/-- The text that is left, and where it starts. -/
structure Cursor where
  rest : List Char
  position : Position
deriving DecidableEq, Repr

namespace Cursor

/-- Moves over one character. -/
def skip (c : Cursor) : Cursor := ⟨c.rest.tail, c.position.next⟩

/-- Moves over `n` characters. -/
def skipMany : Nat → Cursor → Cursor
  | 0, c => c
  | n + 1, c => skipMany n c.skip

/-- Moves over the line break at the cursor and says what it stands for.  A separator of Unicode stands for
itself, every other break for LF. -/
def takeBreak (c : Cursor) : List Char × Cursor :=
  match c.rest with
  | '\r' :: '\n' :: rest => (['\n'], ⟨rest, c.position.nextLine 2⟩)
  | d :: rest =>
    if d == '\u2028' || d == '\u2029' then ([d], ⟨rest, c.position.nextLine 1⟩)
    else if isBreak d then (['\n'], ⟨rest, c.position.nextLine 1⟩)
    else ([], c)
  | [] => ([], c)

/-- Moves over the line break at the cursor. -/
def skipBreak (c : Cursor) : Cursor := c.takeBreak.2

/-- The characters up to the first that fails the test, and the cursor at it.  The test holds of no line
break. -/
def takeWhile (p : Char → Bool) (c : Cursor) : List Char × Cursor := go c.rest c.position
where
  go : List Char → Position → List Char × Cursor
    | [], q => ([], ⟨[], q⟩)
    | d :: ds, q =>
      if p d then let (taken, c) := go ds q.next; (d :: taken, c) else ([], ⟨d :: ds, q⟩)

/-- Moves to the first character that fails the test. -/
def skipWhile (p : Char → Bool) (c : Cursor) : Cursor := (c.takeWhile p).2

/-- Moves to the end of the line. -/
def skipLine (c : Cursor) : Cursor := c.skipWhile fun d => !isBreak d

/-- Moves over blanks, and over a comment that follows. -/
def skipComment (c : Cursor) : Cursor :=
  let c := c.skipWhile isBlank
  if startsWith '#' c.rest then c.skipLine else c

end Cursor

end ChartTrace.Yaml
