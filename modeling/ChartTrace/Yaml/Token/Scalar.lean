import ChartTrace.Yaml.Fault
import ChartTrace.Yaml.Token

namespace ChartTrace.Yaml

/-!
# Scalar tokens

Plain, quoted and block scalars, with their line breaks folded.

* `Gap`, `Gap.text`: what stands between two words of a scalar.  A single line break becomes a blank, of
  several the first is dropped.
* `takePlain`: a plain scalar.
* `takeQuoted`: a scalar in quotes.
* `takeBlock`: a literal or folded scalar.
-/

/-! ### Gaps -/

/-- Blanks and line breaks between two words. -/
structure Gap where
  /-- The blanks, when there is no line break. -/
  blanks : List Char := []
  /-- Whether the line has ended. -/
  broken : Bool := false
  /-- The line break that may be folded. -/
  firstBreak : List Char := []
  /-- The line breaks after it. -/
  moreBreaks : List Char := []
  /-- The places of tabs behind a line break. -/
  tabs : List Position := []

/-- The gap with one more line break. -/
def Gap.addBreak (g : Gap) (b : Char) : Gap :=
  if g.broken then { g with moreBreaks := g.moreBreaks ++ [b] }
  else { broken := true, firstBreak := [b] }

/-- The gap with one more blank; blanks after a line break do not count. -/
def Gap.addBlank (g : Gap) (c : Char) (q : Position) : Gap :=
  if !g.broken then { g with blanks := g.blanks ++ [c] }
  else if c == '\t' then { g with tabs := g.tabs ++ [q] }
  else g

/-- What a gap stands for within a scalar. -/
def Gap.text (g : Gap) : List Char :=
  if !g.broken then g.blanks
  else if g.firstBreak = ['\n'] then
    if g.moreBreaks.isEmpty then [' '] else g.moreBreaks
  else g.firstBreak ++ g.moreBreaks

/-- The character that a line break stands for. -/
def breakChar (c : Char) : Char := if c == '\u2028' || c == '\u2029' then c else '\n'

/-- The gap at the cursor behind an earlier part of it. -/
def takeGap (g : Gap) (c : Cursor) : Gap × Cursor := go c.rest c.position g
where
  go : List Char → Position → Gap → Gap × Cursor
    | [], q, g => (g, ⟨[], q⟩)
    | '\r' :: '\n' :: ds, q, g => go ds (q.nextLine 2) (g.addBreak '\n')
    | d :: ds, q, g =>
      if isBlank d then go ds q.next (g.addBlank d q)
      else if isBreak d then go ds (q.nextLine 1) (g.addBreak (breakChar d))
      else (g, ⟨d :: ds, q⟩)

/-- The first tab behind a line break that stands left of a column. -/
def Gap.tabBefore? (g : Gap) (column : Int) : Option Position :=
  g.tabs.find? fun q => (q.column : Int) < column

/-- Whether the cursor is at a line that starts or ends a document. -/
def Cursor.atDocumentIndicator (c : Cursor) : Bool :=
  c.position.column == 0 && (startsWithTriple '-' c.rest || startsWithTriple '.' c.rest)

/-- A scalar as scanned. -/
structure ScannedScalar where
  text : List Char
  /-- Where the scalar stops; what the cursor moved over behind it does not belong to it. -/
  stop : Position
  cursor : Cursor
  /-- Whether the cursor moved on to another line behind the last word. -/
  broken : Bool := false

/-! ### Plain scalars -/

/-- The characters that end a plain scalar within a flow collection. -/
def flowIndicators : List Char := [',', '[', ']', '\x7b', '\x7d']

/-- A word of a plain scalar; in a flow collection a colon before an indicator is refused, and its place is
returned. -/
def takePlainWord (inFlow : Bool) (c : Cursor) : Except Position (List Char × Cursor) :=
  go c.rest c.position
where
  go : List Char → Position → Except Position (List Char × Cursor)
    | [], q => .ok ([], ⟨[], q⟩)
    | d :: ds, q =>
      if isBlank d || isBreak d then .ok ([], ⟨d :: ds, q⟩)
      else if inFlow && d == ':' && startsWithAny ('?' :: flowIndicators) ds then .error q
      else if (d == ':' && endsWord ds) || (inFlow && flowIndicators.contains d) then
        .ok ([], ⟨d :: ds, q⟩)
      else do
        let (word, c) ← go ds q.next
        return (d :: word, c)

/-- The words of a plain scalar from the cursor on; `pieces` and `gap` are what precedes, last piece first. -/
def takePlainWords (inFlow : Bool) (indent : Int) (start : Position) :
    Nat → Cursor → List (List Char) → Gap → Position → Except Fault ScannedScalar
  | 0, c, pieces, gap, stop => .ok ⟨pieces.reverse.flatten, stop, c, gap.broken⟩
  | fuel + 1, c, pieces, gap, stop =>
    if c.atDocumentIndicator || startsWith '#' c.rest then
      .ok ⟨pieces.reverse.flatten, stop, c, gap.broken⟩
    else
      match takePlainWord inFlow c with
      | .error q => .error { problem := .colonInFlow, position := q, activity := some (.plainScalar, start) }
      | .ok ([], c) => .ok ⟨pieces.reverse.flatten, stop, c, gap.broken⟩
      | .ok (word, c) =>
        let pieces := word :: gap.text :: pieces
        let stop := c.position
        if !(atBlank c.rest || atBreak c.rest) then .ok ⟨pieces.reverse.flatten, stop, c, false⟩
        else
          let (gap, c) := takeGap {} c
          match gap.tabBefore? indent with
          | some q =>
            .error { problem := .tabInPlainIndentation, position := q, activity := some (.plainScalar, start) }
          | none =>
            if !inFlow && decide ((c.position.column : Int) < indent) then
              .ok ⟨pieces.reverse.flatten, stop, c, gap.broken⟩
            else takePlainWords inFlow indent start fuel c pieces gap stop

/-- The plain scalar at the cursor.  In a block its lines are indented by at least `indent`. -/
def takePlain (inFlow : Bool) (indent : Int) (c : Cursor) : Except Fault ScannedScalar :=
  takePlainWords inFlow indent c.position (c.rest.length + 1) c [] {} c.position

/-! ### Quoted scalars -/

/-- The characters that a backslash and one more character stand for. -/
def escapeChar? : Char → Option Char
  | '0' => some '\x00'
  | 'a' => some '\x07'
  | 'b' => some '\x08'
  | 't' => some '\t'
  | '\t' => some '\t'
  | 'n' => some '\n'
  | 'v' => some '\x0b'
  | 'f' => some '\x0c'
  | 'r' => some '\r'
  | 'e' => some '\x1b'
  | ' ' => some ' '
  | '\x22' => some '\x22'
  | '/' => some '/'
  | '\\' => some '\\'
  | 'N' => some '\u0085'
  | '_' => some '\u00a0'
  | 'L' => some '\u2028'
  | 'P' => some '\u2029'
  | _ => none

/-- The number of hexadecimal digits after a backslash and a letter. -/
def escapeDigits? : Char → Option Nat
  | 'x' => some 2
  | 'u' => some 4
  | 'U' => some 8
  | _ => none

/-- The value of a hexadecimal digit. -/
def hexValue? (c : Char) : Option Nat :=
  if '0' ≤ c ∧ c ≤ '9' then some (c.toNat - 48)
  else if 'a' ≤ c ∧ c ≤ 'f' then some (c.toNat - 87)
  else if 'A' ≤ c ∧ c ≤ 'F' then some (c.toNat - 55)
  else none

/-- The number that the first `n` characters write in hexadecimal. -/
def readHex? : Nat → Nat → List Char → Option Nat
  | 0, value, _ => some value
  | _ + 1, _, [] => none
  | n + 1, value, c :: cs => (hexValue? c).bind fun d => readHex? n (16 * value + d) cs

/-- The character of an escape sequence at the cursor, which is at the backslash, and the cursor behind it. -/
def takeEscape (start : Position) (c : Cursor) : Except Fault (Char × Cursor) :=
  let fault (p : Problem) (q : Position) : Fault :=
    { problem := p, position := q, activity := some (.escapeSequence, start) }
  match c.rest.tail with
  | [] => .error (fault .unknownEscape c.position)
  | e :: _ =>
    match escapeChar? e, escapeDigits? e with
    | some d, _ => .ok (d, c.skip.skip)
    | none, none => .error (fault .unknownEscape c.position)
    | none, some n =>
      let c := c.skip.skip
      match readHex? n 0 c.rest with
      | none => .error (fault .noHexadecimalNumber c.position)
      | some code =>
        if code.isValidChar then .ok (Char.ofNat code, c.skipMany n)
        else .error (fault .badCharacterCode c.position)

/-- Characters in quotes up to a blank, a line break or the closing quote, last first, and whether a line break
was escaped. -/
def takeQuotedWord (single : Bool) (start : Position) :
    Nat → Cursor → List Char → Except Fault (List Char × Cursor × Bool)
  | 0, c, word => .ok (word, c, false)
  | fuel + 1, c, word =>
    match c.rest with
    | [] => .ok (word, c, false)
    | d :: ds =>
      if isBlank d || isBreak d then .ok (word, c, false)
      else if single then
        if d == '\x27' then
          if startsWith '\x27' ds then takeQuotedWord single start fuel c.skip.skip ('\x27' :: word)
          else .ok (word, c, false)
        else takeQuotedWord single start fuel c.skip (d :: word)
      else if d == '\x22' then .ok (word, c, false)
      else if d == '\\' then
        if atBreak ds then .ok (word, c.skip.skipBreak, true)
        else do
          let (e, c) ← takeEscape start c
          takeQuotedWord single start fuel c (e :: word)
      else takeQuotedWord single start fuel c.skip (d :: word)

/-- The words in quotes up to the closing quote; `pieces` are what precedes, last piece first. -/
def takeQuotedWords (single : Bool) (start : Position) :
    Nat → Cursor → List (List Char) → Except Fault ScannedScalar
  | 0, c, pieces => .ok ⟨pieces.reverse.flatten, c.position, c, false⟩
  | fuel + 1, c, pieces =>
    if c.atDocumentIndicator then
      .error { problem := .documentIndicatorInQuotes, position := c.position,
               activity := some (.quotedScalar, start) }
    else if c.rest.isEmpty then
      .error { problem := .endOfStreamInQuotes, position := c.position,
               activity := some (.quotedScalar, start) }
    else do
      let (word, c, escaped) ← takeQuotedWord single start (c.rest.length + 1) c []
      let pieces := word.reverse :: pieces
      if startsWith (if single then '\x27' else '\x22') c.rest then
        return ⟨pieces.reverse.flatten, c.skip.position, c.skip, false⟩
      else
        let (gap, c) := takeGap { broken := escaped } c
        takeQuotedWords single start fuel c (gap.text :: pieces)

/-- The scalar in quotes at the cursor. -/
def takeQuoted (single : Bool) (c : Cursor) : Except Fault ScannedScalar :=
  takeQuotedWords single c.position (c.rest.length + 1) c.skip []

/-! ### Block scalars -/

/-- What is kept of the line breaks at the end of a block scalar: one, none or all. -/
inductive Chomping where
  | clip
  | strip
  | keep
deriving DecidableEq, Repr

/-- The sign of a chomping rule, if there is one. -/
def takeChomping (c : Cursor) : Option Chomping × Cursor :=
  match c.rest with
  | '+' :: _ => (some .keep, c.skip)
  | '-' :: _ => (some .strip, c.skip)
  | _ => (none, c)

/-- The digit of an indentation, 0 without one. -/
def takeIndentation (start : Position) (c : Cursor) : Except Fault (Nat × Cursor) :=
  match c.rest with
  | '0' :: _ =>
    .error { problem := .zeroIndentation, position := c.position, activity := some (.blockScalar, start) }
  | d :: _ => if d.isDigit then .ok (d.toNat - 48, c.skip) else .ok (0, c)
  | [] => .ok (0, c)

/-- The header of a block scalar: chomping and indentation in either order. -/
def takeBlockHeader (start : Position) (c : Cursor) : Except Fault (Chomping × Nat × Cursor) :=
  match takeChomping c with
  | (some chomping, c) => do
    let (n, c) ← takeIndentation start c
    return (chomping, n, c)
  | (none, c) => do
    let (n, c) ← takeIndentation start c
    if n = 0 then return (.clip, 0, c)
    else
      let (chomping, c) := takeChomping c
      return (chomping.getD .clip, n, c)

/-- Empty lines before a line of a block scalar. -/
structure EmptyLines where
  /-- The deepest column reached by indentation. -/
  depth : Nat
  breaks : List Char
  /-- The place behind the last line break. -/
  stop : Position
  cursor : Cursor

/-- The empty lines at the cursor, and the indentation behind them.  Without a known indentation (`indent = 0`)
all blanks count as indentation. -/
def takeEmptyLines (indent : Nat) (start : Position) (c : Cursor) : Except Fault EmptyLines :=
  go c.rest c.position ⟨0, [], c.position, c⟩
where
  go : List Char → Position → EmptyLines → Except Fault EmptyLines
    | [], q, e => .ok { e with depth := max e.depth q.column, cursor := ⟨[], q⟩ }
    | '\r' :: '\n' :: ds, q, e =>
      go ds (q.nextLine 2)
        { e with depth := max e.depth q.column, breaks := e.breaks ++ ['\n'], stop := q.nextLine 2 }
    | d :: ds, q, e =>
      if (indent == 0 || decide (q.column < indent)) && d == ' ' then go ds q.next e
      else if (indent == 0 || decide (q.column < indent)) && d == '\t' then
        .error { problem := .tabInBlockIndentation, position := q, activity := some (.blockScalar, start) }
      else if isBreak d then
        go ds (q.nextLine 1)
          { e with depth := max e.depth q.column, breaks := e.breaks ++ [breakChar d], stop := q.nextLine 1 }
      else .ok { e with depth := max e.depth q.column, cursor := ⟨d :: ds, q⟩ }

/-- A block scalar up to a line: its text in pieces, last piece first, and the line breaks that follow. -/
structure BlockLines where
  pieces : List (List Char)
  /-- Whether the last line starts with a blank. -/
  blank : Bool
  /-- The line break behind the last line. -/
  lastBreak : List Char
  /-- The line breaks of empty lines behind it. -/
  moreBreaks : List Char
  stop : Position
  cursor : Cursor

/-- The lines of a block scalar.  In a folded one a line break between two lines that start with no blank
becomes a blank, or nothing before empty lines. -/
def takeBlockLines (literal : Bool) (indent : Nat) (start : Position) :
    Nat → BlockLines → Except Fault BlockLines
  | 0, b => .ok b
  | fuel + 1, b =>
    if b.cursor.position.column != indent || b.cursor.rest.isEmpty then .ok b
    else do
      let blank := atBlank b.cursor.rest
      let joint :=
        if !literal && b.lastBreak == ['\n'] && !b.blank && !blank then
          if b.moreBreaks.isEmpty then [' '] else []
        else b.lastBreak
      let (line, c) := b.cursor.takeWhile fun d => !isBreak d
      let (lastBreak, c) := c.takeBreak
      let e ← takeEmptyLines indent start c
      takeBlockLines literal indent start fuel
        ⟨line :: b.moreBreaks :: joint :: b.pieces, blank, lastBreak, e.breaks, e.stop, e.cursor⟩

/-- The literal or folded scalar at the cursor, in a collection indented by `parent`. -/
def takeBlock (literal : Bool) (parent : Int) (c : Cursor) : Except Fault ScannedScalar := do
  let start := c.position
  let (chomping, increment, c) ← takeBlockHeader start c.skip
  let c := c.skipComment
  if !atLineEnd c.rest then
    throw { problem := .noCommentOrBreak, position := c.position, activity := some (.blockScalar, start) }
  let c := c.skipBreak
  let given := if increment = 0 then 0 else (max parent 0).toNat + increment
  let e ← takeEmptyLines given start c
  let indent := if given = 0 then max (max e.depth (parent + 1).toNat) 1 else given
  let b ← takeBlockLines literal indent start (e.cursor.rest.length + 1) ⟨[], false, [], e.breaks, e.stop, e.cursor⟩
  let last := if chomping = .strip then [] else b.lastBreak
  let more := if chomping = .keep then b.moreBreaks else []
  return ⟨b.pieces.reverse.flatten ++ last ++ more, b.stop, b.cursor, false⟩

end ChartTrace.Yaml
