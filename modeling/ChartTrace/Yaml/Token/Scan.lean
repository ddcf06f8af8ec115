import ChartTrace.Yaml.Token.Property
import ChartTrace.Yaml.Token.Scalar

namespace ChartTrace.Yaml

/-!
# The tokens of a text

Tokens are found from left to right.  A token that may turn out to be the key of a mapping is held back until
a colon follows it, or until it is on an earlier line or more than 1024 characters away.

* `readableText`: the text that can be read.  It is read in blocks, and a block with a control character
  cannot.
* `KeySpot`, `Scanner`: a possible key, and all that is known at a place.
* `Scanner.fetch`: finds the next token.
* `tokens`: the tokens of a text, and the fault that ends them.
-/

/-! ### Reading -/

/-- The characters that YAML text may hold. -/
def isReadable (c : Char) : Bool :=
  c == '\t' || c == '\n' || c == '\r' || (' ' ≤ c && c ≤ '~') || c == '\u0085'
    || ('\u00a0' ≤ c && c ≤ '\ufffd') || '\uffff' < c

/-- The number of bytes that are read at once. -/
def blockSize : Nat := 16384

/-- How many characters stand before the block of the last one.  The current block starts at character `start`
and holds `used` bytes before character `index`. -/
def lastBlockStart (used start index : Nat) : List Char → Nat
  | [] => start
  | c :: cs =>
    if used + c.utf8Size > blockSize then lastBlockStart c.utf8Size index (index + 1) cs
    else lastBlockStart (used + c.utf8Size) start (index + 1) cs

/-- The text before the first block that cannot be read, and the fault of that block. -/
def readableText (text : List Char) : List Char × Option Fault :=
  let good := text.takeWhile isReadable
  match text.drop good.length with
  | [] => (text, none)
  | c :: _ =>
    (text.take (lastBlockStart 0 0 0 (good ++ [c])),
      some { problem := .controlCharacter, position := .origin, offset := (utf8 (String.ofList good)).length })

/-! ### The scanner -/

/-- A token that may start a key. -/
structure KeySpot where
  /-- The number of the token. -/
  token : Nat
  /-- Whether nothing but a key can stand there. -/
  required : Bool
  position : Position
deriving DecidableEq, Repr

/-- What is known at a place of the text. -/
structure Scanner where
  cursor : Cursor
  /-- The number of tokens that have been given out. -/
  given : Nat := 0
  /-- The tokens that are held back. -/
  queue : List Token := []
  /-- The column of the current block collection, -1 outside of all. -/
  indent : Int := -1
  /-- The columns of the collections around it. -/
  outerIndents : List Int := []
  /-- The possible key of the current flow collection, or of the block. -/
  spot : Option KeySpot := none
  /-- The possible keys of the collections around it. -/
  outerSpots : List (Option KeySpot) := []
  /-- Whether a key may start here. -/
  keyAllowed : Bool := true
  /-- Whether the stream has ended. -/
  ended : Bool := false

namespace Scanner

/-- Whether the cursor is in a flow collection. -/
def inFlow (s : Scanner) : Bool := !s.outerSpots.isEmpty

/-- The cursor's place. -/
def position (s : Scanner) : Position := s.cursor.position

/-- The scanner with a token at the end of the queue. -/
def enqueue (s : Scanner) (kind : TokenKind) (start stop : Position) : Scanner :=
  { s with queue := s.queue ++ [⟨kind, start, stop⟩] }

/-- The scanner with an empty token inserted before the token of a number. -/
def insertAt (s : Scanner) (number : Nat) (kind : TokenKind) (start : Position) : Scanner :=
  { s with queue := s.queue.insertIdx (number - s.given) ⟨kind, start, start⟩ }

/-- The fault of a key without a colon. -/
def keyFault (s : Scanner) (spot : KeySpot) : Fault :=
  { problem := .simpleKeyWithoutColon, position := s.position, activity := some (.simpleKey, spot.position) }

/-- Whether a possible key is too far away to be one. -/
def isStale (s : Scanner) (spot : KeySpot) : Bool :=
  spot.position.line < s.position.line || spot.position.index + 1024 < s.position.index

/-- Gives up a possible key that is too far away. -/
def checkSpot (s : Scanner) : Option KeySpot → Except Fault (Option KeySpot)
  | none => .ok none
  | some spot =>
    if !s.isStale spot then .ok (some spot)
    else if spot.required then .error (s.keyFault spot)
    else .ok none

/-- Gives up all possible keys that are too far away, the outermost first. -/
def dropStale (s : Scanner) : Except Fault Scanner := do
  let outer ← s.outerSpots.reverse.mapM s.checkSpot
  let spot ← s.checkSpot s.spot
  return { s with outerSpots := outer.reverse, spot }

/-- Gives up the possible key of the current collection. -/
def dropSpot (s : Scanner) : Except Fault Scanner :=
  match s.spot with
  | some spot => if spot.required then .error (s.keyFault spot) else .ok { s with spot := none }
  | none => .ok s

/-- Takes the next token for a possible key, where a key may start. -/
def saveSpot (s : Scanner) : Except Fault Scanner :=
  if !s.keyAllowed then .ok s
  else do
    let t ← s.dropSpot
    return { t with
      spot := some
        { token := s.given + s.queue.length
          required := !s.inFlow && s.indent == (s.position.column : Int)
          position := s.position } }

/-- Opens a block collection at a deeper column; its first token is put in front of the token of a number, or
at the end. -/
def openBlock (s : Scanner) (column : Nat) (number : Option Nat) (kind : TokenKind) (start : Position) :
    Scanner :=
  if s.inFlow || decide ((column : Int) ≤ s.indent) then s
  else
    let s := { s with indent := column, outerIndents := s.indent :: s.outerIndents }
    match number with
    | none => s.enqueue kind start start
    | some n => s.insertAt n kind start

/-- Closes the block collections that are deeper than a column. -/
def closeBlocks (s : Scanner) (column : Int) : Scanner :=
  if s.inFlow then s else go s.outerIndents s
where
  go : List Int → Scanner → Scanner
    | [], s => s
    | outer :: rest, s =>
      if column < s.indent then
        go rest { s.enqueue .blockEnd s.position s.position with indent := outer, outerIndents := rest }
      else s

/-! ### Finding tokens -/

/-- Moves over blanks, comments and line breaks.  Tabs count as blanks only where no key may start, and after a
line break in a block one may. -/
def skipToToken (s : Scanner) : Scanner :=
  let c := if s.position.index == 0 && startsWith '\ufeff' s.cursor.rest then s.cursor.skip else s.cursor
  let (cursor, keyAllowed) := go s.inFlow c.rest c.position s.keyAllowed false
  { s with cursor, keyAllowed }
where
  go (inFlow : Bool) : List Char → Position → Bool → Bool → Cursor × Bool
    | [], q, allowed, _ => (⟨[], q⟩, allowed)
    | '\r' :: '\n' :: ds, q, allowed, _ => go inFlow ds (q.nextLine 2) (allowed || !inFlow) false
    | d :: ds, q, allowed, comment =>
      if isBreak d then go inFlow ds (q.nextLine 1) (allowed || !inFlow) false
      else if comment || d == ' ' || (d == '\t' && (inFlow || !allowed)) then
        go inFlow ds q.next allowed comment
      else if d == '#' then go inFlow ds q.next allowed true
      else (⟨d :: ds, q⟩, allowed)

/-- Adds an indicator of `n` characters. -/
def indicator (s : Scanner) (kind : TokenKind) (n : Nat) : Scanner :=
  let c := s.cursor.skipMany n
  { s.enqueue kind s.position c.position with cursor := c }

/-- Adds a scanned scalar. -/
def scalar (s : Scanner) (start : Position) (style : ScalarStyle) (r : ScannedScalar) : Scanner :=
  { s.enqueue (.scalar r.text style) start r.stop with
    cursor := r.cursor, keyAllowed := s.keyAllowed || r.broken }

/-- The end of the stream; it stands on a line of its own. -/
def fetchStreamEnd (s : Scanner) : Except Fault Scanner := do
  let p := s.position
  let p : Position := if p.column = 0 then p else ⟨p.index, p.line + 1, 0⟩
  let s := { s with cursor := { s.cursor with position := p } }
  let s ← (s.closeBlocks (-1)).dropSpot
  return { s.enqueue .streamEnd p p with keyAllowed := false, ended := true }

/-- A directive. -/
def fetchDirective (s : Scanner) : Except Fault Scanner := do
  let s ← (s.closeBlocks (-1)).dropSpot
  let (kind, stop, c) ← takeDirective s.cursor
  return { s.enqueue kind s.position stop with cursor := c, keyAllowed := false }

/-- The start or the end of a document. -/
def fetchDocumentIndicator (s : Scanner) (kind : TokenKind) : Except Fault Scanner := do
  let s ← (s.closeBlocks (-1)).dropSpot
  return { s with keyAllowed := false }.indicator kind 3

/-- The start of a flow collection. -/
def fetchFlowStart (s : Scanner) (kind : TokenKind) : Except Fault Scanner := do
  let s ← s.saveSpot
  return { s with outerSpots := s.spot :: s.outerSpots, spot := none, keyAllowed := true }.indicator kind 1

/-- The end of a flow collection. -/
def fetchFlowEnd (s : Scanner) (kind : TokenKind) : Except Fault Scanner := do
  let s ← s.dropSpot
  let s := match s.outerSpots with
    | [] => s
    | spot :: outer => { s with spot, outerSpots := outer }
  return { s with keyAllowed := false }.indicator kind 1

/-- A comma between the entries of a flow collection. -/
def fetchFlowEntry (s : Scanner) : Except Fault Scanner := do
  let s ← s.dropSpot
  return { s with keyAllowed := true }.indicator .flowEntry 1

/-- The dash of an entry of a block sequence. -/
def fetchBlockEntry (s : Scanner) : Except Fault Scanner := do
  if !s.inFlow && !s.keyAllowed then
    throw { problem := .entryNotAllowed, position := s.position }
  let s ← (s.openBlock s.position.column none .blockSequenceStart s.position).dropSpot
  return { s with keyAllowed := true }.indicator .blockEntry 1

/-- The question mark of a key. -/
def fetchKey (s : Scanner) : Except Fault Scanner := do
  if !s.inFlow && !s.keyAllowed then
    throw { problem := .keyNotAllowed, position := s.position }
  let s ← (s.openBlock s.position.column none .blockMappingStart s.position).dropSpot
  return { s with keyAllowed := !s.inFlow }.indicator .key 1

/-- The colon before a value.  A possible key before it becomes one. -/
def fetchValue (s : Scanner) : Except Fault Scanner :=
  match s.spot with
  | some spot =>
    let s := s.insertAt spot.token .key spot.position
    let s := s.openBlock spot.position.column (some spot.token) .blockMappingStart spot.position
    .ok ({ s with spot := none, keyAllowed := false }.indicator .value 1)
  | none =>
    if !s.inFlow && !s.keyAllowed then
      .error { problem := .valueNotAllowed, position := s.position }
    else
      let s := s.openBlock s.position.column none .blockMappingStart s.position
      .ok ({ s with keyAllowed := !s.inFlow }.indicator .value 1)

/-- An anchor or an alias. -/
def fetchAnchor (s : Scanner) (activity : Activity) (kind : List Char → TokenKind) :
    Except Fault Scanner := do
  let s ← s.saveSpot
  let (name, c) ← takeAnchor activity s.cursor
  return { s.enqueue (kind name) s.position c.position with cursor := c, keyAllowed := false }

/-- A tag. -/
def fetchTag (s : Scanner) : Except Fault Scanner := do
  let s ← s.saveSpot
  let (handle, suffix, c) ← takeTag s.inFlow s.cursor
  return { s.enqueue (.tag handle suffix) s.position c.position with cursor := c, keyAllowed := false }

/-- A literal or folded scalar. -/
def fetchBlockScalar (s : Scanner) (literal : Bool) : Except Fault Scanner := do
  let s ← s.dropSpot
  let r ← takeBlock literal s.indent s.cursor
  return { s with keyAllowed := true }.scalar s.position .block r

/-- A scalar in quotes. -/
def fetchQuoted (s : Scanner) (single : Bool) : Except Fault Scanner := do
  let s ← s.saveSpot
  let r ← takeQuoted single s.cursor
  return { s with keyAllowed := false }.scalar s.position .quoted r

/-- A plain scalar. -/
def fetchPlain (s : Scanner) : Except Fault Scanner := do
  let s ← s.saveSpot
  let r ← takePlain s.inFlow (s.indent + 1) s.cursor
  return { s with keyAllowed := false }.scalar s.position .plain r

/-- The characters that start no plain scalar. -/
def indicators : List Char :=
  ['-', '?', ':', ',', '[', ']', '\x7b', '\x7d', '#', '&', '*', '!', '|', '>', '\x27', '\x22', '%', '@',
   '\x60']

/-- Whether a plain scalar starts at the cursor.  A dash starts one before a non-blank; so do, outside of flow
collections, a question mark and a colon. -/
def startsPlain (s : Scanner) : Bool :=
  match s.cursor.rest with
  | [] => false
  | c :: cs =>
    !(endsWord (c :: cs) || indicators.contains c)
      || (c == '-' && !atBlank cs)
      || (!s.inFlow && (c == '?' || c == ':') && !endsWord cs)

/-- Finds the next token. -/
def fetch (s : Scanner) : Except Fault Scanner := do
  let s ← s.skipToToken.dropStale
  let s := s.closeBlocks s.position.column
  match s.cursor.rest with
  | [] => s.fetchStreamEnd
  | c :: cs =>
    if s.position.column = 0 ∧ c = '%' then s.fetchDirective
    else if s.position.column = 0 ∧ startsWithTriple '-' (c :: cs) then s.fetchDocumentIndicator .documentStart
    else if s.position.column = 0 ∧ startsWithTriple '.' (c :: cs) then s.fetchDocumentIndicator .documentEnd
    else if c = '[' then s.fetchFlowStart .flowSequenceStart
    else if c = '\x7b' then s.fetchFlowStart .flowMappingStart
    else if c = ']' then s.fetchFlowEnd .flowSequenceEnd
    else if c = '\x7d' then s.fetchFlowEnd .flowMappingEnd
    else if c = ',' then s.fetchFlowEntry
    else if c = '-' ∧ endsWord cs then s.fetchBlockEntry
    else if c = '?' ∧ (s.inFlow ∨ endsWord cs) then s.fetchKey
    else if c = ':' ∧ (s.inFlow ∨ endsWord cs) then s.fetchValue
    else if c = '*' then s.fetchAnchor .alias .alias
    else if c = '&' then s.fetchAnchor .anchor .anchor
    else if c = '!' then s.fetchTag
    else if c = '|' ∧ !s.inFlow then s.fetchBlockScalar true
    else if c = '>' ∧ !s.inFlow then s.fetchBlockScalar false
    else if c = '\x27' then s.fetchQuoted true
    else if c = '\x22' then s.fetchQuoted false
    else if s.startsPlain then s.fetchPlain
    else .error { problem := .noToken, position := s.position, activity := some (.nextToken, s.position) }

/-! ### Giving out tokens -/

/-- Whether the token of a number may still turn out to be a key. -/
def mayBeKey (s : Scanner) (number : Nat) : Bool :=
  (s.spot :: s.outerSpots).any fun spot => spot.any fun k => k.token == number

/-- Gives out the tokens that are no possible keys, up to the first that is. -/
def release (s : Scanner) : List Token × Scanner := go s.queue s
where
  go : List Token → Scanner → List Token × Scanner
    | [], s => ([], { s with queue := [] })
    | t :: ts, s =>
      if s.mayBeKey s.given then ([], { s with queue := t :: ts })
      else
        let (given, s) := go ts { s with given := s.given + 1 }
        (t :: given, s)

/-- The fault that ends the tokens where none is found.  At the end of a text that goes on unreadable, what follows
is at fault. -/
def faultOf (unreadable : Option Fault) (s : Scanner) (f : Fault) : Fault :=
  if s.position.index + s.cursor.rest.length ≤ f.position.index then unreadable.getD f else f

/-- The tokens from a place on, and the fault that ends them.  Where the text goes on unreadable, nothing is
found in its last characters. -/
def run (unreadable : Option Fault) : Nat → Scanner → List Token × Option Fault
  | 0, _ => ([], none)
  | fuel + 1, s =>
    let shortage (s : Scanner) : Option Fault := unreadable.filter fun _ => s.cursor.rest.length < 4
    match shortage s, s.fetch with
    | some f, _ => ([], some f)
    | none, .error f => ([], some (faultOf unreadable s f))
    | none, .ok s =>
      match shortage s, s.dropStale with
      | some f, _ => ([], some f)
      | none, .error f => ([], some f)
      | none, .ok s =>
        let (ts, s) := s.release
        if s.ended then (ts, none)
        else
          let (more, fault) := run unreadable fuel s
          (ts ++ more, fault)

end Scanner

/-- The tokens of a text, and the fault that ends them. -/
def tokens (text : List Char) : List Token × Option Fault :=
  let (readable, unreadable) := readableText text
  Scanner.run unreadable (readable.length + 2) { cursor := ⟨readable, .origin⟩ }

end ChartTrace.Yaml
