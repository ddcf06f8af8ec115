import ChartTrace.Yaml.Fault
import ChartTrace.Yaml.Token
import ChartTrace.Yaml.Token.Scalar

namespace ChartTrace.Yaml

/-!
# Anchors, tags and directives

* `takeAnchor`: an anchor or an alias.
* `takeTag`: a tag, written out in angle brackets, with a handle, or short.
* `takeDirective`: a directive line.
-/

/-! ### Anchors -/

/-- The characters that may follow the name of an anchor, besides the end of a word. -/
def anchorFollowers : List Char := ['?', ':', ',', ']', '\x7d', '%', '@', '\x60']

/-- The name of the anchor or alias at the cursor. -/
def takeAnchor (activity : Activity) (c : Cursor) : Except Fault (List Char × Cursor) :=
  let (name, d) := c.skip.takeWhile isNameChar
  if name.isEmpty || !(endsWord d.rest || startsWithAny anchorFollowers d.rest) then
    .error { problem := .badAnchorName, position := d.position, activity := some (activity, c.position) }
  else .ok (name, d)

/-! ### Tags -/

/-- The characters of tag URIs besides those of names. -/
def uriChars : List Char :=
  [';', '/', '?', ':', '@', '&', '=', '+', '$', '.', '%', '!', '~', '*', '\x27', '(', ')']

/-- Whether a character may stand in a tag URI.  Flow indicators may do so where a tag is written out. -/
def isUriChar (writtenOut : Bool) (c : Char) : Bool :=
  isNameChar c || uriChars.contains c || (writtenOut && [',', '[', ']'].contains c)

/-- The number of octets of a character, by its first octet. -/
def octetCount (octet : Nat) : Nat :=
  if octet < 0x80 then 1
  else if 0xC0 ≤ octet ∧ octet < 0xE0 then 2
  else if 0xE0 ≤ octet ∧ octet < 0xF0 then 3
  else if 0xF0 ≤ octet ∧ octet < 0xF8 then 4
  else 0

/-- The octet that a percent sign and two digits at the cursor stand for. -/
def escapedOctet? (c : Cursor) : Option Nat :=
  match c.rest with
  | '%' :: rest => readHex? 2 0 rest
  | _ => none

/-- The octets of a character after its first one. -/
def takeTrailingOctets (activity : Activity × Position) : Nat → Cursor → Except Fault (Bytes × Cursor)
  | 0, c => .ok ([], c)
  | n + 1, c =>
    match escapedOctet? c with
    | none => .error { problem := .noEscapedOctet, position := c.position, activity := some activity }
    | some octet =>
      if octet / 64 != 2 then
        .error { problem := .badTrailingOctet, position := c.position, activity := some activity }
      else do
        let (bs, c) ← takeTrailingOctets activity n (c.skipMany 3)
        return (UInt8.ofNat octet :: bs, c)

/-- The octets of a character that is written with percent signs. -/
def takeEscapedChar (activity : Activity × Position) (c : Cursor) : Except Fault (Bytes × Cursor) :=
  match escapedOctet? c with
  | none => .error { problem := .noEscapedOctet, position := c.position, activity := some activity }
  | some octet =>
    match octetCount octet with
    | 0 => .error { problem := .badLeadingOctet, position := c.position, activity := some activity }
    | n + 1 => do
      let (bs, c) ← takeTrailingOctets activity n (c.skipMany 3)
      return (UInt8.ofNat octet :: bs, c)

/-- The characters of a tag URI. -/
def takeUriChars (writtenOut : Bool) (activity : Activity × Position) :
    Nat → Cursor → Except Fault (Bytes × Cursor)
  | 0, c => .ok ([], c)
  | fuel + 1, c =>
    match c.rest with
    | [] => .ok ([], c)
    | d :: _ =>
      if !isUriChar writtenOut d then .ok ([], c)
      else do
        let (head, c) ← if d == '%' then takeEscapedChar activity c else pure (utf8 (String.singleton d), c.skip)
        let (tail, c) ← takeUriChars writtenOut activity fuel c
        return (head ++ tail, c)

/-- The tag URI at the cursor behind `head`, whose first character is left out.  It is not empty unless there is
a head. -/
def takeUri (writtenOut : Bool) (activity : Activity × Position) (head : List Char) (c : Cursor) :
    Except Fault (Bytes × Cursor) := do
  let (bs, d) ← takeUriChars writtenOut activity (c.rest.length + 1) c
  if head.isEmpty && d.position == c.position then
    throw { problem := .noTagUri, position := c.position, activity := some activity }
  return (utf8 (String.ofList head.tail) ++ bs, d)

/-- The handle of a tag at the cursor, which is at a mark: the mark, a name, and a second mark if there is
one. -/
def takeHandle (c : Cursor) : List Char × Cursor :=
  let (name, c) := c.skip.takeWhile isNameChar
  if startsWith '!' c.rest then ('!' :: (name ++ ['!']), c.skip) else ('!' :: name, c)

/-- Whether a handle is one, with a mark at both ends. -/
def isHandle (handle : List Char) : Bool := 1 < handle.length && handle.getLast? == some '!'

/-- The tag at the cursor: its handle, empty for a whole tag, and its suffix. -/
def takeTagParts (c : Cursor) : Except Fault (List Char × Bytes × Cursor) := do
  let start := c.position
  if startsWith '<' c.rest.tail then
    let (uri, d) ← takeUri true (.tagUri, start) [] c.skip.skip
    if !startsWith '>' d.rest then
      throw { problem := .noTagEnd, position := d.position, activity := some (.tag, start) }
    return ([], uri, d.skip)
  else
    let (handle, d) := takeHandle c
    if isHandle handle then
      let (suffix, d) ← takeUri false (.tagUri, start) [] d
      return (handle, suffix, d)
    else
      let (suffix, d) ← takeUri false (.tagUri, start) handle d
      if suffix.isEmpty then return ([], utf8 "!", d) else return (['!'], suffix, d)

/-- The tag at the cursor; a blank, a line break or, in a flow collection, a comma follows it. -/
def takeTag (inFlow : Bool) (c : Cursor) : Except Fault (List Char × Bytes × Cursor) := do
  let (handle, suffix, d) ← takeTagParts c
  if endsWord d.rest || (inFlow && startsWith ',' d.rest) then return (handle, suffix, d)
  else throw { problem := .noWhitespaceOrBreak, position := d.position, activity := some (.tag, c.position) }

/-! ### Directives -/

/-- A number of a version, of at most nine digits. -/
def takeVersionNumber (start : Position) (c : Cursor) : Except Fault (Nat × Cursor) :=
  let (digits, d) := c.takeWhile Char.isDigit
  let fault (p : Problem) (q : Position) : Fault :=
    { problem := p, position := q, activity := some (.versionDirective, start) }
  if digits.isEmpty then .error (fault .noVersionNumber c.position)
  else if 9 < digits.length then .error (fault .longVersionNumber (c.skipMany 9).position)
  else .ok (digits.foldl (fun n d => 10 * n + (d.toNat - 48)) 0, d)

/-- The version of a version directive. -/
def takeVersion (start : Position) (c : Cursor) : Except Fault (TokenKind × Cursor) := do
  let (major, c) ← takeVersionNumber start (c.skipWhile isBlank)
  if !startsWith '.' c.rest then
    throw { problem := .noVersionSeparator, position := c.position, activity := some (.versionDirective, start) }
  let (minor, c) ← takeVersionNumber start c.skip
  return (.version major minor, c)

/-- The handle and the expansion of a tag directive. -/
def takeTagShorthand (start : Position) (c : Cursor) : Except Fault (TokenKind × Cursor) := do
  let c := c.skipWhile isBlank
  if !startsWith '!' c.rest then
    throw { problem := .noTagBang, position := c.position, activity := some (.directiveHandleStart, start) }
  let (handle, c) := takeHandle c
  if handle != ['!'] && !isHandle handle then
    throw { problem := .noTagBang, position := c.position, activity := some (.directiveHandle, start) }
  if !atBlank c.rest then
    throw { problem := .noWhitespace, position := c.position, activity := some (.tagDirective, start) }
  let (uri, c) ← takeUri true (.directiveUri, start) [] (c.skipWhile isBlank)
  if !endsWord c.rest then
    throw { problem := .noWhitespaceOrBreak, position := c.position, activity := some (.tagDirective, start) }
  return (.tagShorthand handle uri, c)

/-- The directive at the cursor, where it stops, and the cursor on the next line. -/
def takeDirective (c : Cursor) : Except Fault (TokenKind × Position × Cursor) := do
  let start := c.position
  let fault (p : Problem) (q : Position) : Fault :=
    { problem := p, position := q, activity := some (.directive, start) }
  let (name, c) := c.skip.takeWhile isNameChar
  if name.isEmpty then throw (fault .noDirectiveName c.position)
  if !endsWord c.rest then throw (fault .badDirectiveName c.position)
  let (kind, c) ←
    if name = "YAML".toList then takeVersion start c
    else if name = "TAG".toList then takeTagShorthand start c
    else throw (fault .unknownDirective c.position)
  let stop := c.position
  let c := c.skipComment
  if !atLineEnd c.rest then throw (fault .noCommentOrBreak c.position)
  return (kind, stop, c.skipBreak)

end ChartTrace.Yaml
