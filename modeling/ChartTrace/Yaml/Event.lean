import ChartTrace.Yaml.Fault
import ChartTrace.Yaml.Token

namespace ChartTrace.Yaml

/-!
# Events of a stream

A stream of tokens, read as documents, collections and scalars.

* `Event`, `PlacedEvent`: what a stream consists of.
* `ParseState`: what is expected next.
* `Parser.step`: the next event.
* `events`: the events of a stream, and the fault that ends them.
-/

/-- The parts of a stream.  A tag is given in full. -/
inductive Event where
  | streamEnd
  | documentStart
  | documentEnd
  | alias (name : List Char)
  | scalar (anchor : Option (List Char)) (tag : Option Bytes) (text : List Char) (style : ScalarStyle)
  | sequenceStart (anchor : Option (List Char)) (tag : Option Bytes)
  | sequenceEnd
  | mappingStart (anchor : Option (List Char)) (tag : Option Bytes)
  | mappingEnd
deriving DecidableEq, Repr

/-- An event and where it starts. -/
structure PlacedEvent where
  event : Event
  position : Position
deriving DecidableEq, Repr

/-- What is expected next. -/
inductive ParseState where
  /-- The first document, which needs no start. -/
  | firstDocument
  | document
  | documentContent
  | documentEnd
  | blockNode
  | blockSequenceStart
  | blockSequenceEntry
  /-- An entry of a sequence that is not indented more than the mapping around it. -/
  | indentlessEntry
  | blockMappingStart
  | blockMappingKey
  | blockMappingValue
  | flowSequenceStart
  | flowSequenceEntry
  /-- The key of a single pair within a flow sequence. -/
  | pairKey
  | pairValue
  | pairEnd
  | flowMappingStart
  | flowMappingKey
  | flowMappingValue
  | flowMappingNoValue
  | finished
deriving DecidableEq, Repr

/-- The tokens that are left and what is expected of them. -/
structure Parser where
  tokens : List Token
  /-- The fault that ends the tokens. -/
  fault : Option Fault
  state : ParseState := .firstDocument
  /-- What is expected behind the current node. -/
  stack : List ParseState := []
  /-- Where the open collections start. -/
  starts : List Position := []
  /-- The handles of tags, with their expansions. -/
  handles : List (List Char × Bytes) := []

/-- The handles that every document knows. -/
def defaultHandles : List (List Char × Bytes) := [(['!'], utf8 "!"), (['!', '!'], utf8 "tag:yaml.org,2002:")]

/-- The event of an empty plain scalar. -/
def emptyScalar : Event := .scalar none none [] .plain

/-- An event, where it starts, and what is left. -/
abbrev Step := Except Fault (PlacedEvent × Parser)

namespace Parser

/-- The next token. -/
def peek (p : Parser) : Except Fault Token :=
  match p.tokens, p.fault with
  | t :: _, _ => .ok t
  | [], some f => .error f
  | [], none => .ok ⟨.streamEnd, .origin, .origin⟩

/-- Moves over the next token. -/
def skip (p : Parser) : Parser := { p with tokens := p.tokens.tail }

/-- The parser in another state. -/
def goTo (p : Parser) (state : ParseState) : Parser := { p with state }

/-- The parser in the state behind the current node. -/
def leave (p : Parser) : Parser :=
  match p.stack with
  | [] => { p with state := .finished }
  | state :: stack => { p with state, stack }

/-- The parser that returns to a state behind the next node. -/
def returnTo (p : Parser) (state : ParseState) : Parser := { p with stack := state :: p.stack }

/-- The parser with a collection that starts at the next token. -/
def openCollection (p : Parser) (start : Position) : Parser := { p with starts := start :: p.starts }

/-- The parser without its innermost collection. -/
def closeCollection (p : Parser) : Parser := { p.leave with starts := p.starts.tail }

/-- Where the innermost collection starts. -/
def start (p : Parser) : Position := p.starts.headD .origin

/-- An event and what is left. -/
def emit (p : Parser) (event : Event) (position : Position) : Step := .ok (⟨event, position⟩, p)

/-- An empty scalar before what is expected next. -/
def emitEmpty (p : Parser) (state : ParseState) (position : Position) : Step :=
  (p.goTo state).emit emptyScalar position

/-! ### Nodes -/

/-- What stands before the content of a node. -/
structure Properties where
  anchor : Option (List Char) := none
  /-- The handle and the suffix of a tag, and where it starts. -/
  tag : Option (List Char × Bytes × Position) := none
  /-- Where the node starts. -/
  start : Position

/-- The anchor and the tag before a node, in either order. -/
def properties (p : Parser) : Except Fault (Properties × Parser) := do
  let t ← p.peek
  match t.kind with
  | .anchor name =>
    let p := p.skip
    let u ← p.peek
    match u.kind with
    | .tag handle suffix => return ({ anchor := name, tag := some (handle, suffix, u.start), start := t.start }, p.skip)
    | _ => return ({ anchor := name, start := t.start }, p)
  | .tag handle suffix =>
    let p := p.skip
    let tag := some (handle, suffix, t.start)
    let u ← p.peek
    match u.kind with
    | .anchor name => return ({ anchor := name, tag, start := t.start }, p.skip)
    | _ => return ({ tag, start := t.start }, p)
  | _ => return ({ start := t.start }, p)

/-- The tag of a node in full. -/
def fullTag (p : Parser) (properties : Properties) : Except Fault (Option Bytes) :=
  match properties.tag with
  | none => .ok none
  | some ([], suffix, _) => .ok (some suffix)
  | some (handle, suffix, position) =>
    match p.handles.find? fun h => h.1 == handle with
    | some (_, expansion) => .ok (some (expansion ++ suffix))
    | none =>
      .error { problem := .undefinedTagHandle, position, activity := some (.node, properties.start) }

/-- The node at the next token.  Block collections are nodes only in a block; with `indentless` an entry starts a
sequence of its own. -/
def node (p : Parser) (block indentless : Bool) : Step := do
  let t ← p.peek
  if let .alias name := t.kind then
    return (⟨.alias name, t.start⟩, p.leave.skip)
  let (properties, p) ← p.properties
  let t ← p.peek
  let tag ← p.fullTag properties
  let anchor := properties.anchor
  let start := properties.start
  match t.kind with
  | .scalar text style =>
    let tag := if tag == some (utf8 "!") then none else tag
    p.leave.skip.emit (.scalar anchor tag text style) start
  | .flowSequenceStart => (p.goTo .flowSequenceStart).emit (.sequenceStart anchor tag) start
  | .flowMappingStart => (p.goTo .flowMappingStart).emit (.mappingStart anchor tag) start
  | kind =>
    if indentless && kind == .blockEntry then
      (p.goTo .indentlessEntry).emit (.sequenceStart anchor tag) start
    else if block && kind == .blockSequenceStart then
      (p.goTo .blockSequenceStart).emit (.sequenceStart anchor tag) start
    else if block && kind == .blockMappingStart then
      (p.goTo .blockMappingStart).emit (.mappingStart anchor tag) start
    else if anchor.isSome || tag.isSome then p.leave.emit (.scalar anchor tag [] .plain) start
    else
      throw { problem := .noNodeContent, position := t.start,
              activity := some (if block then .blockNode else .flowNode, start) }

/-! ### Documents -/

/-- The directives before a document, and the handles they define. -/
def directives (p : Parser) : Except Fault Parser := go p.tokens.length p false []
where
  go : Nat → Parser → Bool → List (List Char × Bytes) → Except Fault Parser
    | 0, p, _, _ => .ok p
    | fuel + 1, p, versioned, handles => do
      let t ← p.peek
      match t.kind with
      | .version major minor =>
        if versioned then throw { problem := .duplicateVersion, position := t.start }
        if major != 1 || (minor != 1 && minor != 2) then
          throw { problem := .incompatibleVersion, position := t.start }
        go fuel p.skip true handles
      | .tagShorthand handle expansion =>
        if handles.any fun h => h.1 == handle then
          throw { problem := .duplicateTagHandle, position := t.start }
        go fuel p.skip versioned (handles ++ [(handle, expansion)])
      | _ => return { p with handles := handles ++ defaultHandles }

/-- Moves over the ends of documents. -/
def skipDocumentEnds (p : Parser) : Parser :=
  { p with tokens := p.tokens.dropWhile fun t => t.kind == .documentEnd }

/-- Whether a token starts a document or its directives, or ends the stream. -/
def beginsDocument (k : TokenKind) : Bool :=
  match k with
  | .version _ _ | .tagShorthand _ _ | .documentStart | .streamEnd => true
  | _ => false

/-- The start of a document, or the end of the stream. -/
def documentStart (p : Parser) (first : Bool) : Step := do
  let p := if first then p else p.skipDocumentEnds
  let t ← p.peek
  if t.kind == .streamEnd then (p.goTo .finished).skip.emit .streamEnd t.start
  else if first && !beginsDocument t.kind then
    (({ p with handles := defaultHandles }.returnTo .documentEnd).goTo .blockNode).emit .documentStart t.start
  else do
    let p ← p.directives
    let u ← p.peek
    if u.kind != .documentStart then throw { problem := .noDocumentStart, position := u.start }
    ((p.returnTo .documentEnd).goTo .documentContent).skip.emit .documentStart t.start

/-- The content of a document behind its start. -/
def documentContent (p : Parser) : Step := do
  let t ← p.peek
  if beginsDocument t.kind || t.kind == .documentEnd then p.leave.emit emptyScalar t.start
  else p.node true false

/-- The end of a document. -/
def documentEnd (p : Parser) : Step := do
  let t ← p.peek
  let p := if t.kind == .documentEnd then p.skip else p
  (p.goTo .document).emit .documentEnd t.start

/-! ### Block collections -/

/-- Whether a token is one of some kinds. -/
def isOneOf (t : Token) (kinds : List TokenKind) : Bool := kinds.contains t.kind

/-- The node behind an indicator at `t`, or an empty one before the tokens in `ends`; then `state` is expected. -/
def nodeBehind (p : Parser) (t : Token) (ends : List TokenKind) (indentless : Bool) (state : ParseState) :
    Step := do
  let p := p.skip
  let u ← p.peek
  if isOneOf u ends then p.emitEmpty state t.stop else (p.returnTo state).node true indentless

/-- An entry of a block sequence, or its end. -/
def blockSequenceEntry (p : Parser) : Step := do
  let t ← p.peek
  match t.kind with
  | .blockEntry => p.nodeBehind t [.blockEntry, .blockEnd] false .blockSequenceEntry
  | .blockEnd => p.closeCollection.skip.emit .sequenceEnd t.start
  | _ => throw { problem := .noEntryIndicator, position := t.start, activity := some (.blockSequence, p.start) }

/-- An entry of a sequence that is not indented, or its end. -/
def indentlessEntry (p : Parser) : Step := do
  let t ← p.peek
  match t.kind with
  | .blockEntry => p.nodeBehind t [.blockEntry, .key, .value, .blockEnd] false .indentlessEntry
  | _ => p.leave.emit .sequenceEnd t.start

/-- A key of a block mapping, or its end. -/
def blockMappingKey (p : Parser) : Step := do
  let t ← p.peek
  match t.kind with
  | .key => p.nodeBehind t [.key, .value, .blockEnd] true .blockMappingValue
  | .blockEnd => p.closeCollection.skip.emit .mappingEnd t.start
  | _ => throw { problem := .noMappingKey, position := t.start, activity := some (.blockMapping, p.start) }

/-- A value of a block mapping. -/
def blockMappingValue (p : Parser) : Step := do
  let t ← p.peek
  match t.kind with
  | .value => p.nodeBehind t [.key, .value, .blockEnd] true .blockMappingKey
  | _ => p.emitEmpty .blockMappingKey t.start

/-! ### Flow collections -/

/-- Moves over the comma before an entry that is not the first. -/
def separator (p : Parser) (first : Bool) (problem : Problem) (activity : Activity) : Except Fault Parser := do
  if first then return p
  let t ← p.peek
  if t.kind == .flowEntry then return p.skip
  else throw { problem, position := t.start, activity := some (activity, p.start) }

/-- An entry of a flow sequence, or its end. -/
def flowSequenceEntry (p : Parser) (first : Bool) : Step := do
  let t ← p.peek
  if t.kind == .flowSequenceEnd then p.closeCollection.skip.emit .sequenceEnd t.start
  else do
    let p ← p.separator first .noFlowSequenceSeparator .flowSequence
    let t ← p.peek
    match t.kind with
    | .key => (p.goTo .pairKey).skip.emit (.mappingStart none none) t.start
    | .flowSequenceEnd => p.closeCollection.skip.emit .sequenceEnd t.start
    | _ => (p.returnTo .flowSequenceEntry).node false false

/-- The key of a single pair.  The token behind an empty key is passed over with it. -/
def pairKey (p : Parser) : Step := do
  let t ← p.peek
  if isOneOf t [.value, .flowEntry, .flowSequenceEnd] then p.skip.emitEmpty .pairValue t.stop
  else (p.returnTo .pairValue).node false false

/-- A flow value behind a colon, before the tokens in `ends` an empty one; then `state` is expected. -/
def flowValue (p : Parser) (ends : List TokenKind) (state : ParseState) : Step := do
  let t ← p.peek
  if t.kind == .value then
    let p := p.skip
    let u ← p.peek
    if isOneOf u ends then p.emitEmpty state u.start else (p.returnTo state).node false false
  else p.emitEmpty state t.start

/-- The end of a single pair. -/
def pairEnd (p : Parser) : Step := do
  let t ← p.peek
  (p.goTo .flowSequenceEntry).emit .mappingEnd t.start

/-- A key of a flow mapping, or its end. -/
def flowMappingKey (p : Parser) (first : Bool) : Step := do
  let t ← p.peek
  if t.kind == .flowMappingEnd then p.closeCollection.skip.emit .mappingEnd t.start
  else do
    let p ← p.separator first .noFlowMappingSeparator .flowMapping
    let t ← p.peek
    match t.kind with
    | .key =>
      let p := p.skip
      let u ← p.peek
      if isOneOf u [.value, .flowEntry, .flowMappingEnd] then p.emitEmpty .flowMappingValue u.start
      else (p.returnTo .flowMappingValue).node false false
    | .flowMappingEnd => p.closeCollection.skip.emit .mappingEnd t.start
    | _ => (p.returnTo .flowMappingNoValue).node false false

/-- The start of a collection, whose first token is still to come. -/
def enter (p : Parser) (first : Parser → Step) : Step := do
  let t ← p.peek
  first (p.openCollection t.start).skip

/-- The next event. -/
def step (p : Parser) : Step :=
  match p.state with
  | .firstDocument => p.documentStart true
  | .document => p.documentStart false
  | .documentContent => p.documentContent
  | .documentEnd => p.documentEnd
  | .blockNode => p.node true false
  | .blockSequenceStart => p.enter blockSequenceEntry
  | .blockSequenceEntry => p.blockSequenceEntry
  | .indentlessEntry => p.indentlessEntry
  | .blockMappingStart => p.enter blockMappingKey
  | .blockMappingKey => p.blockMappingKey
  | .blockMappingValue => p.blockMappingValue
  | .flowSequenceStart => p.enter fun p => p.flowSequenceEntry true
  | .flowSequenceEntry => p.flowSequenceEntry false
  | .pairKey => p.pairKey
  | .pairValue => p.flowValue [.flowEntry, .flowSequenceEnd] .pairEnd
  | .pairEnd => p.pairEnd
  | .flowMappingStart => p.enter fun p => p.flowMappingKey true
  | .flowMappingKey => p.flowMappingKey false
  | .flowMappingValue => p.flowValue [.flowEntry, .flowMappingEnd] .flowMappingKey
  | .flowMappingNoValue => do
    let t ← p.peek
    p.emitEmpty .flowMappingKey t.start
  | .finished => p.emit .streamEnd .origin

/-- The events from a state on, and the fault that ends them. -/
def run : Nat → Parser → List PlacedEvent × Option Fault
  | 0, _ => ([], none)
  | fuel + 1, p =>
    match p.step with
    | .error f => ([], some f)
    | .ok (e, p) =>
      if e.event = .streamEnd then ([e], none)
      else
        let (es, fault) := run fuel p
        (e :: es, fault)

end Parser

/-- The events of a stream of tokens, and the fault that ends them.  No token is behind more than four events. -/
def events (tokens : List Token) (fault : Option Fault) : List PlacedEvent × Option Fault :=
  Parser.run (4 * tokens.length + 8) { tokens, fault }

end ChartTrace.Yaml
