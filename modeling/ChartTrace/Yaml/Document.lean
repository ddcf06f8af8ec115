import ChartTrace.Diagnostic
import ChartTrace.Text.Line
import ChartTrace.Yaml.Node
import ChartTrace.Yaml.Scalar
import ChartTrace.Yaml.Token.Scan

namespace ChartTrace.Yaml

/-!
# Reading YAML text

* `Error`, `Error.text`, `Error.toMarked`: why a text has no value.
* `Document.value`: the value of a document.  What is wrong with the values before a cut counts first.
* `readDocuments`: the values of all documents of a text.
* `readDocument`: the value of a text with a single document.
-/

/-- A step from a collection to a node in it. -/
inductive PathStep where
  | item (index : Nat)
  | key (text : List Char)
  /-- A value whose key is no scalar. -/
  | unknownKey
deriving DecidableEq, Repr

/-- The steps from the root of a document, the last one first. -/
abbrev Path := List PathStep

/-- The text of a path. -/
def pathText : Path → String
  | [] => "."
  | .item i :: parent => pathText parent ++ "[" ++ decimalText i ++ "]"
  | .key text :: parent => before parent ++ String.ofList text
  | .unknownKey :: parent => before parent ++ "?"
where
  /-- A path that a key follows. -/
  before : Path → String
    | [] => ""
    | step :: parent => pathText (step :: parent) ++ "."

/-- Why a text has no value. -/
inductive Error where
  | cut (cause : CutCause)
  | value (problem : ValueProblem) (position : Position) (path : Path)
  /-- More collections within each other than are followed. -/
  | tooDeep (position : Position)
  /-- More references to anchors than are followed. -/
  | tooManyReferences
  | severalDocuments

/-- Where an error is. -/
def Error.position? : Error → Option Position
  | .cut (.fault f) => some f.position
  | .cut (.unknownAnchor p) | .value _ p _ | .tooDeep p => some p
  | .tooManyReferences | .severalDocuments => none

/-- What an error says besides its place. -/
def Error.message : Error → String
  | .cut (.fault f) => f.problem.message
  | .cut (.unknownAnchor _) => "unknown anchor"
  | .value problem _ path =>
    -- A path is shown unless it reads like that of the root, as the key `.` there does.
    if pathText path = pathText [] then problem.message else pathText path ++ ": " ++ problem.message
  | .tooDeep _ => "recursion limit exceeded"
  | .tooManyReferences => "repetition limit exceeded"
  | .severalDocuments => "deserializing from YAML containing more than one document is not supported"

/-- The wording of an error with its places. -/
def Error.text : Error → String
  | .cut (.fault f) => f.text
  | e => e.message ++ ((e.position?.map Position.text).getD "")

/-- The error with its place apart from its wording.  The wording ends before the last place that it names. -/
def Error.toMarked (e : Error) : MarkedError :=
  match e.position? with
  | none => { problem := e.text }
  | some p =>
    { problem := String.ofList (beforeLast " at line ".toList e.text.toList)
      problemMark := some ⟨p.line, p.column⟩ }

/-! ### Values of nodes -/

/-- How many collections may be within each other. -/
def depthLimit : Nat := 128

/-- How many references to anchors are followed for each event of a document. -/
def referencesPerEvent : Nat := 100

/-- The text of a local tag: what follows its mark, unless that is all. -/
def localTag? : Option Bytes → Option (List Char)
  | some (33 :: rest) => (readUtf8? (if rest.isEmpty then [33] else rest)).map String.toList
  | _ => none

/-- The tag as it is shown, with one mark in front of its name. -/
def shownTag (tag : List Char) : List Char :=
  match tag with
  | '!' :: c :: cs => '!' :: c :: cs
  | tag => '!' :: tag

/-- Building a value, counting the references that are followed. -/
abbrev Build := StateT Nat (Except Error)

/-- The step from a mapping to the value of a key. -/
def keyStep : Node → PathStep
  | .scalar _ _ text _ => .key text
  | _ => .unknownKey

/-- The values of the items of a sequence from an index on. -/
def buildItems (build : Path → Node → Build Value) (path : Path) : Nat → List Node → Build (List Value)
  | _, [] => pure []
  | i, n :: ns => do
    let v ← build (.item i :: path) n
    let vs ← buildItems build path (i + 1) ns
    return v :: vs

/-- The entries of a mapping behind `done`, which are in reverse; no two have the same key. -/
def buildEntries (buildKey build : Path → Node → Build Value) (position : Position) (path : Path) :
    List (Value × Value) → List (Node × Node) → Build (List (Value × Value))
  | done, [] => pure done.reverse
  | done, (k, v) :: rest => do
    let key ← buildKey path k
    match done.find? fun e => e.1.same key with
    | some e => throw (.value (.duplicateKey e.1) position path)
    | none =>
      let value ← build (keyStep k :: path) v
      buildEntries buildKey build position path ((key, value) :: done) rest

/-- The value of a scalar.  A tag that has been taken off already does not count. -/
def buildScalar (untagged : Bool) (position : Position) (tag : Option Bytes) (text : List Char)
    (style : ScalarStyle) (path : Path) : Build Value :=
  let value :=
    match tag, untagged with
    | some tag, false => taggedScalar tag text
    | _, _ => scalarValue text style
  match value with
  | .ok v => pure v
  | .error problem => throw (.value problem position path)

namespace Document

/-- The node that a reference stands for; other nodes stand for themselves. -/
def follow (d : Document) (n : Node) : Build Node :=
  match n with
  | .reference anchor => do
    let count := (← get) + 1
    if referencesPerEvent * d.size < count then throw .tooManyReferences
    set count
    return (d.target? anchor).getD n
  | n => pure n

/-- The value of a node, once a tag of its own has been taken off.  With `inner` the nodes in it are built; there is
none where as many collections are within each other as may be. -/
def buildContent (inner : Option (Bool → Path → Node → Build Value)) (untagged : Bool) (path : Path) :
    Node → Build Value
  | .scalar p t text style => buildScalar untagged p t text style path
  | .sequence p _ items =>
    match inner with
    | some build => .sequence <$> buildItems (build false) path 0 items
    | none => throw (.tooDeep p)
  | .mapping p _ entries =>
    match inner with
    | some build => .mapping <$> buildEntries (build untagged) (build false) p path [] entries
    | none => throw (.tooDeep p)
  | .cut cause => throw (.cut cause)
  | .reference _ => throw .tooManyReferences

/-- The value of a node with its tag.  With `untagged` its own tag and those of its keys have been taken off. -/
def buildNode (d : Document) (inner : Option (Bool → Path → Node → Build Value)) (untagged : Bool) (path : Path)
    (n : Node) : Build Value := do
  let untagged := untagged && !n.isReference
  let n ← d.follow n
  let tag := if untagged then none else localTag? n.tag?
  let value ← buildContent inner (untagged || tag.isSome) path n
  return match tag with
    | some t => .tagged (shownTag t) value
    | none => value

/-- The value of a node, with at most `depth` collections within each other. -/
def build (d : Document) : Nat → Bool → Path → Node → Build Value
  | 0 => d.buildNode none
  | depth + 1 => d.buildNode (some (d.build depth))

/-- The value of a document. -/
def value (d : Document) : Except Error Value := do
  let (v, _) ← (d.build depthLimit false [] d.root).run 0
  match d.cause with
  | some cause => throw (.cut cause)
  | none => return v

end Document

/-! ### Values of texts -/

/-- The documents of a text. -/
def parseDocuments (text : List Char) : List Document :=
  let (ts, fault) := tokens text
  let (es, fault) := events ts fault
  documents es fault

/-- The values of all documents of a text, up to the first that has none. -/
def readDocuments (text : List Char) : Except Error (List Value) := (parseDocuments text).mapM Document.value

/-- The value of a text with a single document. -/
def readDocument (text : List Char) : Except Error Value :=
  match parseDocuments text with
  | [] => .ok .null
  | d :: ds => do
    let v ← d.value
    if ds.isEmpty then return v else throw .severalDocuments

end ChartTrace.Yaml
