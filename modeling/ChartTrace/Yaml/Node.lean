import ChartTrace.Yaml.Event

namespace ChartTrace.Yaml

/-!
# Documents as trees

The events of a stream are grouped into documents, and those of a document into a tree.  A document that cannot
be read to its end is cut, and knows why.

* `Node`: a tree with references to anchors.
* `Document`: a tree with the nodes that its anchors name.
* `documents`: the documents of a stream.

An anchor is known by a number: how many names had an anchor before it.  A name that is used again gets a new
number, which the next new name may share.  A number stands for the last node that starts with it.
-/

/-- Why a document is cut. -/
inductive CutCause where
  | fault (f : Fault)
  /-- A reference to a name that has no anchor. -/
  | unknownAnchor (position : Position)
deriving DecidableEq, Repr

/-- A node of a document. -/
inductive Node where
  | scalar (position : Position) (tag : Option Bytes) (text : List Char) (style : ScalarStyle)
  | sequence (position : Position) (tag : Option Bytes) (items : List Node)
  | mapping (position : Position) (tag : Option Bytes) (entries : List (Node × Node))
  /-- A reference to the anchor of a number. -/
  | reference (anchor : Nat)
  /-- The document cannot be read from here on. -/
  | cut (cause : CutCause)
deriving Repr

/-- The empty plain scalar at a place. -/
def Node.empty (position : Position) : Node := .scalar position none [] .plain

/-- Whether a node is a reference to an anchor. -/
def Node.isReference : Node → Bool
  | .reference _ => true
  | _ => false

/-- The tag of a node. -/
def Node.tag? : Node → Option Bytes
  | .scalar _ t _ _ | .sequence _ t _ | .mapping _ t _ => t
  | .reference _ | .cut _ => none

/-- A node that an anchor names. -/
structure AnchoredNode where
  /-- The number of the anchor. -/
  anchor : Nat
  /-- The number of events before the node. -/
  start : Nat
  node : Node

/-- A document. -/
structure Document where
  root : Node
  anchors : List AnchoredNode
  /-- The number of events in the document. -/
  size : Nat
  /-- Why the document is cut. -/
  cause : Option CutCause

/-- The node that the anchor of a number stands for. -/
def Document.target? (d : Document) (anchor : Nat) : Option Node :=
  let nodes := d.anchors.filter fun a => a.anchor == anchor
  (nodes.foldl (fun best a =>
    match best with
    | some b => if b.start < a.start then some a else some b
    | none => some a) none).map (·.node)

/-! ### Building a tree -/

/-- A collection whose end is still to come, with what it holds so far, last first. -/
inductive OpenNode where
  | sequence (position : Position) (tag : Option Bytes) (items : List Node)
  | mapping (position : Position) (tag : Option Bytes) (entries : List (Node × Node)) (key : Option Node)

/-- An open collection, with its anchor and the number of events before it. -/
structure Frame where
  content : OpenNode
  anchor : Option Nat
  start : Nat

/-- A document that is being built. -/
structure Builder where
  /-- The open collections, innermost first. -/
  frames : List Frame := []
  root : Option Node := none
  anchors : List AnchoredNode := []
  /-- The names that have an anchor, with their numbers. -/
  names : List (List Char × Nat) := []
  size : Nat := 0

/-- The collection with one more node in it. -/
def OpenNode.add (n : Node) : OpenNode → OpenNode
  | .sequence p t items => .sequence p t (n :: items)
  | .mapping p t entries none => .mapping p t entries (some n)
  | .mapping p t entries (some k) => .mapping p t ((k, n) :: entries) none

/-- The node of a complete collection. -/
def OpenNode.close : OpenNode → Node
  | .sequence p t items => .sequence p t items.reverse
  | .mapping p t entries _ => .mapping p t entries.reverse

namespace Builder

/-- Adds a complete node. -/
def add (b : Builder) (n : Node) : Builder :=
  match b.frames with
  | [] => { b with root := some n }
  | f :: fs => { b with frames := { f with content := f.content.add n } :: fs }

/-- Names a complete node by its anchor. -/
def record (b : Builder) (anchor : Option Nat) (start : Nat) (n : Node) : Builder :=
  match anchor with
  | none => b
  | some a => { b with anchors := ⟨a, start, n⟩ :: b.anchors }

/-- Gives a name its next number. -/
def number (b : Builder) (name : Option (List Char)) : Option Nat × Builder :=
  match name with
  | none => (none, b)
  | some name =>
    let n := b.names.length
    (some n, { b with names := (name, n) :: b.names.filter fun k => k.1 != name })

/-- Counts an event. -/
def count (b : Builder) : Builder := { b with size := b.size + 1 }

/-- Opens a collection. -/
def openNode (b : Builder) (name : Option (List Char)) (content : OpenNode) : Builder :=
  let (anchor, b) := b.number name
  { b with frames := ⟨content, anchor, b.size⟩ :: b.frames }.count

/-- Closes the innermost collection. -/
def closeNode (b : Builder) : Builder :=
  match b.frames with
  | [] => b
  | f :: fs =>
    let n := f.content.close
    ({ b with frames := fs }.add n).record f.anchor f.start n

/-- The collection that is cut after what it holds. -/
def cutContent (cause : CutCause) : OpenNode → OpenNode
  | .sequence p t items => .sequence p t (.cut cause :: items)
  | .mapping p t entries key => .mapping p t ((key.getD (.cut cause), .cut cause) :: entries) none

/-- Cuts and closes the innermost `n` collections. -/
def cutNodes (cause : CutCause) : Nat → Builder → Builder
  | 0, b => b
  | n + 1, b =>
    match b.frames with
    | [] => b
    | f :: fs =>
      cutNodes cause n { b with frames := { f with content := cutContent cause f.content } :: fs }.closeNode

/-- The document that ends here. -/
def finish (b : Builder) : Document := ⟨b.root.getD (.empty .origin), b.anchors, b.size, none⟩

/-- The document that is cut here. -/
def cut (b : Builder) (cause : CutCause) : Document :=
  let closed := cutNodes cause b.frames.length b
  ⟨closed.root.getD (.cut cause), closed.anchors, b.size, some cause⟩

end Builder

/-! ### Documents of a stream -/

/-- The documents of events, after `n` documents and with one that is being built. -/
def documentsFrom (fault : Option Fault) (n : Nat) (b : Builder) : List PlacedEvent → List Document
  | [] =>
    match fault with
    | some f => [b.cut (.fault f)]
    | none => []
  | ⟨event, position⟩ :: es =>
    match event with
    | .streamEnd =>
      if n = 0 then [{ root := .empty position, anchors := [], size := 1, cause := none }] else []
    | .documentStart => documentsFrom fault n b es
    | .documentEnd => b.finish :: documentsFrom fault (n + 1) {} es
    | .alias name =>
      match b.names.find? fun k => k.1 == name with
      | some k => documentsFrom fault n (b.add (.reference k.2)).count es
      | none => [b.cut (.unknownAnchor position)]
    | .scalar anchor tag text style =>
      let (anchor, c) := b.number anchor
      let node := .scalar position tag text style
      documentsFrom fault n ((c.add node).record anchor b.size node).count es
    | .sequenceStart anchor tag => documentsFrom fault n (b.openNode anchor (.sequence position tag [])) es
    | .mappingStart anchor tag => documentsFrom fault n (b.openNode anchor (.mapping position tag [] none)) es
    | .sequenceEnd | .mappingEnd => documentsFrom fault n b.closeNode.count es

/-- The documents of a stream.  A stream without documents has an empty one. -/
def documents (es : List PlacedEvent) (fault : Option Fault) : List Document := documentsFrom fault 0 {} es

end ChartTrace.Yaml
