import ChartTrace.Template.Node
import ChartTrace.Wire.Message

namespace ChartTrace

/-!
# Unpacking syntax trees

The nodes of a tree arrive as payloads.  A payload that names no kind of node, or whose bytes are not a
message of its kind, is left out; the nodes beside it are not affected.

* `NodeMessage`, `decodePayload`: the message of a payload, or a `Complaint`.
* `unpackNode?`, `unpackNodes`: the nodes of payloads.  Payloads within a payload are shorter than it, so
  its length bounds the depth.
* `complaints`: what is said about the payloads that are left out, in the order of reading.
* `Tree.ofMessage?`: a whole tree; one without a root is none.
-/

/-- The message of a node, by kind. -/
inductive NodeMessage where
  | action (m : Wire.ActionNode)
  | bool (m : Wire.BoolNode)
  | breakLoop (m : Wire.Header)
  | chain (m : Wire.ChainNode)
  | command (m : Wire.ParentNode)
  | comment (m : Wire.TextualNode)
  | continueLoop (m : Wire.Header)
  | dot (m : Wire.Header)
  | field (m : Wire.PathNode)
  | identifier (m : Wire.TextualNode)
  | ifElse (m : Wire.BranchingNode)
  | list (m : Wire.ParentNode)
  | nil (m : Wire.Header)
  | number (m : Wire.TextualNode)
  | pipe (m : Wire.PipeNode)
  | range (m : Wire.BranchingNode)
  | string (m : Wire.StringNode)
  | template (m : Wire.TemplateNode)
  | text (m : Wire.LiteralNode)
  | var (m : Wire.PathNode)
  | withScope (m : Wire.BranchingNode)

/-- Why a payload is left out. -/
inductive Complaint where
  /-- The URL names no kind of node. -/
  | unknownType (typeUrl : String)
  /-- The bytes are no message of the named type. -/
  | undecodable (name : String) (error : Wire.DecodeError)

/-- The wording of a complaint. -/
def Complaint.message : Complaint → String
  | .unknownType typeUrl => "Unknown node type: " ++ typeUrl
  | .undecodable name e => "Failed to decode node of type " ++ name ++ ": " ++ e.message

/-- The part of a type URL after its last slash or dot. -/
def typeName (typeUrl : String) : String :=
  String.ofList (typeUrl.toList.reverse.takeWhile fun c => c != '/' && c != '.').reverse

/-- The reader of the messages of a named node type. -/
def messageReader? (name : String) : Option (Bytes → Except Wire.DecodeError NodeMessage) :=
  match name with
  | "ActionNode" => some fun bs => .action <$> Wire.actionLayout.decode bs
  | "BoolNode" => some fun bs => .bool <$> Wire.boolLayout.decode bs
  | "BreakNode" => some fun bs => .breakLoop <$> (Wire.plainLayout name).decode bs
  | "ChainNode" => some fun bs => .chain <$> Wire.chainLayout.decode bs
  | "CommandNode" => some fun bs => .command <$> Wire.commandLayout.decode bs
  | "CommentNode" => some fun bs => .comment <$> (Wire.textualLayout name "text").decode bs
  | "ContinueNode" => some fun bs => .continueLoop <$> (Wire.plainLayout name).decode bs
  | "DotNode" => some fun bs => .dot <$> (Wire.plainLayout name).decode bs
  | "FieldNode" => some fun bs => .field <$> (Wire.pathLayout name).decode bs
  | "IdentifierNode" => some fun bs => .identifier <$> (Wire.textualLayout name "ident").decode bs
  | "IfNode" => some fun bs => .ifElse <$> (Wire.branchingLayout name).decode bs
  | "ListNode" => some fun bs => .list <$> Wire.listLayout.decode bs
  | "NilNode" => some fun bs => .nil <$> (Wire.plainLayout name).decode bs
  | "NumberNode" => some fun bs => .number <$> (Wire.textualLayout name "text").decode bs
  | "PipeNode" => some fun bs => .pipe <$> Wire.pipeLayout.decode bs
  | "RangeNode" => some fun bs => .range <$> (Wire.branchingLayout name).decode bs
  | "StringNode" => some fun bs => .string <$> Wire.stringLayout.decode bs
  | "TemplateNode" => some fun bs => .template <$> Wire.templateLayout.decode bs
  | "TextNode" => some fun bs => .text <$> Wire.literalLayout.decode bs
  | "VariableNode" => some fun bs => .var <$> Wire.variableLayout.decode bs
  | "WithNode" => some fun bs => .withScope <$> (Wire.branchingLayout name).decode bs
  | _ => none

/-- The message of a payload. -/
def decodePayload (p : Wire.Payload) : Except Complaint NodeMessage :=
  let name := typeName p.typeUrl
  match messageReader? name with
  | none => .error (.unknownType p.typeUrl)
  | some read => (read p.value).mapError fun e => .undecodable name e

/-! ### From messages to nodes -/

/-- A location given by signed numbers; negative ones count as 0. -/
def Location.ofSigned (position length : Int64) : Location := ⟨position.toInt.toNat, length.toInt.toNat⟩

/-- The location in a header. -/
def Wire.Header.location (h : Wire.Header) : Location := .ofSigned h.position h.length

/-- The variable of a message. -/
def Wire.PathNode.toVariable (m : Wire.PathNode) : Variable := ⟨m.header.location, m.identifiers⟩

section

variable (unpack : Wire.Payload → Option Node)

/-- The command of a message, its arguments unpacked by `unpack`. -/
def Wire.ParentNode.toCommand (m : Wire.ParentNode) : Command :=
  .mk m.header.location (m.nodes.filterMap unpack)

/-- The list of a message, its nodes unpacked by `unpack`. -/
def Wire.ParentNode.toList (m : Wire.ParentNode) : NodeList :=
  .mk m.header.location (m.nodes.filterMap unpack)

/-- The pipeline of a message. -/
def Wire.PipeNode.toPipe (m : Wire.PipeNode) : Pipe :=
  .mk m.header.location (m.declarations.map Wire.PathNode.toVariable)
    (m.commands.map fun c => c.toCommand unpack)

/-- The branch of a message.  Its location is that of the node around it. -/
def Wire.BranchingNode.toBranch (m : Wire.BranchingNode) : Branch :=
  match m.branch with
  | none => .mk m.header.location none none none
  | some b => .mk m.header.location (b.pipe.map fun p => p.toPipe unpack)
      (b.list.map fun l => l.toList unpack) (b.elseList.map fun l => l.toList unpack)

/-- The node of a message, the payloads in it unpacked by `unpack`. -/
def NodeMessage.toNode : NodeMessage → Node
  | .action m => .action m.header.location (m.pipe.map fun p => p.toPipe unpack)
  | .bool m => .bool m.header.location m.value
  | .breakLoop h => .breakLoop h.location
  | .chain m => .chain m.header.location (m.node.bind unpack) m.fields
  | .command m => .command (m.toCommand unpack)
  | .comment m => .comment m.header.location m.text
  | .continueLoop h => .continueLoop h.location
  | .dot h => .dot h.location
  | .field m => .field m.header.location m.identifiers
  | .identifier m => .identifier m.header.location m.text
  | .ifElse m => .ifElse (m.toBranch unpack)
  | .list m => .list (m.toList unpack)
  | .nil h => .nil h.location
  | .number m => .number m.header.location m.text
  | .pipe m => .pipe (m.toPipe unpack)
  | .range m => .range (m.toBranch unpack)
  | .string m => .string m.header.location m.quoted m.text
  | .template m => .template m.header.location m.name (m.pipe.map fun p => p.toPipe unpack)
  | .text m => .text m.header.location (String.ofList (readUtf8Lossy m.text))
  | .var m => .var m.toVariable
  | .withScope m => .withScope (m.toBranch unpack)

end

/-- The payloads in a pipeline. -/
def Wire.PipeNode.payloads (m : Wire.PipeNode) : List Wire.Payload := m.commands.flatMap (·.nodes)

/-- The payloads in a branch. -/
def Wire.BranchNode.payloads (m : Wire.BranchNode) : List Wire.Payload :=
  ((m.pipe.map Wire.PipeNode.payloads).getD [] ++ (m.list.map (·.nodes)).getD [])
    ++ (m.elseList.map (·.nodes)).getD []

/-- The payloads directly in a message, in the order in which they are unpacked. -/
def NodeMessage.payloads : NodeMessage → List Wire.Payload
  | .action m => (m.pipe.map Wire.PipeNode.payloads).getD []
  | .chain m => m.node.toList
  | .command m | .list m => m.nodes
  | .ifElse m | .range m | .withScope m => (m.branch.map Wire.BranchNode.payloads).getD []
  | .pipe m => m.payloads
  | .template m => (m.pipe.map Wire.PipeNode.payloads).getD []
  | _ => []

/-! ### Unpacking -/

/-- The node of a payload, with at most `depth` payloads within each other. -/
def unpackWithin : Nat → Wire.Payload → Option Node
  | 0, _ => none
  | depth + 1, p =>
    match decodePayload p with
    | .error _ => none
    | .ok m => some (m.toNode (unpackWithin depth))

/-- The node of a payload. -/
def unpackNode? (p : Wire.Payload) : Option Node := unpackWithin (p.value.length + 1) p

/-- The nodes of those payloads that can be unpacked. -/
def unpackNodes (ps : List Wire.Payload) : List Node := ps.filterMap unpackNode?

/-- What is said about payloads, with at most `depth` of them within each other. -/
def complaintsWithin : Nat → Wire.Payload → List Complaint
  | 0, _ => []
  | depth + 1, p =>
    match decodePayload p with
    | .error c => [c]
    | .ok m => m.payloads.flatMap (complaintsWithin depth)

/-- What is said about a payload and those within it. -/
def complaints (p : Wire.Payload) : List Complaint := complaintsWithin (p.value.length + 1) p

/-- The tree of a message. -/
def Tree.ofMessage? (m : Wire.Tree) : Option Tree :=
  m.root.map fun root => ⟨m.name, m.parseName, m.mode.toNat, root.toList unpackNode?⟩

/-- What is said about the payloads of a tree. -/
def treeComplaints (m : Wire.Tree) : List Complaint :=
  (m.root.map (·.nodes)).getD [] |>.flatMap complaints

end ChartTrace
