import ChartTrace.Wire.Layout

namespace ChartTrace.Wire

/-!
# Messages of the template evaluator

The evaluator answers with the rendered template and the syntax tree of the template.  Nodes of the tree
that may be of any kind travel as payloads: bytes and the name of their message type.

* `Payload`: a message of a type known by its name only.
* `Header`: the number of the node kind and the location, which all node messages start with.
* `Response`: the answer of the evaluator.
* `MessageType`, `messageTypes`: every type of messages with its layout.
* `canonicalBytes?`: decoding and encoding again, for the message type of a given name.
-/

/-- A message of a type that its URL names. -/
structure Payload where
  typeUrl : String
  value : Bytes
deriving DecidableEq, Repr

/-- What every node message has. -/
structure Header where
  nodeType : Int32
  position : Int64
  length : Int64
deriving DecidableEq, Repr

/-- A node with one text: a comment, a number, an identifier. -/
structure TextualNode where
  header : Header
  text : String
deriving DecidableEq, Repr

/-- A node with a path of identifiers: a field, a variable. -/
structure PathNode where
  header : Header
  identifiers : List String
deriving DecidableEq, Repr

/-- Literal text between actions, as bytes. -/
structure LiteralNode where
  header : Header
  text : Bytes
deriving DecidableEq, Repr

/-- A truth value. -/
structure BoolNode where
  header : Header
  value : Bool
deriving DecidableEq, Repr

/-- A string constant. -/
structure StringNode where
  header : Header
  quoted : String
  text : String
deriving DecidableEq, Repr

/-- A term followed by field accesses. -/
structure ChainNode where
  header : Header
  node : Option Payload
  fields : List String
deriving DecidableEq, Repr

/-- A node with any nodes under it: a command with its arguments, a list. -/
structure ParentNode where
  header : Header
  nodes : List Payload
deriving DecidableEq, Repr

/-- A pipeline. -/
structure PipeNode where
  header : Header
  declarations : List PathNode
  commands : List ParentNode
deriving DecidableEq, Repr

/-- An action. -/
structure ActionNode where
  header : Header
  pipe : Option PipeNode
deriving DecidableEq, Repr

/-- A call of a named template. -/
structure TemplateNode where
  header : Header
  name : String
  pipe : Option PipeNode
deriving DecidableEq, Repr

/-- The body of a conditional, a loop or a `with`. -/
structure BranchNode where
  position : Int64
  length : Int64
  pipe : Option PipeNode
  list : Option ParentNode
  elseList : Option ParentNode
deriving DecidableEq, Repr

/-- A conditional, a loop or a `with`. -/
structure BranchingNode where
  header : Header
  branch : Option BranchNode
deriving DecidableEq, Repr

/-- A parsed template. -/
structure Tree where
  name : String
  parseName : String
  mode : UInt64
  root : Option ParentNode
deriving DecidableEq, Repr

/-- The answer of the evaluator. -/
structure Response where
  template : String
  ast : Option Tree
  error : String
deriving DecidableEq, Repr

/-! ### Layouts -/

/-- The header of a message without fields. -/
def Header.empty : Header := ⟨0, 0, 0⟩

/-- The fields of a header within a message. -/
def headerFields (get : α → Header) (set : α → Header → α) : List (Field α) :=
  [.enum 1 "node_type" (fun a => (get a).nodeType) fun a v => set a { get a with nodeType := v },
   .int64 2 "pos" (fun a => (get a).position) fun a v => set a { get a with position := v },
   .int64 3 "length" (fun a => (get a).length) fun a v => set a { get a with length := v }]

def payloadLayout : Layout Payload where
  name := "Any"
  empty := ⟨"", []⟩
  fields :=
    [.string 1 "type_url" (·.typeUrl) fun a v => { a with typeUrl := v },
     .bytes 2 "value" (·.value) fun a v => { a with value := v }]

/-- A message with a header only. -/
def plainLayout (name : String) : Layout Header where
  name := name
  empty := .empty
  fields := headerFields id fun _ h => h

/-- A message with one text, in a field of the given name. -/
def textualLayout (name field : String) : Layout TextualNode where
  name := name
  empty := ⟨.empty, ""⟩
  fields := headerFields (·.header) (fun a h => { a with header := h })
    ++ [.string 4 field (·.text) fun a v => { a with text := v }]

/-- A message with a path of identifiers. -/
def pathLayout (name : String) : Layout PathNode where
  name := name
  empty := ⟨.empty, []⟩
  fields := headerFields (·.header) (fun a h => { a with header := h })
    ++ [.strings 4 "ident" (·.identifiers) fun a v => { a with identifiers := v }]

def literalLayout : Layout LiteralNode where
  name := "TextNode"
  empty := ⟨.empty, []⟩
  fields := headerFields (·.header) (fun a h => { a with header := h })
    ++ [.bytes 4 "text" (·.text) fun a v => { a with text := v }]

def boolLayout : Layout BoolNode where
  name := "BoolNode"
  empty := ⟨.empty, false⟩
  fields := headerFields (·.header) (fun a h => { a with header := h })
    ++ [.bool 4 "value" (·.value) fun a v => { a with value := v }]

def stringLayout : Layout StringNode where
  name := "StringNode"
  empty := ⟨.empty, "", ""⟩
  fields := headerFields (·.header) (fun a h => { a with header := h })
    ++ [.string 4 "quoted" (·.quoted) (fun a v => { a with quoted := v }),
        .string 5 "text" (·.text) fun a v => { a with text := v }]

def chainLayout : Layout ChainNode where
  name := "ChainNode"
  empty := ⟨.empty, none, []⟩
  fields := headerFields (·.header) (fun a h => { a with header := h })
    ++ [.message 4 "node" payloadLayout (·.node) (fun a v => { a with node := v }),
        .strings 5 "field" (·.fields) fun a v => { a with fields := v }]

/-- A message with any nodes under it, in a field of the given name. -/
def parentLayout (name field : String) : Layout ParentNode where
  name := name
  empty := ⟨.empty, []⟩
  fields := headerFields (·.header) (fun a h => { a with header := h })
    ++ [.messages 4 field payloadLayout (·.nodes) fun a v => { a with nodes := v }]

def variableLayout : Layout PathNode := pathLayout "VariableNode"

def commandLayout : Layout ParentNode := parentLayout "CommandNode" "args"

def listLayout : Layout ParentNode := parentLayout "ListNode" "nodes"

def pipeLayout : Layout PipeNode where
  name := "PipeNode"
  empty := ⟨.empty, [], []⟩
  fields := headerFields (·.header) (fun a h => { a with header := h })
    ++ [.messages 4 "decl" variableLayout (·.declarations) (fun a v => { a with declarations := v }),
        .messages 5 "cmds" commandLayout (·.commands) fun a v => { a with commands := v }]

def actionLayout : Layout ActionNode where
  name := "ActionNode"
  empty := ⟨.empty, none⟩
  fields := headerFields (·.header) (fun a h => { a with header := h })
    ++ [.message 4 "pipe" pipeLayout (·.pipe) fun a v => { a with pipe := v }]

def templateLayout : Layout TemplateNode where
  name := "TemplateNode"
  empty := ⟨.empty, "", none⟩
  fields := headerFields (·.header) (fun a h => { a with header := h })
    ++ [.string 4 "name" (·.name) (fun a v => { a with name := v }),
        .message 5 "pipe" pipeLayout (·.pipe) fun a v => { a with pipe := v }]

def branchLayout : Layout BranchNode where
  name := "BranchNode"
  empty := ⟨0, 0, none, none, none⟩
  fields :=
    [.int64 2 "pos" (·.position) (fun a v => { a with position := v }),
     .int64 3 "length" (·.length) (fun a v => { a with length := v }),
     .message 4 "pipe" pipeLayout (·.pipe) (fun a v => { a with pipe := v }),
     .message 5 "list" listLayout (·.list) (fun a v => { a with list := v }),
     .message 6 "else_list" listLayout (·.elseList) fun a v => { a with elseList := v }]

/-- A conditional, a loop or a `with`. -/
def branchingLayout (name : String) : Layout BranchingNode where
  name := name
  empty := ⟨.empty, none⟩
  fields := headerFields (·.header) (fun a h => { a with header := h })
    ++ [.message 4 "branch_node" branchLayout (·.branch) fun a v => { a with branch := v }]

def treeLayout : Layout Tree where
  name := "Tree"
  empty := ⟨"", "", 0, none⟩
  fields :=
    [.string 1 "name" (·.name) (fun a v => { a with name := v }),
     .string 2 "parse_name" (·.parseName) (fun a v => { a with parseName := v }),
     .uint64 3 "mode" (·.mode) (fun a v => { a with mode := v }),
     .message 4 "root" listLayout (·.root) fun a v => { a with root := v }]

def responseLayout : Layout Response where
  name := "TemplateEvaluationResult"
  empty := ⟨"", none, ""⟩
  fields :=
    [.string 1 "template" (·.template) (fun a v => { a with template := v }),
     .message 2 "ast" treeLayout (·.ast) (fun a v => { a with ast := v }),
     .string 3 "error" (·.error) fun a v => { a with error := v }]

/-! ### Message types by name -/

/-- A type of messages: the values, and how they are laid out. -/
structure MessageType where
  Value : Type
  layout : Layout Value

/-- The name of a message type. -/
def MessageType.name (t : MessageType) : String := t.layout.name

/-- All message types. -/
def messageTypes : List MessageType :=
  [⟨_, responseLayout⟩, ⟨_, treeLayout⟩, ⟨_, plainLayout "Node"⟩, ⟨_, actionLayout⟩, ⟨_, boolLayout⟩,
   ⟨_, branchLayout⟩, ⟨_, plainLayout "BreakNode"⟩, ⟨_, chainLayout⟩, ⟨_, commandLayout⟩,
   ⟨_, textualLayout "CommentNode" "text"⟩, ⟨_, plainLayout "ContinueNode"⟩, ⟨_, plainLayout "DotNode"⟩,
   ⟨_, pathLayout "FieldNode"⟩, ⟨_, textualLayout "IdentifierNode" "ident"⟩,
   ⟨_, branchingLayout "IfNode"⟩, ⟨_, listLayout⟩, ⟨_, plainLayout "NilNode"⟩,
   ⟨_, textualLayout "NumberNode" "text"⟩, ⟨_, pipeLayout⟩, ⟨_, branchingLayout "RangeNode"⟩,
   ⟨_, stringLayout⟩, ⟨_, templateLayout⟩, ⟨_, literalLayout⟩, ⟨_, variableLayout⟩,
   ⟨_, branchingLayout "WithNode"⟩]

/-- Decodes bytes and writes the message again: its canonical bytes. -/
def Layout.canonical (l : Layout α) (bs : Bytes) : Except DecodeError Bytes := l.encode <$> l.decode bs

/-- The canonical form of the bytes of a message of each type. -/
def canonicalBytes? (name : String) : Option (Bytes → Except DecodeError Bytes) :=
  (messageTypes.find? fun t => t.name == name).map fun t => t.layout.canonical

/-- The URL of a message type. -/
def urlOfType (name : String) : String := "type.googleapis.com/helm.template." ++ name

/-- The payload that holds a message of the named type with the given bytes. -/
def Payload.pack (name : String) (value : Bytes) : Payload := ⟨urlOfType name, value⟩

end ChartTrace.Wire
