import ChartTrace.Location

namespace ChartTrace

/-!
# Syntax trees of templates

The tree that the template engine parses, with the location of each node in the template.

* `Node`, `Pipe`, `Command`, `NodeList`, `Branch`: the nodes and their parts.
* `NodeKind`: the kinds of nodes, with their numbers and names.
* `Node.mapLocations`, `Node.locations`: all locations of a node and of its parts.
* `Tree`: a parsed template.
-/

/-- A variable that a pipeline declares or uses. -/
structure Variable where
  location : Location
  identifiers : List String
deriving DecidableEq, Repr

mutual

/-- A node of a template. -/
inductive Node where
  | action (location : Location) (pipe : Option Pipe)
  | bool (location : Location) (value : Bool)
  | breakLoop (location : Location)
  /-- A term followed by field accesses. -/
  | chain (location : Location) (node : Option Node) (fields : List String)
  | command (command : Command)
  | comment (location : Location) (text : String)
  | continueLoop (location : Location)
  | dot (location : Location)
  /-- A path of fields such as `.Values.image.tag`. -/
  | field (location : Location) (identifiers : List String)
  /-- The name of a function. -/
  | identifier (location : Location) (identifier : String)
  | ifElse (branch : Branch)
  | list (list : NodeList)
  | nil (location : Location)
  | number (location : Location) (text : String)
  | pipe (pipe : Pipe)
  | range (branch : Branch)
  /-- A string constant, as written and as meant. -/
  | string (location : Location) (quoted text : String)
  /-- A call of a named template. -/
  | template (location : Location) (name : String) (pipe : Option Pipe)
  | text (location : Location) (text : String)
  | var (v : Variable)
  | withScope (branch : Branch)

/-- A pipeline: the variables it declares and the commands it chains. -/
inductive Pipe where
  | mk (location : Location) (declarations : List Variable) (commands : List Command)

/-- A function call or a single operand. -/
inductive Command where
  | mk (location : Location) (arguments : List Node)

/-- Nodes one after the other. -/
inductive NodeList where
  | mk (location : Location) (nodes : List Node)

/-- What a conditional, a loop and a `with` have in common. -/
inductive Branch where
  | mk (location : Location) (pipe : Option Pipe) (list elseList : Option NodeList)

end

/-- A parsed template. -/
structure Tree where
  name : String
  parseName : String
  mode : Nat
  root : NodeList

/-! ### Parts -/

def Pipe.location : Pipe → Location | .mk l _ _ => l

def Pipe.declarations : Pipe → List Variable | .mk _ ds _ => ds

def Pipe.commands : Pipe → List Command | .mk _ _ cs => cs

def Command.location : Command → Location | .mk l _ => l

def Command.arguments : Command → List Node | .mk _ ns => ns

def NodeList.location : NodeList → Location | .mk l _ => l

def NodeList.nodes : NodeList → List Node | .mk _ ns => ns

def Branch.location : Branch → Location | .mk l _ _ _ => l

def Branch.pipe : Branch → Option Pipe | .mk _ p _ _ => p

def Branch.list : Branch → Option NodeList | .mk _ _ b _ => b

def Branch.elseList : Branch → Option NodeList | .mk _ _ _ e => e

/-- The location of a node. -/
def Node.location : Node → Location
  | .action l _ | .bool l _ | .breakLoop l | .chain l _ _ | .comment l _ | .continueLoop l | .dot l
  | .field l _ | .identifier l _ | .nil l | .number l _ | .string l _ _ | .template l _ _
  | .text l _ => l
  | .command c => c.location
  | .ifElse b | .range b | .withScope b => b.location
  | .list l => l.location
  | .pipe p => p.location
  | .var v => v.location

/-- The branch of a conditional, a loop or a `with`. -/
def Node.branch? : Node → Option Branch
  | .ifElse b | .range b | .withScope b => some b
  | _ => none

/-- The identifiers of a field, a chain or a variable. -/
def Node.identifiers? : Node → Option (List String)
  | .field _ is => some is
  | .chain _ _ is => some is
  | .var v => some v.identifiers
  | _ => none

/-- The function that a command calls, when its first argument names one. -/
def Command.functionName? (c : Command) : Option String :=
  match c.arguments with
  | .identifier _ name :: _ => some name
  | _ => none

/-! ### Kinds -/

/-- The kinds of nodes that the engine distinguishes. -/
inductive NodeKind where
  | unknown | text | action | bool | chain | command | dot | elseMark | endMark | field | identifier
  | ifElse | list | nil | number | pipe | range | string | template | var | withScope | comment
  | breakLoop | continueLoop
deriving DecidableEq, Repr

/-- The kinds in the order of their numbers. -/
def NodeKind.all : List NodeKind :=
  [.unknown, .text, .action, .bool, .chain, .command, .dot, .elseMark, .endMark, .field, .identifier,
   .ifElse, .list, .nil, .number, .pipe, .range, .string, .template, .var, .withScope, .comment,
   .breakLoop, .continueLoop]

/-- The number of a kind. -/
def NodeKind.code (k : NodeKind) : Nat := NodeKind.all.idxOf k

/-- The kind of a number. -/
def NodeKind.ofCode? (n : Int) : Option NodeKind :=
  if n < 0 then none else NodeKind.all[n.toNat]?

/-- The name of a kind. -/
def NodeKind.name : NodeKind → String
  | .unknown => "Unknown"
  | .text => "Text"
  | .action => "Action"
  | .bool => "Bool"
  | .chain => "Chain"
  | .command => "Command"
  | .dot => "Dot"
  | .elseMark => "Else"
  | .endMark => "End"
  | .field => "Field"
  | .identifier => "Identifier"
  | .ifElse => "If"
  | .list => "List"
  | .nil => "Nil"
  | .number => "Number"
  | .pipe => "Pipe"
  | .range => "Range"
  | .string => "String"
  | .template => "Template"
  | .var => "Variable"
  | .withScope => "With"
  | .comment => "Comment"
  | .breakLoop => "Break"
  | .continueLoop => "Continue"

/-- The kind of a node. -/
def Node.kind : Node → NodeKind
  | .action .. => .action
  | .bool .. => .bool
  | .breakLoop .. => .breakLoop
  | .chain .. => .chain
  | .command .. => .command
  | .comment .. => .comment
  | .continueLoop .. => .continueLoop
  | .dot .. => .dot
  | .field .. => .field
  | .identifier .. => .identifier
  | .ifElse .. => .ifElse
  | .list .. => .list
  | .nil .. => .nil
  | .number .. => .number
  | .pipe .. => .pipe
  | .range .. => .range
  | .string .. => .string
  | .template .. => .template
  | .text .. => .text
  | .var .. => .var
  | .withScope .. => .withScope

/-- A node in short: its kind and its location. -/
def Node.brief (n : Node) : String :=
  n.kind.name ++ "@" ++ decimalText n.location.position ++ "+" ++ decimalText n.location.length

/-! ### Locations -/

/-- The variable with its location changed. -/
def Variable.mapLocation (f : Location → Location) (v : Variable) : Variable :=
  { v with location := f v.location }

mutual

/-- The node with all locations in it changed. -/
def Node.mapLocations (f : Location → Location) : Node → Node
  | .action l p => .action (f l) (mapPipe? f p)
  | .bool l v => .bool (f l) v
  | .breakLoop l => .breakLoop (f l)
  | .chain l n fs => .chain (f l) (mapNode? f n) fs
  | .command c => .command (c.mapLocations f)
  | .comment l t => .comment (f l) t
  | .continueLoop l => .continueLoop (f l)
  | .dot l => .dot (f l)
  | .field l is => .field (f l) is
  | .identifier l i => .identifier (f l) i
  | .ifElse b => .ifElse (b.mapLocations f)
  | .list ns => .list (ns.mapLocations f)
  | .nil l => .nil (f l)
  | .number l t => .number (f l) t
  | .pipe p => .pipe (p.mapLocations f)
  | .range b => .range (b.mapLocations f)
  | .string l q t => .string (f l) q t
  | .template l n p => .template (f l) n (mapPipe? f p)
  | .text l t => .text (f l) t
  | .var v => .var (v.mapLocation f)
  | .withScope b => .withScope (b.mapLocations f)

def Pipe.mapLocations (f : Location → Location) : Pipe → Pipe
  | .mk l ds cs => .mk (f l) (ds.map (Variable.mapLocation f)) (mapCommands f cs)

def Command.mapLocations (f : Location → Location) : Command → Command
  | .mk l as => .mk (f l) (mapNodes f as)

def NodeList.mapLocations (f : Location → Location) : NodeList → NodeList
  | .mk l ns => .mk (f l) (mapNodes f ns)

def Branch.mapLocations (f : Location → Location) : Branch → Branch
  | .mk l p b e => .mk (f l) (mapPipe? f p) (mapList? f b) (mapList? f e)

/-- The node, if there is one, with all locations in it changed. -/
def mapNode? (f : Location → Location) : Option Node → Option Node
  | none => none
  | some n => some (n.mapLocations f)

/-- The pipeline, if there is one, with all locations in it changed. -/
def mapPipe? (f : Location → Location) : Option Pipe → Option Pipe
  | none => none
  | some p => some (p.mapLocations f)

/-- The list, if there is one, with all locations in it changed. -/
def mapList? (f : Location → Location) : Option NodeList → Option NodeList
  | none => none
  | some ns => some (ns.mapLocations f)

/-- The nodes with all locations in them changed. -/
def mapNodes (f : Location → Location) : List Node → List Node
  | [] => []
  | n :: ns => n.mapLocations f :: mapNodes f ns

/-- The commands with all locations in them changed. -/
def mapCommands (f : Location → Location) : List Command → List Command
  | [] => []
  | c :: cs => c.mapLocations f :: mapCommands f cs

end

/-- The template with all locations in it changed. -/
def Tree.mapLocations (f : Location → Location) (t : Tree) : Tree :=
  { t with root := t.root.mapLocations f }

mutual

/-- All locations in a node, its own first. -/
def Node.locations : Node → List Location
  | .action l p => l :: pipeLocations? p
  | .bool l _ | .breakLoop l | .comment l _ | .continueLoop l | .dot l | .field l _ | .identifier l _
  | .nil l | .number l _ | .string l _ _ | .text l _ => [l]
  | .chain l n _ => l :: nodeLocations? n
  | .command c => c.locations
  | .ifElse b | .range b | .withScope b => b.locations
  | .list ns => ns.locations
  | .pipe p => p.locations
  | .template l _ p => l :: pipeLocations? p
  | .var v => [v.location]

def Pipe.locations : Pipe → List Location
  | .mk l ds cs => l :: (ds.map Variable.location ++ commandsLocations cs)

def Command.locations : Command → List Location
  | .mk l as => l :: nodesLocations as

def NodeList.locations : NodeList → List Location
  | .mk l ns => l :: nodesLocations ns

def Branch.locations : Branch → List Location
  | .mk l p b e => l :: (pipeLocations? p ++ listLocations? b ++ listLocations? e)

/-- The locations in a node, if there is one. -/
def nodeLocations? : Option Node → List Location
  | none => []
  | some n => n.locations

/-- The locations in a pipeline, if there is one. -/
def pipeLocations? : Option Pipe → List Location
  | none => []
  | some p => p.locations

/-- The locations in a list, if there is one. -/
def listLocations? : Option NodeList → List Location
  | none => []
  | some ns => ns.locations

/-- The locations in nodes. -/
def nodesLocations : List Node → List Location
  | [] => []
  | n :: ns => n.locations ++ nodesLocations ns

/-- The locations in commands. -/
def commandsLocations : List Command → List Location
  | [] => []
  | c :: cs => c.locations ++ commandsLocations cs

end

/-- All locations in a template. -/
def Tree.locations (t : Tree) : List Location := t.root.locations

end ChartTrace
