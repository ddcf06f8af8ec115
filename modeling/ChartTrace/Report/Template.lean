import ChartTrace.Report.Json
import ChartTrace.ShiftTable
import ChartTrace.Template.Node

namespace ChartTrace

/-!
# Reports of locations and syntax trees

The report form of locations, ranges, shift entries and syntax trees.  A node names its kind first; parts
whose place tells their kind do not.

* `Location.toJson`, `Range.toJson`, `ShiftEntry.toJson`.
* `Node.toJson`, `Tree.toJson`.
-/

/-- The report form of a location. -/
def Location.toJson (l : Location) : JsonValue :=
  .object [("position", .nat l.position), ("length", .nat l.length)]

/-- The report form of a pointer. -/
def Pointer.toJson (p : Pointer) : JsonValue :=
  .object [("line", .nat p.line), ("line_offset", .nat p.column)]

/-- The report form of a range. -/
def Range.toJson (r : Range) : JsonValue := .object [("start", r.start.toJson), ("end", r.stop.toJson)]

/-- The report form of a shift entry. -/
def ShiftEntry.toJson (e : ShiftEntry) : JsonValue :=
  .object [("shifted_line", .nat e.renderedLine), ("original_start", .nat e.templateStart),
    ("original_end", .nat e.templateEnd)]

/-- The fields of a located part: its location, then the others. -/
def locatedFields (l : Location) (fields : List (String × JsonValue)) : List (String × JsonValue) :=
  ("location", l.toJson) :: fields

/-- The fields of a variable. -/
def Variable.toFields (v : Variable) : List (String × JsonValue) :=
  locatedFields v.location [("identifiers", .strings v.identifiers)]

mutual

/-- The fields of a node, without its kind. -/
def Node.toFields : Node → List (String × JsonValue)
  | .action l p => locatedFields l [("pipe", optionalPipe p)]
  | .bool l b => locatedFields l [("value", .bool b)]
  | .breakLoop l | .continueLoop l | .dot l | .nil l => locatedFields l []
  | .chain l n fs => locatedFields l [("node", optionalNode n), ("fields", .strings fs)]
  | .command c => c.toFields
  | .comment l t | .number l t | .text l t => locatedFields l [("text", .string t)]
  | .field l is => locatedFields l [("identifiers", .strings is)]
  | .identifier l i => locatedFields l [("identifier", .string i)]
  | .ifElse b | .range b | .withScope b => b.toFields
  | .list ns => ns.toFields
  | .pipe p => p.toFields
  | .string l q t => locatedFields l [("quoted", .string q), ("text", .string t)]
  | .template l n p => locatedFields l [("name", .string n), ("pipe", optionalPipe p)]
  | .var v => v.toFields

/-- The fields of a pipeline. -/
def Pipe.toFields : Pipe → List (String × JsonValue)
  | .mk l ds cs => locatedFields l
      [("declarations", .array (ds.map fun d => .object d.toFields)), ("commands", .array (commandsToJson cs))]

/-- The fields of a command. -/
def Command.toFields : Command → List (String × JsonValue)
  | .mk l as => locatedFields l [("arguments", .array (nodesToJson as))]

/-- The fields of a list. -/
def NodeList.toFields : NodeList → List (String × JsonValue)
  | .mk l ns => locatedFields l [("nodes", .array (nodesToJson ns))]

/-- The fields of a branch. -/
def Branch.toFields : Branch → List (String × JsonValue)
  | .mk l p b e =>
    locatedFields l [("pipe", optionalPipe p), ("list", optionalList b), ("else_list", optionalList e)]

/-- A pipeline, or `null` without one. -/
def optionalPipe : Option Pipe → JsonValue
  | none => .null
  | some p => .object p.toFields

/-- A list, or `null` without one. -/
def optionalList : Option NodeList → JsonValue
  | none => .null
  | some ns => .object ns.toFields

/-- A node, or `null` without one. -/
def optionalNode : Option Node → JsonValue
  | none => .null
  | some n => .object (("kind", .string n.kind.name) :: n.toFields)

/-- Nodes one after the other. -/
def nodesToJson : List Node → List JsonValue
  | [] => []
  | n :: ns => .object (("kind", .string n.kind.name) :: n.toFields) :: nodesToJson ns

/-- Commands one after the other. -/
def commandsToJson : List Command → List JsonValue
  | [] => []
  | c :: cs => .object c.toFields :: commandsToJson cs

end

/-- The report form of a node. -/
def Node.toJson (n : Node) : JsonValue := .object (("kind", .string n.kind.name) :: n.toFields)

/-- The report form of a tree. -/
def Tree.toJson (t : Tree) : JsonValue :=
  .object [("name", .string t.name), ("parse_name", .string t.parseName), ("mode", .nat t.mode),
    ("root", .object t.root.toFields)]

end ChartTrace
