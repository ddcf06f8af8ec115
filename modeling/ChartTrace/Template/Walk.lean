import ChartTrace.Template.Node

namespace ChartTrace

/-!
# Walking a syntax tree

A visitor says what it notes at each part of a tree, and the walk collects the notes in pre-order: a part
before what it contains, and what it contains in the order of the template.  The declarations of a
pipeline are not walked.

* `Visitor`: what is noted at nodes, lists, pipelines, commands and branches.
* `Visitor.walkNode`, `Visitor.visitNode`, `Visitor.visitList`, …: the notes of a walk.
* `Node.children`, `Node.descendants`, `Tree.descendants`: the nearest and all nodes in a node.
* `traceVisitor`, `commandVisitor`: everything that is visited, and the commands.
-/

/-- What a walk notes at each part, and whether it goes on into the nodes it meets. -/
structure Visitor (ε : Type) where
  node : Node → List ε := fun _ => []
  list : NodeList → List ε := fun _ => []
  pipe : Pipe → List ε := fun _ => []
  command : Command → List ε := fun _ => []
  branch : Branch → List ε := fun _ => []
  /-- Whether the nodes that are met are walked in turn. -/
  descends : Bool := true

namespace Visitor

variable {ε : Type}

mutual

/-- The notes on what a node contains. -/
def walkNode (v : Visitor ε) : Node → List ε
  | .action _ p => v.visitPipe? p
  | .chain _ n _ => v.visitNode? n
  | .command c => v.visitCommand c
  | .ifElse b | .range b | .withScope b => v.visitBranch b
  | .list ns => v.visitList ns
  | .pipe p => v.visitPipe p
  | .template _ _ p => v.visitPipe? p
  | _ => []

/-- The notes on a list and what it contains. -/
def visitList (v : Visitor ε) : NodeList → List ε
  | .mk l ns => v.list (.mk l ns) ++ v.visitNodes ns

/-- The notes on a pipeline and its commands. -/
def visitPipe (v : Visitor ε) : Pipe → List ε
  | .mk l ds cs => v.pipe (.mk l ds cs) ++ v.visitCommands cs

/-- The notes on a command and its arguments. -/
def visitCommand (v : Visitor ε) : Command → List ε
  | .mk l as => v.command (.mk l as) ++ v.visitNodes as

/-- The notes on a branch, its pipeline and its lists. -/
def visitBranch (v : Visitor ε) : Branch → List ε
  | .mk l p b e => v.branch (.mk l p b e) ++ v.visitPipe? p ++ v.visitList? b ++ v.visitList? e

/-- The notes on a node, if there is one. -/
def visitNode? (v : Visitor ε) : Option Node → List ε
  | none => []
  | some n => v.node n ++ if v.descends then v.walkNode n else []

/-- The notes on a pipeline, if there is one. -/
def visitPipe? (v : Visitor ε) : Option Pipe → List ε
  | none => []
  | some p => v.visitPipe p

/-- The notes on a list, if there is one. -/
def visitList? (v : Visitor ε) : Option NodeList → List ε
  | none => []
  | some ns => v.visitList ns

/-- The notes on nodes one after the other. -/
def visitNodes (v : Visitor ε) : List Node → List ε
  | [] => []
  | n :: ns => (v.node n ++ if v.descends then v.walkNode n else []) ++ v.visitNodes ns

/-- The notes on commands one after the other. -/
def visitCommands (v : Visitor ε) : List Command → List ε
  | [] => []
  | c :: cs => v.visitCommand c ++ v.visitCommands cs

end

/-- The notes on a node, and on what it contains when the visitor descends. -/
def visitNode (v : Visitor ε) (n : Node) : List ε :=
  v.node n ++ if v.descends then v.walkNode n else []

end Visitor

/-- Notes every node it meets. -/
def nodeVisitor (descends : Bool) : Visitor Node where
  node := fun n => [n]
  descends := descends

/-- The nearest nodes in a node, through pipelines, commands and branches. -/
def Node.children (n : Node) : List Node := (nodeVisitor false).walkNode n

/-- All nodes in a node, in pre-order, without the node itself. -/
def Node.descendants (n : Node) : List Node := (nodeVisitor true).walkNode n

/-- All nodes of a template, in pre-order. -/
def Tree.descendants (t : Tree) : List Node := (nodeVisitor true).visitList t.root

/-- A part that a walk visits. -/
inductive Visit where
  | node (n : Node)
  | list (ns : NodeList)
  | pipe (p : Pipe)
  | command (c : Command)
  | branch (b : Branch)

/-- Notes everything it visits. -/
def traceVisitor : Visitor Visit where
  node := fun n => [.node n]
  list := fun ns => [.list ns]
  pipe := fun p => [.pipe p]
  command := fun c => [.command c]
  branch := fun b => [.branch b]

/-- Notes the commands only. -/
def commandVisitor : Visitor Command where
  command := fun c => [c]

/-- A visited part in short. -/
def Visit.brief : Visit → String
  | .node n => n.brief
  | .list ns => "list@" ++ decimalText ns.location.position
  | .pipe p => "pipe@" ++ decimalText p.location.position
  | .command c => "command@" ++ decimalText c.location.position
  | .branch b => "branch@" ++ decimalText b.location.position

end ChartTrace
