import ChartTrace.Proofs.TemplateParts
import Mathlib.Algebra.Ring.Nat

namespace ChartTrace

/-!
# What a walk meets

A walk goes through pipelines, commands, lists and branches to the nodes in them.

* `Pipe.operands`, `Branch.operands`, `Node.operands`: the nodes that it comes to first;
* `walkNode_nodeVisitor`: it notes these, and goes on from each of them when it descends;
* `Node.children_eq`, `Node.descendants_eq`: hence the nearest nodes in a node, and all nodes in it.
-/

/-- The arguments of the commands of a pipeline. -/
def Pipe.operands (p : Pipe) : List Node := p.commands.flatMap Command.arguments

/-- The nodes of the pipeline and of the lists of a branch. -/
def Branch.operands (b : Branch) : List Node :=
  (b.pipe.map Pipe.operands).getD [] ++ (b.list.map NodeList.nodes).getD []
    ++ (b.elseList.map NodeList.nodes).getD []

/-- The nodes in a node that no other node in it contains. -/
def Node.operands : Node → List Node
  | .action _ p => (p.map Pipe.operands).getD []
  | .chain _ n _ => n.toList
  | .command c => c.arguments
  | .ifElse b | .range b | .withScope b => b.operands
  | .list ns => ns.nodes
  | .pipe p => p.operands
  | .template _ _ p => (p.map Pipe.operands).getD []
  | _ => []

section

variable (descends : Bool)

/-- Visiting commands comes to their arguments. -/
theorem visitCommands_nodeVisitor (cs : List Command) :
    (nodeVisitor descends).visitCommands cs
      = (cs.flatMap Command.arguments).flatMap (nodeVisitor descends).visitNode := by
  induction cs with
  | nil => rfl
  | cons c cs ih =>
    obtain ⟨l, as⟩ := c
    rw [Visitor.visitCommands, ih, List.flatMap_cons, List.flatMap_append]
    exact congrArg (· ++ _) ((nodeVisitor descends).visitNodes_eq as)

/-- Visiting a pipeline comes to the arguments of its commands, past the variables. -/
theorem visitPipe?_nodeVisitor (p : Option Pipe) :
    (nodeVisitor descends).visitPipe? p
      = ((p.map Pipe.operands).getD []).flatMap (nodeVisitor descends).visitNode := by
  cases p with
  | none => rfl
  | some p =>
    obtain ⟨l, ds, cs⟩ := p
    exact visitCommands_nodeVisitor descends cs

/-- Visiting a list comes to its nodes. -/
theorem visitList?_nodeVisitor (ns : Option NodeList) :
    (nodeVisitor descends).visitList? ns
      = ((ns.map NodeList.nodes).getD []).flatMap (nodeVisitor descends).visitNode := by
  cases ns with
  | none => rfl
  | some ns =>
    obtain ⟨l, ns⟩ := ns
    exact (nodeVisitor descends).visitNodes_eq ns

/-- A branch is visited in the order pipeline, list, else list. -/
theorem visitBranch_nodeVisitor (b : Branch) :
    (nodeVisitor descends).visitBranch b
      = b.operands.flatMap (nodeVisitor descends).visitNode := by
  obtain ⟨l, p, ns, es⟩ := b
  rw [Visitor.visitBranch, visitPipe?_nodeVisitor, visitList?_nodeVisitor, visitList?_nodeVisitor,
    Branch.operands, List.flatMap_append, List.flatMap_append]
  rfl

/-- **Walks.** From a node the walk comes to its operands, and from each of them it goes on or not. -/
theorem walkNode_nodeVisitor (n : Node) :
    (nodeVisitor descends).walkNode n
      = n.operands.flatMap (nodeVisitor descends).visitNode := by
  cases n with
  | action l p => exact visitPipe?_nodeVisitor descends p
  | template l name p => exact visitPipe?_nodeVisitor descends p
  | chain l n fs =>
    cases n with
    | none => rfl
    | some n => exact (List.append_nil _).symm
  | command c =>
    obtain ⟨l, as⟩ := c
    exact (nodeVisitor descends).visitNodes_eq as
  | list ns =>
    obtain ⟨l, ns⟩ := ns
    exact (nodeVisitor descends).visitNodes_eq ns
  | pipe p =>
    obtain ⟨l, ds, cs⟩ := p
    exact visitCommands_nodeVisitor descends cs
  | ifElse b | range b | withScope b => exact visitBranch_nodeVisitor descends b
  -- Leaves have nothing to come to.
  | bool | breakLoop | comment | continueLoop | dot | field | identifier | nil | number | string
  | text | var => rfl

end

/-- The children of a node are its operands. -/
theorem Node.children_eq (n : Node) : n.children = n.operands := by
  have hself : (nodeVisitor false).visitNode = fun n => [n] := rfl
  rw [Node.children, walkNode_nodeVisitor, hself, List.flatMap_singleton']

/-- **Pre-order.** All nodes in a node are the nearest ones, each with all nodes in it behind it. -/
theorem Node.descendants_eq (n : Node) :
    n.descendants = n.children.flatMap fun c => c :: c.descendants := by
  rw [Node.children_eq, Node.descendants, walkNode_nodeVisitor]
  rfl

/-- So descendants are counted child by child. -/
theorem Node.length_descendants (n : Node) :
    n.descendants.length = (n.children.map fun c => c.descendants.length + 1).sum := by
  rw [Node.descendants_eq, List.length_flatMap]
  rfl

end ChartTrace
