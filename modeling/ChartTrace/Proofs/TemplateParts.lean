import ChartTrace.Template.Walk
import Mathlib.Data.List.Basic

namespace ChartTrace

/-!
# The parts of a template

A part of a template contains other parts, and these contain others in turn.  A visit goes through
them in the order of the template.

* `Visit.parts`: what a part contains directly;
* `Visit.induction`: what passes from the parts of a part to the part itself holds for all parts;
* `Visitor.note`, `Visitor.visit`: what a visitor notes at a part, and what it notes there and inside;
* `Visitor.walkNode_eq`, `Visitor.visit_eq`: from a part the visitor comes to the parts in it, one after
  the other;
* `Visitor.visit_eq_flatMap`: so a visitor that goes on everywhere makes its notes at just the parts
  that `traceVisitor` visits;
* `nodeVisitor_visit`, `commandVisitor_visit`: these are the nodes, or the commands, among them.
-/

/-! ### Parts in a part -/

/-- What a part contains directly, in the order of the template. -/
def Visit.parts : Visit → List Visit
  | .node (.action _ p) => p.toList.map .pipe
  | .node (.chain _ n _) => n.toList.map .node
  | .node (.command c) => [.command c]
  | .node (.ifElse b) | .node (.range b) | .node (.withScope b) => [.branch b]
  | .node (.list ns) => [.list ns]
  | .node (.pipe p) => [.pipe p]
  | .node (.template _ _ p) => p.toList.map .pipe
  | .node _ => []
  | .list ns => ns.nodes.map .node
  | .pipe p => p.commands.map .command
  | .command c => c.arguments.map .node
  | .branch b => b.pipe.toList.map .pipe ++ b.list.toList.map .list ++ b.elseList.toList.map .list

/-- A part is smaller than what contains it. -/
theorem Visit.sizeOf_lt_of_mem_parts {x y : Visit} (h : y ∈ x.parts) : sizeOf y < sizeOf x := by
  -- Parts are fields of the node, or members of a list in one of its fields.
  cases x with
  | node n =>
    cases n with
    | action l p | template l name p =>
      obtain ⟨p, hp, rfl⟩ := List.mem_map.mp h
      obtain rfl := Option.mem_toList.mp hp
      simp; omega
    | chain l n fs =>
      obtain ⟨n, hn, rfl⟩ := List.mem_map.mp h
      obtain rfl := Option.mem_toList.mp hn
      simp; omega
    | command c | list ns | pipe p | ifElse b | range b | withScope b =>
      obtain rfl := List.mem_singleton.mp h
      simp
    | _ => simp [parts] at h
  | list ns =>
    obtain ⟨l, ns⟩ := ns
    obtain ⟨n, hn, rfl⟩ := List.mem_map.mp h
    have hlt : sizeOf n < sizeOf ns := List.sizeOf_lt_of_mem hn
    simp; omega
  | pipe p =>
    obtain ⟨l, ds, cs⟩ := p
    obtain ⟨c, hc, rfl⟩ := List.mem_map.mp h
    have hlt : sizeOf c < sizeOf cs := List.sizeOf_lt_of_mem hc
    simp; omega
  | command c =>
    obtain ⟨l, as⟩ := c
    obtain ⟨n, hn, rfl⟩ := List.mem_map.mp h
    have hlt : sizeOf n < sizeOf as := List.sizeOf_lt_of_mem hn
    simp; omega
  | branch b =>
    obtain ⟨l, p, ns, es⟩ := b
    simp only [parts, Branch.pipe, Branch.list, Branch.elseList, List.mem_append, List.mem_map,
      Option.mem_toList] at h
    rcases h with (⟨p, rfl, rfl⟩ | ⟨ns, rfl, rfl⟩) | ⟨es, rfl, rfl⟩ <;> simp <;> omega

/-- **Induction on parts.** In place of one induction for each kind of part, with all the others as
    its hypotheses. -/
theorem Visit.induction {P : Visit → Prop} (step : ∀ x, (∀ y ∈ x.parts, P y) → P x) (x : Visit) :
    P x := by
  refine (measure (sizeOf : Visit → Nat)).wf.induction x fun x ih => step x fun y hy => ?_
  exact ih y (sizeOf_lt_of_mem_parts hy)

/-! ### Visits -/

namespace Visitor

variable {ε : Type} (v : Visitor ε)

/-- What a visitor notes at a part. -/
def note : Visit → List ε
  | .node n => v.node n
  | .list ns => v.list ns
  | .pipe p => v.pipe p
  | .command c => v.command c
  | .branch b => v.branch b

/-- What a visitor notes at a part and, as far as it goes on, inside. -/
def visit : Visit → List ε
  | .node n => v.visitNode n
  | .list ns => v.visitList ns
  | .pipe p => v.visitPipe p
  | .command c => v.visitCommand c
  | .branch b => v.visitBranch b

/-- Nodes are visited one after the other. -/
theorem visitNodes_eq (ns : List Node) : v.visitNodes ns = ns.flatMap v.visitNode := by
  induction ns with
  | nil => rfl
  | cons n ns ih =>
    rw [visitNodes, ih]
    rfl

theorem visitCommands_eq (cs : List Command) : v.visitCommands cs = cs.flatMap v.visitCommand := by
  induction cs with
  | nil => rfl
  | cons c cs ih => rw [visitCommands, ih, List.flatMap_cons]

/-- What is missing is passed over. -/
theorem visitNode?_eq (n : Option Node) :
    v.visitNode? n = (n.toList.map Visit.node).flatMap v.visit := by
  cases n with
  | none => rfl
  | some n => exact (List.append_nil _).symm

theorem visitPipe?_eq (p : Option Pipe) :
    v.visitPipe? p = (p.toList.map Visit.pipe).flatMap v.visit := by
  cases p with
  | none => rfl
  | some p => exact (List.append_nil _).symm

theorem visitList?_eq (ns : Option NodeList) :
    v.visitList? ns = (ns.toList.map Visit.list).flatMap v.visit := by
  cases ns with
  | none => rfl
  | some ns => exact (List.append_nil _).symm

/-- **Walks.** The walk into a node comes to the parts in it, also when it goes no further. -/
theorem walkNode_eq (n : Node) : v.walkNode n = (Visit.node n).parts.flatMap v.visit := by
  cases n with
  | action l p => exact v.visitPipe?_eq p
  | template l name p => exact v.visitPipe?_eq p
  | chain l n fs => exact v.visitNode?_eq n
  | command c | list ns | pipe p | ifElse b | range b | withScope b =>
    exact (List.append_nil _).symm
  | _ => rfl

/-- Step lemma: a visitor that goes on makes its note at a part, then visits the parts in it. -/
theorem visit_eq (hv : v.descends = true) (x : Visit) :
    v.visit x = v.note x ++ x.parts.flatMap v.visit := by
  cases x with
  | node n =>
    rw [← walkNode_eq]
    show v.visitNode n = _
    rw [visitNode, if_pos hv]
    rfl
  | list ns =>
    obtain ⟨l, ns⟩ := ns
    rw [Visit.parts, List.flatMap_map]
    exact congrArg (_ ++ ·) (v.visitNodes_eq ns)
  | pipe p =>
    obtain ⟨l, ds, cs⟩ := p
    rw [Visit.parts, List.flatMap_map]
    exact congrArg (_ ++ ·) (v.visitCommands_eq cs)
  | command c =>
    obtain ⟨l, as⟩ := c
    rw [Visit.parts, List.flatMap_map]
    exact congrArg (_ ++ ·) (v.visitNodes_eq as)
  | branch b =>
    obtain ⟨l, p, ns, es⟩ := b
    show v.visitBranch _ = _
    -- The note, the pipeline and the two lists are bracketed from the other side.
    rw [visitBranch, visitPipe?_eq, visitList?_eq, visitList?_eq, Visit.parts, List.flatMap_append,
      List.flatMap_append, List.append_assoc, List.append_assoc, List.append_assoc]
    rfl

end Visitor

/-- The trace of a part is the part, and the traces of what it contains. -/
theorem traceVisitor_visit (x : Visit) :
    traceVisitor.visit x = x :: x.parts.flatMap traceVisitor.visit := by
  have hnote : traceVisitor.note x = [x] := by cases x <;> rfl
  rw [traceVisitor.visit_eq rfl, hnote]
  rfl

/-- **Partial visitors.** Whatever a visitor leaves to the defaults, it misses no part and meets none
    in another order. -/
theorem Visitor.visit_eq_flatMap {ε : Type} (v : Visitor ε) (hv : v.descends = true) (x : Visit) :
    v.visit x = (traceVisitor.visit x).flatMap v.note := by
  induction x using Visit.induction with
  | step x ih =>
    rw [v.visit_eq hv, traceVisitor_visit, List.flatMap_cons, List.flatMap_assoc,
      List.flatMap_congr ih]

/-! ### Nodes and commands among the parts -/

/-- The node, if the part is one. -/
def Visit.node? : Visit → Option Node
  | .node n => some n
  | _ => none

/-- The command, if the part is one. -/
def Visit.command? : Visit → Option Command
  | .command c => some c
  | _ => none

/-- The visitor of nodes notes the nodes on the trace. -/
theorem nodeVisitor_visit (x : Visit) :
    (nodeVisitor true).visit x = (traceVisitor.visit x).filterMap Visit.node? := by
  rw [(nodeVisitor true).visit_eq_flatMap rfl, List.filterMap_eq_flatMap_toList]
  refine List.flatMap_congr fun y _ => ?_
  cases y <;> rfl

/-- The visitor of commands notes the commands on it. -/
theorem commandVisitor_visit (x : Visit) :
    commandVisitor.visit x = (traceVisitor.visit x).filterMap Visit.command? := by
  rw [commandVisitor.visit_eq_flatMap rfl, List.filterMap_eq_flatMap_toList]
  refine List.flatMap_congr fun y _ => ?_
  cases y <;> rfl

end ChartTrace
