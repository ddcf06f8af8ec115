import ChartTrace.Proofs.TemplateParts
import Mathlib.Data.List.Forall2

namespace ChartTrace

/-!
# Templates with other locations

`Tree.mapLocations` puts a function of the old location in place of each location.

* `Visit.parts_mapLocations`, `traceVisitor_visit_mapLocations`: a walk comes to the same parts as before,
  with other locations;
* `Visit.mapLocations_laws`: changing nothing, and changing twice;
* `Node.Alike`, `Tree.Alike`: nodes and templates that differ in nothing but their locations;
* `Visit.alike_mapLocations`: such are a part before and after the change;
* `Visit.locations_eq_flatMap`: the locations in a part are those that the parts on its trace hold;
* `Visit.locations_mapLocations`: so each of them is changed, once;
* `Tree.mapLocations_moves_locations`: all of it for templates.
-/

/-! ### Optional parts and lists of parts -/

section

variable (f : Location → Location)

@[simp] theorem mapNode?_eq_map (n : Option Node) : mapNode? f n = n.map (Node.mapLocations f) := by
  cases n <;> rfl

@[simp] theorem mapPipe?_eq_map (p : Option Pipe) : mapPipe? f p = p.map (Pipe.mapLocations f) := by
  cases p <;> rfl

@[simp] theorem mapList?_eq_map (ns : Option NodeList) :
    mapList? f ns = ns.map (NodeList.mapLocations f) := by
  cases ns <;> rfl

/-- The recursion over a list is a map, and likewise for the other parts. -/
@[simp] theorem mapNodes_eq_map (ns : List Node) : mapNodes f ns = ns.map (Node.mapLocations f) := by
  induction ns with
  | nil => rfl
  | cons n ns ih => rw [mapNodes, ih, List.map_cons]

@[simp] theorem mapCommands_eq_map (cs : List Command) :
    mapCommands f cs = cs.map (Command.mapLocations f) := by
  induction cs with
  | nil => rfl
  | cons c cs ih => rw [mapCommands, ih, List.map_cons]

/-! ### Parts and traces -/

/-- The part with all locations in it changed. -/
def Visit.mapLocations : Visit → Visit
  | .node n => .node (n.mapLocations f)
  | .list ns => .list (ns.mapLocations f)
  | .pipe p => .pipe (p.mapLocations f)
  | .command c => .command (c.mapLocations f)
  | .branch b => .branch (b.mapLocations f)

/-- The parts of a part with other locations are its parts with other locations. -/
theorem Visit.parts_mapLocations (x : Visit) :
    (x.mapLocations f).parts = x.parts.map (Visit.mapLocations f) := by
  cases x with
  | node n =>
    cases n with
    | action l p | template l name p => cases p <;> rfl
    | chain l n fs => cases n <;> rfl
    | _ => rfl
  | list ns =>
    obtain ⟨l, ns⟩ := ns
    simp [mapLocations, NodeList.mapLocations, parts, NodeList.nodes]
  | pipe p =>
    obtain ⟨l, ds, cs⟩ := p
    simp [mapLocations, Pipe.mapLocations, parts, Pipe.commands]
  | command c =>
    obtain ⟨l, as⟩ := c
    simp [mapLocations, Command.mapLocations, parts, Command.arguments]
  | branch b =>
    obtain ⟨l, p, ns, es⟩ := b
    cases p <;> cases ns <;> cases es <;> rfl

/-- So a walk comes to the same parts. -/
theorem traceVisitor_visit_mapLocations (x : Visit) :
    traceVisitor.visit (x.mapLocations f) = (traceVisitor.visit x).map (Visit.mapLocations f) := by
  induction x using Visit.induction with
  | step x ih =>
    rw [traceVisitor_visit, traceVisitor_visit, x.parts_mapLocations, List.flatMap_map,
      List.map_cons, List.map_flatMap, List.flatMap_congr ih]

/-- The nodes of a walk are those of before, with other locations. -/
theorem nodeVisitor_visit_mapLocations (x : Visit) :
    (nodeVisitor true).visit (x.mapLocations f)
      = ((nodeVisitor true).visit x).map (Node.mapLocations f) := by
  rw [nodeVisitor_visit, nodeVisitor_visit, traceVisitor_visit_mapLocations, List.filterMap_map,
    List.map_filterMap]
  refine List.filterMap_congr fun y _ => ?_
  cases y <;> rfl

end

/-- A change of locations changes no kind. -/
theorem Node.kind_mapLocations (f : Location → Location) (n : Node) :
    (n.mapLocations f).kind = n.kind := by
  cases n <;> rfl

/-- The location of a node is changed, also where it is that of a part. -/
theorem Node.location_mapLocations (f : Location → Location) (n : Node) :
    (n.mapLocations f).location = f n.location := by
  cases n with
  | command c => cases c; rfl
  | list ns => cases ns; rfl
  | pipe p => cases p; rfl
  | ifElse b | range b | withScope b => cases b; rfl
  | _ => rfl

/-! ### Changing nothing, and changing twice -/

/-- A list of which no element changes does not change. -/
theorem map_eq_self {α : Type} {f : α → α} {l : List α} (h : ∀ a ∈ l, f a = a) : l.map f = l :=
  (List.map_congr_left h).trans (List.map_id l)

/-- Changing nothing, and changing twice, in one induction since both need the same cases. -/
theorem Visit.mapLocations_laws (f g : Location → Location) (x : Visit) :
    x.mapLocations id = x ∧ (x.mapLocations f).mapLocations g = x.mapLocations (g ∘ f) := by
  induction x using Visit.induction with
  | step x ih =>
    cases x with
    | node n =>
      cases n with
      | action l p | template l name p =>
        cases p with
        | none => exact ⟨rfl, rfl⟩
        | some p => simpa [mapLocations, Node.mapLocations, parts] using ih
      | chain l n fs =>
        cases n with
        | none => exact ⟨rfl, rfl⟩
        | some n => simpa [mapLocations, Node.mapLocations, parts] using ih
      | command c | list ns | pipe p | ifElse b | range b | withScope b =>
        simpa [mapLocations, Node.mapLocations, parts] using ih
      | _ => exact ⟨rfl, rfl⟩
    | list ns =>
      obtain ⟨l, ns⟩ := ns
      have hns : ∀ n ∈ ns, n.mapLocations id = n
          ∧ (n.mapLocations f).mapLocations g = n.mapLocations (g ∘ f) := by
        simpa [mapLocations, parts, NodeList.nodes] using ih
      have hid := map_eq_self fun n hn => (hns n hn).1
      simpa [mapLocations, NodeList.mapLocations, hid] using fun n hn => (hns n hn).2
    | pipe p =>
      -- The declarations are no parts: their locations change with the pipeline.
      obtain ⟨l, ds, cs⟩ := p
      have hcs : ∀ c ∈ cs, c.mapLocations id = c
          ∧ (c.mapLocations f).mapLocations g = c.mapLocations (g ∘ f) := by
        simpa [mapLocations, parts, Pipe.commands] using ih
      have hid := map_eq_self fun c hc => (hcs c hc).1
      have hds : ds.map (Variable.mapLocation id) = ds := List.map_id ds
      simpa [mapLocations, Pipe.mapLocations, Variable.mapLocation, hid, hds]
        using fun c hc => (hcs c hc).2
    | command c =>
      obtain ⟨l, as⟩ := c
      have has : ∀ n ∈ as, n.mapLocations id = n
          ∧ (n.mapLocations f).mapLocations g = n.mapLocations (g ∘ f) := by
        simpa [mapLocations, parts, Command.arguments] using ih
      have hid := map_eq_self fun n hn => (has n hn).1
      simpa [mapLocations, Command.mapLocations, hid] using fun n hn => (has n hn).2
    -- Each of the three parts may be missing; the others are given by induction.
    | branch b =>
      obtain ⟨l, p, ns, es⟩ := b
      cases p <;> cases ns <;> cases es <;>
        simp_all [mapLocations, Branch.mapLocations, parts, Branch.pipe, Branch.list, Branch.elseList]

/-! ### Parts that differ in their locations only -/

/-- Variables of one name. -/
structure Variable.Alike (R : Location → Location → Prop) (v w : Variable) : Prop where
  location : R v.location w.location
  identifiers : v.identifiers = w.identifiers

-- Each constructor relates the locations by `R`, the parts by `Alike`, and has all else in common.
mutual

/-- Nodes of one kind that have all in common but their locations, which `R` relates. -/
inductive Node.Alike (R : Location → Location → Prop) : Node → Node → Prop
  | action {l k p q} (hl : R l k) (hp : Option.Rel (Pipe.Alike R) p q) :
      Node.Alike R (.action l p) (.action k q)
  | bool {l k value} (hl : R l k) : Node.Alike R (.bool l value) (.bool k value)
  | breakLoop {l k} (hl : R l k) : Node.Alike R (.breakLoop l) (.breakLoop k)
  | chain {l k n m fields} (hl : R l k) (hn : Option.Rel (Node.Alike R) n m) :
      Node.Alike R (.chain l n fields) (.chain k m fields)
  | command {c d} (hc : Command.Alike R c d) : Node.Alike R (.command c) (.command d)
  | comment {l k text} (hl : R l k) : Node.Alike R (.comment l text) (.comment k text)
  | continueLoop {l k} (hl : R l k) : Node.Alike R (.continueLoop l) (.continueLoop k)
  | dot {l k} (hl : R l k) : Node.Alike R (.dot l) (.dot k)
  | field {l k names} (hl : R l k) : Node.Alike R (.field l names) (.field k names)
  | identifier {l k name} (hl : R l k) : Node.Alike R (.identifier l name) (.identifier k name)
  | ifElse {b c} (hb : Branch.Alike R b c) : Node.Alike R (.ifElse b) (.ifElse c)
  | list {ns ms} (hns : NodeList.Alike R ns ms) : Node.Alike R (.list ns) (.list ms)
  | nil {l k} (hl : R l k) : Node.Alike R (.nil l) (.nil k)
  | number {l k text} (hl : R l k) : Node.Alike R (.number l text) (.number k text)
  | pipe {p q} (hp : Pipe.Alike R p q) : Node.Alike R (.pipe p) (.pipe q)
  | range {b c} (hb : Branch.Alike R b c) : Node.Alike R (.range b) (.range c)
  | string {l k quoted text} (hl : R l k) :
      Node.Alike R (.string l quoted text) (.string k quoted text)
  | template {l k name p q} (hl : R l k) (hp : Option.Rel (Pipe.Alike R) p q) :
      Node.Alike R (.template l name p) (.template k name q)
  | text {l k text} (hl : R l k) : Node.Alike R (.text l text) (.text k text)
  | var {v w} (hv : Variable.Alike R v w) : Node.Alike R (.var v) (.var w)
  | withScope {b c} (hb : Branch.Alike R b c) : Node.Alike R (.withScope b) (.withScope c)

inductive Pipe.Alike (R : Location → Location → Prop) : Pipe → Pipe → Prop
  | mk {l k ds es cs bs} (hl : R l k) (hds : List.Forall₂ (Variable.Alike R) ds es)
      (hcs : List.Forall₂ (Command.Alike R) cs bs) : Pipe.Alike R (.mk l ds cs) (.mk k es bs)

inductive Command.Alike (R : Location → Location → Prop) : Command → Command → Prop
  | mk {l k ns ms} (hl : R l k) (hns : List.Forall₂ (Node.Alike R) ns ms) :
      Command.Alike R (.mk l ns) (.mk k ms)

inductive NodeList.Alike (R : Location → Location → Prop) : NodeList → NodeList → Prop
  | mk {l k ns ms} (hl : R l k) (hns : List.Forall₂ (Node.Alike R) ns ms) :
      NodeList.Alike R (.mk l ns) (.mk k ms)

inductive Branch.Alike (R : Location → Location → Prop) : Branch → Branch → Prop
  | mk {l k p q ns ms es ds} (hl : R l k) (hp : Option.Rel (Pipe.Alike R) p q)
      (hns : Option.Rel (NodeList.Alike R) ns ms) (hes : Option.Rel (NodeList.Alike R) es ds) :
      Branch.Alike R (.mk l p ns es) (.mk k q ms ds)

end

/-- Parts of one kind that have all in common but their locations. -/
def Visit.Alike (R : Location → Location → Prop) : Visit → Visit → Prop
  | .node n, .node m => n.Alike R m
  | .list ns, .list ms => ns.Alike R ms
  | .pipe p, .pipe q => p.Alike R q
  | .command c, .command d => c.Alike R d
  | .branch b, .branch c => b.Alike R c
  | _, _ => False

/-- Templates that have all in common but their locations. -/
structure Tree.Alike (R : Location → Location → Prop) (t u : Tree) : Prop where
  name : t.name = u.name
  parseName : t.parseName = u.parseName
  mode : t.mode = u.mode
  root : t.root.Alike R u.root

/-- A part that may be missing is related to what it is mapped to. -/
theorem rel_option_map {α : Type} {R : α → α → Prop} {f : α → α} {o : Option α}
    (h : ∀ a ∈ o.toList, R a (f a)) : Option.Rel R o (o.map f) := by
  cases o with
  | none => exact Option.Rel.none
  | some a => exact Option.Rel.some (h a (List.mem_singleton_self a))

/-- So are the parts of a list, one by one. -/
theorem forall₂_map {α : Type} {R : α → α → Prop} {f : α → α} {l : List α}
    (h : ∀ a ∈ l, R a (f a)) : List.Forall₂ R l (l.map f) :=
  List.forall₂_map_right_iff.mpr (List.forall₂_same.mpr h)

/-- **Nothing else changes.** A part before the change and after it are alike. -/
theorem Visit.alike_mapLocations (f : Location → Location) (x : Visit) :
    x.Alike (fun l k => k = f l) (x.mapLocations f) := by
  -- Over parts of parts: `ih` is about those that stand in `x`.
  induction x using Visit.induction with
  | step x ih =>
    cases x with
    | node n =>
      cases n with
      | action l p =>
        rw [mapLocations, Node.mapLocations, mapPipe?_eq_map]
        exact .action rfl (rel_option_map fun q hq => ih (.pipe q) (List.mem_map_of_mem hq))
      | template l name p =>
        rw [mapLocations, Node.mapLocations, mapPipe?_eq_map]
        exact .template rfl (rel_option_map fun q hq => ih (.pipe q) (List.mem_map_of_mem hq))
      | chain l n fs =>
        rw [mapLocations, Node.mapLocations, mapNode?_eq_map]
        exact .chain rfl (rel_option_map fun m hm => ih (.node m) (List.mem_map_of_mem hm))
      | command c => exact .command (ih (.command c) (List.mem_singleton_self _))
      | list ns => exact .list (ih (.list ns) (List.mem_singleton_self _))
      | pipe p => exact .pipe (ih (.pipe p) (List.mem_singleton_self _))
      | ifElse b => exact .ifElse (ih (.branch b) (List.mem_singleton_self _))
      | range b => exact .range (ih (.branch b) (List.mem_singleton_self _))
      | withScope b => exact .withScope (ih (.branch b) (List.mem_singleton_self _))
      | var v => exact .var ⟨rfl, rfl⟩
      | _ =>
        constructor
        rfl
    | list ns =>
      obtain ⟨l, ns⟩ := ns
      rw [mapLocations, NodeList.mapLocations, mapNodes_eq_map]
      exact .mk rfl (forall₂_map fun n hn => ih (.node n) (List.mem_map_of_mem hn))
    | pipe p =>
      obtain ⟨l, ds, cs⟩ := p
      rw [mapLocations, Pipe.mapLocations, mapCommands_eq_map]
      exact .mk rfl (forall₂_map fun d _ => ⟨rfl, rfl⟩)
        (forall₂_map fun c hc => ih (.command c) (List.mem_map_of_mem hc))
    | command c =>
      obtain ⟨l, as⟩ := c
      rw [mapLocations, Command.mapLocations, mapNodes_eq_map]
      exact .mk rfl (forall₂_map fun n hn => ih (.node n) (List.mem_map_of_mem hn))
    | branch b =>
      obtain ⟨l, p, ns, es⟩ := b
      rw [mapLocations, Branch.mapLocations, mapPipe?_eq_map, mapList?_eq_map, mapList?_eq_map]
      -- The three parts of a branch are among its parts, in this order.
      refine .mk rfl (rel_option_map fun q hq => ih (.pipe q) ?_)
        (rel_option_map fun ms hms => ih (.list ms) ?_)
        (rel_option_map fun ms hms => ih (.list ms) ?_)
      · exact List.mem_append_left _ (List.mem_append_left _ (List.mem_map_of_mem hq))
      · exact List.mem_append_left _ (List.mem_append_right _ (List.mem_map_of_mem hms))
      · exact List.mem_append_right _ (List.mem_map_of_mem hms)

/-! ### The locations on a trace -/

/-- The recursion over nodes is a `flatMap`, and so is that over commands. -/
theorem nodesLocations_eq_flatMap (ns : List Node) :
    nodesLocations ns = ns.flatMap Node.locations := by
  induction ns with
  | nil => rfl
  | cons n ns ih => rw [nodesLocations, ih, List.flatMap_cons]

theorem commandsLocations_eq_flatMap (cs : List Command) :
    commandsLocations cs = cs.flatMap Command.locations := by
  induction cs with
  | nil => rfl
  | cons c cs ih => rw [commandsLocations, ih, List.flatMap_cons]

/-- The locations in a part. -/
def Visit.locations : Visit → List Location
  | .node n => n.locations
  | .list ns => ns.locations
  | .pipe p => p.locations
  | .command c => c.locations
  | .branch b => b.locations

/-- The locations that a part holds itself: its own, and for a pipeline those of its declarations.  A node
    that is no more than a list, a pipeline, a command or a branch leaves its location to that part. -/
def Visit.ownLocations : Visit → List Location
  | .node (.command _) | .node (.list _) | .node (.pipe _) | .node (.ifElse _) | .node (.range _)
  | .node (.withScope _) => []
  | .node n => [n.location]
  | .list ns => [ns.location]
  | .pipe p => p.location :: p.declarations.map Variable.location
  | .command c => [c.location]
  | .branch b => [b.location]

/-- The locations in a part are its own and those in its parts. -/
theorem Visit.locations_eq (x : Visit) :
    x.locations = x.ownLocations ++ x.parts.flatMap Visit.locations := by
  -- By kind of part; where a part of the part is missing it has no locations.
  cases x with
  | node n =>
    cases n with
    | action l p | template l name p =>
      cases p <;> simp [locations, Node.locations, pipeLocations?, ownLocations, Node.location, parts]
    | chain l n fs =>
      cases n <;> simp [locations, Node.locations, nodeLocations?, ownLocations, Node.location, parts]
    | _ => simp [locations, Node.locations, ownLocations, Node.location, parts]
  | list ns =>
    obtain ⟨l, ns⟩ := ns
    simp [locations, NodeList.locations, nodesLocations_eq_flatMap, ownLocations, NodeList.location,
      parts, NodeList.nodes, List.flatMap_map]
  | pipe p =>
    obtain ⟨l, ds, cs⟩ := p
    simp [locations, Pipe.locations, commandsLocations_eq_flatMap, ownLocations, Pipe.location,
      Pipe.declarations, parts, Pipe.commands, List.flatMap_map]
  | command c =>
    obtain ⟨l, as⟩ := c
    simp [locations, Command.locations, nodesLocations_eq_flatMap, ownLocations, Command.location,
      parts, Command.arguments, List.flatMap_map]
  | branch b =>
    obtain ⟨l, p, ns, es⟩ := b
    cases p <;> cases ns <;> cases es <;>
      simp [locations, Branch.locations, pipeLocations?, listLocations?, ownLocations,
        Branch.location, parts, Branch.pipe, Branch.list, Branch.elseList]

/-- **Locations of a trace.** The visited parts hold all locations, each of them once. -/
theorem Visit.locations_eq_flatMap (x : Visit) :
    x.locations = (traceVisitor.visit x).flatMap Visit.ownLocations := by
  induction x using Visit.induction with
  | step x ih =>
    rw [locations_eq, traceVisitor_visit, List.flatMap_cons, List.flatMap_assoc,
      List.flatMap_congr ih]

/-- The locations that a part holds itself are changed one by one. -/
theorem Visit.ownLocations_mapLocations (f : Location → Location) (x : Visit) :
    (x.mapLocations f).ownLocations = x.ownLocations.map f := by
  cases x with
  | node n => cases n <;> rfl
  | list ns => cases ns; rfl
  | pipe p =>
    obtain ⟨l, ds, cs⟩ := p
    simp [mapLocations, Pipe.mapLocations, ownLocations, Pipe.location, Pipe.declarations,
      Variable.mapLocation]
  | command c => cases c; rfl
  | branch b => cases b; rfl

/-- So are all locations in it, since the trace goes along. -/
theorem Visit.locations_mapLocations (f : Location → Location) (x : Visit) :
    (x.mapLocations f).locations = x.locations.map f := by
  rw [locations_eq_flatMap, locations_eq_flatMap, traceVisitor_visit_mapLocations, List.flatMap_map,
    List.map_flatMap]
  exact List.flatMap_congr fun y _ => y.ownLocations_mapLocations f

/-! ### Templates -/

theorem Tree.locations_mapLocations (f : Location → Location) (t : Tree) :
    (t.mapLocations f).locations = t.locations.map f :=
  Visit.locations_mapLocations f (.list t.root)

/-- **Moved locations.** Where `f` moves the locations of a template, everything else stays as it is, each
    location is moved once, be it of the root list or of a node, list, pipeline, declaration, command or
    branch below, and a walk meets the same nodes as before, each with its location moved. -/
theorem Tree.mapLocations_moves_locations (f g : Location → Location) (t : Tree) :
    t.Alike (fun l k => k = f l) (t.mapLocations f)
      ∧ (t.mapLocations f).locations = t.locations.map f
      ∧ t.locations = (traceVisitor.visitList t.root).flatMap Visit.ownLocations
      ∧ t.mapLocations id = t
      ∧ (t.mapLocations f).mapLocations g = t.mapLocations (g ∘ f)
      ∧ (t.mapLocations f).descendants.length = t.descendants.length
      ∧ (t.mapLocations f).descendants.map Node.kind = t.descendants.map Node.kind
      ∧ (t.mapLocations f).descendants.map Node.location
          = t.descendants.map (fun n => f n.location) := by
  have hlaws := Visit.mapLocations_laws f g (.list t.root)
  have hwalk : (t.mapLocations f).descendants = t.descendants.map (Node.mapLocations f) :=
    nodeVisitor_visit_mapLocations f (.list t.root)
  refine ⟨⟨rfl, rfl, rfl, Visit.alike_mapLocations f (.list t.root)⟩, t.locations_mapLocations f,
    Visit.locations_eq_flatMap (.list t.root), ?_, ?_, ?_, ?_, ?_⟩
  · exact congrArg (fun root => { t with root }) (Visit.list.inj hlaws.1)
  · exact congrArg (fun root => { t with root }) (Visit.list.inj hlaws.2)
  · rw [hwalk, List.length_map]
  · rw [hwalk, List.map_map]
    exact List.map_congr_left fun n _ => n.kind_mapLocations f
  · rw [hwalk, List.map_map]
    exact List.map_congr_left fun n _ => n.location_mapLocations f

end ChartTrace
