import ChartTrace.Proofs.TemplateParts
import ChartTrace.Proofs.TreeWalks

namespace ChartTrace

/-!
# The addresses of parts

Two parts of a template may be equal, so a part is known by its address: the way that leads to it.

* `Address.Precedes`: the order of the template, on addresses;
* `Visit.at?`, `Visit.addresses`: the part at an address, and the addresses of all parts;
* `Visit.mem_addresses`, `Visit.pairwise_addresses`, `Visit.map_at?_addresses`: no address is missing,
  they are in order, and a trace goes through them;
* `Visit.Reads`: a list that holds what is read at each of the addresses that are of interest;
* `descendants_preorder`: the nodes in a node and in a template, in pre-order;
* `visits_match_trace`: the nodes and the commands that visitors of their own find.
-/

/-- The way to a part: which of the parts to take, at each step inwards. -/
abbrev Address := List Nat

/-! ### The order of addresses -/

namespace Address

/-- The address of a part precedes those of the parts in it; and where two ways fork, all addresses
    along the earlier one precede those along the later one. -/
def Precedes (a b : Address) : Prop :=
  (∃ i c, b = a ++ i :: c) ∨ ∃ p i j c d, i < j ∧ a = p ++ i :: c ∧ b = p ++ j :: d

/-- A part precedes what is in it. -/
theorem nil_precedes_cons (i : Nat) (a : Address) : Precedes [] (i :: a) := Or.inl ⟨i, a, rfl⟩

/-- What is in an earlier part precedes what is in a later one, at any depth. -/
theorem cons_precedes_cons_of_lt {i j : Nat} (h : i < j) (a b : Address) :
    Precedes (i :: a) (j :: b) :=
  Or.inr ⟨[], i, j, a, b, h, rfl, rfl⟩

/-- The order is kept within a part. -/
theorem Precedes.cons {a b : Address} (h : Precedes a b) (k : Nat) : Precedes (k :: a) (k :: b) := by
  rcases h with ⟨i, c, rfl⟩ | ⟨p, i, j, c, d, hij, rfl, rfl⟩
  · exact Or.inl ⟨i, c, rfl⟩
  · exact Or.inr ⟨k :: p, i, j, c, d, hij, rfl, rfl⟩

/-- Nothing precedes itself. -/
theorem Precedes.ne {a b : Address} (h : Precedes a b) : a ≠ b := by
  rintro rfl
  rcases h with ⟨i, c, hc⟩ | ⟨p, i, j, c, d, hij, hc, hd⟩
  · simp at hc
  · have hcd : i :: c = j :: d := List.append_cancel_left (hc.symm.trans hd)
    cases hcd
    exact Nat.lt_irrefl i hij

end Address

/-! ### The addresses in a part -/

/-- The part at an address, if there is one. -/
def Visit.at? : Visit → Address → Option Visit
  | x, [] => some x
  | x, i :: a => x.parts[i]?.bind fun y => y.at? a

/-- The addresses of a part and of all parts in it. -/
def Visit.addresses (x : Visit) : List Address :=
  [] :: x.parts.attach.zipIdx.flatMap fun y => y.1.1.addresses.map (y.2 :: ·)
termination_by sizeOf x
decreasing_by exact sizeOf_lt_of_mem_parts y.1.2

/-- The same without the proofs of membership that the recursion carries along. -/
theorem Visit.addresses_eq (x : Visit) :
    x.addresses = [] :: x.parts.zipIdx.flatMap fun y => y.1.addresses.map (y.2 :: ·) := by
  have hparts : x.parts.zipIdx = x.parts.attach.zipIdx.map (Prod.map Subtype.val id) := by
    rw [← List.zipIdx_map, List.attach_map_subtype_val]
  rw [addresses, hparts, List.flatMap_map]
  rfl

/-- A way into a part is a way on from one of the parts in it. -/
theorem Visit.cons_mem_addresses {x : Visit} {i : Nat} {a : Address} :
    i :: a ∈ x.addresses ↔ ∃ y, x.parts[i]? = some y ∧ a ∈ y.addresses := by
  rw [addresses_eq]
  simp [List.mem_zipIdx_iff_getElem?]

/-- **No part is missing.** The listed addresses are those that lead to a part. -/
theorem Visit.mem_addresses {x : Visit} {a : Address} : a ∈ x.addresses ↔ (x.at? a).isSome := by
  induction a generalizing x with
  -- The empty address is that of the part itself.
  | nil =>
    rw [addresses_eq]
    simp [at?]
  | cons i a ih =>
    rw [cons_mem_addresses, at?]
    cases x.parts[i]? with
    | none => simp
    | some y => simp [ih]

/-- Indices increase along a list. -/
theorem pairwise_zipIdx_snd_lt {α : Type} (l : List α) : l.zipIdx.Pairwise fun y z => y.2 < z.2 := by
  have h := List.pairwise_lt_range' (s := 0) (n := l.length) 1
  rw [← List.zipIdx_map_snd, List.pairwise_map] at h
  exact h

/-- **Order.** The addresses are listed in the order of the template. -/
theorem Visit.pairwise_addresses (x : Visit) : x.addresses.Pairwise Address.Precedes := by
  induction x using Visit.induction with
  | step x ih =>
    rw [addresses_eq, List.pairwise_cons, List.pairwise_flatMap]
    -- The part comes first, the addresses in one of its parts keep their order, and those in two of
    -- its parts differ in their first index.
    refine ⟨?_, ?_, ?_⟩
    · intro a ha
      obtain ⟨y, -, ha⟩ := List.mem_flatMap.mp ha
      obtain ⟨b, -, rfl⟩ := List.mem_map.mp ha
      exact Address.nil_precedes_cons y.2 b
    · intro y hy
      have hmem : y.1 ∈ x.parts := List.mem_of_getElem? (List.mem_zipIdx_iff_getElem?.mp hy)
      exact (ih y.1 hmem).map _ fun a b hab => hab.cons y.2
    · refine (pairwise_zipIdx_snd_lt x.parts).imp ?_
      intro y z hyz a ha b hb
      obtain ⟨a, -, rfl⟩ := List.mem_map.mp ha
      obtain ⟨b, -, rfl⟩ := List.mem_map.mp hb
      exact Address.cons_precedes_cons_of_lt hyz a b

/-- **Traces.** A trace comes to the part at each address, one after the other. -/
theorem Visit.map_at?_addresses (x : Visit) :
    x.addresses.map x.at? = (traceVisitor.visit x).map some := by
  induction x using Visit.induction with
  | step x ih =>
    have hpart : ∀ y ∈ x.parts.zipIdx,
        (y.1.addresses.map (y.2 :: ·)).map x.at? = (traceVisitor.visit y.1).map some := by
      intro y hy
      have hget : x.parts[y.2]? = some y.1 := List.mem_zipIdx_iff_getElem?.mp hy
      rw [← ih y.1 (List.mem_of_getElem? hget), List.map_map]
      refine List.map_congr_left fun a _ => ?_
      rw [Function.comp_apply, at?, hget, Option.bind_some]
    -- The indices are of no more use once the addresses are read.
    have hfst : x.parts.zipIdx.flatMap (fun y => (traceVisitor.visit y.1).map some)
        = x.parts.flatMap fun y => (traceVisitor.visit y).map some := by
      rw [← List.flatMap_map Prod.fst fun y => (traceVisitor.visit y).map some,
        List.zipIdx_map_fst]
    rw [addresses_eq, traceVisitor_visit, List.map_cons, List.map_cons, List.map_flatMap,
      List.map_flatMap, List.flatMap_congr hpart, hfst]
    rfl

/-! ### Reading off the parts -/

/-- The list `xs` holds what `f` reads in `x`, one entry for each address where it reads something, and
    in the order of these addresses. -/
structure Visit.Reads {α : Type} (x : Visit) (f : Visit → Option α) (addresses : List Address)
    (xs : List α) : Prop where
  /-- The entries are what is read at the addresses. -/
  read : addresses.map (fun a => (x.at? a).bind f) = xs.map some
  mem_iff : ∀ a, a ∈ addresses ↔ ∃ y, x.at? a = some y ∧ (f y).isSome
  nodup : addresses.Nodup
  inOrder : addresses.Pairwise Address.Precedes

/-- **Reading.** What is read off a trace is what is read at the addresses, none of them left out. -/
theorem Visit.exists_reads {α : Type} (x : Visit) (f : Visit → Option α) :
    ∃ addresses, x.Reads f addresses ((traceVisitor.visit x).filterMap f) := by
  -- A walk meets the parts in the order of their addresses, so both lists are filtered alike.
  have hread : x.addresses.map (fun a => (x.at? a).bind f) = (traceVisitor.visit x).map f := by
    have h := congrArg (List.map fun y => y.bind f) x.map_at?_addresses
    rw [List.map_map, List.map_map] at h
    exact h
  have horder : (x.addresses.filter fun a => ((x.at? a).bind f).isSome).Pairwise Address.Precedes :=
    x.pairwise_addresses.filter _
  refine ⟨_, ?_, ?_, horder.imp Address.Precedes.ne, horder⟩
  · rw [List.map_filterMap_some_eq_filter_map_isSome, ← hread, List.filter_map]
    rfl
  · intro a
    rw [List.mem_filter, mem_addresses]
    cases x.at? a with
    | none => simp
    | some y => simp

/-- The walk over nodes reads off the nodes. -/
theorem Visit.exists_reads_nodes (x : Visit) :
    ∃ addresses, x.Reads Visit.node? addresses ((nodeVisitor true).visit x) := by
  rw [nodeVisitor_visit]
  exact x.exists_reads Visit.node?

/-- The walk over commands reads off the commands. -/
theorem Visit.exists_reads_commands (x : Visit) :
    ∃ addresses, x.Reads Visit.command? addresses (commandVisitor.visit x) := by
  rw [commandVisitor_visit]
  exact x.exists_reads Visit.command?

/-! ### Descendants and partial visits -/

/-- The descendants of a tree are the nodes of its root, each followed by its own descendants. -/
theorem Tree.descendants_eq (t : Tree) :
    t.descendants = t.root.nodes.flatMap fun c => c :: c.descendants := by
  have h := (nodeVisitor true).visit_eq rfl (.list t.root)
  rw [Visit.parts, List.flatMap_map] at h
  exact h

/-- **Pre-order.** The nodes in a node are its children, each of them with the nodes in it behind it; the
    nodes of a template are made up in the same way from the nodes at its top.  So each node, at
    whichever address, has one entry, and the entries are in the order of the addresses. -/
theorem descendants_preorder (n : Node) (t : Tree) :
    n.descendants = n.children.flatMap (fun c => c :: c.descendants)
      ∧ t.descendants = t.root.nodes.flatMap (fun c => c :: c.descendants)
      ∧ (∃ addresses, (Visit.node n).Reads Visit.node? addresses (n :: n.descendants))
      ∧ ∃ addresses, (Visit.list t.root).Reads Visit.node? addresses t.descendants :=
  ⟨n.descendants_eq, t.descendants_eq, (Visit.node n).exists_reads_nodes,
    (Visit.list t.root).exists_reads_nodes⟩

/-- **Partial visits.** What a visitor of the nodes finds in a part, in a node or in a template are the
    nodes of the full trace, and what a visitor of the commands finds are its commands: those of all
    pipelines and those that are nodes, each of them once. -/
theorem visits_match_trace (x : Visit) (n : Node) (t : Tree) :
    (nodeVisitor true).visit x = (traceVisitor.visit x).filterMap Visit.node?
      ∧ n.descendants = (traceVisitor.walkNode n).filterMap Visit.node?
      ∧ t.descendants = (traceVisitor.visitList t.root).filterMap Visit.node?
      ∧ commandVisitor.visit x = (traceVisitor.visit x).filterMap Visit.command?
      ∧ ∃ addresses, x.Reads Visit.command? addresses (commandVisitor.visit x) := by
  refine ⟨nodeVisitor_visit x, ?_, nodeVisitor_visit (.list t.root), commandVisitor_visit x,
    x.exists_reads_commands⟩
  -- Both visits of the node note the node itself first.
  have hnode := nodeVisitor_visit (.node n)
  exact (List.cons.inj hnode).2

end ChartTrace
