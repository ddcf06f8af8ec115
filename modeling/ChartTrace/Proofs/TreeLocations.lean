import ChartTrace.Template.Unpack
import ChartTrace.Proofs.MappedLocations

namespace ChartTrace

/-!
# Locations of a syntax tree

* `Tree.location_mem_of_mem_descendants`: the nodes that a walk meets have their locations among those
  of the tree;
* `Location.FitsSigned`, `Tree.fitsSigned_of_ofMessage?`: positions and lengths that arrive as
  signed numbers stay below `signedLimit`, at every depth of the payloads;
* `Location.FitsSigned.end?_eq_some`: so their sums are words.
-/

/-! ### Locations of the nodes of a walk -/

/-- The location of a node is one of those in it. -/
theorem Node.location_mem_locations (n : Node) : n.location ∈ n.locations := by
  cases n with
  | command c => cases c; simp [Node.location, Node.locations, Command.location, Command.locations]
  | list ns => cases ns; simp [Node.location, Node.locations, NodeList.location, NodeList.locations]
  | pipe p => cases p; simp [Node.location, Node.locations, Pipe.location, Pipe.locations]
  | ifElse b | range b | withScope b =>
    cases b; simp [Node.location, Node.locations, Branch.location, Branch.locations]
  | _ => simp [Node.location, Node.locations]

/-- What a walk from a part comes to has no other locations than the part. -/
theorem Visit.locations_subset_of_mem_visit {x y : Visit} (h : y ∈ traceVisitor.visit x) :
    y.locations ⊆ x.locations := by
  induction x using Visit.induction with
  | step x ih =>
    rw [traceVisitor_visit, List.mem_cons, List.mem_flatMap] at h
    rcases h with rfl | ⟨z, hz, hy⟩
    · exact fun l hl => hl
    · intro l hl
      rw [Visit.locations_eq x, List.mem_append, List.mem_flatMap]
      exact Or.inr ⟨z, hz, ih z hz hy hl⟩

/-- So the nodes of a tree have their locations in the tree. -/
theorem Tree.location_mem_of_mem_descendants {t : Tree} {n : Node} (h : n ∈ t.descendants) :
    n.location ∈ t.locations := by
  -- The nodes of a walk are on its trace.
  have htrace : n ∈ (traceVisitor.visit (.list t.root)).filterMap Visit.node? := by
    rw [← nodeVisitor_visit]
    exact h
  obtain ⟨y, hy, hn⟩ := List.mem_filterMap.mp htrace
  obtain rfl : y = .node n := by
    cases y <;> cases hn
    rfl
  exact Visit.locations_subset_of_mem_visit hy n.location_mem_locations

/-! ### Locations that arrive as signed numbers -/

/-- Signed numbers lie below this one. -/
def signedLimit : Nat := 9223372036854775808

/-- The position and the length are signed numbers. -/
structure Location.FitsSigned (l : Location) : Prop where
  position_lt : l.position < signedLimit
  length_lt : l.length < signedLimit

instance (l : Location) : Decidable l.FitsSigned :=
  decidable_of_iff (l.position < signedLimit ∧ l.length < signedLimit)
    ⟨fun h => ⟨h.1, h.2⟩, fun h => ⟨h.position_lt, h.length_lt⟩⟩

/-- Two signed numbers add up to a word. -/
theorem Location.FitsSigned.end_lt {l : Location} (h : l.FitsSigned) :
    l.position + l.length < wordLimit := by
  have hp := h.position_lt
  have hl := h.length_lt
  rw [signedLimit] at hp hl
  rw [wordLimit]
  omega

/-- So the end of such a location is always a number. -/
theorem Location.FitsSigned.end?_eq_some {l : Location} (h : l.FitsSigned) :
    l.end? = some (l.position + l.length) := by
  rw [Location.end?, addWord?, if_pos h.end_lt]

/-- A signed number is below the limit, and a negative one is taken for zero. -/
theorem toNat_toInt_lt (i : Int64) : i.toInt.toNat < signedLimit := by
  have hi := i.toInt_lt
  rw [signedLimit]
  omega

/-- The location in a header is made of signed numbers. -/
theorem Wire.Header.fitsSigned_location (h : Wire.Header) : h.location.FitsSigned :=
  ⟨toNat_toInt_lt h.position, toNat_toInt_lt h.length⟩

section

variable {unpack : Wire.Payload → Option Node}
  (hunpack : ∀ p n, unpack p = some n → ∀ l ∈ n.locations, l.FitsSigned)

include hunpack

/-- Locations of nodes come from their payloads. -/
theorem fitsSigned_of_mem_filterMap {ps : List Wire.Payload} {l : Location}
    (h : l ∈ nodesLocations (ps.filterMap unpack)) : l.FitsSigned := by
  rw [nodesLocations_eq_flatMap, List.mem_flatMap] at h
  obtain ⟨n, hn, hl⟩ := h
  obtain ⟨p, -, hp⟩ := List.mem_filterMap.mp hn
  exact hunpack p n hp l hl

/-- The location of a command is that of its header, and the others are in its arguments. -/
theorem fitsSigned_toCommand (m : Wire.ParentNode) :
    ∀ l ∈ (m.toCommand unpack).locations, l.FitsSigned := by
  intro l hl
  rcases List.mem_cons.mp hl with rfl | hl
  · exact m.header.fitsSigned_location
  · exact fitsSigned_of_mem_filterMap hunpack hl

/-- The same for a list and its nodes. -/
theorem fitsSigned_toList (m : Wire.ParentNode) :
    ∀ l ∈ (m.toList unpack).locations, l.FitsSigned := by
  intro l hl
  rcases List.mem_cons.mp hl with rfl | hl
  · exact m.header.fitsSigned_location
  · exact fitsSigned_of_mem_filterMap hunpack hl

/-- The location of a pipeline, those of its variables, and those in its commands. -/
theorem fitsSigned_toPipe (m : Wire.PipeNode) :
    ∀ l ∈ (m.toPipe unpack).locations, l.FitsSigned := by
  intro l hl
  rcases List.mem_cons.mp hl with rfl | hl
  · exact m.header.fitsSigned_location
  · rcases List.mem_append.mp hl with hl | hl
    · -- A variable has a header of its own.
      rw [List.map_map, List.mem_map] at hl
      obtain ⟨d, -, rfl⟩ := hl
      exact d.header.fitsSigned_location
    · rw [commandsLocations_eq_flatMap, List.mem_flatMap] at hl
      obtain ⟨c, hc, hl⟩ := hl
      obtain ⟨k, -, rfl⟩ := List.mem_map.mp hc
      exact fitsSigned_toCommand hunpack k l hl

/-- The same for a pipeline that may be missing. -/
theorem fitsSigned_toPipe? (m : Option Wire.PipeNode) :
    ∀ l ∈ pipeLocations? (m.map fun p => p.toPipe unpack), l.FitsSigned := by
  cases m with
  | none => simp [pipeLocations?]
  | some p => exact fitsSigned_toPipe hunpack p

/-- The same for a list that may be missing. -/
theorem fitsSigned_toList? (m : Option Wire.ParentNode) :
    ∀ l ∈ listLocations? (m.map fun p => p.toList unpack), l.FitsSigned := by
  cases m with
  | none => simp [listLocations?]
  | some p => exact fitsSigned_toList hunpack p

/-- The location of a branch is that of the header around its body, so that it is there without a body
    as well. -/
theorem fitsSigned_toBranch (m : Wire.BranchingNode) :
    ∀ l ∈ (m.toBranch unpack).locations, l.FitsSigned := by
  intro l hl
  rw [Wire.BranchingNode.toBranch] at hl
  cases hb : m.branch with
  | none =>
    rw [hb] at hl
    obtain rfl : l = m.header.location := by
      simpa [Branch.locations, pipeLocations?, listLocations?] using hl
    exact m.header.fitsSigned_location
  | some b =>
    rw [hb] at hl
    simp only [Branch.locations, List.mem_cons, List.mem_append] at hl
    rcases hl with rfl | (hl | hl) | hl
    · exact m.header.fitsSigned_location
    · exact fitsSigned_toPipe? hunpack b.pipe l hl
    · exact fitsSigned_toList? hunpack b.list l hl
    · exact fitsSigned_toList? hunpack b.elseList l hl

/-- Step lemma: one message adds the locations of its own headers to those of the payloads in it. -/
theorem fitsSigned_toNode (m : NodeMessage) : ∀ l ∈ (m.toNode unpack).locations, l.FitsSigned := by
  cases m with
  | action m | template m =>
    intro l hl
    rcases List.mem_cons.mp hl with rfl | hl
    · exact m.header.fitsSigned_location
    · exact fitsSigned_toPipe? hunpack m.pipe l hl
  | chain m =>
    intro l hl
    rcases List.mem_cons.mp hl with rfl | hl
    · exact m.header.fitsSigned_location
    · cases hn : m.node.bind unpack with
      | none => simp [hn, nodeLocations?] at hl
      | some n =>
        obtain ⟨p, -, hp⟩ := Option.bind_eq_some_iff.mp hn
        rw [hn] at hl
        exact hunpack p n hp l hl
  | command m => exact fitsSigned_toCommand hunpack m
  | list m => exact fitsSigned_toList hunpack m
  | pipe m => exact fitsSigned_toPipe hunpack m
  | ifElse m | range m | withScope m => exact fitsSigned_toBranch hunpack m
  -- Leaves have one header and nothing in them.
  | breakLoop h | continueLoop h | dot h | nil h =>
    simpa [NodeMessage.toNode, Node.locations] using h.fitsSigned_location
  | bool m | comment m | field m | identifier m | number m | string m | text m =>
    simpa [NodeMessage.toNode, Node.locations] using m.header.fitsSigned_location
  | var m =>
    simpa [NodeMessage.toNode, Node.locations, Wire.PathNode.toVariable]
      using m.header.fitsSigned_location

end

/-- Run lemma: at every depth of payloads within each other. -/
theorem fitsSigned_unpackWithin (depth : Nat) (p : Wire.Payload) (n : Node)
    (h : unpackWithin depth p = some n) : ∀ l ∈ n.locations, l.FitsSigned := by
  induction depth generalizing p n with
  | zero => simp [unpackWithin] at h
  | succ depth ih =>
    rw [unpackWithin] at h
    split at h
    · cases h
    · next m _ =>
      -- The payloads in the message are unpacked one level deeper.
      cases h
      exact fitsSigned_toNode ih m

/-- **Signed numbers.** A decoded tree holds no position and no length beyond the largest signed
    number. -/
theorem Tree.fitsSigned_of_ofMessage? {m : Wire.Tree} {t : Tree} (h : Tree.ofMessage? m = some t) :
    ∀ l ∈ t.locations, l.FitsSigned := by
  obtain ⟨root, -, rfl⟩ := Option.map_eq_some_iff.mp h
  exact fitsSigned_toList (fun p n hn => fitsSigned_unpackWithin _ p n hn) root

end ChartTrace
