import ChartTrace.Proofs.PayloadSizes
import ChartTrace.Proofs.TreeWalks

namespace ChartTrace

/-!
# Payloads within payloads

Unpacking a payload unpacks the payloads in its message, and so on.  Whatever the bytes, this comes to
an end: what is found in a payload is smaller than the payload.

* `NodeMessage.IsReadFrom`, `decodePayload_eq_ok_iff`: the message of a payload, by kind;
* `Wire.Payload.IsIn`, `Wire.Payload.isIn_wellFounded`: the payloads in a payload, which are shorter;
* `NodeMessage.toNode_congr`, `NodeMessage.children_toNode`: what a node is made from, and the nodes
  in it;
* `unpackStep`, `unpackNode?_eq`: unpacking is reading a message and unpacking what is in it;
* `unpack_terminates`: all of this together, with the number of nodes.
-/

/-! ### Payloads -/

/-- The bytes are read as this message, by the layout of its kind. -/
def NodeMessage.IsReadFrom : NodeMessage → Bytes → Prop
  | .action m, bs => Wire.actionLayout.decode bs = .ok m
  | .bool m, bs => Wire.boolLayout.decode bs = .ok m
  | .breakLoop m, bs => (Wire.plainLayout "BreakNode").decode bs = .ok m
  | .chain m, bs => Wire.chainLayout.decode bs = .ok m
  | .command m, bs => Wire.commandLayout.decode bs = .ok m
  | .comment m, bs => (Wire.textualLayout "CommentNode" "text").decode bs = .ok m
  | .continueLoop m, bs => (Wire.plainLayout "ContinueNode").decode bs = .ok m
  | .dot m, bs => (Wire.plainLayout "DotNode").decode bs = .ok m
  | .field m, bs => (Wire.pathLayout "FieldNode").decode bs = .ok m
  | .identifier m, bs => (Wire.textualLayout "IdentifierNode" "ident").decode bs = .ok m
  | .ifElse m, bs => (Wire.branchingLayout "IfNode").decode bs = .ok m
  | .list m, bs => Wire.listLayout.decode bs = .ok m
  | .nil m, bs => (Wire.plainLayout "NilNode").decode bs = .ok m
  | .number m, bs => (Wire.textualLayout "NumberNode" "text").decode bs = .ok m
  | .pipe m, bs => Wire.pipeLayout.decode bs = .ok m
  | .range m, bs => (Wire.branchingLayout "RangeNode").decode bs = .ok m
  | .string m, bs => Wire.stringLayout.decode bs = .ok m
  | .template m, bs => Wire.templateLayout.decode bs = .ok m
  | .text m, bs => Wire.literalLayout.decode bs = .ok m
  | .var m, bs => Wire.variableLayout.decode bs = .ok m
  | .withScope m, bs => (Wire.branchingLayout "WithNode").decode bs = .ok m

/-- What a reader gives is a message of the kind by whose name it was selected. -/
theorem messageReader?_eq_some {name : String} {read : Bytes → Except Wire.DecodeError NodeMessage}
    {bs : Bytes} {m : NodeMessage} (hread : messageReader? name = some read) (hm : read bs = .ok m) :
    m.name = name ∧ m.IsReadFrom bs := by
  unfold messageReader? at hread
  -- One case for each name, and a last one for names of no kind.
  split at hread
  case h_22 => cases hread
  all_goals
    cases hread
    obtain ⟨a, ha, rfl⟩ := except_map_eq_ok_iff.mp hm
    exact ⟨rfl, ha⟩

/-- The reader of a kind reads all messages of that kind. -/
theorem messageReader?_of_isReadFrom {bs : Bytes} {m : NodeMessage} (h : m.IsReadFrom bs) :
    ∃ read, messageReader? m.name = some read ∧ read bs = .ok m := by
  cases m <;> exact ⟨_, rfl, except_map_eq_ok_iff.mpr ⟨_, h, rfl⟩⟩

/-- The message of a payload is of the kind that its URL names, and read from its bytes. -/
theorem decodePayload_eq_ok_iff {p : Wire.Payload} {m : NodeMessage} :
    decodePayload p = .ok m ↔ m.name = typeName p.typeUrl ∧ m.IsReadFrom p.value := by
  rw [decodePayload]
  constructor
  · intro h
    split at h
    · cases h
    · next read hread => exact messageReader?_eq_some hread (except_mapError_eq_ok_iff.mp h)
  · rintro ⟨hname, hm⟩
    obtain ⟨read, hread, hm⟩ := messageReader?_of_isReadFrom hm
    rw [hname] at hread
    simp only [hread, hm]
    rfl

/-- The payloads in a message take no more than the bytes of the message. -/
theorem NodeMessage.IsReadFrom.payloadsSize_le {m : NodeMessage} {bs : Bytes} (h : m.IsReadFrom bs) :
    Wire.payloadsSize m.payloads ≤ bs.length := by
  cases m with
  | action m => exact Wire.grows_actionLayout.size_le rfl h
  | chain m => exact Wire.grows_chainLayout.size_le rfl h
  | command m | list m => exact (Wire.grows_parentLayout _ _).size_le rfl h
  | ifElse m | range m | withScope m => exact (Wire.grows_branchingLayout _).size_le rfl h
  | pipe m => exact Wire.grows_pipeLayout.size_le rfl h
  | template m => exact Wire.grows_templateLayout.size_le rfl h
  | bool | breakLoop | comment | continueLoop | dot | field | identifier | nil | number | string
  | text | var => exact Nat.zero_le _

/-- The payload is one of those in the message of the other. -/
def Wire.Payload.IsIn (q p : Wire.Payload) : Prop := ∃ m, decodePayload p = .ok m ∧ q ∈ m.payloads

/-- So payloads in a payload are no more than its bytes. -/
theorem payloadsSize_le_of_decodePayload {p : Wire.Payload} {m : NodeMessage}
    (h : decodePayload p = .ok m) : Wire.payloadsSize m.payloads ≤ p.value.length :=
  (decodePayload_eq_ok_iff.mp h).2.payloadsSize_le

/-- One of several payloads is smaller than all, if only by its key. -/
theorem Wire.size_lt_payloadsSize {p : Wire.Payload} {ps : List Wire.Payload} (h : p ∈ ps) :
    p.size < Wire.payloadsSize ps := by
  obtain ⟨before, after, rfl⟩ := List.append_of_mem h
  rw [Wire.payloadsSize_append, Wire.payloadsSize_cons]
  omega

/-- A payload in a payload has fewer bytes. -/
theorem Wire.Payload.IsIn.length_lt {q p : Wire.Payload} (h : q.IsIn p) :
    q.value.length < p.value.length := by
  obtain ⟨m, hm, hq⟩ := h
  calc q.value.length ≤ q.size := Wire.length_value_le_encode q
    _ < Wire.payloadsSize m.payloads := Wire.size_lt_payloadsSize hq
    _ ≤ p.value.length := payloadsSize_le_of_decodePayload hm

/-- Following payloads in payloads comes to an end. -/
theorem Wire.Payload.isIn_wellFounded : WellFounded Wire.Payload.IsIn :=
  Subrelation.wf Wire.Payload.IsIn.length_lt
    (measure fun p : Wire.Payload => p.value.length).wf

/-- The total size is less than the bytes, since each payload has a key in front of it. -/
theorem sum_size_lt {p : Wire.Payload} {m : NodeMessage} (h : decodePayload p = .ok m)
    (hne : m.payloads ≠ []) : (m.payloads.map Wire.Payload.size).sum < p.value.length := by
  have hpos := List.length_pos_of_ne_nil hne
  have hle := payloadsSize_le_of_decodePayload h
  rw [Wire.payloadsSize_eq] at hle
  omega

/-! ### Unpacking by steps -/

section

variable {f g : Wire.Payload → Option Node}

/-- A command is made from what its payloads are unpacked to. -/
theorem Wire.ParentNode.toCommand_congr {m : Wire.ParentNode} (h : ∀ q ∈ m.nodes, f q = g q) :
    m.toCommand f = m.toCommand g := by
  rw [Wire.ParentNode.toCommand, Wire.ParentNode.toCommand, List.filterMap_congr h]

/-- So is a list. -/
theorem Wire.ParentNode.toList_congr {m : Wire.ParentNode} (h : ∀ q ∈ m.nodes, f q = g q) :
    m.toList f = m.toList g := by
  rw [Wire.ParentNode.toList, Wire.ParentNode.toList, List.filterMap_congr h]

/-- So is a pipeline, whose payloads are those of its commands. -/
theorem Wire.PipeNode.toPipe_congr {m : Wire.PipeNode} (h : ∀ q ∈ m.payloads, f q = g q) :
    m.toPipe f = m.toPipe g := by
  have hcommands : m.commands.map (fun c => c.toCommand f) = m.commands.map fun c => c.toCommand g :=
    List.map_congr_left fun c hc => Wire.ParentNode.toCommand_congr fun q hq =>
      h q (List.mem_flatMap.mpr ⟨c, hc, hq⟩)
  rw [Wire.PipeNode.toPipe, Wire.PipeNode.toPipe, hcommands]

/-- What holds of the payloads of a message that may be missing holds of those of the message. -/
theorem forall_mem_payloads_of_eq_some {m : Option α} {payloads : α → List Wire.Payload}
    {P : Wire.Payload → Prop} (h : ∀ q ∈ (m.map payloads).getD [], P q) {a : α} (ha : m = some a) :
    ∀ q ∈ payloads a, P q := by
  rw [ha] at h
  exact h

/-- So is a branch, whose payloads are those of its three parts. -/
theorem Wire.BranchingNode.toBranch_congr {m : Wire.BranchingNode}
    (h : ∀ q ∈ (m.branch.map Wire.BranchNode.payloads).getD [], f q = g q) :
    m.toBranch f = m.toBranch g := by
  rw [Wire.BranchingNode.toBranch, Wire.BranchingNode.toBranch]
  cases hbranch : m.branch with
  | none => rfl
  | some b =>
    rw [hbranch] at h
    simp only [Option.map_some, Option.getD_some, Wire.BranchNode.payloads, List.forall_mem_append] at h
    obtain ⟨⟨hpipe, hlist⟩, helse⟩ := h
    dsimp only
    rw [Option.map_congr fun p hp =>
        Wire.PipeNode.toPipe_congr (forall_mem_payloads_of_eq_some hpipe hp),
      Option.map_congr fun l hl =>
        Wire.ParentNode.toList_congr (forall_mem_payloads_of_eq_some hlist hl),
      Option.map_congr fun l hl =>
        Wire.ParentNode.toList_congr (forall_mem_payloads_of_eq_some helse hl)]

/-- A node is made from what the payloads in its message are unpacked to, and nothing else. -/
theorem NodeMessage.toNode_congr {m : NodeMessage} (h : ∀ q ∈ m.payloads, f q = g q) :
    m.toNode f = m.toNode g := by
  cases m with
  | action m =>
    exact congrArg (Node.action m.header.location) (Option.map_congr fun p hp =>
      Wire.PipeNode.toPipe_congr (forall_mem_payloads_of_eq_some h hp))
  | chain m =>
    have hnode : m.node.bind f = m.node.bind g :=
      Option.bind_congr fun q hq => h q (Option.mem_toList.mpr hq)
    rw [NodeMessage.toNode, NodeMessage.toNode, hnode]
  | command m => exact congrArg Node.command (Wire.ParentNode.toCommand_congr h)
  | ifElse m => exact congrArg Node.ifElse (Wire.BranchingNode.toBranch_congr h)
  | list m => exact congrArg Node.list (Wire.ParentNode.toList_congr h)
  | pipe m => exact congrArg Node.pipe (Wire.PipeNode.toPipe_congr h)
  | range m => exact congrArg Node.range (Wire.BranchingNode.toBranch_congr h)
  | template m =>
    exact congrArg (Node.template m.header.location m.name) (Option.map_congr fun p hp =>
      Wire.PipeNode.toPipe_congr (forall_mem_payloads_of_eq_some h hp))
  | withScope m => exact congrArg Node.withScope (Wire.BranchingNode.toBranch_congr h)
  | bool | breakLoop | comment | continueLoop | dot | field | identifier | nil | number | string
  | text | var => rfl

end

section

variable (unpack : Wire.Payload → Option Node)

/-- The nodes in a pipeline, command by command. -/
theorem Wire.PipeNode.operands_toPipe (m : Wire.PipeNode) :
    (m.toPipe unpack).operands = m.payloads.filterMap unpack := by
  show (m.commands.map fun c => c.toCommand unpack).flatMap Command.arguments = _
  rw [List.flatMap_map, Wire.PipeNode.payloads, List.filterMap_flatMap]
  rfl

/-- The same for a pipeline that may be missing. -/
theorem getD_operands_map_toPipe (m : Option Wire.PipeNode) :
    (((m.map fun p => p.toPipe unpack).map Pipe.operands).getD [])
      = ((m.map Wire.PipeNode.payloads).getD []).filterMap unpack := by
  cases m with
  | none => rfl
  | some m => exact m.operands_toPipe unpack

/-- The nodes in a list that may be missing. -/
theorem getD_nodes_map_toList (m : Option Wire.ParentNode) :
    (((m.map fun l => l.toList unpack).map NodeList.nodes).getD [])
      = ((m.map (·.nodes)).getD []).filterMap unpack := by
  cases m <;> rfl

/-- The nodes in a branch: those of its pipeline, and of its lists. -/
theorem Wire.BranchingNode.operands_toBranch (m : Wire.BranchingNode) :
    (m.toBranch unpack).operands
      = ((m.branch.map Wire.BranchNode.payloads).getD []).filterMap unpack := by
  rw [Wire.BranchingNode.toBranch]
  cases m.branch with
  | none => rfl
  | some b =>
    simp only [Option.map_some, Option.getD_some, Wire.BranchNode.payloads, List.filterMap_append,
      ← getD_operands_map_toPipe, ← getD_nodes_map_toList]
    rfl

/-- A payload that may be missing has one node at most. -/
theorem filterMap_toList (f : α → Option β) (o : Option α) :
    o.toList.filterMap f = (o.bind f).toList := by
  rw [List.filterMap_eq_flatMap_toList]
  exact Option.toList_bind.symm

/-- **Children.** The nearest nodes in a node are those of its payloads that can be unpacked, in
    order. -/
theorem NodeMessage.children_toNode (m : NodeMessage) :
    (m.toNode unpack).children = m.payloads.filterMap unpack := by
  rw [Node.children_eq]
  cases m with
  | action m | template m => exact getD_operands_map_toPipe unpack m.pipe
  | chain m => exact (filterMap_toList unpack m.node).symm
  | command m | list m => rfl
  | ifElse m | range m | withScope m => exact m.operands_toBranch unpack
  | pipe m => exact m.operands_toPipe unpack
  | bool | breakLoop | comment | continueLoop | dot | field | identifier | nil | number | string
  | text | var => rfl

end

/-- Reads the message of a payload, and unpacks the payloads in it by `unpack`. -/
def unpackStep (unpack : Wire.Payload → Option Node) (p : Wire.Payload) : Option Node :=
  match decodePayload p with
  | .error _ => none
  | .ok m => some (m.toNode unpack)

/-- A step succeeds exactly where the message can be read. -/
theorem unpackStep_eq_some_iff {unpack : Wire.Payload → Option Node} {p : Wire.Payload} {n : Node} :
    unpackStep unpack p = some n ↔ ∃ m, decodePayload p = .ok m ∧ m.toNode unpack = n := by
  rw [unpackStep]
  cases decodePayload p with
  | error c => simp
  | ok m => simp

/-- Step lemma: a step depends on what the payloads in the payload are unpacked to. -/
theorem unpackStep_congr {f g : Wire.Payload → Option Node} {p : Wire.Payload}
    (h : ∀ q, q.IsIn p → f q = g q) : unpackStep f p = unpackStep g p := by
  rw [unpackStep, unpackStep]
  cases hm : decodePayload p with
  | error c => rfl
  | ok m => exact congrArg some (NodeMessage.toNode_congr fun q hq => h q ⟨m, hm, hq⟩)

/-- Run lemma: a depth above the number of bytes does not bound anything. -/
theorem unpackWithin_eq {depth depth' : Nat} {p : Wire.Payload} (h : p.value.length < depth)
    (h' : p.value.length < depth') : unpackWithin depth p = unpackWithin depth' p := by
  -- Both depths go down together, and the bytes go down with them.
  induction depth generalizing depth' p with
  | zero => exact absurd h (Nat.not_lt_zero _)
  | succ depth ih =>
    cases depth' with
    | zero => exact absurd h' (Nat.not_lt_zero _)
    | succ depth' =>
      refine unpackStep_congr fun q hq => ?_
      have hlength := hq.length_lt
      exact ih (by omega) (by omega)

/-- Unpacking is a step, with the payloads in the payload unpacked the same way. -/
theorem unpackNode?_eq (p : Wire.Payload) : unpackNode? p = unpackStep unpackNode? p :=
  unpackStep_congr fun _ hq => unpackWithin_eq hq.length_lt (Nat.lt_succ_self _)

/-- Nothing else unpacks by such steps. -/
theorem eq_unpackNode?_of_step {unpack : Wire.Payload → Option Node}
    (h : ∀ p, unpack p = unpackStep unpack p) : unpack = unpackNode? := by
  funext p
  -- What is in the payload is unpacked alike, and the step depends on nothing else.
  induction p using Wire.Payload.isIn_wellFounded.induction with
  | _ p ih =>
    rw [h, unpackNode?_eq]
    exact unpackStep_congr ih

/-! ### Numbers of nodes -/

/-- What each payload bounds for its node, the payloads bound for the nodes that there are. -/
theorem sum_filterMap_le {f : α → Option β} {size : α → Nat} {count : β → Nat} {xs : List α}
    (h : ∀ x ∈ xs, ∀ y, f x = some y → count y ≤ size x) :
    ((xs.filterMap f).map count).sum ≤ (xs.map size).sum := by
  induction xs with
  | nil => exact Nat.le_refl _
  | cons x xs ih =>
    rw [List.forall_mem_cons] at h
    have hrest := ih h.2
    rw [List.map_cons, List.sum_cons]
    cases hx : f x with
    -- A payload that gives no node leaves its bytes unused.
    | none =>
      rw [List.filterMap_cons_none hx]
      omega
    | some y =>
      have hcount := h.1 y hx
      rw [List.filterMap_cons_some hx, List.map_cons, List.sum_cons]
      omega

/-- A node has no more nodes in it than its payload has bytes. -/
theorem length_descendants_le {p : Wire.Payload} {n : Node} (h : unpackNode? p = some n) :
    n.descendants.length ≤ p.value.length := by
  -- Over payloads in payloads, which is what unpacking goes by.
  induction p using Wire.Payload.isIn_wellFounded.induction generalizing n with
  | _ p ih =>
    rw [unpackNode?_eq, unpackStep_eq_some_iff] at h
    obtain ⟨m, hm, rfl⟩ := h
    -- The key in front of a payload pays for the child itself, its bytes for what is in the child.
    have hchild : ∀ q ∈ m.payloads, ∀ c, unpackNode? q = some c →
        c.descendants.length + 1 ≤ q.size + 1 := by
      intro q hq c hc
      exact Nat.succ_le_succ
        (Nat.le_trans (ih q ⟨m, hm, hq⟩ hc) (Wire.length_value_le_encode q))
    calc (m.toNode unpackNode?).descendants.length
        = ((m.payloads.filterMap unpackNode?).map fun c => c.descendants.length + 1).sum := by
          rw [Node.length_descendants, NodeMessage.children_toNode]
      _ ≤ Wire.payloadsSize m.payloads := sum_filterMap_le hchild
      _ ≤ p.value.length := payloadsSize_le_of_decodePayload hm

/-- **Termination.** The payloads that unpacking goes on with are in total smaller than the payload,
    whatever its bytes.  So following payloads in payloads comes to an end, unpacking is the one
    function that goes on so, and there are no more nodes than bytes. -/
theorem unpack_terminates :
    (∀ p m, decodePayload p = .ok m →
      (∀ f g : Wire.Payload → Option Node, (∀ q ∈ m.payloads, f q = g q) → m.toNode f = m.toNode g)
        ∧ (m.payloads ≠ [] → (m.payloads.map Wire.Payload.size).sum < p.value.length))
      ∧ WellFounded Wire.Payload.IsIn
      ∧ (∀ unpack, (∀ p, unpack p = unpackStep unpack p) ↔ unpack = unpackNode?)
      ∧ ∀ p n, unpackNode? p = some n → n.descendants.length ≤ p.value.length := by
  refine ⟨fun p m hm => ⟨fun f g => NodeMessage.toNode_congr, sum_size_lt hm⟩,
    Wire.Payload.isIn_wellFounded, fun unpack => ⟨eq_unpackNode?_of_step, ?_⟩,
    fun p n => length_descendants_le⟩
  rintro rfl
  exact unpackNode?_eq

/-- A chain whose inner node comes in two parts, first its type and then its bytes. -/
def mergedChain : Wire.Payload where
  typeUrl := "ChainNode"
  value := [0x22, 9, 0x0a, 7] ++ utf8 "DotNode" ++ [0x22, 4, 0x12, 2, 0x10, 5]

/-- The message of the chain, with one inner node. -/
def mergedChainMessage : NodeMessage := .chain ⟨.empty, some ⟨"DotNode", [0x10, 5]⟩, []⟩

/-- The inner node of the chain is read from both of its parts, and is smaller than what they were read
    from. -/
theorem unpack_terminates_mergedChain :
    decodePayload mergedChain = .ok mergedChainMessage
      ∧ mergedChainMessage.payloads ≠ []
      ∧ (mergedChainMessage.payloads.map Wire.Payload.size).sum < mergedChain.value.length
      ∧ (mergedChainMessage.toNode fun _ => none)
          = (mergedChainMessage.toNode fun q =>
              if q.typeUrl = "DotNode" then none else some (.nil ⟨0, 0⟩))
      ∧ unpackNode? mergedChain = some (.chain ⟨0, 0⟩ (some (.dot ⟨5, 0⟩)) [])
      ∧ (Node.chain ⟨0, 0⟩ (some (.dot ⟨5, 0⟩)) []).descendants.length
          ≤ mergedChain.value.length := by
  have hmessage : decodePayload mergedChain = .ok mergedChainMessage := rfl
  have hne : mergedChainMessage.payloads ≠ [] := by decide
  have hnode : unpackNode? mergedChain = some (.chain ⟨0, 0⟩ (some (.dot ⟨5, 0⟩)) []) := rfl
  obtain ⟨hnested, -, -, hcount⟩ := unpack_terminates
  obtain ⟨hcongr, hsum⟩ := hnested _ _ hmessage
  exact ⟨hmessage, hne, hsum hne, hcongr _ _ (by decide), hnode, hcount _ _ hnode⟩

end ChartTrace
