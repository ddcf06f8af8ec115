import ChartTrace.Proofs.TreeLocations
import ChartTrace.Proofs.WireMessages

namespace ChartTrace

/-!
# Packed trees

A syntax tree is packed from its leaves up: each node becomes the message of its kind, and a message
in which any kind of node may stand holds it as a payload.  Packing leaves some things open, namely the
number in the node type field, what stands before the type name in a URL, and the location in the body
of a branch, which nothing reads.  A `Packing` settles them, at every place of the tree on its own.

* `Node.pack`, `Tree.message`: a packed node and a packed template;
* `decodePayload_close`: the message of a payload is the one that was put there;
* `NodeMessage.length_value_lt`: payloads are shorter than the payload around them, so that
  unpacking has depth enough for all of them;
* `unpack_pack`: unpacking a packed tree gives it back.
-/

/-! ### Messages by name -/

/-- The name of the type of a message. -/
def NodeMessage.name : NodeMessage → String
  | .action _ => "ActionNode"
  | .bool _ => "BoolNode"
  | .breakLoop _ => "BreakNode"
  | .chain _ => "ChainNode"
  | .command _ => "CommandNode"
  | .comment _ => "CommentNode"
  | .continueLoop _ => "ContinueNode"
  | .dot _ => "DotNode"
  | .field _ => "FieldNode"
  | .identifier _ => "IdentifierNode"
  | .ifElse _ => "IfNode"
  | .list _ => "ListNode"
  | .nil _ => "NilNode"
  | .number _ => "NumberNode"
  | .pipe _ => "PipeNode"
  | .range _ => "RangeNode"
  | .string _ => "StringNode"
  | .template _ => "TemplateNode"
  | .text _ => "TextNode"
  | .var _ => "VariableNode"
  | .withScope _ => "WithNode"

/-- The bytes of a message. -/
def NodeMessage.encode : NodeMessage → Bytes
  | .action m => Wire.actionLayout.encode m
  | .bool m => Wire.boolLayout.encode m
  | .breakLoop h => (Wire.plainLayout "BreakNode").encode h
  | .chain m => Wire.chainLayout.encode m
  | .command m => Wire.commandLayout.encode m
  | .comment m => (Wire.textualLayout "CommentNode" "text").encode m
  | .continueLoop h => (Wire.plainLayout "ContinueNode").encode h
  | .dot h => (Wire.plainLayout "DotNode").encode h
  | .field m => (Wire.pathLayout "FieldNode").encode m
  | .identifier m => (Wire.textualLayout "IdentifierNode" "ident").encode m
  | .ifElse m => (Wire.branchingLayout "IfNode").encode m
  | .list m => Wire.listLayout.encode m
  | .nil h => (Wire.plainLayout "NilNode").encode h
  | .number m => (Wire.textualLayout "NumberNode" "text").encode m
  | .pipe m => Wire.pipeLayout.encode m
  | .range m => (Wire.branchingLayout "RangeNode").encode m
  | .string m => Wire.stringLayout.encode m
  | .template m => Wire.templateLayout.encode m
  | .text m => Wire.literalLayout.encode m
  | .var m => Wire.variableLayout.encode m
  | .withScope m => (Wire.branchingLayout "WithNode").encode m

/-- A message is read back by its layout, and is then one of its kind. -/
theorem map_decode_encode {l : Wire.Layout α} {height : Nat} (h : l.RoundTrips height)
    (hheight : height ≤ Wire.depthLimit) {kind : α → NodeMessage} {m : α}
    (hsize : (l.encode m).length < wordLimit) :
    kind <$> l.decode (l.encode m) = .ok (kind m) := by
  rw [h.decode_encode hheight hsize]
  rfl

/-- The reader that a message's name selects reads its bytes. -/
theorem messageReader?_name (m : NodeMessage) (hsize : m.encode.length < wordLimit) :
    ∃ read, messageReader? m.name = some read ∧ read m.encode = .ok m := by
  -- The name is a literal in each case, so it selects its reader by computation.
  cases m with
  | action m => exact ⟨_, rfl, map_decode_encode Wire.roundTrips_actionLayout (by decide) hsize⟩
  | bool m => exact ⟨_, rfl, map_decode_encode Wire.roundTrips_boolLayout (by decide) hsize⟩
  | chain m => exact ⟨_, rfl, map_decode_encode Wire.roundTrips_chainLayout (by decide) hsize⟩
  | pipe m => exact ⟨_, rfl, map_decode_encode Wire.roundTrips_pipeLayout (by decide) hsize⟩
  | string m => exact ⟨_, rfl, map_decode_encode Wire.roundTrips_stringLayout (by decide) hsize⟩
  | template m => exact ⟨_, rfl, map_decode_encode Wire.roundTrips_templateLayout (by decide) hsize⟩
  | text m => exact ⟨_, rfl, map_decode_encode Wire.roundTrips_literalLayout (by decide) hsize⟩
  | breakLoop h | continueLoop h | dot h | nil h =>
    exact ⟨_, rfl, map_decode_encode (Wire.roundTrips_plainLayout _) (by decide) hsize⟩
  | command m | list m =>
    exact ⟨_, rfl, map_decode_encode (Wire.roundTrips_parentLayout _ _) (by decide) hsize⟩
  | comment m | identifier m | number m =>
    exact ⟨_, rfl, map_decode_encode (Wire.roundTrips_textualLayout _ _) (by decide) hsize⟩
  | field m | var m =>
    exact ⟨_, rfl, map_decode_encode (Wire.roundTrips_pathLayout _) (by decide) hsize⟩
  | ifElse m | range m | withScope m =>
    exact ⟨_, rfl, map_decode_encode (Wire.roundTrips_branchingLayout _) (by decide) hsize⟩

/-! ### Packing -/

/-- What packing one node leaves open. -/
structure PackingChoice where
  /-- The number in the node type field. -/
  nodeType : Int32
  /-- What stands in the URL before the name of the type. -/
  urlStart : String
  /-- It is empty or ends a segment. -/
  endsSegment : ∀ c ∈ urlStart.toList.getLast?, c = '/' ∨ c = '.'
  /-- Position and length in the body of a branch. -/
  bodyPosition : Int64
  bodyLength : Int64

/-- A choice for each place of a tree.  A place is given by the way to it. -/
def Packing : Type := List Nat → PackingChoice

namespace Packing

/-- The choices below the part with the given number. -/
def part (k : Packing) (i : Nat) : Packing := fun path => k (i :: path)

/-- The header of a node. -/
def header (k : Packing) (l : Location) : Wire.Header :=
  ⟨(k []).nodeType, Int64.ofNat l.position, Int64.ofNat l.length⟩

/-- A message closed up as a payload. -/
def close (k : Packing) (m : NodeMessage) : Wire.Payload := ⟨(k []).urlStart ++ m.name, m.encode⟩

end Packing

def Variable.message (k : Packing) (v : Variable) : Wire.PathNode :=
  ⟨k.header v.location, v.identifiers⟩

/-- The messages of variables.  In a sequence the first item is part 0, and part 1 is the rest. -/
def variableMessages (k : Packing) : List Variable → List Wire.PathNode
  | [] => []
  | v :: vs => v.message (k.part 0) :: variableMessages (k.part 1) vs

mutual

/-- The message of a node. -/
def Node.message (k : Packing) : Node → NodeMessage
  | .action l p => .action ⟨k.header l, pipeMessage? (k.part 0) p⟩
  | .bool l v => .bool ⟨k.header l, v⟩
  | .breakLoop l => .breakLoop (k.header l)
  | .chain l n fs => .chain ⟨k.header l, packNode? (k.part 0) n, fs⟩
  | .command c => .command (c.message k)
  | .comment l t => .comment ⟨k.header l, t⟩
  | .continueLoop l => .continueLoop (k.header l)
  | .dot l => .dot (k.header l)
  | .field l is => .field ⟨k.header l, is⟩
  | .identifier l i => .identifier ⟨k.header l, i⟩
  | .ifElse b => .ifElse (b.message k)
  | .list ns => .list (ns.message k)
  | .nil l => .nil (k.header l)
  | .number l t => .number ⟨k.header l, t⟩
  | .pipe p => .pipe (p.message k)
  | .range b => .range (b.message k)
  | .string l q t => .string ⟨k.header l, q, t⟩
  | .template l n p => .template ⟨k.header l, n, pipeMessage? (k.part 0) p⟩
  | .text l t => .text ⟨k.header l, utf8 t⟩
  | .var v => .var (v.message k)
  | .withScope b => .withScope (b.message k)

def Pipe.message (k : Packing) : Pipe → Wire.PipeNode
  | .mk l ds cs => ⟨k.header l, variableMessages (k.part 0) ds, commandMessages (k.part 1) cs⟩

def Command.message (k : Packing) : Command → Wire.ParentNode
  | .mk l as => ⟨k.header l, packNodes (k.part 0) as⟩

def NodeList.message (k : Packing) : NodeList → Wire.ParentNode
  | .mk l ns => ⟨k.header l, packNodes (k.part 0) ns⟩

def Branch.message (k : Packing) : Branch → Wire.BranchingNode
  | .mk l p b e =>
    ⟨k.header l, some ⟨(k []).bodyPosition, (k []).bodyLength, pipeMessage? (k.part 0) p,
      listMessage? (k.part 1) b, listMessage? (k.part 2) e⟩⟩

/-- The message of a pipeline, if there is one. -/
def pipeMessage? (k : Packing) : Option Pipe → Option Wire.PipeNode
  | none => none
  | some p => some (p.message k)

/-- The message of a list, if there is one. -/
def listMessage? (k : Packing) : Option NodeList → Option Wire.ParentNode
  | none => none
  | some ns => some (ns.message k)

/-- The payload of a node, if there is one. -/
def packNode? (k : Packing) : Option Node → Option Wire.Payload
  | none => none
  | some n => some (k.close (n.message k))

/-- The payloads of nodes. -/
def packNodes (k : Packing) : List Node → List Wire.Payload
  | [] => []
  | n :: ns => (k.part 0).close (n.message (k.part 0)) :: packNodes (k.part 1) ns

/-- The messages of commands. -/
def commandMessages (k : Packing) : List Command → List Wire.ParentNode
  | [] => []
  | c :: cs => c.message (k.part 0) :: commandMessages (k.part 1) cs

end

/-- The payload of a node. -/
def Node.pack (k : Packing) (n : Node) : Wire.Payload := k.close (n.message k)

/-- The message of a template. -/
def Tree.message (k : Packing) (t : Tree) : Wire.Tree :=
  ⟨t.name, t.parseName, UInt64.ofNat t.mode, some (t.root.message k)⟩

/-! ### Payloads -/

/-- A name without separators is what follows the last one. -/
theorem typeName_append {start name : String}
    (hstart : ∀ c ∈ start.toList.getLast?, c = '/' ∨ c = '.')
    (hname : ∀ c ∈ name.toList, (c != '/' && c != '.') = true) :
    typeName (start ++ name) = name := by
  -- Read from the end, the start stops at once: it is empty or begins with a separator.
  have hlast : start.toList.reverse.takeWhile (fun c => c != '/' && c != '.') = [] := by
    cases hrev : start.toList.reverse with
    | nil => rfl
    | cons c cs =>
      have hc : c ∈ start.toList.getLast? := by
        rw [List.getLast?_eq_head?_reverse, hrev]
        rfl
      rcases hstart c hc with rfl | rfl
      all_goals rfl
  have hname' : ∀ c ∈ name.toList.reverse, (c != '/' && c != '.') = true := by
    intro c hc
    exact hname c (List.mem_reverse.mp hc)
  rw [typeName, String.toList_append, List.reverse_append, List.takeWhile_append_of_pos hname',
    hlast, List.append_nil, List.reverse_reverse, String.ofList_toList]

/-- A payload holds what was closed up in it: its URL leads to the reader of that type, whatever stands
    in front of the name. -/
theorem decodePayload_close (k : Packing) {m : NodeMessage} (hsize : m.encode.length < wordLimit) :
    decodePayload (k.close m) = .ok m := by
  obtain ⟨read, hread, hm⟩ := messageReader?_name m hsize
  -- No type has a separator in its name.
  have hname : m.name.toList.all (fun c => c != '/' && c != '.') = true := by
    cases m <;> simp only [NodeMessage.name] <;> decide
  rw [List.all_eq_true] at hname
  simp only [decodePayload, Packing.close, typeName_append (k []).endsSegment hname, hread, hm]
  rfl

/-! ### Sizes -/

/-- What is in an optional part is in a part that is there. -/
theorem exists_of_mem_getD {o : Option α} {f : α → List β} {b : β} (h : b ∈ (o.map f).getD []) :
    ∃ a, o = some a ∧ b ∈ f a := by
  cases o with
  | none => cases h
  | some a => exact ⟨a, rfl, h⟩

namespace Wire

/-- The value of a payload is one of its fields. -/
theorem length_value_le_encode (p : Payload) :
    p.value.length ≤ (payloadLayout.encode p).length :=
  Layout.length_le_of_bytes 2 rfl p

/-- Payloads of a list or a command. -/
theorem ParentNode.length_value_lt {name field : String} {m : ParentNode} {p : Payload}
    (hp : p ∈ m.nodes) : p.value.length < ((parentLayout name field).encode m).length := by
  have hpayload : (payloadLayout.encode p).length < ((parentLayout name field).encode m).length :=
    Layout.length_lt_of_messages 4 rfl hp
  have hvalue := length_value_le_encode p
  omega

/-- Payloads of a pipeline are two levels down, in its commands. -/
theorem PipeNode.length_value_lt {m : PipeNode} {p : Payload} (hp : p ∈ m.payloads) :
    p.value.length < (pipeLayout.encode m).length := by
  obtain ⟨c, hc, hp⟩ := List.mem_flatMap.mp hp
  have hcommand : (commandLayout.encode c).length < (pipeLayout.encode m).length :=
    Layout.length_lt_of_messages 5 rfl hc
  have hvalue : p.value.length < (commandLayout.encode c).length := ParentNode.length_value_lt hp
  omega

/-- Payloads of a branch are in its pipeline or in one of its lists. -/
theorem BranchNode.length_value_lt {m : BranchNode} {p : Payload} (hp : p ∈ m.payloads) :
    p.value.length < (branchLayout.encode m).length := by
  rw [BranchNode.payloads, List.mem_append, List.mem_append] at hp
  -- Each of the three is a message within the branch, so the lengths go down twice.
  rcases hp with (hp | hp) | hp
  · obtain ⟨b, hb, hp⟩ := exists_of_mem_getD hp
    have hpipe : (pipeLayout.encode b).length < (branchLayout.encode m).length :=
      Layout.length_lt_of_message 4 rfl hb
    have hvalue := PipeNode.length_value_lt hp
    omega
  · obtain ⟨b, hb, hp⟩ := exists_of_mem_getD hp
    have hlist : (listLayout.encode b).length < (branchLayout.encode m).length :=
      Layout.length_lt_of_message 5 rfl hb
    have hvalue : p.value.length < (listLayout.encode b).length := ParentNode.length_value_lt hp
    omega
  · obtain ⟨b, hb, hp⟩ := exists_of_mem_getD hp
    have hlist : (listLayout.encode b).length < (branchLayout.encode m).length :=
      Layout.length_lt_of_message 6 rfl hb
    have hvalue : p.value.length < (listLayout.encode b).length := ParentNode.length_value_lt hp
    omega

/-- Payloads of a conditional or a loop are in its branch. -/
theorem BranchingNode.length_value_lt {name : String} {m : BranchingNode} {p : Payload}
    (hp : p ∈ (m.branch.map BranchNode.payloads).getD []) :
    p.value.length < ((branchingLayout name).encode m).length := by
  obtain ⟨b, hb, hp⟩ := exists_of_mem_getD hp
  have hbranch : (branchLayout.encode b).length < ((branchingLayout name).encode m).length :=
    Layout.length_lt_of_message 4 rfl hb
  have hvalue := BranchNode.length_value_lt hp
  omega

end Wire

/-- **Sizes.** A payload in a message has fewer bytes than the message. -/
theorem NodeMessage.length_value_lt {m : NodeMessage} {p : Wire.Payload} (hp : p ∈ m.payloads) :
    p.value.length < m.encode.length := by
  -- By what the message holds: a pipeline, a payload, payloads, a branch, or none of these.
  cases m with
  | action m =>
    obtain ⟨b, hb, hp⟩ := exists_of_mem_getD hp
    have hpipe : (Wire.pipeLayout.encode b).length < (Wire.actionLayout.encode m).length :=
      Wire.Layout.length_lt_of_message 4 rfl hb
    exact Nat.lt_trans (Wire.PipeNode.length_value_lt hp) hpipe
  | template m =>
    obtain ⟨b, hb, hp⟩ := exists_of_mem_getD hp
    have hpipe : (Wire.pipeLayout.encode b).length < (Wire.templateLayout.encode m).length :=
      Wire.Layout.length_lt_of_message 5 rfl hb
    exact Nat.lt_trans (Wire.PipeNode.length_value_lt hp) hpipe
  | chain m =>
    have hnode : (Wire.payloadLayout.encode p).length < (Wire.chainLayout.encode m).length :=
      Wire.Layout.length_lt_of_message 4 rfl (Option.mem_toList.mp hp)
    exact Nat.lt_of_le_of_lt (Wire.length_value_le_encode p) hnode
  | command m | list m => exact Wire.ParentNode.length_value_lt hp
  | ifElse m | range m | withScope m => exact Wire.BranchingNode.length_value_lt hp
  | pipe m => exact Wire.PipeNode.length_value_lt hp
  | bool | breakLoop | comment | continueLoop | dot | field | identifier | nil | number | string
  | text | var => cases hp

/-! ### One level of unpacking -/

/-- A location is read back from a header, if its numbers are signed ones. -/
theorem header_location (k : Packing) {l : Location} (hl : l.FitsSigned) :
    (k.header l).location = l := by
  have hposition : (Int64.ofNat l.position).toInt = l.position :=
    Int64.toInt_ofNat_of_lt hl.position_lt
  have hlength : (Int64.ofNat l.length).toInt = l.length := Int64.toInt_ofNat_of_lt hl.length_lt
  rw [Wire.Header.location, Location.ofSigned]
  simp only [Packing.header, hposition, hlength, Int.toNat_natCast]

/-- A variable is its location and its path. -/
theorem toVariable_message (k : Packing) {v : Variable} (hv : v.location.FitsSigned) :
    (v.message k).toVariable = v := by
  simp only [Variable.message, Wire.PathNode.toVariable, header_location k hv]

/-- Variables are packed by different choices, none of which is seen again. -/
theorem map_toVariable_variableMessages (k : Packing) {vs : List Variable}
    (hvs : ∀ l ∈ vs.map Variable.location, l.FitsSigned) :
    (variableMessages k vs).map Wire.PathNode.toVariable = vs := by
  induction vs generalizing k with
  | nil => rfl
  | cons v vs ih =>
    rw [List.map_cons, List.forall_mem_cons] at hvs
    rw [variableMessages, List.map_cons, toVariable_message _ hvs.1, ih _ hvs.2]

/-- Some way of unpacking gives back the nodes that are packed in the payloads. -/
def GivesBack (unpack : Wire.Payload → Option Node) (ps : List Wire.Payload) : Prop :=
  ∀ k n, Node.pack k n ∈ ps → (∀ l ∈ n.locations, l.FitsSigned) → unpack (n.pack k) = some n

section

variable {unpack : Wire.Payload → Option Node} {k : Packing}

/-- No node is left out, because all of them can be unpacked. -/
theorem filterMap_packNodes {ns : List Node} (hunpack : GivesBack unpack (packNodes k ns))
    (hns : ∀ l ∈ nodesLocations ns, l.FitsSigned) : (packNodes k ns).filterMap unpack = ns := by
  induction ns generalizing k with
  | nil => rfl
  | cons n ns ih =>
    rw [nodesLocations, List.forall_mem_append] at hns
    have hfirst : unpack (n.pack (k.part 0)) = some n :=
      hunpack _ n (List.mem_cons_self ..) hns.1
    have hrest : (packNodes (k.part 1) ns).filterMap unpack = ns :=
      ih (fun k n hn => hunpack k n (List.mem_cons_of_mem _ hn)) hns.2
    show (n.pack (k.part 0) :: packNodes (k.part 1) ns).filterMap unpack = n :: ns
    rw [List.filterMap_cons_some hfirst, hrest]

/-- A command is its location and its arguments. -/
theorem toCommand_message {c : Command} (hunpack : GivesBack unpack (c.message k).nodes)
    (hc : ∀ l ∈ c.locations, l.FitsSigned) : (c.message k).toCommand unpack = c := by
  cases c with
  | mk l as =>
    rw [Command.locations, List.forall_mem_cons] at hc
    rw [Command.message] at hunpack ⊢
    simp only [Wire.ParentNode.toCommand, header_location k hc.1, filterMap_packNodes hunpack hc.2]

/-- A list is its location and its nodes. -/
theorem toList_message {ns : NodeList} (hunpack : GivesBack unpack (ns.message k).nodes)
    (hns : ∀ l ∈ ns.locations, l.FitsSigned) : (ns.message k).toList unpack = ns := by
  cases ns with
  | mk l as =>
    rw [NodeList.locations, List.forall_mem_cons] at hns
    rw [NodeList.message] at hunpack ⊢
    simp only [Wire.ParentNode.toList, header_location k hns.1, filterMap_packNodes hunpack hns.2]

/-- The commands of a pipeline, in order. -/
theorem map_toCommand_commandMessages {cs : List Command}
    (hunpack : GivesBack unpack ((commandMessages k cs).flatMap (·.nodes)))
    (hcs : ∀ l ∈ commandsLocations cs, l.FitsSigned) :
    (commandMessages k cs).map (fun c => c.toCommand unpack) = cs := by
  induction cs generalizing k with
  | nil => rfl
  | cons c cs ih =>
    rw [commandsLocations, List.forall_mem_append] at hcs
    rw [commandMessages, List.flatMap_cons] at hunpack
    -- `hunpack` is about the payloads of all commands; the first ones are those of `c`.
    have hfirst : (c.message (k.part 0)).toCommand unpack = c :=
      toCommand_message (fun k n hn => hunpack k n (List.mem_append_left _ hn)) hcs.1
    have hrest : (commandMessages (k.part 1) cs).map (fun c => c.toCommand unpack) = cs :=
      ih (fun k n hn => hunpack k n (List.mem_append_right _ hn)) hcs.2
    rw [commandMessages, List.map_cons, hfirst, hrest]

/-- A pipeline is its location, its variables and its commands. -/
theorem toPipe_message {p : Pipe} (hunpack : GivesBack unpack (p.message k).payloads)
    (hp : ∀ l ∈ p.locations, l.FitsSigned) : (p.message k).toPipe unpack = p := by
  cases p with
  | mk l ds cs =>
    rw [Pipe.locations, List.forall_mem_cons, List.forall_mem_append] at hp
    obtain ⟨hl, hds, hcs⟩ := hp
    rw [Pipe.message] at hunpack ⊢
    simp only [Wire.PipeNode.toPipe, header_location k hl, map_toVariable_variableMessages _ hds,
      map_toCommand_commandMessages hunpack hcs]

/-- The same for a pipeline that may be missing. -/
theorem map_toPipe_pipeMessage? {p : Option Pipe}
    (hunpack : GivesBack unpack (((pipeMessage? k p).map Wire.PipeNode.payloads).getD []))
    (hp : ∀ l ∈ pipeLocations? p, l.FitsSigned) :
    (pipeMessage? k p).map (fun m => m.toPipe unpack) = p := by
  cases p with
  | none => rfl
  | some p =>
    rw [pipeMessage?, Option.map_some, toPipe_message hunpack hp]

/-- The same for a list that may be missing. -/
theorem map_toList_listMessage? {ns : Option NodeList}
    (hunpack : GivesBack unpack (((listMessage? k ns).map (·.nodes)).getD []))
    (hns : ∀ l ∈ listLocations? ns, l.FitsSigned) :
    (listMessage? k ns).map (fun m => m.toList unpack) = ns := by
  cases ns with
  | none => rfl
  | some ns =>
    rw [listMessage?, Option.map_some, toList_message hunpack hns]

/-- A branch is a location, a pipeline and two lists; the location in its body is not read. -/
theorem toBranch_message {b : Branch}
    (hunpack : GivesBack unpack (((b.message k).branch.map Wire.BranchNode.payloads).getD []))
    (hb : ∀ l ∈ b.locations, l.FitsSigned) : (b.message k).toBranch unpack = b := by
  cases b with
  | mk l p b e =>
    rw [Branch.locations, List.forall_mem_cons, List.forall_mem_append, List.forall_mem_append] at hb
    obtain ⟨hl, ⟨hp, hb⟩, he⟩ := hb
    rw [Branch.message] at hunpack ⊢
    -- The payloads of the body are those of its three parts, one after the other.
    have hpipe : (pipeMessage? (k.part 0) p).map (fun m => m.toPipe unpack) = p :=
      map_toPipe_pipeMessage?
        (fun k n hn => hunpack k n (List.mem_append_left _ (List.mem_append_left _ hn))) hp
    have hlist : (listMessage? (k.part 1) b).map (fun m => m.toList unpack) = b :=
      map_toList_listMessage?
        (fun k n hn => hunpack k n (List.mem_append_left _ (List.mem_append_right _ hn))) hb
    have helse : (listMessage? (k.part 2) e).map (fun m => m.toList unpack) = e :=
      map_toList_listMessage? (fun k n hn => hunpack k n (List.mem_append_right _ hn)) he
    simp only [Wire.BranchingNode.toBranch, header_location k hl, hpipe, hlist, helse]

/-- **One level.** A message is the node again once the payloads in it are. -/
theorem toNode_message {n : Node} (hunpack : GivesBack unpack (n.message k).payloads)
    (hn : ∀ l ∈ n.locations, l.FitsSigned) : (n.message k).toNode unpack = n := by
  have hl : (k.header n.location).location = n.location :=
    header_location k (hn _ n.location_mem_locations)
  cases n with
  | action l p =>
    rw [Node.locations, List.forall_mem_cons] at hn
    have hpipe := map_toPipe_pipeMessage? hunpack hn.2
    simp only [Node.message, NodeMessage.toNode, header_location k hn.1, hpipe]
  | template l _ p =>
    rw [Node.locations, List.forall_mem_cons] at hn
    have hpipe := map_toPipe_pipeMessage? hunpack hn.2
    simp only [Node.message, NodeMessage.toNode, header_location k hn.1, hpipe]
  | chain l n _ =>
    rw [Node.locations, List.forall_mem_cons] at hn
    have hnode : (packNode? (k.part 0) n).bind unpack = n := by
      cases n with
      | none => rfl
      | some n => exact hunpack (k.part 0) n (List.mem_singleton_self _) hn.2
    simp only [Node.message, NodeMessage.toNode, header_location k hn.1, hnode]
  | text l t =>
    -- Text travels as bytes and is read leniently, which changes no valid text.
    have ht : String.ofList (readUtf8Lossy (utf8 t)) = t := by
      rw [readUtf8Lossy_utf8, String.ofList_toList]
    simp only [Node.location] at hl
    simp only [Node.message, NodeMessage.toNode, hl, ht]
  | command c => exact congrArg Node.command (toCommand_message hunpack hn)
  | list ns => exact congrArg Node.list (toList_message hunpack hn)
  | pipe p => exact congrArg Node.pipe (toPipe_message hunpack hn)
  | ifElse b => exact congrArg Node.ifElse (toBranch_message hunpack hn)
  | range b => exact congrArg Node.range (toBranch_message hunpack hn)
  | withScope b => exact congrArg Node.withScope (toBranch_message hunpack hn)
  | var v => exact congrArg Node.var (toVariable_message k (hn _ (List.mem_singleton_self _)))
  | bool | breakLoop | comment | continueLoop | dot | field | identifier | nil | number | string =>
    simp only [Node.location] at hl
    simp only [Node.message, NodeMessage.toNode, hl]

end

/-! ### All levels -/

/-- Unpacking takes a depth that exceeds the number of bytes, which is a bound on how deep payloads can
    stand. -/
theorem unpackWithin_pack (depth : Nat) (k : Packing) (n : Node)
    (hn : ∀ l ∈ n.locations, l.FitsSigned) (hsize : (n.pack k).value.length < wordLimit)
    (hdepth : (n.pack k).value.length < depth) : unpackWithin depth (n.pack k) = some n := by
  -- Over the depth, for all nodes and choices: a packed node has packed nodes in it.
  induction depth generalizing k n with
  | zero => omega
  | succ depth ih =>
    have hunpack : GivesBack (unpackWithin depth) (n.message k).payloads := by
      intro k' n' hmem hn'
      -- One level deeper there is at least one byte less.
      have hless : (n'.pack k').value.length < (n.pack k).value.length :=
        NodeMessage.length_value_lt hmem
      exact ih k' n' hn' (by omega) (by omega)
    rw [unpackWithin, Node.pack, decodePayload_close k hsize]
    simp only [toNode_message hunpack hn]

/-- **Packed trees** are unpacked to themselves, whatever the choices in packing.  Positions and
    lengths have to be signed numbers, and the bytes of a payload no more than a word can count. -/
theorem unpack_pack (k : Packing) :
    (∀ n : Node, (∀ l ∈ n.locations, l.FitsSigned) → (n.pack k).value.length < wordLimit →
      unpackNode? (n.pack k) = some n)
    ∧ ∀ t : Tree, t.mode < wordLimit → (∀ l ∈ t.locations, l.FitsSigned) →
      (∀ p ∈ (t.root.message k).nodes, p.value.length < wordLimit) →
      Tree.ofMessage? (t.message k) = some t := by
  constructor
  · intro n hn hsize
    exact unpackWithin_pack _ k n hn hsize (Nat.lt_succ_self _)
  · -- The root is a message within the tree and not a payload, so that it is unpacked here.
    intro t hmode ht hsize
    have hunpack : GivesBack unpackNode? (t.root.message k).nodes := by
      intro k' n hmem hn
      exact unpackWithin_pack _ k' n hn (hsize _ hmem) (Nat.lt_succ_self _)
    have hroot := toList_message hunpack ht
    have hmode' : (UInt64.ofNat t.mode).toNat = t.mode := UInt64.toNat_ofNat_of_lt' hmode
    simp only [Tree.ofMessage?, Tree.message, Option.map_some, hroot, hmode']

/-- Long and short URLs by turns, and node types that no kind has. -/
def mixedPacking : Packing := fun path =>
  if path.length % 2 = 0 then ⟨-1, "", by simp, 0, 0⟩
  else ⟨Int32.ofNat (99 + path.length), "type.googleapis.com/helm.template.", by simp, 7, -7⟩

/-- A conditional on a chain, `(index .a).b`, with the longest length there is. -/
def chainedCondition : Node :=
  .ifElse (.mk ⟨3, 9223372036854775807⟩
    (some (.mk ⟨6, 18⟩ [⟨⟨6, 2⟩, ["$x"]⟩]
      [.mk ⟨12, 12⟩ [.chain ⟨22, 2⟩
        (some (.pipe (.mk ⟨13, 8⟩ []
          [.mk ⟨13, 8⟩ [.identifier ⟨13, 5⟩ "index", .field ⟨19, 2⟩ ["a"]]])))
        ["b"]]]))
    (some (.mk ⟨27, 2⟩ [.text ⟨27, 2⟩ "é"]))
    (some (.mk ⟨39, 11⟩ [.breakLoop ⟨42, 5⟩])))

/-- A template that consists of the conditional, with the greatest mode there is. -/
def chainedTemplate : Tree :=
  ⟨"chart/a.yaml", "", 18446744073709551615, .mk ⟨0, 63⟩ [chainedCondition]⟩

/-- Bounds of the numbers are reached, and no two levels are packed alike. -/
theorem unpack_pack_chainedCondition :
    ((∀ l ∈ chainedCondition.locations, l.FitsSigned)
      ∧ (chainedCondition.pack mixedPacking).value.length < wordLimit
      ∧ unpackNode? (chainedCondition.pack mixedPacking) = some chainedCondition)
    ∧ chainedTemplate.mode < wordLimit
      ∧ (∀ l ∈ chainedTemplate.locations, l.FitsSigned)
      ∧ (∀ p ∈ (chainedTemplate.root.message mixedPacking).nodes, p.value.length < wordLimit)
      ∧ Tree.ofMessage? (chainedTemplate.message mixedPacking) = some chainedTemplate := by
  have hnode : ∀ l ∈ chainedCondition.locations, l.FitsSigned := by decide
  have hsize : (chainedCondition.pack mixedPacking).value.length < wordLimit := by decide +kernel
  have hmode : chainedTemplate.mode < wordLimit := by decide
  have htree : ∀ l ∈ chainedTemplate.locations, l.FitsSigned := by decide
  have hsizes : ∀ p ∈ (chainedTemplate.root.message mixedPacking).nodes,
      p.value.length < wordLimit := by decide +kernel
  have hback := unpack_pack mixedPacking
  exact ⟨⟨hnode, hsize, hback.1 _ hnode hsize⟩, hmode, htree, hsizes,
    hback.2 _ hmode htree hsizes⟩

end ChartTrace
