import ChartTrace.Proofs.NestedPayloads
import Mathlib.Data.List.Forall2

namespace ChartTrace

/-!
# Payloads that are left out

A payload that cannot be unpacked is left out, and all else is as if it had not been there, however deep
it is.

* `Wire.PrunesAll`, `NodeMessage.Prunes`, …: payloads and messages in which each payload is replaced by
  what remains of it;
* `Wire.Payload.Prunes`: what remains of a payload when some that cannot be unpacked are taken out of
  it, and the messages around them packed again;
* `Wire.Payload.Prunes.bind_unpackNode?`: its node is the same;
* `IsLastSegment`, `isLastSegment_typeName`: what follows the last separator of a URL;
* `unpack_ignores_undecodable`: nodes and trees do not depend on what is left out, nor on the rest of
  the URLs.
-/

namespace Wire

/-- Both are missing, or both are there and related. -/
inductive Matched (r : α → α → Prop) : Option α → Option α → Prop
  | none : Matched r none none
  | some {a b : α} : r a b → Matched r (some a) (some b)

section

variable (R : Payload → Option Payload → Prop)

/-- Payloads, and what remains of each by `R`, in order. -/
inductive PrunesAll : List Payload → List Payload → Prop
  | nil : PrunesAll [] []
  | cons {p : Payload} {q : Option Payload} {ps qs : List Payload} :
      R p q → PrunesAll ps qs → PrunesAll (p :: ps) (q.toList ++ qs)

/-- Messages that are the same but for their payloads; likewise below. -/
structure ParentNode.Prunes (m m' : ParentNode) : Prop where
  header : m'.header = m.header
  nodes : PrunesAll R m.nodes m'.nodes

structure PipeNode.Prunes (m m' : PipeNode) : Prop where
  header : m'.header = m.header
  declarations : m'.declarations = m.declarations
  commands : List.Forall₂ (ParentNode.Prunes R) m.commands m'.commands

structure BranchNode.Prunes (m m' : BranchNode) : Prop where
  position : m'.position = m.position
  length : m'.length = m.length
  pipe : Matched (PipeNode.Prunes R) m.pipe m'.pipe
  list : Matched (ParentNode.Prunes R) m.list m'.list
  elseList : Matched (ParentNode.Prunes R) m.elseList m'.elseList

end

end Wire

/-- The messages differ in the payloads in them, which are replaced by what remains of them by `R`. -/
inductive NodeMessage.Prunes (R : Wire.Payload → Option Wire.Payload → Prop) :
    NodeMessage → NodeMessage → Prop
  | same (m : NodeMessage) : NodeMessage.Prunes R m m
  | action {h : Wire.Header} {p p' : Wire.PipeNode} :
      p.Prunes R p' → NodeMessage.Prunes R (.action ⟨h, p⟩) (.action ⟨h, p'⟩)
  | chain {h : Wire.Header} {q : Wire.Payload} {q' : Option Wire.Payload} {fields : List String} :
      R q q' → NodeMessage.Prunes R (.chain ⟨h, q, fields⟩) (.chain ⟨h, q', fields⟩)
  | command {m m' : Wire.ParentNode} :
      m.Prunes R m' → NodeMessage.Prunes R (.command m) (.command m')
  | ifElse {h : Wire.Header} {b b' : Wire.BranchNode} :
      b.Prunes R b' → NodeMessage.Prunes R (.ifElse ⟨h, b⟩) (.ifElse ⟨h, b'⟩)
  | list {m m' : Wire.ParentNode} : m.Prunes R m' → NodeMessage.Prunes R (.list m) (.list m')
  | pipe {m m' : Wire.PipeNode} : m.Prunes R m' → NodeMessage.Prunes R (.pipe m) (.pipe m')
  | range {h : Wire.Header} {b b' : Wire.BranchNode} :
      b.Prunes R b' → NodeMessage.Prunes R (.range ⟨h, b⟩) (.range ⟨h, b'⟩)
  | template {h : Wire.Header} {name : String} {p p' : Wire.PipeNode} :
      p.Prunes R p' → NodeMessage.Prunes R (.template ⟨h, name, p⟩) (.template ⟨h, name, p'⟩)
  | withScope {h : Wire.Header} {b b' : Wire.BranchNode} :
      b.Prunes R b' → NodeMessage.Prunes R (.withScope ⟨h, b⟩) (.withScope ⟨h, b'⟩)

/-- What remains of a payload when payloads that cannot be unpacked are taken out of it, at any depth,
    or when it is one itself.  A message that changes is packed again, under the same URL. -/
inductive Wire.Payload.Prunes : Wire.Payload → Option Wire.Payload → Prop
  | same (p : Wire.Payload) : Wire.Payload.Prunes p p
  | drop {p : Wire.Payload} : unpackNode? p = none → Wire.Payload.Prunes p none
  | within {R : Wire.Payload → Option Wire.Payload → Prop} {p : Wire.Payload} {m m' : NodeMessage} :
      (∀ q q', R q q' → Wire.Payload.Prunes q q') → decodePayload p = .ok m → m.Prunes R m' →
      m'.encode.length < wordLimit → Wire.Payload.Prunes p (some ⟨p.typeUrl, m'.encode⟩)

/-! ### One payload of many -/

/-- All payloads may remain as they are. -/
theorem Wire.PrunesAll.refl (ps : List Wire.Payload) : Wire.PrunesAll Wire.Payload.Prunes ps ps := by
  induction ps with
  | nil => exact .nil
  | cons p ps ih => exact .cons (.same p) ih

/-- Any one payload that cannot be unpacked may go. -/
theorem Wire.PrunesAll.erase {p : Wire.Payload} (h : unpackNode? p = none)
    (before after : List Wire.Payload) :
    Wire.PrunesAll Wire.Payload.Prunes (before ++ p :: after) (before ++ after) := by
  induction before with
  | nil => exact .cons (.drop h) (.refl after)
  | cons q before ih => exact .cons (.same q) ih

/-! ### Nodes -/

section

variable {R : Wire.Payload → Option Wire.Payload → Prop} {unpack : Wire.Payload → Option Node}
  (hR : ∀ p q, R p q → q.bind unpack = unpack p)

include hR

/-- The nodes of payloads do not change: what is left out had no node. -/
theorem Wire.PrunesAll.filterMap_eq {ps qs : List Wire.Payload} (h : Wire.PrunesAll R ps qs) :
    qs.filterMap unpack = ps.filterMap unpack := by
  induction h with
  | nil => rfl
  | @cons p q ps qs hp _ ih =>
    rw [List.filterMap_append, ih, filterMap_toList, hR _ _ hp]
    -- Whether `p` has a node is what decides if anything stands for it on either side.
    cases hnode : unpack p with
    | none => exact (List.filterMap_cons_none hnode).symm
    | some n => exact (List.filterMap_cons_some hnode).symm

/-- So a command does not change. -/
theorem Wire.ParentNode.Prunes.toCommand_eq {m m' : Wire.ParentNode} (h : m.Prunes R m') :
    m'.toCommand unpack = m.toCommand unpack := by
  rw [Wire.ParentNode.toCommand, Wire.ParentNode.toCommand, h.header, h.nodes.filterMap_eq hR]

/-- Neither does a list. -/
theorem Wire.ParentNode.Prunes.toList_eq {m m' : Wire.ParentNode} (h : m.Prunes R m') :
    m'.toList unpack = m.toList unpack := by
  rw [Wire.ParentNode.toList, Wire.ParentNode.toList, h.header, h.nodes.filterMap_eq hR]

/-- Nor do the commands of a pipeline. -/
theorem map_toCommand_eq {cs cs' : List Wire.ParentNode}
    (h : List.Forall₂ (Wire.ParentNode.Prunes R) cs cs') :
    cs'.map (fun c => c.toCommand unpack) = cs.map fun c => c.toCommand unpack := by
  induction h with
  | nil => rfl
  | cons hc _ ih => rw [List.map_cons, List.map_cons, hc.toCommand_eq hR, ih]

/-- Nor does a pipeline. -/
theorem Wire.PipeNode.Prunes.toPipe_eq {m m' : Wire.PipeNode} (h : m.Prunes R m') :
    m'.toPipe unpack = m.toPipe unpack := by
  rw [Wire.PipeNode.toPipe, Wire.PipeNode.toPipe, h.header, h.declarations,
    map_toCommand_eq hR h.commands]

omit hR in
/-- Parts that may be missing are missing on both sides. -/
theorem Wire.Matched.map_eq {r : α → α → Prop} {f : α → β} (hr : ∀ {a b}, r a b → f b = f a)
    {a b : Option α} (h : Wire.Matched r a b) : b.map f = a.map f := by
  cases h with
  | none => rfl
  | some h => exact congrArg Option.some (hr h)

/-- A branch does not change, with any header. -/
theorem Wire.BranchNode.Prunes.toBranch_eq {b b' : Wire.BranchNode} (h : b.Prunes R b')
    (header : Wire.Header) :
    Wire.BranchingNode.toBranch unpack ⟨header, b'⟩
      = Wire.BranchingNode.toBranch unpack ⟨header, b⟩ := by
  simp only [Wire.BranchingNode.toBranch]
  rw [h.pipe.map_eq fun hp => hp.toPipe_eq hR, h.list.map_eq fun hl => hl.toList_eq hR,
    h.elseList.map_eq fun hl => hl.toList_eq hR]

/-- Step lemma: a message whose payloads are replaced so has the same node. -/
theorem NodeMessage.Prunes.toNode_eq {m m' : NodeMessage} (h : m.Prunes R m') :
    m'.toNode unpack = m.toNode unpack := by
  cases h with
  | same => rfl
  | action hp => exact congrArg (fun p => Node.action _ (some p)) (hp.toPipe_eq hR)
  -- The inner node of a chain may be left out altogether, which `hR` allows for.
  | chain hq => exact congrArg (fun n => Node.chain _ n _) (hR _ _ hq)
  | command hm => exact congrArg Node.command (hm.toCommand_eq hR)
  | ifElse hb => exact congrArg Node.ifElse (hb.toBranch_eq hR _)
  | list hm => exact congrArg Node.list (hm.toList_eq hR)
  | pipe hm => exact congrArg Node.pipe (hm.toPipe_eq hR)
  | range hb => exact congrArg Node.range (hb.toBranch_eq hR _)
  | template hp => exact congrArg (fun p => Node.template _ _ (some p)) (hp.toPipe_eq hR)
  | withScope hb => exact congrArg Node.withScope (hb.toBranch_eq hR _)

end

/-- Pruning changes no kind of message. -/
theorem NodeMessage.Prunes.name_eq {R : Wire.Payload → Option Wire.Payload → Prop}
    {m m' : NodeMessage} (h : m.Prunes R m') : m'.name = m.name := by
  cases h <;> rfl

/-- A message that is packed again is read from its bytes. -/
theorem NodeMessage.isReadFrom_encode {m : NodeMessage} (hsize : m.encode.length < wordLimit) :
    m.IsReadFrom m.encode := by
  obtain ⟨read, hread, hm⟩ := messageReader?_name m hsize
  exact (messageReader?_eq_some hread hm).2

/-- A payload whose message can be read has a node, even if nothing in it can be read. -/
theorem unpackNode?_of_decodePayload {p : Wire.Payload} {m : NodeMessage}
    (h : decodePayload p = .ok m) : unpackNode? p = some (m.toNode unpackNode?) := by
  rw [unpackNode?_eq, unpackStep_eq_some_iff]
  exact ⟨m, h, rfl⟩

/-- **Pruning.** What remains of a payload has the same node.  Where nothing remains there was none. -/
theorem Wire.Payload.Prunes.bind_unpackNode? {p : Wire.Payload} {q : Option Wire.Payload}
    (h : p.Prunes q) : q.bind unpackNode? = unpackNode? p := by
  -- By induction on how deep payloads are taken out; the step lemma goes from one depth to the next.
  induction h with
  | same p => rfl
  | drop hp => exact hp.symm
  | @within R p m m' _ hm hprunes hsize ih =>
    -- The message is packed again under the same URL, and has the same name.
    have hm' : decodePayload ⟨p.typeUrl, m'.encode⟩ = .ok m' := by
      rw [decodePayload_eq_ok_iff, hprunes.name_eq]
      exact ⟨(decodePayload_eq_ok_iff.mp hm).1, NodeMessage.isReadFrom_encode hsize⟩
    rw [Option.bind_some, unpackNode?_of_decodePayload hm', unpackNode?_of_decodePayload hm,
      hprunes.toNode_eq ih]

/-- Pruning a message that is packed, in any way, leaves one that is packed in the same way. -/
theorem Wire.Payload.Prunes.close (k : Packing) {m m' : NodeMessage}
    (h : m.Prunes Wire.Payload.Prunes m') (hsize : m.encode.length < wordLimit)
    (hsize' : m'.encode.length < wordLimit) : (k.close m).Prunes (k.close m') := by
  have hclose : k.close m' = ⟨(k.close m).typeUrl, m'.encode⟩ := by
    rw [Packing.close, Packing.close, h.name_eq]
  rw [hclose]
  exact .within (fun _ _ hq => hq) (decodePayload_close k hsize) h hsize'

/-- A tree does not change when its root is pruned. -/
theorem ofMessage?_of_prunes {m : Wire.Tree} {root root' : Wire.ParentNode} (hroot : m.root = some root)
    (h : root.Prunes Wire.Payload.Prunes root') :
    Tree.ofMessage? { m with root := some root' } = Tree.ofMessage? m := by
  simp only [Tree.ofMessage?, hroot, Option.map_some]
  rw [h.toList_eq fun p q hp => hp.bind_unpackNode?]

/-! ### URLs -/

/-- The name is what follows the last separator of the URL, or all of it. -/
structure IsLastSegment (url name : String) : Prop where
  no_separator : ∀ c ∈ name.toList, c ≠ '/' ∧ c ≠ '.'
  follows : ∃ start, url = start ++ name ∧ ∀ c ∈ start.toList.getLast?, c = '/' ∨ c = '.'

/-- The name by which a URL selects its type is its last segment. -/
theorem IsLastSegment.typeName_eq {url name : String} (h : IsLastSegment url name) :
    typeName url = name := by
  obtain ⟨start, rfl, hstart⟩ := h.follows
  refine typeName_append hstart fun c hc => ?_
  simpa using h.no_separator c hc

/-- And a URL has such a segment. -/
theorem isLastSegment_typeName (url : String) : IsLastSegment url (typeName url) := by
  let isPlain : Char → Bool := fun c => c != '/' && c != '.'
  have hname : (typeName url).toList = (url.toList.reverse.takeWhile isPlain).reverse :=
    String.toList_ofList
  refine ⟨fun c hc => ?_, String.ofList (url.toList.reverse.dropWhile isPlain).reverse, ?_, ?_⟩
  · rw [hname, List.mem_reverse] at hc
    simpa [isPlain] using List.all_eq_true.mp List.all_takeWhile c hc
  · rw [← String.toList_inj, String.toList_append, String.toList_ofList, hname, ← List.reverse_append,
      List.takeWhile_append_dropWhile, List.reverse_reverse]
  · -- Read from the end, the name stops at a separator or at the start of the URL.
    intro c hc
    rw [String.toList_ofList, List.getLast?_reverse] at hc
    have hstop := List.head?_dropWhile_not isPlain url.toList.reverse
    rw [Option.mem_def.mp hc] at hstop
    exact or_iff_not_imp_left.mpr (by simpa [isPlain] using hstop)

/-- It has exactly one. -/
theorem existsUnique_isLastSegment (url : String) : ∃! name, IsLastSegment url name :=
  ⟨typeName url, isLastSegment_typeName url, fun _ h => h.typeName_eq.symm⟩

/-- A name is a URL with one segment. -/
theorem IsLastSegment.self {url name : String} (h : IsLastSegment url name) :
    IsLastSegment name name :=
  ⟨h.no_separator, "", (String.empty_append).symm, by simp⟩

/-- A payload is left out if no message of the type that its URL names can be read from its bytes. -/
theorem unpackNode?_eq_none_iff {p : Wire.Payload} :
    unpackNode? p = none ↔ ∀ m : NodeMessage, m.name = typeName p.typeUrl → ¬ m.IsReadFrom p.value := by
  rw [unpackNode?_eq, Option.eq_none_iff_forall_ne_some]
  constructor
  · intro h m hname hm
    exact h _ (unpackStep_eq_some_iff.mpr ⟨m, decodePayload_eq_ok_iff.mpr ⟨hname, hm⟩, rfl⟩)
  · intro h n hn
    obtain ⟨m, hm, -⟩ := unpackStep_eq_some_iff.mp hn
    obtain ⟨hname, hread⟩ := decodePayload_eq_ok_iff.mp hm
    exact h m hname hread

/-- Of a payload only the last segment of the URL and the bytes are read. -/
theorem decodePayload_congr {p q : Wire.Payload} (hname : typeName p.typeUrl = typeName q.typeUrl)
    (hvalue : p.value = q.value) {m : NodeMessage} (h : decodePayload p = .ok m) :
    decodePayload q = .ok m := by
  rw [decodePayload_eq_ok_iff, hname, hvalue] at h
  exact decodePayload_eq_ok_iff.mpr h

/-- So its node depends on nothing else. -/
theorem unpackNode?_congr {p q : Wire.Payload} (hname : typeName p.typeUrl = typeName q.typeUrl)
    (hvalue : p.value = q.value) : unpackNode? p = unpackNode? q := by
  refine Option.ext fun n => ?_
  rw [unpackNode?_eq, unpackNode?_eq, unpackStep_eq_some_iff, unpackStep_eq_some_iff]
  constructor
  · rintro ⟨m, hm, hn⟩
    exact ⟨m, decodePayload_congr hname hvalue hm, hn⟩
  · rintro ⟨m, hm, hn⟩
    exact ⟨m, decodePayload_congr hname.symm hvalue.symm hm, hn⟩

/-- **What is left out.** Taking payloads that cannot be unpacked out of a payload or a tree, at any
    depth, changes no node; the nodes in a node are those of the payloads that can be unpacked, in
    order; and of a URL only the last segment matters. -/
theorem unpack_ignores_undecodable :
    (∀ p q, Wire.Payload.Prunes p q → q.bind unpackNode? = unpackNode? p)
      ∧ (∀ before p after, unpackNode? p = none →
          Wire.PrunesAll Wire.Payload.Prunes (before ++ p :: after) (before ++ after))
      ∧ (∀ (m : Wire.Tree) root root', m.root = some root → root.Prunes Wire.Payload.Prunes root' →
          Tree.ofMessage? { m with root := some root' } = Tree.ofMessage? m)
      ∧ (∀ p m, decodePayload p = .ok m → unpackNode? p = some (m.toNode unpackNode?)
          ∧ (m.toNode unpackNode?).children = m.payloads.filterMap unpackNode?)
      ∧ (∀ (m : Wire.Tree) root, m.root = some root → ∃ t, Tree.ofMessage? m = some t
          ∧ t.root.nodes = root.nodes.filterMap unpackNode?)
      ∧ (∀ url, ∃! name, IsLastSegment url name)
      ∧ ∀ url name value, IsLastSegment url name →
          unpackNode? ⟨url, value⟩ = unpackNode? ⟨name, value⟩
            ∧ (unpackNode? ⟨url, value⟩ = none
                ↔ ∀ m : NodeMessage, m.name = name → ¬ m.IsReadFrom value) := by
  refine ⟨fun _ _ => Wire.Payload.Prunes.bind_unpackNode?,
    fun before p after h => Wire.PrunesAll.erase h before after,
    fun _ _ _ => ofMessage?_of_prunes,
    fun _ m hm => ⟨unpackNode?_of_decodePayload hm, m.children_toNode unpackNode?⟩, ?_,
    existsUnique_isLastSegment, ?_⟩
  · -- The nodes of the root are the payloads that can be unpacked by definition.
    intro m root hroot
    simp only [Tree.ofMessage?, hroot, Option.map_some]
    exact ⟨_, rfl, rfl⟩
  · intro url name value h
    have hname := h.typeName_eq
    refine ⟨unpackNode?_congr (hname.trans h.self.typeName_eq.symm) rfl, ?_⟩
    rw [unpackNode?_eq_none_iff, hname]

/-- A payload of no kind of node. -/
def strangePayload : Wire.Payload := ⟨"example.com/v1.MysteryNode", [0x08, 0x01]⟩

/-- A payload whose bytes break off. -/
def brokenPayload : Wire.Payload := ⟨"helm.template.DotNode", [0x10, 0x80]⟩

/-- The chain `inner.b`. -/
def chainMessage (inner : Option Wire.Payload) : NodeMessage := .chain ⟨.empty, inner, ["b"]⟩

/-- An action with one command. -/
def actionMessage (arguments : List Wire.Payload) : NodeMessage :=
  .action ⟨.empty, some ⟨.empty, [], [⟨.empty, arguments⟩]⟩⟩

/-- A list with an action, whose command has a chain for an argument; both payloads are in it. -/
def crowdedList : NodeMessage :=
  .list ⟨.empty, [brokenPayload, mixedPacking.close (actionMessage
    [strangePayload, mixedPacking.close (chainMessage (some strangePayload)), brokenPayload])]⟩

/-- The list without them. -/
def thinnedList : NodeMessage :=
  .list ⟨.empty, [mixedPacking.close (actionMessage [mixedPacking.close (chainMessage none)])]⟩

/-- A tree with the list and a strange payload in it. -/
def crowdedTree : Wire.Tree :=
  ⟨"a.yaml", "", 0, some ⟨.empty, [mixedPacking.close crowdedList, strangePayload]⟩⟩

/-- The payloads are taken out from the innermost message on. -/
theorem prunes_crowdedList : crowdedList.Prunes Wire.Payload.Prunes thinnedList := by
  have hstrange : Wire.Payload.Prunes strangePayload none := .drop rfl
  have hbroken : Wire.Payload.Prunes brokenPayload none := .drop rfl
  have hchain : Wire.Payload.Prunes (mixedPacking.close (chainMessage (some strangePayload)))
      (mixedPacking.close (chainMessage none)) :=
    .close mixedPacking (.chain hstrange) (by decide +kernel) (by decide +kernel)
  have haction : Wire.Payload.Prunes
      (mixedPacking.close (actionMessage
        [strangePayload, mixedPacking.close (chainMessage (some strangePayload)), brokenPayload]))
      (mixedPacking.close (actionMessage [mixedPacking.close (chainMessage none)])) :=
    .close mixedPacking
      (.action ⟨rfl, rfl, .cons ⟨rfl, .cons hstrange (.cons hchain (.cons hbroken .nil))⟩ .nil⟩)
      (by decide +kernel) (by decide +kernel)
  exact .list ⟨rfl, .cons hbroken (.cons haction .nil)⟩

/-- The node of the list, one level after the other. -/
theorem unpackNode?_thinnedList :
    unpackNode? (mixedPacking.close thinnedList)
      = some (.list (.mk ⟨0, 0⟩ [.action ⟨0, 0⟩ (some (.mk ⟨0, 0⟩ []
          [.mk ⟨0, 0⟩ [.chain ⟨0, 0⟩ none ["b"]]]))])) := by
  have hchain : unpackNode? (mixedPacking.close (chainMessage none))
      = some (.chain ⟨0, 0⟩ none ["b"]) :=
    unpackNode?_of_decodePayload (decodePayload_close mixedPacking (by decide +kernel))
  have haction := unpackNode?_of_decodePayload (decodePayload_close mixedPacking
    (m := actionMessage [mixedPacking.close (chainMessage none)]) (by decide +kernel))
  have hlist := unpackNode?_of_decodePayload (decodePayload_close mixedPacking
    (m := thinnedList) (by decide +kernel))
  simp only [actionMessage, NodeMessage.toNode, Wire.PipeNode.toPipe, Wire.ParentNode.toCommand,
    Option.map_some, List.map_cons, List.map_nil, List.filterMap_cons, List.filterMap_nil,
    hchain] at haction
  simp only [thinnedList, NodeMessage.toNode, Wire.ParentNode.toList, List.filterMap_cons,
    List.filterMap_nil, actionMessage, haction] at hlist
  exact hlist

/-- Payloads of no kind, and payloads that break off, at three depths of one list. -/
theorem unpack_ignores_undecodable_crowdedList :
    Wire.Payload.Prunes (mixedPacking.close crowdedList) (mixedPacking.close thinnedList)
      ∧ unpackNode? (mixedPacking.close thinnedList) = unpackNode? (mixedPacking.close crowdedList)
      ∧ decodePayload (mixedPacking.close crowdedList) = .ok crowdedList
      ∧ unpackNode? (mixedPacking.close crowdedList)
          = some (.list (.mk ⟨0, 0⟩ [.action ⟨0, 0⟩ (some (.mk ⟨0, 0⟩ []
              [.mk ⟨0, 0⟩ [.chain ⟨0, 0⟩ none ["b"]]]))]))
      ∧ (crowdedList.toNode unpackNode?).children = crowdedList.payloads.filterMap unpackNode?
      ∧ unpackNode? strangePayload = none
      ∧ Wire.PrunesAll Wire.Payload.Prunes ([brokenPayload] ++ strangePayload :: []) [brokenPayload]
      ∧ Tree.ofMessage? { crowdedTree with root := some ⟨.empty, [mixedPacking.close thinnedList]⟩ }
          = Tree.ofMessage? crowdedTree
      ∧ (∃ t, Tree.ofMessage? crowdedTree = some t
          ∧ t.root.nodes = [mixedPacking.close crowdedList, strangePayload].filterMap unpackNode?)
      ∧ IsLastSegment "helm.template.DotNode" "DotNode"
      ∧ unpackNode? ⟨"helm.template.DotNode", []⟩ = unpackNode? ⟨"DotNode", []⟩ := by
  obtain ⟨hnode, herase, htree, hchildren, hnodes, -, hurl⟩ := unpack_ignores_undecodable
  have hstrange : unpackNode? strangePayload = none := rfl
  have hprunes : Wire.Payload.Prunes (mixedPacking.close crowdedList)
      (mixedPacking.close thinnedList) :=
    .close mixedPacking prunes_crowdedList (by decide +kernel) (by decide +kernel)
  have hmessage : decodePayload (mixedPacking.close crowdedList) = .ok crowdedList :=
    decodePayload_close mixedPacking (by decide +kernel)
  have hlist := hnode _ _ hprunes
  rw [Option.bind_some, unpackNode?_thinnedList] at hlist
  have hroot : Wire.ParentNode.Prunes Wire.Payload.Prunes
      ⟨.empty, [mixedPacking.close crowdedList, strangePayload]⟩
      ⟨.empty, [mixedPacking.close thinnedList]⟩ :=
    ⟨rfl, .cons hprunes (.cons (Wire.Payload.Prunes.drop hstrange) .nil)⟩
  have hsegment : IsLastSegment "helm.template.DotNode" "DotNode" :=
    ⟨by simp, "helm.template.", rfl, by simp⟩
  exact ⟨hprunes, hnode _ _ hprunes, hmessage, hlist.symm, (hchildren _ _ hmessage).2, hstrange,
    herase [brokenPayload] strangePayload [] hstrange,
    htree crowdedTree _ _ rfl hroot,
    hnodes crowdedTree _ rfl, hsegment, (hurl _ _ [] hsegment).1⟩

end ChartTrace
