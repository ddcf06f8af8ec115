import ChartTrace.Proofs.YamlEvents
import ChartTrace.Yaml.Document

namespace ChartTrace.Yaml

/-!
# Places of errors

A node stands where its event does, so that every error of a text, whether it has been found by the
scanner, the parser or while a value was built, is at a place that the cursor has come to.

* `Node.IsPlaced`, `Document.IsPlaced`: all nodes are at places, and so is what cuts them off.
* `Build.Ensures`: what holds of the result of building a value, or of the error.
* `ensures_readDocuments`: where the errors of a text are.
-/

open Cursor

variable {o : Cursor}

/-! ### Trees -/

/-- Where a document is cut. -/
def CutCause.position : CutCause → Position
  | .fault f => f.position
  | .unknownAnchor q => q

/-- The nodes of a tree, and what cuts them off, are at places a reader comes to from `o`. -/
inductive Node.IsPlaced (o : Cursor) : Node → Prop where
  | scalar {q : Position} (tag : Option Bytes) (text : List Char) (style : ScalarStyle) (hq : o.Places q) :
    IsPlaced o (.scalar q tag text style)
  | sequence {q : Position} (tag : Option Bytes) {items : List Node} (hq : o.Places q)
    (hitems : ∀ n ∈ items, IsPlaced o n) : IsPlaced o (.sequence q tag items)
  | mapping {q : Position} (tag : Option Bytes) {entries : List (Node × Node)} (hq : o.Places q)
    (hkeys : ∀ e ∈ entries, IsPlaced o e.1) (hvalues : ∀ e ∈ entries, IsPlaced o e.2) :
    IsPlaced o (.mapping q tag entries)
  | reference (anchor : Nat) : IsPlaced o (.reference anchor)
  | cut {cause : CutCause} (hcause : o.Places cause.position) : IsPlaced o (.cut cause)

/-- What an open collection holds is at places. -/
inductive OpenNode.IsPlaced (o : Cursor) : OpenNode → Prop where
  | sequence {q : Position} (tag : Option Bytes) {items : List Node} (hq : o.Places q)
    (hitems : ∀ n ∈ items, n.IsPlaced o) : IsPlaced o (.sequence q tag items)
  | mapping {q : Position} (tag : Option Bytes) {entries : List (Node × Node)} {key : Option Node}
    (hq : o.Places q) (hkeys : ∀ e ∈ entries, e.1.IsPlaced o) (hvalues : ∀ e ∈ entries, e.2.IsPlaced o)
    (hkey : ∀ n ∈ key, n.IsPlaced o) : IsPlaced o (.mapping q tag entries key)

/-- A node becomes the next item, or the key or the value of an entry. -/
theorem OpenNode.IsPlaced.add {content : OpenNode} {n : Node} (h : content.IsPlaced o)
    (hn : n.IsPlaced o) : (content.add n).IsPlaced o := by
  cases h with
  | sequence tag hq hitems => exact .sequence tag hq (List.forall_mem_cons.mpr ⟨hn, hitems⟩)
  | @mapping q tag entries key hq hkeys hvalues hkey =>
    cases key with
    | none => exact .mapping tag hq hkeys hvalues (by simpa using hn)
    -- A key is waiting, and the node is its value.
    | some k =>
      exact .mapping tag hq (List.forall_mem_cons.mpr ⟨hkey k rfl, hkeys⟩)
        (List.forall_mem_cons.mpr ⟨hn, hvalues⟩) (by simp)

/-- Items and entries are kept in reverse while the collection is open; a key that still waits for its
    value is left out. -/
theorem OpenNode.IsPlaced.close {content : OpenNode} (h : content.IsPlaced o) :
    content.close.IsPlaced o := by
  cases h with
  | sequence tag hq hitems => exact .sequence tag hq (by simpa using hitems)
  | mapping tag hq hkeys hvalues hkey =>
    exact .mapping tag hq (fun e he => hkeys e (List.mem_reverse.mp he))
      (fun e he => hvalues e (List.mem_reverse.mp he))

/-- A collection that the text does not end is cut: what cuts it stands for the next item, or for the
    next value and its key where that is missing too. -/
theorem OpenNode.IsPlaced.cutContent {content : OpenNode} {cause : CutCause} (h : content.IsPlaced o)
    (hcause : o.Places cause.position) : (Builder.cutContent cause content).IsPlaced o := by
  have hcut : (Node.cut cause).IsPlaced o := .cut hcause
  cases h with
  | sequence tag hq hitems => exact .sequence tag hq (List.forall_mem_cons.mpr ⟨hcut, hitems⟩)
  | @mapping q tag entries key hq hkeys hvalues hkey =>
    have hgetD : (key.getD (.cut cause)).IsPlaced o := by
      cases key with
      | none => exact hcut
      | some k => exact hkey k rfl
    exact .mapping tag hq (List.forall_mem_cons.mpr ⟨hgetD, hkeys⟩)
      (List.forall_mem_cons.mpr ⟨hcut, hvalues⟩) (by simp)

/-- All nodes of a document, and what cuts it, are at places. -/
structure Document.IsPlaced (o : Cursor) (d : Document) : Prop where
  root : d.root.IsPlaced o
  anchors : ∀ a ∈ d.anchors, a.node.IsPlaced o
  cause : ∀ cause ∈ d.cause, o.Places cause.position

namespace Builder

/-- All nodes of a document that is being built are at places. -/
structure IsPlaced (o : Cursor) (b : Builder) : Prop where
  frames : ∀ f ∈ b.frames, f.content.IsPlaced o
  root : ∀ n ∈ b.root, n.IsPlaced o
  anchors : ∀ a ∈ b.anchors, a.node.IsPlaced o

variable {b : Builder}

/-- The innermost open collection, and those around it. -/
theorem IsPlaced.of_frames_eq {f : Frame} {fs : List Frame} (h : b.IsPlaced o)
    (hframes : b.frames = f :: fs) : f.content.IsPlaced o ∧ ∀ g ∈ fs, g.content.IsPlaced o := by
  have hall := h.frames
  rw [hframes] at hall
  exact List.forall_mem_cons.mp hall

theorem isPlaced_empty : ({} : Builder).IsPlaced o := ⟨by simp, by simp, by simp⟩

theorem IsPlaced.count (h : b.IsPlaced o) : b.count.IsPlaced o := ⟨h.frames, h.root, h.anchors⟩

/-- A node goes into the innermost open collection, or is the root. -/
theorem IsPlaced.add {n : Node} (h : b.IsPlaced o) (hn : n.IsPlaced o) : (b.add n).IsPlaced o := by
  unfold Builder.add
  split
  · exact ⟨h.frames, by simpa using hn, h.anchors⟩
  · next f fs hframes =>
    obtain ⟨hf, hfs⟩ := h.of_frames_eq hframes
    exact ⟨List.forall_mem_cons.mpr ⟨hf.add hn, hfs⟩, h.root, h.anchors⟩

/-- A node with an anchor is kept for references to it. -/
theorem IsPlaced.record {anchor : Option Nat} {start : Nat} {n : Node} (h : b.IsPlaced o)
    (hn : n.IsPlaced o) : (b.record anchor start n).IsPlaced o := by
  cases anchor with
  | none => exact h
  | some a => exact ⟨h.frames, h.root, List.forall_mem_cons.mpr ⟨hn, h.anchors⟩⟩

/-- Giving an anchor its number leaves the nodes. -/
theorem IsPlaced.number (h : b.IsPlaced o) (name : Option (List Char)) :
    (b.number name).2.IsPlaced o := by
  cases name with
  | none => exact h
  | some name => exact ⟨h.frames, h.root, h.anchors⟩

/-- A collection is opened empty; its place is part of `content`. -/
theorem IsPlaced.openNode {name : Option (List Char)} {content : OpenNode} (h : b.IsPlaced o)
    (hcontent : content.IsPlaced o) : (b.openNode name content).IsPlaced o := by
  have hnumber := h.number name
  exact ⟨List.forall_mem_cons.mpr ⟨hcontent, hnumber.frames⟩, hnumber.root, hnumber.anchors⟩

/-- A closed collection becomes a node of the one around it, and is recorded where it has an anchor. -/
theorem IsPlaced.closeNode (h : b.IsPlaced o) : b.closeNode.IsPlaced o := by
  unfold Builder.closeNode
  split
  · exact h
  · next f fs hframes =>
    obtain ⟨hf, hfs⟩ := h.of_frames_eq hframes
    have hrest : { b with frames := fs }.IsPlaced o := ⟨hfs, h.root, h.anchors⟩
    exact (hrest.add hf.close).record hf.close

/-- Run lemma of cutting: the open collections are cut from the innermost one on. -/
theorem IsPlaced.cutNodes {cause : CutCause} {n : Nat} (h : b.IsPlaced o)
    (hcause : o.Places cause.position) : (cutNodes cause n b).IsPlaced o := by
  induction n generalizing b with
  | zero => exact h
  | succ n ih =>
    unfold Builder.cutNodes
    split
    · exact h
    · next f fs hframes =>
      obtain ⟨hf, hfs⟩ := h.of_frames_eq hframes
      refine ih (IsPlaced.closeNode ⟨?_, h.root, h.anchors⟩)
      exact List.forall_mem_cons.mpr ⟨hf.cutContent hcause, hfs⟩

/-- The document of what has been built; without a root it is an empty scalar at the origin. -/
theorem IsPlaced.finish (ho : o.Places .origin) (h : b.IsPlaced o) : b.finish.IsPlaced o := by
  refine ⟨?_, h.anchors, by simp [Builder.finish]⟩
  show (b.root.getD (.empty .origin)).IsPlaced o
  cases hroot : b.root with
  | none => exact .scalar _ _ _ ho
  | some n => exact h.root n hroot

/-- The document of what has been built when the text is cut: all that is open is closed by the cut, and
    a missing root is the cut itself. -/
theorem IsPlaced.cut {cause : CutCause} (h : b.IsPlaced o) (hcause : o.Places cause.position) :
    (b.cut cause).IsPlaced o := by
  have hcut := h.cutNodes hcause (n := b.frames.length)
  refine ⟨?_, hcut.anchors, by simpa [Builder.cut] using hcause⟩
  show ((Builder.cutNodes cause b.frames.length b).root.getD (.cut cause)).IsPlaced o
  cases hroot : (Builder.cutNodes cause b.frames.length b).root with
  | none => exact .cut hcause
  | some n => exact hcut.root n hroot

end Builder

/-- Run lemma of building: one event at a time, the builder knows places only, and so does each document
    that it has finished. -/
theorem isPlaced_of_mem_documentsFrom {fault : Option Fault} {n : Nat} {b : Builder}
    {es : List PlacedEvent} (ho : o.Places .origin) (hfault : ∀ f ∈ fault, o.PlacesFault f)
    (hb : b.IsPlaced o) (hes : ∀ e ∈ es, o.Places e.position) :
    ∀ d ∈ documentsFrom fault n b es, d.IsPlaced o := by
  -- The cases are those of the next event; the first four are the ways in which the events end.
  fun_induction documentsFrom fault n b es with
  | case1 n b f hf => exact List.forall_mem_singleton.mpr (hb.cut (hfault f hf))
  | case2 => exact List.forall_mem_nil _
  | case3 b q es =>
    refine List.forall_mem_singleton.mpr ⟨?_, by simp, by simp⟩
    exact .scalar _ _ _ (List.forall_mem_cons.mp hes).1
  | case4 => exact List.forall_mem_nil _
  | case5 n b q es ih => exact ih hb (List.forall_mem_cons.mp hes).2
  | case6 n b q es ih =>
    have hrest := ih Builder.isPlaced_empty (List.forall_mem_cons.mp hes).2
    exact List.forall_mem_cons.mpr ⟨hb.finish ho, hrest⟩
  | case7 n b q es name k hk ih =>
    exact ih (hb.add (.reference k.2)).count (List.forall_mem_cons.mp hes).2
  -- A reference to an anchor that is not known cuts the document where the reference stands.
  | case8 n b q es name hname =>
    exact List.forall_mem_singleton.mpr (hb.cut (List.forall_mem_cons.mp hes).1)
  -- A scalar is complete with its event, so that it is added and recorded at once.
  | case9 n b q es name tag text style anchor c hnumber node ih =>
    obtain ⟨hq, hes⟩ := List.forall_mem_cons.mp hes
    have hc : c.IsPlaced o := by
      have hnumbered := hb.number name
      rwa [hnumber] at hnumbered
    have hnode : node.IsPlaced o := .scalar tag text style hq
    exact ih ((hc.add hnode).record hnode).count hes
  | case10 n b q es anchor tag ih =>
    obtain ⟨hq, hes⟩ := List.forall_mem_cons.mp hes
    exact ih (hb.openNode (.sequence tag hq (by simp))) hes
  | case11 n b q es anchor tag ih =>
    obtain ⟨hq, hes⟩ := List.forall_mem_cons.mp hes
    exact ih (hb.openNode (.mapping tag hq (by simp) (by simp) (by simp))) hes
  | case12 n b q es ih => exact ih hb.closeNode.count (List.forall_mem_cons.mp hes).2
  | case13 n b q es ih => exact ih hb.closeNode.count (List.forall_mem_cons.mp hes).2

/-! ### Values -/

/-- An error that is nowhere, or at a place a reader comes to from `o`. -/
def Error.IsPlaced (o : Cursor) (e : Error) : Prop := ∀ q ∈ e.position?, o.Places q

section

variable {α β : Type} {Q : α → Prop} {R : β → Prop}

/-- Whatever has been counted, building fails with an error at a place or gives a result that
    satisfies `Q`. -/
def Build.Ensures (o : Cursor) (Q : α → Prop) (x : Build α) : Prop :=
  ∀ n, Yaml.Ensures (Error.IsPlaced o) (fun r => Q r.1) (x n)

/-- Step by step, with the count of references handed on. -/
theorem Build.Ensures.bind {x : Build α} {f : α → Build β} (h : Build.Ensures o Q x)
    (hf : ∀ a, Q a → Build.Ensures o R (f a)) : Build.Ensures o R (x >>= f) := by
  intro n
  exact (h n).bind fun r hr => hf r.1 hr r.2

theorem Build.ensures_pure {a : α} (ha : Q a) : Build.Ensures o Q (pure a) := fun _ => ha

theorem Build.ensures_throw {e : Error} (he : e.IsPlaced o) : Build.Ensures o Q (throw e) := fun _ => he

end

/-- The error of a cut is where the cut is. -/
theorem Error.isPlaced_cut {cause : CutCause} (h : o.Places cause.position) :
    (Error.cut cause).IsPlaced o := by
  intro q hq
  cases cause with
  | fault f => cases hq; exact h
  | unknownAnchor q' => cases hq; exact h

/-- The error of a value is where its node is. -/
theorem Error.isPlaced_value {problem : ValueProblem} {q : Position} {path : Path} (h : o.Places q) :
    (Error.value problem q path).IsPlaced o := by
  rintro _ ⟨⟩
  exact h

/-- A document with too many references has that error nowhere. -/
theorem Error.isPlaced_tooManyReferences : Error.tooManyReferences.IsPlaced o := by
  simp [Error.IsPlaced, Error.position?]

/-- Run lemma over the items of a sequence, whatever builds each of them. -/
theorem ensures_buildItems {build : Path → Node → Build Value} {path : Path} {i : Nat}
    {items : List Node} (h : ∀ n ∈ items, ∀ path, Build.Ensures o (fun _ => True) (build path n)) :
    Build.Ensures o (fun _ => True) (buildItems build path i items) := by
  induction items generalizing i with
  | nil => exact Build.ensures_pure trivial
  | cons n ns ih =>
    obtain ⟨hn, hns⟩ := List.forall_mem_cons.mp h
    exact (hn _).bind fun v _ => (ih hns).bind fun vs _ => Build.ensures_pure trivial

/-- Run lemma over the entries of a mapping, with what builds keys and what builds values.  A key that
    is there already is an error of the mapping, which is why its place `q` is needed. -/
theorem ensures_buildEntries {buildKey build : Path → Node → Build Value} {q : Position} {path : Path}
    {done : List (Value × Value)} {entries : List (Node × Node)} (hq : o.Places q)
    (hkeys : ∀ e ∈ entries, ∀ path, Build.Ensures o (fun _ => True) (buildKey path e.1))
    (hvalues : ∀ e ∈ entries, ∀ path, Build.Ensures o (fun _ => True) (build path e.2)) :
    Build.Ensures o (fun _ => True) (buildEntries buildKey build q path done entries) := by
  induction entries generalizing done with
  | nil => exact Build.ensures_pure trivial
  | cons e es ih =>
    obtain ⟨k, v⟩ := e
    obtain ⟨hk, hks⟩ := List.forall_mem_cons.mp hkeys
    obtain ⟨hv, hvs⟩ := List.forall_mem_cons.mp hvalues
    unfold buildEntries
    refine (hk _).bind fun key _ => ?_
    split
    · -- The key is not new.
      exact Build.ensures_throw (Error.isPlaced_value hq)
    · exact (hv _).bind fun value _ => ih hks hvs

/-- A scalar whose text does not fit its tag is an error at the scalar. -/
theorem ensures_buildScalar {untagged : Bool} {q : Position} {tag : Option Bytes} {text : List Char}
    {style : ScalarStyle} {path : Path} (hq : o.Places q) :
    Build.Ensures o (fun _ => True) (buildScalar untagged q tag text style path) := by
  unfold buildScalar
  dsimp only
  split
  · exact Build.ensures_pure trivial
  · exact Build.ensures_throw (Error.isPlaced_value hq)

namespace Document

variable {d : Document}

/-- A reference leads to one of the nodes that were recorded.  Which one depends on their order, which
    does not matter here. -/
theorem IsPlaced.target? (h : d.IsPlaced o) {anchor : Nat} {n : Node} (hn : d.target? anchor = some n) :
    n.IsPlaced o := by
  unfold Document.target? at hn
  have hnodes : ∀ a ∈ d.anchors.filter fun a => a.anchor == anchor, a.node.IsPlaced o :=
    fun a ha => h.anchors a (List.mem_of_mem_filter ha)
  obtain ⟨a, ha, rfl⟩ := Option.map_eq_some_iff.mp hn
  clear hn
  -- The best node so far is one of the nodes.
  have hbest : ∀ b ∈ (none : Option AnchoredNode), b.node.IsPlaced o := by simp
  generalize (none : Option AnchoredNode) = best at ha hbest
  generalize d.anchors.filter (fun a => a.anchor == anchor) = nodes at ha hnodes
  -- The induction is over the nodes that are still to be compared with the best one.
  induction nodes generalizing best with
  | nil => exact hbest a ha
  | cons c nodes ih =>
    obtain ⟨hc, hnodes⟩ := List.forall_mem_cons.mp hnodes
    refine ih _ ?_ ha hnodes
    dsimp only
    split
    · next b =>
      split
      · simpa using hc
      · exact hbest
    · simpa using hc

/-- A reference is counted and followed; without a target it stays what it is. -/
theorem ensures_follow (h : d.IsPlaced o) {n : Node} (hn : n.IsPlaced o) :
    Build.Ensures o (·.IsPlaced o) (d.follow n) := by
  unfold follow
  split
  · next anchor =>
    have hget : Build.Ensures o (fun _ => True) get := fun _ => trivial
    refine hget.bind fun count _ => ?_
    dsimp only
    split
    · exact (Build.ensures_throw Error.isPlaced_tooManyReferences).bind fun _ => False.elim
    have hset : Build.Ensures o (fun _ => True) (set (count + 1)) := fun _ => trivial
    refine hset.bind fun _ _ => Build.ensures_pure ?_
    -- What a reference stands for was placed when it was anchored.
    cases htarget : d.target? anchor with
    | none => exact hn
    | some n => exact h.target? htarget
  · exact Build.ensures_pure hn

/-- A way of building values that fails at places only, if the nodes it is given are at places. -/
def KeepsPlaces (o : Cursor) (build : Bool → Path → Node → Build Value) : Prop :=
  ∀ untagged path (n : Node), n.IsPlaced o → Build.Ensures o (fun _ => True) (build untagged path n)

/-- The value of a node without its references.  Where the depth is used up there is nothing to build
    the inner nodes with, and the collection is at fault. -/
theorem ensures_buildContent {inner : Option (Bool → Path → Node → Build Value)} {untagged : Bool}
    {path : Path} {n : Node} (hinner : ∀ build ∈ inner, KeepsPlaces o build) (hn : n.IsPlaced o) :
    Build.Ensures o (fun _ => True) (buildContent inner untagged path n) := by
  cases hn with
  | scalar tag text style hq => exact ensures_buildScalar hq
  | sequence tag hq hitems =>
    cases inner with
    | none => exact Build.ensures_throw (by rintro _ ⟨⟩; exact hq)
    | some build =>
      have hbuild := hinner build rfl
      exact (ensures_buildItems fun n hn path => hbuild false path n (hitems n hn)).bind
        fun _ _ => Build.ensures_pure trivial
  | mapping tag hq hkeys hvalues =>
    cases inner with
    | none => exact Build.ensures_throw (by rintro _ ⟨⟩; exact hq)
    | some build =>
      have hbuild := hinner build rfl
      exact (ensures_buildEntries hq (fun e he path => hbuild untagged path e.1 (hkeys e he))
        fun e he path => hbuild false path e.2 (hvalues e he)).bind
        fun _ _ => Build.ensures_pure trivial
  -- Two references behind each other are not followed.
  | reference anchor => exact Build.ensures_throw Error.isPlaced_tooManyReferences
  | cut hcause => exact Build.ensures_throw (Error.isPlaced_cut hcause)

/-- Following a reference and building what it leads to. -/
theorem IsPlaced.buildNode {inner : Option (Bool → Path → Node → Build Value)} (h : d.IsPlaced o)
    (hinner : ∀ build ∈ inner, KeepsPlaces o build) : KeepsPlaces o (d.buildNode inner) := by
  intro untagged path n hn
  unfold Document.buildNode
  refine (ensures_follow h hn).bind fun m hm => ?_
  exact (ensures_buildContent hinner hm).bind fun _ _ => Build.ensures_pure trivial

/-- Run lemma over the depth: what builds the inner nodes has one level less. -/
theorem IsPlaced.build (h : d.IsPlaced o) (depth : Nat) : KeepsPlaces o (d.build depth) := by
  induction depth with
  | zero => exact h.buildNode (by simp)
  | succ depth ih => exact h.buildNode (by rintro build ⟨⟩; exact ih)

/-- The value of a document.  A document that has been cut is an error even where its value could be
    built. -/
theorem ensures_value (h : d.IsPlaced o) : Ensures (Error.IsPlaced o) (fun _ => True) d.value := by
  unfold value
  refine (h.build depthLimit false [] d.root h.root 0).bind fun r _ => ?_
  dsimp only
  split
  · next cause hcause => exact Error.isPlaced_cut (h.cause cause hcause)
  · trivial

end Document

/-- The errors of a text are at places of the text that can be read. -/
theorem ensures_readDocuments (text : List Char) :
    Ensures (Error.IsPlaced ⟨(readableText text).1, .origin⟩) (fun _ => True) (readDocuments text) := by
  have horigin : Places ⟨(readableText text).1, .origin⟩ .origin := Reaches.refl.places
  have hevents := placed_events horigin (givesPlaces_tokens text)
  have hdocuments : ∀ d ∈ parseDocuments text, d.IsPlaced ⟨(readableText text).1, .origin⟩ :=
    isPlaced_of_mem_documentsFrom horigin hevents.2 Builder.isPlaced_empty hevents.1
  exact (Ensures.mapM fun d hd => Document.ensures_value (hdocuments d hd)).mono fun _ _ => trivial

end ChartTrace.Yaml
