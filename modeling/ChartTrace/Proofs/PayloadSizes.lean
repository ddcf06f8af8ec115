import ChartTrace.Proofs.CanonicalBytes
import ChartTrace.Proofs.PackedTrees
import Mathlib.Algebra.Ring.Nat

namespace ChartTrace.Wire

/-!
# Sizes of payloads

What is read from bytes holds payloads that take no more than the bytes.  A field that occurs again is
read into what is there already, so this is no matter of its last occurrence alone.

* `Payload.size`, `payloadsSize`: the bytes of a payload, and those of payloads in a message, which
  have a key in front of each;
* `Field.grows_string`, `Field.grows_message`, …: reading an occurrence of a field adds no more to the
  payloads than it takes from the bytes;
* `grows_parentLayout`, `grows_branchLayout`, …: the same for whole messages with payloads in them;
* `Layout.Grows.size_le`: hence the bytes bound the payloads.
-/

/-- The bytes of a payload when it is written. -/
def Payload.size (p : Payload) : Nat := (payloadLayout.encode p).length

/-- The bytes of a string or a run of bytes within a payload. -/
def partSize (value : Bytes) : Nat := if value.isEmpty then 0 else (writeDelimited value).length + 1

theorem partSize_le (value : Bytes) : partSize value ≤ (writeDelimited value).length + 1 := by
  rw [partSize]
  split
  · exact Nat.zero_le _
  · exact Nat.le_refl _

/-- A part of a payload that is empty is not written. -/
theorem length_writePart {number : Nat} (hnumber : number < 16) (value : Bytes) :
    (if value.isEmpty then [] else writeKey number .delimited ++ writeDelimited value).length
      = partSize value := by
  rw [partSize]
  split
  · rfl
  · rw [List.length_append, length_writeKey .delimited hnumber, Nat.add_comm]

/-- A payload is its URL and its value, each with a key and a length. -/
theorem Payload.size_eq (p : Payload) : p.size = partSize (utf8 p.typeUrl) + partSize p.value := by
  have hencode : payloadLayout.encode p
      = (if (utf8 p.typeUrl).isEmpty then [] else writeKey 1 .delimited ++ writeDelimited (utf8 p.typeUrl))
        ++ ((if p.value.isEmpty then [] else writeKey 2 .delimited ++ writeDelimited p.value) ++ []) := rfl
  rw [Payload.size, hencode, List.append_nil, List.length_append, length_writePart (by decide),
    length_writePart (by decide)]

/-- What payloads take in a message at the least: their bytes, and a key in front of each. -/
def payloadsSize (ps : List Payload) : Nat := (ps.map fun p => p.size + 1).sum

@[simp] theorem payloadsSize_nil : payloadsSize [] = 0 := rfl

@[simp] theorem payloadsSize_cons (p : Payload) (ps : List Payload) :
    payloadsSize (p :: ps) = p.size + 1 + payloadsSize ps := List.sum_cons

@[simp] theorem payloadsSize_append (ps qs : List Payload) :
    payloadsSize (ps ++ qs) = payloadsSize ps + payloadsSize qs := by
  rw [payloadsSize, List.map_append, List.sum_append]
  rfl

/-- The keys may be counted apart from the payloads. -/
theorem payloadsSize_eq (ps : List Payload) :
    payloadsSize ps = (ps.map Payload.size).sum + ps.length := by
  induction ps with
  | nil => rfl
  | cons p ps ih =>
    rw [payloadsSize_cons, ih, List.map_cons, List.sum_cons, List.length_cons]
    omega

/-! ### Fields -/

namespace Field

variable {α β : Type} {number : Nat} {name : String} {size : α → Nat}

/-- A number holds no payload, so that reading one can only take bytes. -/
theorem grows_varint {get : α → β} {set : α → β → α} {ofWord : Nat → β} {toWord : β → Nat}
    (hset : ∀ a v, size (set a v) = size a) :
    (varint number name get set ofWord toWord).Grows 1 size := by
  intro depth wireType a bs b rest h
  simp only [varint, except_bind_eq_ok_iff] at h
  obtain ⟨_, -, ⟨n, after⟩, hread, h⟩ := h
  cases h
  obtain ⟨k, -, hlength, -⟩ := readVarint_eq_ok (except_mapError_eq_ok_iff.mp hread)
  rw [hset]
  dsimp only
  omega

/-- What a string or a run of bytes is read from is no less than what it is written as. -/
theorem length_writeDelimited_le {bs value rest : Bytes} (h : readDelimited bs = .ok (value, rest)) :
    (writeDelimited value).length + rest.length ≤ bs.length := by
  obtain ⟨k, hpos, hlength, hvalue⟩ := readDelimited_eq_ok h
  have := length_writeVarint_le hpos hvalue
  rw [writeDelimited, List.length_append]
  omega

/-- A string that is part of a payload replaces the one that was there, and takes what it is written as. -/
theorem grows_string {get : α → String} {set : α → String → α}
    (hset : ∀ a s, size (set a s) ≤ size a + (writeDelimited (utf8 s)).length + 1) :
    (string number name get set).Grows 1 size := by
  intro depth wireType a bs b rest h
  simp only [string, except_bind_eq_ok_iff] at h
  obtain ⟨⟨s, after⟩, hread, h⟩ := h
  cases h
  have hlength := length_writeDelimited_le (readString_eq_ok hread)
  have := hset a s
  dsimp only
  omega

/-- The same for the value of a payload. -/
theorem grows_bytes {get : α → Bytes} {set : α → Bytes → α}
    (hset : ∀ a v, size (set a v) ≤ size a + (writeDelimited v).length + 1) :
    (bytes number name get set).Grows 1 size := by
  intro depth wireType a bs b rest h
  simp only [bytes, except_bind_eq_ok_iff] at h
  obtain ⟨_, -, ⟨value, after⟩, hread, h⟩ := h
  cases h
  have hlength := length_writeDelimited_le (except_mapError_eq_ok_iff.mp hread)
  have := hset a value
  dsimp only
  omega

/-- A path holds no payload. -/
theorem grows_strings {get : α → List String} {set : α → List String → α}
    (hset : ∀ a ss, size (set a ss) = size a) :
    (strings number name get set).Grows 1 size := by
  intro depth wireType a bs b rest h
  simp only [strings, except_bind_eq_ok_iff] at h
  obtain ⟨⟨s, after⟩, hread, h⟩ := h
  cases h
  have hlength := length_writeDelimited_le (readString_eq_ok hread)
  rw [hset]
  dsimp only
  omega

/-- A nested message may be read into one that is there already.  Its key adds one at most. -/
theorem grows_message {l : Layout β} {get : α → Option β} {set : α → Option β → α}
    {nestedSize : β → Nat} (hl : l.Grows 1 nestedSize)
    (hset : ∀ a b n, nestedSize b ≤ nestedSize ((get a).getD l.empty) + n →
      size (set a (some b)) ≤ size a + n + 1) :
    (message number name l get set).Grows 1 size := by
  intro depth wireType a bs b rest h
  simp only [message, except_bind_eq_ok_iff] at h
  obtain ⟨_, -, ⟨c, after⟩, hread, h⟩ := h
  cases h
  obtain ⟨n, k, hk, hlength, -, hsize⟩ := Layout.mergeNested_eq_ok hl hread
  -- The length in front of the message took at least one byte, which pays for the key.
  have := hset a c n (by omega)
  dsimp only
  omega

/-- Each further message is read into an empty one. -/
theorem grows_messages {l : Layout β} {get : α → List β} {set : α → List β → α}
    {nestedSize : β → Nat} (hl : l.Grows 1 nestedSize) (hempty : nestedSize l.empty = 0)
    (hset : ∀ a b, size (set a (get a ++ [b])) ≤ size a + nestedSize b + 1) :
    (messages number name l get set).Grows 1 size := by
  intro depth wireType a bs b rest h
  simp only [messages, except_bind_eq_ok_iff] at h
  obtain ⟨_, -, ⟨c, after⟩, hread, h⟩ := h
  cases h
  obtain ⟨n, k, hk, hlength, -, hsize⟩ := Layout.mergeNested_eq_ok hl hread
  have := hset a c
  dsimp only
  omega

/-- The header holds no payload. -/
theorem grows_headerFields {get : α → Header} {set : α → Header → α}
    (hset : ∀ a h, size (set a h) = size a) : ∀ f ∈ headerFields get set, f.Grows 1 size := by
  simp only [headerFields, List.forall_mem_cons]
  exact ⟨grows_varint fun a _ => hset a _, grows_varint fun a _ => hset a _,
    grows_varint fun a _ => hset a _, List.forall_mem_nil _⟩

end Field

/-! ### Messages -/

/-- A message is no greater than the bytes it is read from. -/
theorem Layout.Grows.size_le {l : Layout α} {size : α → Nat} (hl : l.Grows 1 size)
    (hempty : size l.empty = 0) {bs : Bytes} {a : α} (h : l.decode bs = .ok a) :
    size a ≤ bs.length := by
  obtain ⟨⟨a, rest⟩, hread, rfl⟩ := except_map_eq_ok_iff.mp h
  have := hl _ _ _ _ _ _ _ hread
  dsimp only
  omega

/-- Step for messages with a header, which holds no payloads. -/
theorem Layout.grows_of_headed {l : Layout α} {size : α → Nat} {get : α → Header}
    {set : α → Header → α} {fields : List (Field α)} (hl : l.fields = headerFields get set ++ fields)
    (hset : ∀ a h, size (set a h) = size a) (hfields : ∀ f ∈ fields, f.Grows 1 size) :
    l.Grows 1 size := by
  refine grows_of_fields fun f hf => ?_
  rw [hl, List.mem_append] at hf
  exact hf.elim (Field.grows_headerFields hset f) (hfields f)

/-- A payload is read field by field, and its fields replace each other. -/
theorem grows_payloadLayout : payloadLayout.Grows 1 Payload.size := by
  refine Layout.grows_of_fields ?_
  simp only [payloadLayout, List.forall_mem_cons]
  refine ⟨Field.grows_string fun a s => ?_, Field.grows_bytes fun a v => ?_, List.forall_mem_nil _⟩
  · have := partSize_le (utf8 s)
    rw [Payload.size_eq, Payload.size_eq]
    dsimp only
    omega
  · have := partSize_le v
    rw [Payload.size_eq, Payload.size_eq]
    dsimp only
    omega

/-- A variable holds no payload. -/
theorem grows_variableLayout : variableLayout.Grows 1 fun _ => 0 := by
  refine Layout.grows_of_headed rfl (fun _ _ => rfl) ?_
  simp only [List.forall_mem_cons]
  exact ⟨Field.grows_strings fun _ _ => rfl, List.forall_mem_nil _⟩

/-- Each payload of a list or a command is read into an empty one. -/
theorem grows_parentLayout (name field : String) :
    (parentLayout name field).Grows 1 fun m => payloadsSize m.nodes := by
  refine Layout.grows_of_headed rfl (fun _ _ => rfl) ?_
  simp only [List.forall_mem_cons]
  refine ⟨Field.grows_messages grows_payloadLayout rfl fun m p => ?_, List.forall_mem_nil _⟩
  simp only [payloadsSize_append, payloadsSize_cons, payloadsSize_nil]
  omega

/-- The one payload of a chain. -/
theorem grows_chainLayout : chainLayout.Grows 1 fun m => payloadsSize m.node.toList := by
  refine Layout.grows_of_headed rfl (fun _ _ => rfl) ?_
  simp only [List.forall_mem_cons]
  refine ⟨Field.grows_message grows_payloadLayout fun m p n hp => ?_,
    Field.grows_strings fun _ _ => rfl, List.forall_mem_nil _⟩
  have hempty : payloadLayout.empty.size = 0 := rfl
  -- A second occurrence is read into the payload of the first, whose size is counted already.
  cases hnode : m.node with
  | none =>
    rw [hnode, Option.getD_none, hempty] at hp
    simp only [Option.toList_some, Option.toList_none, payloadsSize_cons, payloadsSize_nil]
    omega
  | some q =>
    rw [hnode, Option.getD_some] at hp
    simp only [Option.toList_some, payloadsSize_cons, payloadsSize_nil]
    omega

/-- Payloads of a pipeline are those of its commands. -/
theorem grows_pipeLayout : pipeLayout.Grows 1 fun m => payloadsSize m.payloads := by
  refine Layout.grows_of_headed rfl (fun _ _ => rfl) ?_
  simp only [List.forall_mem_cons]
  refine ⟨Field.grows_messages grows_variableLayout rfl fun m v => ?_,
    Field.grows_messages (grows_parentLayout _ _) rfl fun m c => ?_, List.forall_mem_nil _⟩
  · exact Nat.le_add_right _ _
  · simp only [PipeNode.payloads, List.flatMap_append, List.flatMap_singleton, payloadsSize_append]
    omega

/-- Reading into a message that may be missing adds to its payloads only. -/
theorem payloadsSize_getD_le {payloads : β → List Payload} {l : Layout β} {m : Option β} {b : β}
    {n : Nat} (hempty : payloads l.empty = [])
    (h : payloadsSize (payloads b) ≤ payloadsSize (payloads (m.getD l.empty)) + n) :
    payloadsSize (payloads b) ≤ payloadsSize ((m.map payloads).getD []) + n := by
  cases m with
  | none =>
    rw [Option.getD_none, hempty] at h
    exact h
  | some a => exact h

/-- Payloads of an action are those of its pipeline. -/
theorem grows_actionLayout :
    actionLayout.Grows 1 fun m => payloadsSize ((m.pipe.map PipeNode.payloads).getD []) := by
  refine Layout.grows_of_headed rfl (fun _ _ => rfl) ?_
  simp only [List.forall_mem_cons]
  refine ⟨Field.grows_message grows_pipeLayout fun m p n hp => ?_, List.forall_mem_nil _⟩
  exact Nat.le_succ_of_le (payloadsSize_getD_le rfl hp)

/-- Payloads of a call are those of its pipeline; the name of the template is none. -/
theorem grows_templateLayout :
    templateLayout.Grows 1 fun m => payloadsSize ((m.pipe.map PipeNode.payloads).getD []) := by
  refine Layout.grows_of_headed rfl (fun _ _ => rfl) ?_
  simp only [List.forall_mem_cons]
  refine ⟨Field.grows_string fun m s => ?_, Field.grows_message grows_pipeLayout fun m p n hp => ?_,
    List.forall_mem_nil _⟩
  · -- The name takes bytes and adds nothing.
    exact Nat.le_add_right_of_le (Nat.le_add_right _ _)
  · exact Nat.le_succ_of_le (payloadsSize_getD_le rfl hp)

/-- Payloads of a branch are those of its pipeline and of its two lists. -/
theorem BranchNode.payloadsSize_eq (m : BranchNode) :
    payloadsSize m.payloads = payloadsSize ((m.pipe.map PipeNode.payloads).getD [])
      + payloadsSize ((m.list.map ParentNode.nodes).getD [])
      + payloadsSize ((m.elseList.map ParentNode.nodes).getD []) := by
  rw [BranchNode.payloads, payloadsSize_append, payloadsSize_append]

/-- Reading one of the three parts adds to that part only. -/
theorem grows_branchLayout : branchLayout.Grows 1 fun m => payloadsSize m.payloads := by
  refine Layout.grows_of_fields ?_
  simp only [branchLayout, List.forall_mem_cons]
  refine ⟨Field.grows_varint fun _ _ => rfl, Field.grows_varint fun _ _ => rfl,
    Field.grows_message grows_pipeLayout fun m p n hp => ?_,
    Field.grows_message (grows_parentLayout _ _) fun m p n hp => ?_,
    Field.grows_message (grows_parentLayout _ _) fun m p n hp => ?_, List.forall_mem_nil _⟩
  all_goals
    have := payloadsSize_getD_le rfl hp
    simp only [BranchNode.payloadsSize_eq, Option.map_some, Option.getD_some]
    omega

/-- Payloads of a conditional or a loop are those of its branch. -/
theorem grows_branchingLayout (name : String) :
    (branchingLayout name).Grows 1
      fun m => payloadsSize ((m.branch.map BranchNode.payloads).getD []) := by
  refine Layout.grows_of_headed rfl (fun _ _ => rfl) ?_
  simp only [List.forall_mem_cons]
  refine ⟨Field.grows_message grows_branchLayout fun m p n hp => ?_, List.forall_mem_nil _⟩
  exact Nat.le_succ_of_le (payloadsSize_getD_le rfl hp)

end ChartTrace.Wire
