import ChartTrace.Proofs.WireGrowth
import ChartTrace.Proofs.WireMessages
import Mathlib.Data.List.Nodup
import Mathlib.Data.List.Perm.Basic

namespace ChartTrace.Wire

/-!
# Canonical bytes

Writing a message again that was read from any bytes makes its canonical bytes.  They can be more
than the bytes that were read, since a negative kind of node takes ten, but at most twice as many.
So their lengths are words again, and they are read back like the bytes of any other message:

* `Field.AtMostDoubles`, `Field.atMostDoubles_varint`, `Field.atMostDoubles_string`, …: for each kind
  of field, what reading an occurrence adds to the bytes of the field;
* `Layout.AtMostDoubles`, `Layout.DoublesFrom`: the same for whole messages, field by field, with one
  theorem for each layout;
* `isLossless_of_mem_messageTypes`, `decode_encode_messageTypes`: messages of all types, and bytes
  that are messages of any type.
-/

/-! ### The bytes of one field -/

/-- An occurrence of the field changes no more of the message than `set` does, and adds to the bytes
    of the field at most two for each byte that is read, the one of the key included. -/
def Field.AtMostDoubles (f : Field α) (set : α → β → α) : Prop :=
  ∀ depth wireType a bs b rest, f.merge depth wireType a bs = .ok (b, rest) →
    (∃ v, b = set a v)
    ∧ (f.encode b).length + 2 * rest.length ≤ (f.encode a).length + 2 * (bs.length + 1)

/-- Up to field number 15 the key is one byte: the number is shifted by three bits, and 127 is the last
    that fits. -/
theorem length_writeKey {number : Nat} (wireType : WireType) (hnumber : number < 16) :
    (writeKey number wireType).length = 1 := by
  have hcode : wireType.code < 8 := by cases wireType <;> decide
  rw [writeKey, writeVarint, if_pos (by omega)]
  rfl

/-- One occurrence of a delimited field: its key, its length and its value. -/
theorem length_occurrence {number : Nat} (hnumber : number < 16) (wireType : WireType)
    (value : Bytes) :
    (writeKey number wireType ++ writeDelimited value).length
      = 1 + ((writeVarint value.length).length + value.length) := by
  rw [List.length_append, length_writeKey wireType hnumber, writeDelimited, List.length_append]

namespace Field

variable {number : Nat} {name : String} (hnumber : number < 16)
include hnumber

/-- Up to four bytes a number is written again in no more bytes than it had; from five bytes on, ten
    are no more than twice as many. -/
theorem atMostDoubles_varint {get : α → β} {set : α → β → α} {ofWord : Nat → β} {toWord : β → Nat}
    (hget : ∀ a v, get (set a v) = v) (hword : ∀ v, toWord v < wordLimit)
    (hsmall : ∀ n, n < 128 ^ 4 → toWord (ofWord n) ≤ n) :
    (varint number name get set ofWord toWord).AtMostDoubles set := by
  intro depth wireType a bs b rest h
  simp only [varint, except_bind_eq_ok_iff] at h
  obtain ⟨_, -, ⟨n, after⟩, hread, h⟩ := h
  cases h
  refine ⟨⟨ofWord n, rfl⟩, ?_⟩
  obtain ⟨size, hpos, hlength, hn⟩ := readVarint_eq_ok (except_mapError_eq_ok_iff.mp hread)
  -- The number may be written longer than it has to be, and negative ones always take ten bytes.
  have hvalue : (writeVarint (toWord (ofWord n))).length ≤ 2 * size := by
    by_cases hsize : size ≤ 4
    · have hlt : n < 128 ^ 4 := Nat.lt_of_lt_of_le hn (Nat.pow_le_pow_right (by decide) hsize)
      have := length_writeVarint_le hpos (Nat.lt_of_le_of_lt (hsmall n hlt) hn)
      omega
    · have := length_writeVarint_le_ten (hword (ofWord n))
      omega
  -- Zero is not written at all.
  have hwritten : ((varint number name get set ofWord toWord).encode (set a (ofWord n))).length
      ≤ 1 + (writeVarint (toWord (ofWord n))).length := by
    simp only [varint, hget]
    split
    · exact Nat.zero_le _
    · rw [List.length_append, length_writeKey .varint hnumber]
  dsimp only
  omega

/-- A number of 64 bits is cut to them, which makes no number longer. -/
theorem atMostDoubles_int64 {get : α → Int64} {set : α → Int64 → α}
    (hget : ∀ a v, get (set a v) = v) : (int64 number name get set).AtMostDoubles set := by
  refine atMostDoubles_varint hnumber hget (fun i => i.toUInt64.toNat_lt) (fun n _ => ?_)
  simpa using Nat.mod_le n _

/-- The same without a sign. -/
theorem atMostDoubles_uint64 {get : α → UInt64} {set : α → UInt64 → α}
    (hget : ∀ a v, get (set a v) = v) : (uint64 number name get set).AtMostDoubles set := by
  refine atMostDoubles_varint hnumber hget (fun i => i.toNat_lt) (fun n _ => ?_)
  simpa using Nat.mod_le n _

/-- True is written as one, which is no more than the number that was read for it. -/
theorem atMostDoubles_bool {get : α → Bool} {set : α → Bool → α}
    (hget : ∀ a v, get (set a v) = v) : (bool number name get set).AtMostDoubles set := by
  refine atMostDoubles_varint hnumber hget (by decide) (fun n _ => ?_)
  cases n with
  | zero => exact Nat.le_refl _
  | succ n => exact Nat.succ_le_succ (Nat.zero_le n)

/-- A kind has 32 bits and is written with 64.  Only a negative one grows by that, and it was read from
    five bytes at least. -/
theorem atMostDoubles_enum {get : α → Int32} {set : α → Int32 → α}
    (hget : ∀ a v, get (set a v) = v) : (enum number name get set).AtMostDoubles set := by
  refine atMostDoubles_varint hnumber hget (fun i => i.toInt64.toUInt64.toNat_lt) (fun n hn => ?_)
  have hlt : n < 2 ^ 31 := Nat.lt_trans hn (by decide)
  -- The sign bit is clear, so that extending the number to 64 bits adds zeros.
  have hmsb : (BitVec.ofNat 32 n).msb = false := by
    rw [BitVec.msb_eq_false_iff_two_mul_lt, BitVec.toNat_ofNat]
    omega
  show ((BitVec.ofNat 32 n).signExtend 64).toNat ≤ n
  rw [BitVec.signExtend_eq_setWidth_of_msb_false hmsb, BitVec.toNat_setWidth, BitVec.toNat_ofNat]
  omega

/-- What a string or a run of bytes takes when it is written again. -/
theorem length_occurrence_of_readDelimited {bs value rest : Bytes}
    (h : readDelimited bs = .ok (value, rest)) :
    (writeKey number .delimited ++ writeDelimited value).length + 2 * rest.length
      ≤ 2 * (bs.length + 1) := by
  obtain ⟨size, hpos, hlength, hvalue⟩ := readDelimited_eq_ok h
  have := length_writeVarint_le hpos hvalue
  rw [length_occurrence hnumber]
  omega

omit hnumber in
/-- A string that was read is the text of the bytes behind its length. -/
theorem readString_eq_ok {wireType : WireType} {bs rest : Bytes} {s : String}
    (h : readString wireType bs = .ok (s, rest)) : readDelimited bs = .ok (utf8 s, rest) := by
  simp only [readString, except_bind_eq_ok_iff] at h
  obtain ⟨_, -, ⟨value, after⟩, hread, h⟩ := h
  dsimp only at h
  split at h
  · next s' hs =>
    cases h
    rw [utf8_of_readUtf8? hs]
    exact except_mapError_eq_ok_iff.mp hread
  · cases h

/-- The last string counts, so that earlier occurrences are not written again. -/
theorem atMostDoubles_string {get : α → String} {set : α → String → α}
    (hget : ∀ a v, get (set a v) = v) : (string number name get set).AtMostDoubles set := by
  intro depth wireType a bs b rest h
  simp only [string, except_bind_eq_ok_iff] at h
  obtain ⟨⟨s, after⟩, hread, h⟩ := h
  cases h
  refine ⟨⟨s, rfl⟩, ?_⟩
  have hwritten := length_occurrence_of_readDelimited hnumber (readString_eq_ok hread)
  simp only [string, hget]
  split
  · rw [List.length_nil]
    omega
  · omega

/-- The same for bytes. -/
theorem atMostDoubles_bytes {get : α → Bytes} {set : α → Bytes → α}
    (hget : ∀ a v, get (set a v) = v) : (bytes number name get set).AtMostDoubles set := by
  intro depth wireType a bs b rest h
  simp only [bytes, except_bind_eq_ok_iff] at h
  obtain ⟨_, -, ⟨value, after⟩, hread, h⟩ := h
  cases h
  refine ⟨⟨value, rfl⟩, ?_⟩
  have hwritten := length_occurrence_of_readDelimited hnumber (except_mapError_eq_ok_iff.mp hread)
  simp only [bytes, hget]
  split
  · rw [List.length_nil]
    omega
  · omega

/-- Each string is kept and written again. -/
theorem atMostDoubles_strings {get : α → List String} {set : α → List String → α}
    (hget : ∀ a v, get (set a v) = v) : (strings number name get set).AtMostDoubles set := by
  intro depth wireType a bs b rest h
  simp only [strings, except_bind_eq_ok_iff] at h
  obtain ⟨⟨s, after⟩, hread, h⟩ := h
  cases h
  refine ⟨⟨_, rfl⟩, ?_⟩
  have hwritten := length_occurrence_of_readDelimited hnumber (readString_eq_ok hread)
  simp only [strings, hget, List.flatMap_append, List.flatMap_singleton, List.length_append]
    at hwritten ⊢
  omega

end Field

/-! ### The bytes of a message -/

namespace Layout

variable {l : Layout α}

/-- Writing a message that was read takes at most two bytes for each that was read. -/
structure AtMostDoubles (l : Layout α) : Prop where
  encode_empty : l.encode l.empty = []
  grows : l.Grows 2 fun a => (l.encode a).length

/-- From index `i` on, what fields add to a message is at most two bytes for each that is read. -/
def DoublesFrom (l : Layout α) (i : Nat) : Prop :=
  ∀ f ∈ l.fields.drop i, f.Grows 2 fun a => (l.encode a).length

/-- Behind the last field there is nothing to show. -/
theorem DoublesFrom.nil {i : Nat} (h : l.fields.drop i = []) : l.DoublesFrom i := by
  rw [DoublesFrom, h]
  exact List.forall_mem_nil _

/-- The bytes of a message are those of one field and those of all others. -/
theorem length_encode_of_getElem? {i : Nat} {f : Field α} (h : l.fields[i]? = some f) (a : α) :
    (l.encode a).length
      = (f.encode a).length + ((l.fields.eraseIdx i).flatMap fun g => g.encode a).length := by
  obtain ⟨hi, rfl⟩ := List.getElem?_eq_some_iff.mp h
  have hperm := (List.getElem_cons_eraseIdx_perm hi).flatMap_right fun g => g.encode a
  rw [encode, ← hperm.length_eq, List.flatMap_cons, List.length_append]

/-- What a field adds to its own bytes, it adds to those of the message, since the other fields are
    written as before. -/
theorem DoublesFrom.cons {i : Nat} {f : Field α} {set : α → β → α}
    (hfield : l.fields[i]? = some f) (hf : f.AtMostDoubles set)
    (hothers : ∀ a v, ((l.fields.eraseIdx i).flatMap fun g => g.encode (set a v))
      = (l.fields.eraseIdx i).flatMap fun g => g.encode a)
    (hrest : l.DoublesFrom (i + 1)) : l.DoublesFrom i := by
  -- The message is measured by that field and the rest, and the rest does not change.
  have hgrows : f.Grows 2 fun a => (l.encode a).length := by
    intro depth wireType a bs b rest hmerge
    obtain ⟨⟨v, rfl⟩, hadded⟩ := hf _ _ _ _ _ _ hmerge
    dsimp only
    rw [length_encode_of_getElem? hfield, length_encode_of_getElem? hfield, hothers]
    omega
  obtain ⟨hi, rfl⟩ := List.getElem?_eq_some_iff.mp hfield
  rw [DoublesFrom, List.drop_eq_getElem_cons hi, List.forall_mem_cons]
  exact ⟨hgrows, hrest⟩

/-- A layout by its fields: one step of reading is one field, and all of reading is steps. -/
theorem AtMostDoubles.of_fields (hempty : l.encode l.empty = []) (hfields : l.DoublesFrom 0) :
    l.AtMostDoubles :=
  ⟨hempty, grows_of_fields hfields⟩

/-- The three fields of the header, and those after them. -/
theorem AtMostDoubles.header {get : α → Header} {set : α → Header → α} {fs : List (Field α)}
    (hl : l.fields = headerFields get set ++ fs) (hempty : l.encode l.empty = [])
    (hget : ∀ a h, get (set a h) = h)
    (hothers : ∀ a h, (fs.flatMap fun f => f.encode (set a h)) = fs.flatMap fun f => f.encode a)
    (hrest : l.DoublesFrom 3) : l.AtMostDoubles := by
  apply AtMostDoubles.of_fields hempty
  -- A part of the header is set by setting a header whose other parts are as they were.
  refine .cons (by rw [hl]; rfl) (Field.atMostDoubles_enum (by decide) ?_) ?_ ?_
  · exact fun a v => congrArg Header.nodeType (hget a { get a with nodeType := v })
  · intro a v
    simp [hl, headerFields, Field.int64, Field.varint, hget, hothers]
  refine .cons (by rw [hl]; rfl) (Field.atMostDoubles_int64 (by decide) ?_) ?_ ?_
  · exact fun a v => congrArg Header.position (hget a { get a with position := v })
  · intro a v
    simp [hl, headerFields, Field.int64, Field.enum, Field.varint, hget, hothers]
  refine .cons (by rw [hl]; rfl) (Field.atMostDoubles_int64 (by decide) ?_) ?_ hrest
  · exact fun a v => congrArg Header.length (hget a { get a with length := v })
  · intro a v
    simp [hl, headerFields, Field.int64, Field.enum, Field.varint, hget, hothers]

/-- The bytes of a message that was read are at most twice as many as those it was read from. -/
theorem AtMostDoubles.length_encode_le (h : l.AtMostDoubles) {bs : Bytes} {m : α}
    (hm : l.decode bs = .ok m) : (l.encode m).length ≤ 2 * bs.length := by
  obtain ⟨⟨a, rest⟩, hread, rfl⟩ := except_map_eq_ok_iff.mp hm
  have hadded := h.grows _ _ _ _ _ _ _ hread
  dsimp only at hadded ⊢
  rw [h.encode_empty, List.length_nil] at hadded
  omega

end Layout

/-! ### Messages within messages -/

namespace Field

variable {number : Nat} {name : String} (hnumber : number < 16)
include hnumber

/-- A further message of `n` bytes behind its length, which took `k` bytes. -/
theorem length_occurrence_le {n k : Nat} {value : Bytes} (hk : 0 < k) (hn : n < 128 ^ k)
    (hvalue : value.length ≤ 2 * n) :
    (writeKey number .delimited ++ writeDelimited value).length ≤ 2 * (k + n + 1) := by
  have hzero : (writeVarint 0).length = 1 := by
    rw [writeVarint]
    rfl
  have hlength : (writeVarint value.length).length ≤ (writeVarint 0).length + k :=
    length_writeVarint_add hk hn (by omega)
  rw [length_occurrence hnumber]
  omega

/-- An occurrence is merged into the message that is there.  The merged message grows by at most twice
    what was read, and its length by no more than the length that was read with it. -/
theorem atMostDoubles_message {l : Layout β} {get : α → Option β} {set : α → Option β → α}
    (hl : l.AtMostDoubles) (hget : ∀ a v, get (set a v) = v) :
    (message number name l get set).AtMostDoubles set := by
  intro depth wireType a bs b rest h
  simp only [message, except_bind_eq_ok_iff] at h
  obtain ⟨_, -, ⟨c, after⟩, hread, h⟩ := h
  cases h
  refine ⟨⟨some c, rfl⟩, ?_⟩
  obtain ⟨n, k, hk, hlength, hn, hsize⟩ := Layout.mergeNested_eq_ok hl.grows hread
  simp only [message, hget]
  cases hold : get a with
  -- There was no message, so that all its bytes are new.
  | none =>
    rw [hold, Option.getD_none, hl.encode_empty, List.length_nil, Nat.zero_add] at hsize
    have hwritten := length_occurrence_le hnumber hk hn hsize
    rw [List.length_nil]
    omega
  | some old =>
    -- The message was there already and has grown, and so has its length.
    rw [hold, Option.getD_some] at hsize
    have hgrown := length_writeVarint_add hk hn hsize
    rw [length_occurrence hnumber, length_occurrence hnumber]
    omega

/-- Each occurrence is a message of its own. -/
theorem atMostDoubles_messages {l : Layout β} {get : α → List β} {set : α → List β → α}
    (hl : l.AtMostDoubles) (hget : ∀ a v, get (set a v) = v) :
    (messages number name l get set).AtMostDoubles set := by
  intro depth wireType a bs b rest h
  simp only [messages, except_bind_eq_ok_iff] at h
  obtain ⟨_, -, ⟨c, after⟩, hread, h⟩ := h
  cases h
  refine ⟨⟨_, rfl⟩, ?_⟩
  obtain ⟨n, k, hk, hlength, hn, hsize⟩ := Layout.mergeNested_eq_ok hl.grows hread
  rw [hl.encode_empty, List.length_nil, Nat.zero_add] at hsize
  have hwritten := length_occurrence_le hnumber hk hn hsize
  simp only [messages, hget, List.flatMap_append, List.flatMap_singleton, List.length_append]
    at hwritten ⊢
  omega

end Field

/-! ### One layout after the other -/

open Layout

/-- The name of a type, and bytes. -/
theorem atMostDoubles_payloadLayout : payloadLayout.AtMostDoubles := by
  refine .of_fields rfl ?_
  refine .cons rfl (Field.atMostDoubles_string (by decide) fun _ _ => rfl) (fun _ _ => rfl) ?_
  refine .cons rfl (Field.atMostDoubles_bytes (by decide) fun _ _ => rfl) (fun _ _ => rfl) ?_
  exact .nil rfl

/-- A node that has its header only. -/
theorem atMostDoubles_plainLayout (name : String) : (plainLayout name).AtMostDoubles := by
  have hfields : (plainLayout name).fields = headerFields id (fun _ h => h) ++ [] :=
    (List.append_nil _).symm
  exact .header hfields rfl (fun _ _ => rfl) (fun _ _ => rfl) (.nil rfl)

/-- A node with a text. -/
theorem atMostDoubles_textualLayout (name field : String) :
    (textualLayout name field).AtMostDoubles := by
  refine .header rfl rfl (fun _ _ => rfl) (fun _ _ => rfl) ?_
  refine .cons rfl (Field.atMostDoubles_string (by decide) fun _ _ => rfl) (fun _ _ => rfl) ?_
  exact .nil rfl

/-- A node with a path. -/
theorem atMostDoubles_pathLayout (name : String) : (pathLayout name).AtMostDoubles := by
  refine .header rfl rfl (fun _ _ => rfl) (fun _ _ => rfl) ?_
  refine .cons rfl (Field.atMostDoubles_strings (by decide) fun _ _ => rfl) (fun _ _ => rfl) ?_
  exact .nil rfl

/-- A node with literal text, which need not be UTF-8. -/
theorem atMostDoubles_literalLayout : literalLayout.AtMostDoubles := by
  refine .header rfl rfl (fun _ _ => rfl) (fun _ _ => rfl) ?_
  refine .cons rfl (Field.atMostDoubles_bytes (by decide) fun _ _ => rfl) (fun _ _ => rfl) ?_
  exact .nil rfl

/-- A node with a truth value. -/
theorem atMostDoubles_boolLayout : boolLayout.AtMostDoubles := by
  refine .header rfl rfl (fun _ _ => rfl) (fun _ _ => rfl) ?_
  refine .cons rfl (Field.atMostDoubles_bool (by decide) fun _ _ => rfl) (fun _ _ => rfl) ?_
  exact .nil rfl

/-- A string as it is written and as it reads. -/
theorem atMostDoubles_stringLayout : stringLayout.AtMostDoubles := by
  refine .header rfl rfl (fun _ _ => rfl) (fun _ _ => rfl) ?_
  refine .cons rfl (Field.atMostDoubles_string (by decide) fun _ _ => rfl) (fun _ _ => rfl) ?_
  refine .cons rfl (Field.atMostDoubles_string (by decide) fun _ _ => rfl) (fun _ _ => rfl) ?_
  exact .nil rfl

/-- A payload and the path behind it. -/
theorem atMostDoubles_chainLayout : chainLayout.AtMostDoubles := by
  refine .header rfl rfl (fun _ _ => rfl) (fun _ _ => rfl) ?_
  refine .cons rfl (Field.atMostDoubles_message (by decide) atMostDoubles_payloadLayout fun _ _ => rfl)
    (fun _ _ => rfl) ?_
  refine .cons rfl (Field.atMostDoubles_strings (by decide) fun _ _ => rfl) (fun _ _ => rfl) ?_
  exact .nil rfl

/-- Any number of payloads. -/
theorem atMostDoubles_parentLayout (name field : String) :
    (parentLayout name field).AtMostDoubles := by
  refine .header rfl rfl (fun _ _ => rfl) (fun _ _ => rfl) ?_
  refine .cons rfl (Field.atMostDoubles_messages (by decide) atMostDoubles_payloadLayout fun _ _ => rfl)
    (fun _ _ => rfl) ?_
  exact .nil rfl

/-- Declarations and commands. -/
theorem atMostDoubles_pipeLayout : pipeLayout.AtMostDoubles := by
  refine .header rfl rfl (fun _ _ => rfl) (fun _ _ => rfl) ?_
  refine .cons rfl (Field.atMostDoubles_messages (by decide) (atMostDoubles_pathLayout _) fun _ _ => rfl)
    (fun _ _ => rfl) ?_
  refine .cons rfl (Field.atMostDoubles_messages (by decide) (atMostDoubles_parentLayout _ _) fun _ _ => rfl)
    (fun _ _ => rfl) ?_
  exact .nil rfl

/-- A pipeline. -/
theorem atMostDoubles_actionLayout : actionLayout.AtMostDoubles := by
  refine .header rfl rfl (fun _ _ => rfl) (fun _ _ => rfl) ?_
  refine .cons rfl (Field.atMostDoubles_message (by decide) atMostDoubles_pipeLayout fun _ _ => rfl)
    (fun _ _ => rfl) ?_
  exact .nil rfl

/-- The name of a template, and a pipeline. -/
theorem atMostDoubles_templateLayout : templateLayout.AtMostDoubles := by
  refine .header rfl rfl (fun _ _ => rfl) (fun _ _ => rfl) ?_
  refine .cons rfl (Field.atMostDoubles_string (by decide) fun _ _ => rfl) (fun _ _ => rfl) ?_
  refine .cons rfl (Field.atMostDoubles_message (by decide) atMostDoubles_pipeLayout fun _ _ => rfl)
    (fun _ _ => rfl) ?_
  exact .nil rfl

/-- A branch has no kind of its own, and so no header: a place, a length, a pipeline and two lists. -/
theorem atMostDoubles_branchLayout : branchLayout.AtMostDoubles := by
  refine .of_fields rfl ?_
  refine .cons rfl (Field.atMostDoubles_int64 (by decide) fun _ _ => rfl) (fun _ _ => rfl) ?_
  refine .cons rfl (Field.atMostDoubles_int64 (by decide) fun _ _ => rfl) (fun _ _ => rfl) ?_
  refine .cons rfl (Field.atMostDoubles_message (by decide) atMostDoubles_pipeLayout fun _ _ => rfl)
    (fun _ _ => rfl) ?_
  refine .cons rfl (Field.atMostDoubles_message (by decide) (atMostDoubles_parentLayout _ _) fun _ _ => rfl)
    (fun _ _ => rfl) ?_
  refine .cons rfl (Field.atMostDoubles_message (by decide) (atMostDoubles_parentLayout _ _) fun _ _ => rfl)
    (fun _ _ => rfl) ?_
  exact .nil rfl

/-- A node with a branch. -/
theorem atMostDoubles_branchingLayout (name : String) : (branchingLayout name).AtMostDoubles := by
  refine .header rfl rfl (fun _ _ => rfl) (fun _ _ => rfl) ?_
  refine .cons rfl (Field.atMostDoubles_message (by decide) atMostDoubles_branchLayout fun _ _ => rfl)
    (fun _ _ => rfl) ?_
  exact .nil rfl

/-- A tree: two names, a mode and its root. -/
theorem atMostDoubles_treeLayout : treeLayout.AtMostDoubles := by
  refine .of_fields rfl ?_
  refine .cons rfl (Field.atMostDoubles_string (by decide) fun _ _ => rfl) (fun _ _ => rfl) ?_
  refine .cons rfl (Field.atMostDoubles_string (by decide) fun _ _ => rfl) (fun _ _ => rfl) ?_
  refine .cons rfl (Field.atMostDoubles_uint64 (by decide) fun _ _ => rfl) (fun _ _ => rfl) ?_
  refine .cons rfl (Field.atMostDoubles_message (by decide) (atMostDoubles_parentLayout _ _) fun _ _ => rfl)
    (fun _ _ => rfl) ?_
  exact .nil rfl

/-- A response: the text, its tree and an error. -/
theorem atMostDoubles_responseLayout : responseLayout.AtMostDoubles := by
  refine .of_fields rfl ?_
  refine .cons rfl (Field.atMostDoubles_string (by decide) fun _ _ => rfl) (fun _ _ => rfl) ?_
  refine .cons rfl (Field.atMostDoubles_message (by decide) atMostDoubles_treeLayout fun _ _ => rfl)
    (fun _ _ => rfl) ?_
  refine .cons rfl (Field.atMostDoubles_string (by decide) fun _ _ => rfl) (fun _ _ => rfl) ?_
  exact .nil rfl

/-! ### All message types -/

/-- Messages of the layout are read back from their bytes, and so are those that were read from any
    bytes. -/
structure Layout.IsLossless (l : Layout α) : Prop where
  roundTrips : ∃ height ≤ depthLimit, l.RoundTrips height
  atMostDoubles : l.AtMostDoubles

namespace Layout.IsLossless

variable {l : Layout α}

/-- Any message, with the height that its own layout needs. -/
theorem decode_encode (h : l.IsLossless) {m : α} (hm : (l.encode m).length < wordLimit) :
    l.decode (l.encode m) = .ok m := by
  obtain ⟨height, hheight, hl⟩ := h.roundTrips
  exact hl.decode_encode hheight hm

/-- A message that was read: the bound on its bytes comes from those that were read. -/
theorem decode_encode_of_decode (h : l.IsLossless) {bs : Bytes} {m : α}
    (hbs : 2 * bs.length < wordLimit) (hm : l.decode bs = .ok m) :
    l.decode (l.encode m) = .ok m :=
  h.decode_encode (Nat.lt_of_le_of_lt (h.atMostDoubles.length_encode_le hm) hbs)

end Layout.IsLossless

/-- All message types, with the height of each layout: how deep messages stand in messages of that type. -/
theorem isLossless_of_mem_messageTypes {t : MessageType} (ht : t ∈ messageTypes) :
    t.layout.IsLossless := by
  -- Layouts that several types share, whatever their names are.
  have hplain (name) : (plainLayout name).IsLossless :=
    ⟨⟨0, by decide, roundTrips_plainLayout name⟩, atMostDoubles_plainLayout name⟩
  have htextual (name field) : (textualLayout name field).IsLossless :=
    ⟨⟨0, by decide, roundTrips_textualLayout name field⟩, atMostDoubles_textualLayout name field⟩
  have hpath (name) : (pathLayout name).IsLossless :=
    ⟨⟨0, by decide, roundTrips_pathLayout name⟩, atMostDoubles_pathLayout name⟩
  have hparent (name field) : (parentLayout name field).IsLossless :=
    ⟨⟨1, by decide, roundTrips_parentLayout name field⟩, atMostDoubles_parentLayout name field⟩
  have hbranching (name) : (branchingLayout name).IsLossless :=
    ⟨⟨4, by decide, roundTrips_branchingLayout name⟩, atMostDoubles_branchingLayout name⟩
  revert t
  simp only [messageTypes, List.forall_mem_cons, List.not_mem_nil, false_implies, implies_true,
    and_true]
  -- In the order of the table.
  exact ⟨⟨⟨3, by decide, roundTrips_responseLayout⟩, atMostDoubles_responseLayout⟩,
    ⟨⟨2, by decide, roundTrips_treeLayout⟩, atMostDoubles_treeLayout⟩,
    hplain _,
    ⟨⟨3, by decide, roundTrips_actionLayout⟩, atMostDoubles_actionLayout⟩,
    ⟨⟨0, by decide, roundTrips_boolLayout⟩, atMostDoubles_boolLayout⟩,
    ⟨⟨3, by decide, roundTrips_branchLayout⟩, atMostDoubles_branchLayout⟩,
    hplain _,
    ⟨⟨1, by decide, roundTrips_chainLayout⟩, atMostDoubles_chainLayout⟩,
    hparent _ _, htextual _ _, hplain _, hplain _, hpath _, htextual _ _, hbranching _, hparent _ _,
    hplain _, htextual _ _,
    ⟨⟨2, by decide, roundTrips_pipeLayout⟩, atMostDoubles_pipeLayout⟩,
    hbranching _,
    ⟨⟨0, by decide, roundTrips_stringLayout⟩, atMostDoubles_stringLayout⟩,
    ⟨⟨3, by decide, roundTrips_templateLayout⟩, atMostDoubles_templateLayout⟩,
    ⟨⟨0, by decide, roundTrips_literalLayout⟩, atMostDoubles_literalLayout⟩,
    hpath _, hbranching _⟩

/-- No two message types have one name, so that each is found by its own. -/
theorem canonicalBytes?_of_mem_messageTypes {t : MessageType} (ht : t ∈ messageTypes) :
    canonicalBytes? t.name = some t.layout.canonical := by
  have hnames : (messageTypes.map MessageType.name).Nodup := by decide
  have hfound : (messageTypes.find? fun u => u.name == t.name).isSome :=
    List.find?_isSome.mpr ⟨t, ht, beq_self_eq_true t.name⟩
  obtain ⟨u, hu⟩ := Option.isSome_iff_exists.mp hfound
  have hname := List.find?_some hu
  obtain rfl : u = t :=
    List.inj_on_of_nodup_map hnames (List.mem_of_find?_eq_some hu) ht (beq_iff_eq.mp hname)
  rw [canonicalBytes?, hu, Option.map_some]

/-- **Lossless messages.** A message of any type is read back from its bytes, as long as a length can
    count them.  Any bytes that are a message, if a length can count twice as many, have canonical
    bytes; packed as a payload these are the same message, and their own canonical bytes. -/
theorem decode_encode_messageTypes :
    ∀ t ∈ messageTypes,
      (∀ m, (t.layout.encode m).length < wordLimit → t.layout.decode (t.layout.encode m) = .ok m)
      ∧ ∀ bs m, 2 * bs.length < wordLimit → t.layout.decode bs = .ok m →
          t.layout.decode (Payload.pack t.name (t.layout.encode m)).value = .ok m
          ∧ ∃ canonical, canonicalBytes? t.name = some canonical
            ∧ canonical bs = .ok (t.layout.encode m)
            ∧ canonical (t.layout.encode m) = .ok (t.layout.encode m) := by
  intro t ht
  have hlossless := isLossless_of_mem_messageTypes ht
  refine ⟨fun m hm => hlossless.decode_encode hm, fun bs m hbs hm => ?_⟩
  have hback := hlossless.decode_encode_of_decode hbs hm
  refine ⟨hback, _, canonicalBytes?_of_mem_messageTypes ht, ?_, ?_⟩
  · rw [Layout.canonical, hm]
    rfl
  · rw [Layout.canonical, hback]
    rfl

/-- A conditional that is not written canonically: minus one as the kind of the node in five bytes,
    and two occurrences of the branch around a field that conditionals do not have. -/
def scatteredCondition : Bytes :=
  [0x08, 0xff, 0xff, 0xff, 0xff, 0x0f, 0x22, 0x02, 0x10, 0x05, 0x48, 0x01, 0x22, 0x02, 0x18, 0x07]

/-- What is in it. -/
def gatheredCondition : BranchingNode := ⟨⟨-1, 0, 0⟩, some ⟨5, 7, none, none, none⟩⟩

/-- The conditional is read from its scattered bytes and from its canonical ones. -/
theorem decode_encode_scatteredCondition :
    ⟨BranchingNode, branchingLayout "IfNode"⟩ ∈ messageTypes
    ∧ ((branchingLayout "IfNode").encode gatheredCondition).length < wordLimit
    ∧ (branchingLayout "IfNode").decode ((branchingLayout "IfNode").encode gatheredCondition)
      = .ok gatheredCondition
    ∧ 2 * scatteredCondition.length < wordLimit
    ∧ (branchingLayout "IfNode").decode scatteredCondition = .ok gatheredCondition
    ∧ (branchingLayout "IfNode").decode
        (Payload.pack "IfNode" ((branchingLayout "IfNode").encode gatheredCondition)).value
      = .ok gatheredCondition
    -- The kind takes ten bytes now, so that the canonical bytes are more than those that were read.
    ∧ scatteredCondition.length < ((branchingLayout "IfNode").encode gatheredCondition).length := by
  have htype : ⟨BranchingNode, branchingLayout "IfNode"⟩ ∈ messageTypes := by simp [messageTypes]
  have hsize : ((branchingLayout "IfNode").encode gatheredCondition).length = 17 := by
    decide +kernel
  have hword : ((branchingLayout "IfNode").encode gatheredCondition).length < wordLimit := by
    rw [hsize]
    decide
  have hbytes : 2 * scatteredCondition.length < wordLimit := by decide
  have hread : (branchingLayout "IfNode").decode scatteredCondition = .ok gatheredCondition := rfl
  obtain ⟨hmessage, hback⟩ := decode_encode_messageTypes _ htype
  refine ⟨htype, hword, hmessage _ hword, hbytes, hread, (hback _ _ hbytes hread).1, ?_⟩
  rw [hsize]
  decide

end ChartTrace.Wire
