import ChartTrace.Proofs.Utf8Codec
import ChartTrace.Wire.Message
import Mathlib.Data.List.Basic
import Mathlib.Tactic.Ring

namespace ChartTrace.Wire

/-!
# Reading what was written

A message is read field by field into an empty message.  Here this is followed along the bytes that
writing a message makes:

* `readVarint_writeVarint`, `readKey_writeKey`: numbers and keys are read back;
* `Layout.Reads`: reading some bytes takes a message from one state to another, whatever follows;
  `Layout.Reads.append` puts two stretches together and `Layout.Reads.occurrence` reads one field;
* `Layout.Has.reads_varint`, `Layout.Has.reads_string`, …: for each kind of field, what is written
  of a message is read into one whose part for that field is still empty;
* `Layout.RoundTrips`, `Layout.RoundTrips.decode_encode`: a layout that reads its own messages;
* `Layout.length_lt_of_message`, …: a message is longer than the messages in it.

Lengths travel as words, so all of this is about stretches of less than `wordLimit` bytes; this is a
part of `Layout.Reads`.
-/

/-! ### Numbers and keys -/

/-- The last group of a number; the tenth one has one bit left. -/
theorem readVarintFrom_last {k n : Nat} (hn : n < 128) (hk : k = 9 → n < 2) (acc : Nat)
    (rest : Bytes) :
    readVarintFrom k acc (UInt8.ofNat n :: rest) = .ok (acc + n * 128 ^ k, rest) := by
  have hbyte : (UInt8.ofNat n).toNat = n := toNat_ofNat_of_lt (by omega)
  have hlast : ¬ (k = 9 ∧ 2 ≤ n) := fun h => absurd (hk h.1) (by omega)
  rw [readVarintFrom, hbyte, if_pos hn, if_neg hlast, Nat.mod_eq_of_lt hn]
  rfl

/-- A group that another one follows. -/
theorem readVarintFrom_more {k m : Nat} (hm : m < 128) (hk : k < 9) (acc : Nat) (rest : Bytes) :
    readVarintFrom k acc (UInt8.ofNat (m + 128) :: rest)
      = readVarintFrom (k + 1) (acc + m * 128 ^ k) rest := by
  have hbyte : (UInt8.ofNat (m + 128)).toNat = m + 128 := toNat_ofNat_of_lt (by omega)
  have hbits : (m + 128) % 128 = m := by omega
  rw [readVarintFrom, hbyte, if_neg (by omega), if_neg (by omega), hbits]
  rfl

/-- Group `k` and those after it spell what is left of a word there. -/
theorem readVarintFrom_writeVarint {n k : Nat} (hn : n < 2 ^ (64 - 7 * k)) (hk : k ≤ 9) (acc : Nat)
    (rest : Bytes) :
    readVarintFrom k acc (writeVarint n ++ rest) = .ok (acc + n * 128 ^ k, rest) := by
  induction n using Nat.strongRecOn generalizing k acc with
  | ind n ih =>
    -- In the tenth group less than one bit is left.
    have hlast : k = 9 → n < 2 := by
      rintro rfl
      exact hn
    rw [writeVarint]
    by_cases hsmall : n < 128
    · rw [if_pos hsmall]
      exact readVarintFrom_last hsmall hlast acc rest
    · have hk' : k < 9 := by
        by_contra h
        have := hlast (by omega)
        omega
      have hrest : n / 128 < 2 ^ (64 - 7 * (k + 1)) := by
        have hpow : 2 ^ (64 - 7 * k) = 2 ^ (64 - 7 * (k + 1)) * 128 := by
          rw [show 64 - 7 * k = 64 - 7 * (k + 1) + 7 by omega, Nat.pow_add]
        rw [Nat.div_lt_iff_lt_mul (by decide), ← hpow]
        exact hn
      have hsum : acc + n % 128 * 128 ^ k + n / 128 * 128 ^ (k + 1) = acc + n * 128 ^ k := by
        calc acc + n % 128 * 128 ^ k + n / 128 * 128 ^ (k + 1)
            = acc + (n % 128 + 128 * (n / 128)) * 128 ^ k := by ring
          _ = acc + n * 128 ^ k := by rw [Nat.mod_add_div]
      rw [if_neg hsmall, List.cons_append, readVarintFrom_more (Nat.mod_lt n (by decide)) hk',
        ih (n / 128) (by omega) hrest (by omega), hsum]

/-- **Numbers.** A word is read back, and nothing after it is touched. -/
theorem readVarint_writeVarint {n : Nat} (hn : n < wordLimit) (rest : Bytes) :
    readVarint (writeVarint n ++ rest) = .ok (n, rest) := by
  have hread := readVarintFrom_writeVarint (show n < 2 ^ (64 - 7 * 0) from hn) (by omega) 0 rest
  rw [readVarint, hread, Nat.zero_add, Nat.pow_zero, Nat.mul_one]

/-- Also zero takes a byte. -/
theorem length_writeVarint_pos (n : Nat) : 0 < (writeVarint n).length := by
  rw [writeVarint]
  split <;> simp

/-- The numbers of fields have at most 29 bits. -/
def isFieldNumber (n : Nat) : Bool := 0 < n && n < 536870912

/-- **Keys** are read back. -/
theorem readKey_writeKey {number : Nat} (wireType : WireType)
    (hnumber : isFieldNumber number = true) (rest : Bytes) :
    readKey (writeKey number wireType ++ rest) = .ok (⟨number, wireType⟩, rest) := by
  obtain ⟨hpos, hlt⟩ : 0 < number ∧ number < 536870912 := by
    simpa [isFieldNumber] using hnumber
  have hcode : wireType.code < 8 := by cases wireType <;> decide
  have hdiv : (number * 8 + wireType.code) / 8 = number := by omega
  have hmod : (number * 8 + wireType.code) % 8 = wireType.code := by omega
  have htype : WireType.ofCode? wireType.code = some wireType := by cases wireType <;> rfl
  have hlimit : ¬ 4294967296 ≤ number * 8 + wireType.code := by omega
  have hword : number * 8 + wireType.code < wordLimit := by rw [wordLimit]; omega
  rw [readKey, writeKey, readVarint_writeVarint hword]
  simp only [bind, Except.bind, hlimit, if_false, hmod, hdiv, htype, Nat.ne_of_gt hpos]
  rfl

/-- **Runs of bytes** behind their length. -/
theorem readDelimited_writeDelimited {bs : Bytes} (hbs : bs.length < wordLimit) (rest : Bytes) :
    readDelimited (writeDelimited bs ++ rest) = .ok (bs, rest) := by
  have hlength : ¬ (bs ++ rest).length < bs.length := by
    rw [List.length_append]
    omega
  rw [readDelimited, writeDelimited, List.append_assoc, readVarint_writeVarint hbs]
  simp only [bind, Except.bind, takeBytes, hlength, if_false, List.take_left, List.drop_left]

/-- The length in front of bytes only adds to them. -/
theorem length_le_writeDelimited (bs : Bytes) : bs.length ≤ (writeDelimited bs).length := by
  rw [writeDelimited, List.length_append]
  omega

/-- A string is read back from its bytes behind their length. -/
theorem Field.readString_writeDelimited {s : String} (hs : (utf8 s).length < wordLimit)
    (rest : Bytes) :
    readString .delimited (writeDelimited (utf8 s) ++ rest) = .ok (s, rest) := by
  simp only [readString, expect, if_true, bind, Except.bind,
    readDelimited_writeDelimited hs, liftFault, Except.mapError, readUtf8?_utf8]
  rfl

/-- Extending the sign and taking the lower half gives back a number of 32 bits. -/
theorem toInt32_extended (i : Int32) : (UInt32.ofNat i.toInt64.toUInt64.toNat).toInt32 = i := by
  apply Int32.toBitVec.inj
  -- Bit by bit: below 32 the extended number has the bits of the number itself.
  have hlow : BitVec.setWidth 32 (BitVec.signExtend 64 i.toBitVec) = i.toBitVec := by
    ext j hj
    have hj' : j < 64 := by omega
    rw [BitVec.getElem_setWidth, BitVec.getLsbD_signExtend]
    simp [hj, hj']
  simpa using hlow

/-! ### Stretches of fields -/

/-- Reading the bytes takes a message from `a` to `b`, whatever follows them and wherever the message
    ends behind them.  The fields in the bytes are counted, for each takes one round of reading. -/
def Layout.Reads (l : Layout α) (depth : Nat) (bs : Bytes) (a b : α) : Prop :=
  bs.length < wordLimit → ∃ rounds ≤ bs.length, ∀ fuel limit rest, limit ≤ rest.length →
    l.mergeFields depth limit (fuel + rounds) a (bs ++ rest) = l.mergeFields depth limit fuel b rest

/-- The layout finds a field under its number. -/
structure Layout.Has (l : Layout α) (f : Field α) : Prop where
  find : l.fields.find? (fun g => g.number == f.number) = some f
  isFieldNumber : isFieldNumber f.number = true

namespace Layout

variable {l : Layout α} {depth : Nat} {a b c : α}

/-- No bytes, no rounds. -/
theorem Reads.nil (l : Layout α) (depth : Nat) (a : α) : l.Reads depth [] a a :=
  fun _ => ⟨0, Nat.le_refl 0, fun _ _ _ _ => rfl⟩

/-- One stretch of fields after the other. -/
theorem Reads.append {bs cs : Bytes} (hbs : l.Reads depth bs a b) (hcs : l.Reads depth cs b c) :
    l.Reads depth (bs ++ cs) a c := by
  intro hsize
  rw [List.length_append] at hsize
  obtain ⟨j, hj, hread⟩ := hbs (by omega)
  obtain ⟨k, hk, hread'⟩ := hcs (by omega)
  -- The rounds of both stretches; the second stretch is what follows the first one.
  refine ⟨k + j, by rw [List.length_append]; omega, fun fuel limit rest hlimit => ?_⟩
  rw [List.append_assoc, ← Nat.add_assoc, hread _ _ _ (by rw [List.length_append]; omega),
    hread' _ _ _ hlimit]

/-- The first of some fields, and the others after it. -/
theorem Reads.cons {f : Field α} {fs : List (Field α)} {m : α} (hf : l.Reads depth (f.encode m) a b)
    (hfs : l.Reads depth (fs.flatMap fun f => f.encode m) b c) :
    l.Reads depth ((f :: fs).flatMap fun f => f.encode m) a c := by
  rw [List.flatMap_cons]
  exact hf.append hfs

/-- One field with its key. -/
theorem Reads.occurrence {f : Field α} {wireType : WireType} {value : Bytes} (hf : l.Has f)
    (hmerge : value.length < wordLimit →
      ∀ rest, f.merge depth wireType a (value ++ rest) = .ok (b, rest)) :
    l.Reads depth (writeKey f.number wireType ++ value) a b := by
  intro hsize
  rw [List.length_append] at hsize
  have hkey : 0 < (writeKey f.number wireType).length := length_writeVarint_pos _
  refine ⟨1, by rw [List.length_append]; omega, fun fuel limit rest hlimit => ?_⟩
  -- The key and the value stand in front of the end of the message, so that the round is not the last.
  have hmore : ¬ (writeKey f.number wireType ++ value ++ rest).length ≤ limit := by
    rw [List.length_append, List.length_append]
    omega
  have hread := readKey_writeKey wireType hf.isFieldNumber (value ++ rest)
  rw [mergeFields, if_neg hmore, List.append_assoc, hread]
  simp only [liftFault, Except.mapError, bind, Except.bind, mergeField, hf.find,
    hmerge (by omega) rest]

end Layout

/-! ### Kinds of fields -/

namespace Layout

variable {l : Layout α} {depth number : Nat} {name : String} {a m : α}

/-- A sequence with one occurrence for each item, when each occurrence adds its item at the end. -/
theorem Reads.flatMap {set : α → List β → α} {write : β → Bytes}
    (hitem : ∀ bs b, l.Reads depth (write b) (set a bs) (set a (bs ++ [b]))) (bs cs : List β) :
    l.Reads depth (cs.flatMap write) (set a bs) (set a (bs ++ cs)) := by
  induction cs generalizing bs with
  | nil =>
    rw [List.append_nil]
    exact Reads.nil l depth (set a bs)
  | cons c cs ih =>
    have hrest := ih (bs ++ [c])
    rw [List.append_assoc] at hrest
    exact (hitem bs c).append hrest

section

variable {get : α → β} {set : α → β → α} {ofWord : Nat → β} {toWord : β → Nat}

/-- A number that is zero is not written, and it is zero in the message that is read into. -/
theorem Has.reads_varint (hl : l.Has (.varint number name get set ofWord toWord))
    (hword : ∀ v, toWord v < wordLimit ∧ ofWord (toWord v) = v) (ha : set a (ofWord 0) = a) :
    l.Reads depth ((Field.varint number name get set ofWord toWord).encode m) a
      (set a (get m)) := by
  obtain ⟨hlt, hof⟩ := hword (get m)
  by_cases hzero : toWord (get m) = 0
  · simp only [Field.varint, hzero, if_true]
    rw [← hof, hzero, ha]
    exact Reads.nil l depth a
  · simp only [Field.varint, hzero, if_false]
    apply Reads.occurrence hl
    intro _ rest
    simp only [Field.varint, Field.expect, if_true, bind, Except.bind, readVarint_writeVarint hlt,
      liftFault, Except.mapError, hof]
    rfl

end

/-- A signed number travels as the word with its bits. -/
theorem Has.reads_int64 {get : α → Int64} {set : α → Int64 → α}
    (hl : l.Has (.int64 number name get set)) (ha : set a 0 = a) :
    l.Reads depth ((Field.int64 number name get set).encode m) a (set a (get m)) :=
  Has.reads_varint hl (fun i => ⟨i.toUInt64.toNat_lt, by simp⟩) ha

/-- A kind travels with its sign extended to a word. -/
theorem Has.reads_enum {get : α → Int32} {set : α → Int32 → α}
    (hl : l.Has (.enum number name get set)) (ha : set a 0 = a) :
    l.Reads depth ((Field.enum number name get set).encode m) a (set a (get m)) :=
  Has.reads_varint hl (fun i => ⟨i.toInt64.toUInt64.toNat_lt, toInt32_extended i⟩) ha

/-- An unsigned number is a word. -/
theorem Has.reads_uint64 {get : α → UInt64} {set : α → UInt64 → α}
    (hl : l.Has (.uint64 number name get set)) (ha : set a 0 = a) :
    l.Reads depth ((Field.uint64 number name get set).encode m) a (set a (get m)) :=
  Has.reads_varint hl (fun i => ⟨i.toNat_lt, UInt64.ofNat_toNat⟩) ha

/-- A truth value travels as one, and is not written when it is false. -/
theorem Has.reads_bool {get : α → Bool} {set : α → Bool → α}
    (hl : l.Has (.bool number name get set)) (ha : set a false = a) :
    l.Reads depth ((Field.bool number name get set).encode m) a (set a (get m)) := by
  have hword : ∀ v : Bool, v.toNat < wordLimit ∧ (v.toNat != 0) = v := by decide
  exact Has.reads_varint hl hword ha

/-- A string that is empty is not written, and it is empty in the message that is read into. -/
theorem Has.reads_string {get : α → String} {set : α → String → α}
    (hl : l.Has (.string number name get set)) (ha : set a "" = a) :
    l.Reads depth ((Field.string number name get set).encode m) a (set a (get m)) := by
  by_cases hempty : get m = ""
  · have hnothing : (Field.string number name get set).encode m = [] := by
      simp only [Field.string, hempty]
      rfl
    rw [hnothing, hempty, ha]
    exact Reads.nil l depth a
  · simp only [Field.string, List.isEmpty_iff, utf8_ne_nil hempty, if_false]
    apply Reads.occurrence hl
    intro hsize rest
    have hlength := length_le_writeDelimited (utf8 (get m))
    simp only [Field.string, bind, Except.bind,
      Field.readString_writeDelimited (show (utf8 (get m)).length < wordLimit by omega)]
    rfl

/-- The same for bytes. -/
theorem Has.reads_bytes {get : α → Bytes} {set : α → Bytes → α}
    (hl : l.Has (.bytes number name get set)) (ha : set a [] = a) :
    l.Reads depth ((Field.bytes number name get set).encode m) a (set a (get m)) := by
  by_cases hempty : get m = []
  · have hnothing : (Field.bytes number name get set).encode m = [] := by
      simp only [Field.bytes, hempty]
      rfl
    rw [hnothing, hempty, ha]
    exact Reads.nil l depth a
  · simp only [Field.bytes, List.isEmpty_iff, hempty, if_false]
    apply Reads.occurrence hl
    intro hsize rest
    have hlength := length_le_writeDelimited (get m)
    simp only [Field.bytes, Field.expect, if_true, bind, Except.bind, liftFault, Except.mapError,
      readDelimited_writeDelimited (show (get m).length < wordLimit by omega)]
    rfl

/-- A list of strings, one occurrence for each.  `hadd` says that setting the list twice is setting it
    once. -/
theorem Has.reads_strings {get : α → List String} {set : α → List String → α}
    (hl : l.Has (.strings number name get set)) (ha : set a [] = a)
    (hadd : ∀ ss s, set (set a ss) (get (set a ss) ++ [s]) = set a (ss ++ [s])) :
    l.Reads depth ((Field.strings number name get set).encode m) a (set a (get m)) := by
  have hitem : ∀ ss s, l.Reads depth (writeKey number .delimited ++ writeDelimited (utf8 s))
      (set a ss) (set a (ss ++ [s])) := by
    intro ss s
    apply Reads.occurrence hl
    intro hsize rest
    have hlength := length_le_writeDelimited (utf8 s)
    simp only [Field.strings, bind, Except.bind, hadd,
      Field.readString_writeDelimited (show (utf8 s).length < wordLimit by omega)]
    rfl
  have hall := Reads.flatMap hitem [] (get m)
  rwa [ha, List.nil_append] at hall

/-! ### Messages within messages -/

/-- The layout reads its own messages, with up to `height` further levels below them. -/
def RoundTrips (l : Layout α) (height : Nat) : Prop :=
  ∀ depth m, height ≤ depth → l.Reads depth (l.encode m) l.empty m

/-- Reading stops in front of what follows a message. -/
theorem mergeFields_of_length_le (l : Layout α) {depth limit fuel : Nat} {a : α} {bs : Bytes}
    (h : bs.length ≤ limit) : l.mergeFields depth limit fuel a bs = .ok (a, bs) := by
  cases fuel with
  | zero => rfl
  | succ fuel => rw [mergeFields, if_pos h]

/-- The whole of a message with the fuel of its own length, since each round takes a byte at least. -/
theorem RoundTrips.mergeFields_encode {height limit fuel : Nat} (h : l.RoundTrips height)
    (hdepth : height ≤ depth) {m : α} (hsize : (l.encode m).length < wordLimit) {rest : Bytes}
    (hlimit : limit = rest.length) (hfuel : (l.encode m).length ≤ fuel) :
    l.mergeFields depth limit fuel l.empty (l.encode m ++ rest) = .ok (m, rest) := by
  obtain ⟨rounds, hrounds, hread⟩ := h depth m hdepth hsize
  have hsplit : fuel = fuel - rounds + rounds := by omega
  rw [hsplit, hread _ _ _ (by omega), mergeFields_of_length_le l (by omega)]

/-- **Decoding** gives back what was encoded. -/
theorem RoundTrips.decode_encode {height : Nat} (h : l.RoundTrips height)
    (hheight : height ≤ depthLimit) {m : α} (hsize : (l.encode m).length < wordLimit) :
    l.decode (l.encode m) = .ok m := by
  have hread := h.mergeFields_encode hheight hsize (show 0 = ([] : Bytes).length from rfl)
    (Nat.le_refl _)
  rw [List.append_nil] at hread
  rw [decode, hread]
  rfl

/-- A message behind its length, which costs one level. -/
theorem RoundTrips.mergeNested_encode {height : Nat} (h : l.RoundTrips height)
    (hdepth : height < depth) {m : α} (hsize : (writeDelimited (l.encode m)).length < wordLimit)
    (rest : Bytes) :
    l.mergeNested depth l.empty (writeDelimited (l.encode m) ++ rest) = .ok (m, rest) := by
  obtain ⟨depth, rfl⟩ : ∃ d, depth = d + 1 := ⟨depth - 1, by omega⟩
  have hlength := length_le_writeDelimited (l.encode m)
  have hsize' : (l.encode m).length < wordLimit := by omega
  have hfits : ¬ (l.encode m ++ rest).length < (l.encode m).length := by
    rw [List.length_append]
    omega
  -- The message ends where what follows it begins.
  have hlimit : (l.encode m ++ rest).length - (l.encode m).length = rest.length := by
    rw [List.length_append]
    omega
  have hread : l.mergeFields depth rest.length (l.encode m ++ rest).length l.empty
      (l.encode m ++ rest) = .ok (m, rest) :=
    h.mergeFields_encode (by omega) hsize' rfl (by rw [List.length_append]; omega)
  rw [mergeNested, writeDelimited, List.append_assoc, readVarint_writeVarint hsize']
  simp only [liftFault, Except.mapError, bind, Except.bind, hfits, if_false, hlimit, hread, ne_eq,
    not_true]
  rfl

section

variable {inner : Layout β} {height : Nat} (hinner : inner.RoundTrips height)
  (hdepth : height < depth)
include hinner hdepth

/-- A message that is missing is not written, and it is missing in the message that is read into. -/
theorem Has.reads_message {get : α → Option β} {set : α → Option β → α}
    (hl : l.Has (.message number name inner get set)) (ha : set a none = a) (hget : get a = none) :
    l.Reads depth ((Field.message number name inner get set).encode m) a (set a (get m)) := by
  cases hm : get m with
  | none =>
    simp only [Field.message, hm, ha]
    exact Reads.nil l depth a
  | some b =>
    simp only [Field.message, hm]
    apply Reads.occurrence hl
    intro hsize rest
    simp only [Field.message, Field.expect, if_true, bind, Except.bind, hget, Option.getD_none,
      hinner.mergeNested_encode hdepth hsize]
    rfl

/-- A list of messages, one occurrence for each. -/
theorem Has.reads_messages {get : α → List β} {set : α → List β → α}
    (hl : l.Has (.messages number name inner get set)) (ha : set a [] = a)
    (hadd : ∀ bs b, set (set a bs) (get (set a bs) ++ [b]) = set a (bs ++ [b])) :
    l.Reads depth ((Field.messages number name inner get set).encode m) a (set a (get m)) := by
  have hitem : ∀ bs b, l.Reads depth
      (writeKey number .delimited ++ writeDelimited (inner.encode b)) (set a bs)
      (set a (bs ++ [b])) := by
    intro bs b
    apply Reads.occurrence hl
    intro hsize rest
    simp only [Field.messages, Field.expect, if_true, bind, Except.bind, hadd,
      hinner.mergeNested_encode hdepth hsize]
    rfl
  have hall := Reads.flatMap hitem [] (get m)
  rwa [ha, List.nil_append] at hall

end

/-! ### What is in a message is shorter than it -/

/-- The bytes of one field are among those of the message. -/
theorem length_encode_le {f : Field α} (hf : f ∈ l.fields) (m : α) :
    (f.encode m).length ≤ (l.encode m).length := by
  obtain ⟨before, after, hfields⟩ := List.append_of_mem hf
  rw [encode, hfields, List.flatMap_append, List.flatMap_cons]
  simp only [List.length_append]
  omega

/-- A key takes at least a byte. -/
theorem length_lt_occurrence (number : Nat) (wireType : WireType) (bs : Bytes) :
    bs.length < (writeKey number wireType ++ writeDelimited bs).length := by
  have hkey : 0 < (writeKey number wireType).length := length_writeVarint_pos _
  have hlength := length_le_writeDelimited bs
  rw [List.length_append]
  omega

/-- Bytes in a field are no longer than the message. -/
theorem length_le_of_bytes (number : Nat) {get : α → Bytes} {set : α → Bytes → α}
    (hl : l.fields.find? (fun f => f.number == number) = some (.bytes number name get set)) (m : α) :
    (get m).length ≤ (l.encode m).length := by
  refine Nat.le_trans ?_ (length_encode_le (List.mem_of_find?_eq_some hl) m)
  by_cases hempty : get m = []
  · rw [hempty]
    exact Nat.zero_le _
  · simp only [Field.bytes, List.isEmpty_iff, hempty, if_false]
    exact Nat.le_of_lt (length_lt_occurrence number .delimited (get m))

/-- A message in a field is shorter than the message around it. -/
theorem length_lt_of_message (number : Nat) {inner : Layout β} {get : α → Option β}
    {set : α → Option β → α}
    (hl : l.fields.find? (fun f => f.number == number) = some (.message number name inner get set))
    {m : α} {b : β} (hb : get m = some b) : (inner.encode b).length < (l.encode m).length := by
  refine Nat.lt_of_lt_of_le ?_ (length_encode_le (List.mem_of_find?_eq_some hl) m)
  simp only [Field.message, hb]
  exact length_lt_occurrence number .delimited (inner.encode b)

/-- The same for each message of a list. -/
theorem length_lt_of_messages (number : Nat) {inner : Layout β} {get : α → List β}
    {set : α → List β → α}
    (hl : l.fields.find? (fun f => f.number == number) = some (.messages number name inner get set))
    {m : α} {b : β} (hb : b ∈ get m) : (inner.encode b).length < (l.encode m).length := by
  refine Nat.lt_of_lt_of_le ?_ (length_encode_le (List.mem_of_find?_eq_some hl) m)
  obtain ⟨before, after, hsplit⟩ := List.append_of_mem hb
  have hlength := length_lt_occurrence number .delimited (inner.encode b)
  simp only [Field.messages, hsplit, List.flatMap_append, List.flatMap_cons]
  simp only [List.length_append] at hlength ⊢
  omega

end Layout

end ChartTrace.Wire
