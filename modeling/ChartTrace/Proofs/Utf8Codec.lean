import ChartTrace.Text.Line
import ChartTrace.Text.Utf8
import Mathlib.Algebra.Ring.Nat
import Mathlib.Tactic.SplitIfs

namespace ChartTrace

/-!
# Texts as bytes

A text and its UTF-8 bytes, and readers that give the one back from the other.

* `except_bind_eq_ok_iff`, `except_map_eq_ok_iff`, `except_mapError_eq_ok_iff`: what a reader in steps did
  when it came to an end: each step succeeded, and the next one went on from its result;
* `textBytes`: the UTF-8 bytes of a text; `byteLength` counts them (`length_textBytes`);
* `utf8EncodeChar_eq`: a character is a leading byte and as many groups of six bits as follow it;
* `readUtf8?_utf8`, `readUtf8Lossy_utf8`: the strict and the lossy reader both give back the string
  whose bytes they read;
* `utf8_lt_utf8`: strings are ordered as their bytes are, so that sorting by name is sorting by
  bytes.
-/

open String (utf8EncodeChar)

/-! ### Readers that may fail -/

section

variable {ε ε' α β : Type} {x : Except ε α}

/-- A reader in two steps came to an end: the first step did, and the second one went on from its
    result. -/
theorem except_bind_eq_ok_iff {f : α → Except ε β} {b : β} :
    (x >>= f) = .ok b ↔ ∃ a, x = .ok a ∧ f a = .ok b := by
  cases x with
  | error e => simp [bind, Except.bind]
  | ok a => simp [bind, Except.bind]

/-- The result was changed after it had been read. -/
theorem except_map_eq_ok_iff {f : α → β} {b : β} :
    f <$> x = .ok b ↔ ∃ a, x = .ok a ∧ f a = b := by
  cases x with
  | error e => simp [Functor.map, Except.map]
  | ok a => simp [Functor.map, Except.map]

/-- Renaming errors is no step of reading. -/
theorem except_mapError_eq_ok_iff {f : ε → ε'} {a : α} : x.mapError f = .ok a ↔ x = .ok a := by
  cases x with
  | error e =>
    constructor
    · intro h
      cases h
    · intro h
      cases h
  | ok b =>
    constructor
    · intro h
      cases h
      rfl
    · intro h
      cases h
      rfl

end

/-! ### The bytes of a text -/

/-- The UTF-8 bytes of a text. -/
def textBytes (cs : List Char) : Bytes := utf8 (String.ofList cs)

/-- The bytes of a text are those of its characters, one after the other. -/
theorem textBytes_eq_flatMap (cs : List Char) :
    textBytes cs = cs.flatMap String.utf8EncodeChar := by
  simp [textBytes, utf8, List.utf8Encode]

@[simp] theorem textBytes_append (cs ds : List Char) :
    textBytes (cs ++ ds) = textBytes cs ++ textBytes ds := by
  simp [textBytes_eq_flatMap]

@[simp] theorem byteLength_nil : byteLength [] = 0 := rfl

@[simp] theorem byteLength_cons (c : Char) (cs : List Char) :
    byteLength (c :: cs) = c.utf8Size + byteLength cs := rfl

/-- Lengths in bytes add up, as those in characters do. -/
@[simp] theorem byteLength_append (cs ds : List Char) :
    byteLength (cs ++ ds) = byteLength cs + byteLength ds := by
  induction cs with
  | nil => simp
  | cons c cs ih => rw [List.cons_append, byteLength_cons, byteLength_cons, ih, Nat.add_assoc]

/-- `byteLength` counts without making the bytes. -/
@[simp] theorem length_textBytes (cs : List Char) : (textBytes cs).length = byteLength cs := by
  induction cs with
  | nil => rfl
  | cons c cs ih =>
    rw [textBytes_eq_flatMap] at ih ⊢
    rw [List.flatMap_cons, List.length_append, String.length_utf8EncodeChar, ih, byteLength_cons]

/-- The same for a string, which is the text of its characters. -/
theorem utf8_eq_flatMap (s : String) : utf8 s = s.toList.flatMap utf8EncodeChar := by
  have hbytes := textBytes_eq_flatMap s.toList
  rwa [textBytes, String.ofList_toList] at hbytes

/-- The bytes of a string are valid, and the strict reader gives the string back. -/
theorem readUtf8?_utf8 (s : String) : readUtf8? (utf8 s) = some s := by
  have hbytes : (⟨(utf8 s).toArray⟩ : ByteArray) = s.toByteArray := by simp [utf8]
  rw [readUtf8?, hbytes]
  simp [String.fromUTF8?, s.isValidUTF8, String.fromUTF8]

/-- What the strict reader accepts are the bytes of what it gives. -/
theorem utf8_of_readUtf8? {bs : Bytes} {s : String} (h : readUtf8? bs = some s) : utf8 s = bs := by
  rw [readUtf8?, String.fromUTF8?] at h
  split at h
  · cases h
    rfl
  · cases h

/-- Only the empty string has no bytes. -/
theorem utf8_ne_nil {s : String} (h : s ≠ "") : utf8 s ≠ [] := by
  intro hnil
  have hread := readUtf8?_utf8 s
  -- Two strings with the same bytes are read back as one.
  have hread' := readUtf8?_utf8 ""
  rw [show utf8 "" = utf8 s from hnil.symm, hread] at hread'
  exact h (Option.some.inj hread')

/-! ### One character -/

/-- A code point is no surrogate and lies below `0x110000`. -/
theorem toNat_char_cases (c : Char) :
    c.toNat < 0xD800 ∨ (0xE000 ≤ c.toNat ∧ c.toNat < 0x110000) := by
  rcases c.valid with h | ⟨h, h'⟩
  · exact Or.inl h
  · exact Or.inr ⟨h, h'⟩

/-- The `k` lowest groups of six bits of a number, the highest first, each in a byte of its own. -/
def sixBitBytes : Nat → Nat → Bytes
  | 0, _ => []
  | k + 1, v => sixBitBytes k (v / 64) ++ [UInt8.ofNat (v % 64 + 0x80)]

/-- A number in a leading byte and `k` bytes of six bits. -/
def multibyte (lead k v : Nat) : Bytes := UInt8.ofNat (v / 64 ^ k + lead) :: sixBitBytes k v

/-- The lowest group is the last byte, and the other groups spell what is above it. -/
theorem multibyte_succ (lead k v : Nat) :
    multibyte lead (k + 1) v = multibyte lead k (v / 64) ++ [UInt8.ofNat (v % 64 + 0x80)] := by
  have hdiv : v / 64 ^ (k + 1) = v / 64 / 64 ^ k := by
    rw [Nat.div_div_eq_div_mul, Nat.pow_succ, Nat.mul_comm]
  rw [multibyte, multibyte, sixBitBytes, hdiv, List.cons_append]

/-- What the leading byte of a code point adds to its highest bits. -/
def leadOf (v : Nat) : Nat :=
  if v < 0x80 then 0 else if v < 0x800 then 0xC0 else if v < 0x10000 then 0xE0 else 0xF0

/-- How many bytes follow the leading byte of a code point. -/
def followers (v : Nat) : Nat :=
  if v < 0x80 then 0 else if v < 0x800 then 1 else if v < 0x10000 then 2 else 3

/-- **Characters as bytes.** The size of the code point decides on the leading byte. -/
theorem utf8EncodeChar_eq (c : Char) :
    utf8EncodeChar c = multibyte (leadOf c.toNat) (followers c.toNat) c.toNat := by
  have hvalid := toNat_char_cases c
  -- The leading byte takes what is left of the code point, which has few enough bits.
  have hlead : ∀ {d m : Nat}, c.toNat < d * m → c.toNat / d % m = c.toNat / d := by
    intro d m h
    exact Nat.mod_eq_of_lt (Nat.div_lt_of_lt_mul h)
  have hval : c.val.toNat = c.toNat := rfl
  simp only [utf8EncodeChar, hval, leadOf, followers, Nat.lt_succ_iff]
  -- One case for each number of bytes.
  by_cases h1 : c.toNat ≤ 0x7F
  · simp [h1, multibyte, sixBitBytes]
  · by_cases h2 : c.toNat ≤ 0x7FF
    · rw [if_neg h1, if_pos h2, hlead (by omega)]
      simp [h1, h2, multibyte, sixBitBytes]
    · by_cases h3 : c.toNat ≤ 0xFFFF
      · rw [if_neg h1, if_neg h2, if_pos h3, hlead (by omega)]
        simp [h1, h2, h3, multibyte, sixBitBytes]
      · rw [if_neg h1, if_neg h2, if_neg h3, hlead (by omega)]
        simp [h1, h2, h3, multibyte, sixBitBytes, Nat.div_div_eq_div_mul]

/-! ### Order -/

/-- A number of eight bits is its byte. -/
theorem toNat_ofNat_of_lt {n : Nat} (hn : n < 256) : (UInt8.ofNat n).toNat = n :=
  UInt8.toNat_ofNat_of_lt' hn

/-- Bytes compare as the numbers they hold. -/
theorem ofNat_lt_ofNat {m n : Nat} (h : m < n) (hn : n < 256) : UInt8.ofNat m < UInt8.ofNat n := by
  rw [UInt8.lt_iff_toNat_lt, toNat_ofNat_of_lt hn, toNat_ofNat_of_lt (Nat.lt_trans h hn)]
  exact h

/-- Within one length the bytes compare as the numbers do: the highest groups first. -/
theorem multibyte_append_lt {lead k v w : Nat} (h : v < w) (hw : w / 64 ^ k + lead < 256)
    (bs es : Bytes) : multibyte lead k v ++ bs < multibyte lead k w ++ es := by
  induction k generalizing v w bs es with
  | zero =>
    simp only [multibyte, Nat.pow_zero, Nat.div_one, List.cons_append] at hw ⊢
    exact List.cons_lt_cons_iff.mpr (Or.inl (ofNat_lt_ofNat (by omega) hw))
  | succ k ih =>
    rw [multibyte_succ, multibyte_succ, List.append_assoc, List.append_assoc]
    by_cases hhigh : v / 64 < w / 64
    · refine ih hhigh ?_ _ _
      rwa [Nat.div_div_eq_div_mul, Nat.mul_comm, ← Nat.pow_succ]
    · -- The numbers differ in their last group alone.
      have heq : v / 64 = w / 64 := by omega
      rw [heq]
      apply List.append_left_lt
      exact List.cons_lt_cons_iff.mpr (Or.inl (ofNat_lt_ofNat (by omega) (by omega)))

/-- A greater code point has as many bytes, or a greater leading byte. -/
theorem leadingByte_lt {v w : Nat} (h : v < w) :
    (leadOf v = leadOf w ∧ followers v = followers w)
    ∨ v / 64 ^ followers v + leadOf v < w / 64 ^ followers w + leadOf w := by
  unfold leadOf followers
  split_ifs <;> omega

/-- The leading byte of a code point is a byte. -/
theorem leadingByte_lt_size {v : Nat} (hv : v < 0x110000) : v / 64 ^ followers v + leadOf v < 256 := by
  unfold leadOf followers
  split_ifs <;> omega

/-- A greater character has greater bytes, whatever follows either of them. -/
theorem utf8EncodeChar_append_lt {c d : Char} (h : c < d) (bs es : Bytes) :
    utf8EncodeChar c ++ bs < utf8EncodeChar d ++ es := by
  have hd : d.toNat < 0x110000 := by have := toNat_char_cases d; omega
  have hsize := leadingByte_lt_size hd
  rw [utf8EncodeChar_eq, utf8EncodeChar_eq]
  -- With as many bytes the groups decide; otherwise the leading bytes do.
  rcases leadingByte_lt (show c.toNat < d.toNat from h) with ⟨hlead, hfollowers⟩ | hlead
  · rw [hlead, hfollowers]
    exact multibyte_append_lt h hsize bs es
  · exact List.cons_lt_cons_iff.mpr (Or.inl (ofNat_lt_ofNat hlead hsize))

/-- Texts compare at the first character in which they differ, and so do their bytes. -/
theorem flatMap_utf8EncodeChar_lt {cs ds : List Char} (h : cs < ds) :
    cs.flatMap utf8EncodeChar < ds.flatMap utf8EncodeChar := by
  induction cs generalizing ds with
  | nil =>
    cases ds with
    | nil => exact absurd h (List.not_lt_nil [])
    | cons d ds =>
      rw [List.flatMap_cons, utf8EncodeChar_eq]
      exact List.nil_lt_cons _ _
  | cons c cs ih =>
    cases ds with
    | nil => exact absurd h (List.not_lt_nil _)
    | cons d ds =>
      rw [List.flatMap_cons, List.flatMap_cons]
      -- The texts differ in their first character, or behind a common one.
      rcases List.cons_lt_cons_iff.mp h with hcd | ⟨rfl, hrest⟩
      · exact utf8EncodeChar_append_lt hcd _ _
      · exact List.append_left_lt (ih hrest)

/-- **Order of strings.** Strings compare as their bytes do. -/
theorem utf8_lt_utf8 {s t : String} (h : s < t) : utf8 s < utf8 t := by
  rw [utf8_eq_flatMap, utf8_eq_flatMap]
  exact flatMap_utf8EncodeChar_lt h

/-! ### Lossy reading -/

/-- The groups from the other end: the highest one stands first. -/
theorem sixBitBytes_succ (k v : Nat) :
    sixBitBytes (k + 1) v = UInt8.ofNat (v / 64 ^ k % 64 + 0x80) :: sixBitBytes k v := by
  induction k generalizing v with
  | zero => simp [sixBitBytes]
  | succ k ih =>
    have hdiv : v / 64 / 64 ^ k = v / 64 ^ (k + 1) := by
      rw [Nat.div_div_eq_div_mul, Nat.pow_succ, Nat.mul_comm]
    rw [sixBitBytes, ih, hdiv, List.cons_append]
    rfl

theorem length_sixBitBytes (k v : Nat) : (sixBitBytes k v).length = k := by
  induction k generalizing v with
  | zero => rfl
  | succ k ih => simp [sixBitBytes, ih]

/-- Reading the groups of six bits one after the other gives the number back. -/
theorem foldl_sixBitBytes (k v : Nat) :
    (sixBitBytes k v).foldl (fun x b => x * 64 + b.toNat % 64) (v / 64 ^ k) = v := by
  induction k generalizing v with
  | zero => simp [sixBitBytes]
  | succ k ih =>
    have hdiv : v / 64 ^ (k + 1) = v / 64 / 64 ^ k := by
      rw [Nat.div_div_eq_div_mul, Nat.pow_succ, Nat.mul_comm]
    rw [sixBitBytes, List.foldl_append, hdiv, ih, List.foldl_cons, List.foldl_nil,
      toNat_ofNat_of_lt (by omega)]
    omega

/-- All groups are bytes that may follow a leading byte. -/
theorem continuing_sixBitBytes (k v : Nat) (rest : Bytes) :
    continuing k 0x80 0xBF (sixBitBytes k v ++ rest) = k := by
  induction k with
  | zero => simp [continuing]
  | succ k ih =>
    have hbounds : (0x80 : UInt8) ≤ UInt8.ofNat (v / 64 ^ k % 64 + 0x80)
        ∧ UInt8.ofNat (v / 64 ^ k % 64 + 0x80) ≤ 0xBF := by
      rw [UInt8.le_iff_toNat_le, UInt8.le_iff_toNat_le, toNat_ofNat_of_lt (by omega)]
      exact ⟨Nat.le_add_left _ _, by show _ ≤ 191; omega⟩
    rw [sixBitBytes_succ, List.cons_append, continuing, if_pos hbounds, ih]

/-- A character is read whole when its leading byte announces as many bytes as follow, and the first
    of these lies within the bounds that it sets. -/
theorem readUtf8Lossy_multibyte {lead k v : Nat} {lo hi : UInt8} (rest : Bytes)
    (hlead : continuation? (UInt8.ofNat (v / 64 ^ k + lead)) = some (k, lo, hi))
    (hfirst : 0 < k →
      lo.toNat ≤ v / 64 ^ (k - 1) % 64 + 0x80 ∧ v / 64 ^ (k - 1) % 64 + 0x80 ≤ hi.toNat)
    (hbits : (if k = 0 then v / 64 ^ k + lead else (v / 64 ^ k + lead) % Nat.pow 2 (6 - k))
      = v / 64 ^ k) (hsize : v / 64 ^ k + lead < 256) :
    readUtf8Lossy (multibyte lead k v ++ rest) = Char.ofNat v :: readUtf8Lossy rest := by
  -- The bounds are for the first byte that follows; those after it may be any group of six bits.
  have hcontinues : continuing k lo hi (sixBitBytes k v ++ rest) = k := by
    cases k with
    | zero => simp [continuing]
    | succ k =>
      have hbounds : lo ≤ UInt8.ofNat (v / 64 ^ k % 64 + 0x80)
          ∧ UInt8.ofNat (v / 64 ^ k % 64 + 0x80) ≤ hi := by
        rw [UInt8.le_iff_toNat_le, UInt8.le_iff_toNat_le, toNat_ofNat_of_lt (by omega)]
        exact hfirst (Nat.succ_pos k)
      rw [sixBitBytes_succ, List.cons_append, continuing, if_pos hbounds, continuing_sixBitBytes]
  have htake : (sixBitBytes k v ++ rest).take k = sixBitBytes k v :=
    List.take_left' (length_sixBitBytes k v)
  have hdrop : (sixBitBytes k v ++ rest).drop k = rest := List.drop_left' (length_sixBitBytes k v)
  rw [multibyte, List.cons_append, readUtf8Lossy, hlead]
  simp only [hcontinues, if_true, htake, hdrop, assemble, toNat_ofNat_of_lt hsize]
  rw [hbits, foldl_sixBitBytes]

/-- Nothing follows an ASCII byte. -/
theorem continuation?_ascii {n : Nat} (hn : n < 0x80) :
    continuation? (UInt8.ofNat n) = some (0, 0, 0) := by
  have hlt : UInt8.ofNat n < 0x80 := ofNat_lt_ofNat hn (by decide)
  rw [continuation?, if_pos hlt]

/-- Two bytes spell a code point from `0x80` on, for which the leading byte starts at `0xC2`. -/
theorem continuation?_two : ∀ i < 30, continuation? (UInt8.ofNat (i + 0xC2)) = some (1, 0x80, 0xBF) := by
  decide

/-- Three bytes must not spell a code point that fits two, nor a surrogate. -/
theorem continuation?_three : ∀ i < 16, continuation? (UInt8.ofNat (i + 0xE0))
    = some (2, if i = 0 then 0xA0 else 0x80, if i = 13 then 0x9F else 0xBF) := by
  decide

/-- Four bytes must not spell a code point that fits three, nor one beyond the last. -/
theorem continuation?_four : ∀ i < 5, continuation? (UInt8.ofNat (i + 0xF0))
    = some (3, if i = 0 then 0x90 else 0x80, if i = 4 then 0x8F else 0xBF) := by
  decide

/-- One character is read off the front. -/
theorem readUtf8Lossy_utf8EncodeChar (c : Char) (rest : Bytes) :
    readUtf8Lossy (utf8EncodeChar c ++ rest) = c :: readUtf8Lossy rest := by
  have hvalid := toNat_char_cases c
  have hread : readUtf8Lossy (utf8EncodeChar c ++ rest)
      = Char.ofNat c.toNat :: readUtf8Lossy rest := by
    rw [utf8EncodeChar_eq]
    generalize c.toNat = v at hvalid
    unfold leadOf followers
    -- One case for each number of bytes; the bounds of the first byte that follows are what `v` being
    -- no surrogate and no shorter code point gives.
    split_ifs with h1 h2 h3
    · have hlead := continuation?_ascii (show v / 64 ^ 0 + 0 < 0x80 by omega)
      exact readUtf8Lossy_multibyte rest hlead (by omega) (if_pos rfl) (by omega)
    · have hlead := continuation?_two (v / 64 - 2) (by omega)
      rw [show v / 64 - 2 + 0xC2 = v / 64 ^ 1 + 0xC0 by omega] at hlead
      refine readUtf8Lossy_multibyte rest hlead (fun _ => ?_) ?_ (by omega)
      · show 128 ≤ v / 64 ^ 0 % 64 + 128 ∧ v / 64 ^ 0 % 64 + 128 ≤ 191
        omega
      · show (v / 64 ^ 1 + 0xC0) % 32 = v / 64 ^ 1
        omega
    · have hlead := continuation?_three (v / 64 ^ 2) (by omega)
      refine readUtf8Lossy_multibyte rest hlead (fun _ => ?_) ?_ (by omega)
      · show UInt8.toNat _ ≤ v / 64 ^ 1 % 64 + 128 ∧ v / 64 ^ 1 % 64 + 128 ≤ UInt8.toNat _
        split_ifs <;> simp <;> omega
      · show (v / 64 ^ 2 + 0xE0) % 16 = v / 64 ^ 2
        omega
    · have hlead := continuation?_four (v / 64 ^ 3) (by omega)
      refine readUtf8Lossy_multibyte rest hlead (fun _ => ?_) ?_ (by omega)
      · show UInt8.toNat _ ≤ v / 64 ^ 2 % 64 + 128 ∧ v / 64 ^ 2 % 64 + 128 ≤ UInt8.toNat _
        split_ifs <;> simp <;> omega
      · show (v / 64 ^ 3 + 0xF0) % 8 = v / 64 ^ 3
        omega
  rwa [Char.ofNat_toNat] at hread

/-- **Lossy reading** loses nothing of well-formed bytes. -/
theorem readUtf8Lossy_utf8 (s : String) : readUtf8Lossy (utf8 s) = s.toList := by
  rw [utf8_eq_flatMap]
  -- Over the characters, each of which is read off the front.
  induction s.toList with
  | nil => rw [List.flatMap_nil, readUtf8Lossy]
  | cons c cs ih => rw [List.flatMap_cons, readUtf8Lossy_utf8EncodeChar, ih]

end ChartTrace
