import ChartTrace.Proofs.Utf8Codec
import ChartTrace.Proofs.WireFields

namespace ChartTrace.Wire

/-!
# How much reading adds to a message

Bytes need not be canonical: numbers may have more groups than they need, fields may come twice, and
unknown ones are skipped.  Here it is counted what a reader takes and what it leaves in the message:

* `readVarint_eq_ok`, `readDelimited_eq_ok`, `skipField_length_le`, …: what readers take from the
  bytes;
* `Layout.Grows`, `Layout.grows_of_fields`: a size of messages that each byte raises by no more than a
  fixed rate, field by field and over a whole message;
* `mergeNested_eq_ok`: the same for a message within a message.
-/

/-! ### Numbers -/

/-- Group `k` and those after it add less than as many groups can spell. -/
theorem readVarintFrom_eq_ok {bs rest : Bytes} {k acc n : Nat} (hacc : acc < 128 ^ k)
    (h : readVarintFrom k acc bs = .ok (n, rest)) :
    ∃ size, 0 < size ∧ bs.length = size + rest.length ∧ n < 128 ^ (k + size) := by
  induction bs generalizing k acc with
  | nil => simp [readVarintFrom] at h
  | cons b bs ih =>
    -- One group more, and the bound grows by the same factor.
    have hgroup : acc + b.toNat % 128 * Nat.pow 128 k < 128 ^ (k + 1) := by
      have hlt : b.toNat % 128 + 1 ≤ 128 := Nat.mod_lt _ (by decide)
      calc acc + b.toNat % 128 * 128 ^ k
          < 128 ^ k + b.toNat % 128 * 128 ^ k := Nat.add_lt_add_right hacc _
        _ = (b.toNat % 128 + 1) * 128 ^ k := by ring
        _ ≤ 128 * 128 ^ k := Nat.mul_le_mul_right _ hlt
        _ = 128 ^ (k + 1) := by ring
    simp only [readVarintFrom] at h
    split at h
    · split at h
      · cases h
      · cases h
        exact ⟨1, by decide, by rw [List.length_cons]; omega, hgroup⟩
    · split at h
      · cases h
      · obtain ⟨size, hpos, hlength, hn⟩ := ih hgroup h
        refine ⟨size + 1, by omega, by rw [List.length_cons]; omega, ?_⟩
        rwa [show k + (size + 1) = k + 1 + size by omega]

/-- A number is less than what its bytes can spell. -/
theorem readVarint_eq_ok {bs rest : Bytes} {n : Nat} (h : readVarint bs = .ok (n, rest)) :
    ∃ size, 0 < size ∧ bs.length = size + rest.length ∧ n < 128 ^ size := by
  obtain ⟨size, hpos, hlength, hn⟩ := readVarintFrom_eq_ok (by decide) h
  exact ⟨size, hpos, hlength, by simpa using hn⟩

/-- A number takes no more bytes than are needed to spell numbers of its size. -/
theorem length_writeVarint_le {n size : Nat} (hsize : 0 < size) (hn : n < 128 ^ size) :
    (writeVarint n).length ≤ size := by
  induction size generalizing n with
  | zero => omega
  | succ size ih =>
    rw [writeVarint]
    split
    · exact Nat.succ_le_succ (Nat.zero_le size)
    · next hbig =>
      -- One byte takes seven bits off the number, and the bound loses as many.
      have hdiv : n / 128 < 128 ^ size := by
        rw [Nat.div_lt_iff_lt_mul (by decide), ← Nat.pow_succ]
        exact hn
      have hpos : 0 < size := by
        by_contra hzero
        obtain rfl : size = 0 := by omega
        omega
      rw [List.length_cons]
      exact Nat.succ_le_succ (ih hpos hdiv)

/-- And no fewer. -/
theorem lt_pow_length_writeVarint (n : Nat) : n < 128 ^ (writeVarint n).length := by
  induction n using Nat.strongRecOn with
  | ind n ih =>
    rw [writeVarint]
    split
    · next hsmall => exact hsmall
    · next hbig =>
      have hdiv := ih (n / 128) (by omega)
      rw [Nat.div_lt_iff_lt_mul (by decide)] at hdiv
      rw [List.length_cons, Nat.pow_succ]
      exact hdiv

/-- Ten groups of seven bits hold a word. -/
theorem length_writeVarint_le_ten {n : Nat} (hn : n < wordLimit) : (writeVarint n).length ≤ 10 :=
  length_writeVarint_le (by decide) (Nat.lt_trans hn (by decide))

/-- A number that grows takes no more further bytes than what is added. -/
theorem length_writeVarint_add {m n k size : Nat} (hk : 0 < k) (hn : n < 128 ^ k)
    (hsize : size ≤ m + 2 * n) : (writeVarint size).length ≤ (writeVarint m).length + k := by
  have hm := lt_pow_length_writeVarint m
  have hpos := length_writeVarint_pos m
  obtain ⟨j, hj⟩ : ∃ j, (writeVarint m).length = j + 1 := ⟨_, (Nat.sub_add_cancel hpos).symm⟩
  obtain ⟨i, rfl⟩ : ∃ i, k = i + 1 := ⟨k - 1, by omega⟩
  rw [hj] at hm ⊢
  apply length_writeVarint_le (by omega)
  -- `m` and `n` are each below a 128th of the bound, and there are three of them.
  have hleft : 128 ^ (j + 1) ≤ 128 * 128 ^ (j + i) := by
    rw [Nat.pow_succ, Nat.mul_comm]
    exact Nat.mul_le_mul_left _ (Nat.pow_le_pow_right (by decide) (Nat.le_add_right j i))
  have hright : 128 ^ (i + 1) ≤ 128 * 128 ^ (j + i) := by
    rw [Nat.pow_succ, Nat.mul_comm]
    exact Nat.mul_le_mul_left _ (Nat.pow_le_pow_right (by decide) (Nat.le_add_left i j))
  have htotal : 128 ^ (j + 1 + (i + 1)) = 16384 * 128 ^ (j + i) := by ring
  omega

/-! ### Keys, runs of bytes and unknown fields -/

/-- A key takes a byte at least. -/
theorem readKey_length_lt {bs rest : Bytes} {key : Key} (h : readKey bs = .ok (key, rest)) :
    rest.length < bs.length := by
  simp only [readKey, except_bind_eq_ok_iff] at h
  obtain ⟨⟨n, after⟩, hread, h⟩ := h
  obtain ⟨size, hpos, hlength, -⟩ := readVarint_eq_ok hread
  -- Of the checks of a key none takes bytes away.
  have hrest : rest = after := by
    dsimp only at h
    split at h
    · cases h
    · split at h
      · cases h
      · split at h
        · cases h
        · cases h
          rfl
  rw [hrest]
  omega

/-- All bytes that were asked for are taken. -/
theorem takeBytes_eq_ok {n : Nat} {bs value rest : Bytes} (h : takeBytes n bs = .ok (value, rest)) :
    value.length = n ∧ bs.length = n + rest.length := by
  rw [takeBytes] at h
  split at h
  · cases h
  · next hfits =>
    cases h
    rw [List.length_take, List.length_drop]
    omega

/-- The length has a size of its own, which limits what it can say. -/
theorem readDelimited_eq_ok {bs value rest : Bytes} (h : readDelimited bs = .ok (value, rest)) :
    ∃ size, 0 < size ∧ bs.length = size + value.length + rest.length
      ∧ value.length < 128 ^ size := by
  simp only [readDelimited, except_bind_eq_ok_iff] at h
  obtain ⟨⟨n, after⟩, hread, htake⟩ := h
  obtain ⟨size, hpos, hlength, hn⟩ := readVarint_eq_ok hread
  obtain ⟨hvalue, hafter⟩ := takeBytes_eq_ok htake
  dsimp only at hafter
  exact ⟨size, hpos, by omega, by rw [hvalue]; exact hn⟩

/-- A group is skipped field by field up to its end; fuel only bounds how many fields there are. -/
theorem skipGroup_length_le {skip : Key → Bytes → Except Fault Bytes}
    (hskip : ∀ key bs rest, skip key bs = .ok rest → rest.length ≤ bs.length) {number fuel : Nat}
    {bs rest : Bytes} (h : skipGroup skip number fuel bs = .ok rest) :
    rest.length ≤ bs.length := by
  induction fuel generalizing bs with
  | zero => cases h
  | succ fuel ih =>
    simp only [skipGroup, except_bind_eq_ok_iff] at h
    obtain ⟨⟨key, after⟩, hkey, h⟩ := h
    have hless := readKey_length_lt hkey
    dsimp only at h
    split at h
    · -- The key ends a group: it must be this one.
      split at h
      · cases h
        omega
      · cases h
    · obtain ⟨more, hmore, hrest⟩ := except_bind_eq_ok_iff.mp h
      have := hskip _ _ _ hmore
      have := ih hrest
      omega

/-- Skipping a field takes bytes away and adds none. -/
theorem skipField_length_le {depth : Nat} {key : Key} {bs rest : Bytes}
    (h : skipField depth key bs = .ok rest) : rest.length ≤ bs.length := by
  induction depth generalizing key bs rest with
  | zero => cases h
  | succ depth ih =>
    rw [skipField] at h
    -- One case for each wire type.  Only a group holds fields that are skipped in turn.
    split at h
    · obtain ⟨⟨n, after⟩, hread, rfl⟩ := except_map_eq_ok_iff.mp h
      obtain ⟨size, -, hlength, -⟩ := readVarint_eq_ok hread
      dsimp only
      omega
    · obtain ⟨⟨value, after⟩, hread, rfl⟩ := except_map_eq_ok_iff.mp h
      have := takeBytes_eq_ok hread
      dsimp only
      omega
    · obtain ⟨⟨value, after⟩, hread, rfl⟩ := except_map_eq_ok_iff.mp h
      have := takeBytes_eq_ok hread
      dsimp only
      omega
    · obtain ⟨⟨value, after⟩, hread, rfl⟩ := except_map_eq_ok_iff.mp h
      obtain ⟨size, -, hlength, -⟩ := readDelimited_eq_ok hread
      dsimp only
      omega
    · exact skipGroup_length_le (fun _ _ _ => ih) h
    · cases h

/-! ### Sizes of messages -/

/-- One occurrence of the field raises the size by no more than `rate` for each of its bytes.  The key
    in front of the value has one byte at least. -/
def Field.Grows (f : Field α) (rate : Nat) (size : α → Nat) : Prop :=
  ∀ depth wireType a bs b rest, f.merge depth wireType a bs = .ok (b, rest) →
    size b + rate * rest.length ≤ size a + rate * (bs.length + 1)

namespace Layout

variable {l : Layout α} {rate : Nat} {size : α → Nat}

/-- Reading raises the size of a message by no more than `rate` for each byte. -/
def Grows (l : Layout α) (rate : Nat) (size : α → Nat) : Prop :=
  ∀ depth limit fuel a bs b rest, l.mergeFields depth limit fuel a bs = .ok (b, rest) →
    size b + rate * rest.length ≤ size a + rate * bs.length

/-- Step lemma: a field of the layout adds what it may, an unknown one adds nothing. -/
theorem mergeField_grows (hfields : ∀ f ∈ l.fields, f.Grows rate size) {depth : Nat} {key : Key}
    {a b : α} {bs rest : Bytes} (h : l.mergeField depth key a bs = .ok (b, rest)) :
    size b + rate * rest.length ≤ size a + rate * (bs.length + 1) := by
  rw [mergeField] at h
  split at h
  · next f hf =>
    exact hfields f (List.mem_of_find?_eq_some hf) _ _ _ _ _ _ (except_mapError_eq_ok_iff.mp h)
  · obtain ⟨after, hskip, heq⟩ := except_map_eq_ok_iff.mp h
    obtain ⟨rfl, rfl⟩ := Prod.mk.inj heq
    have hless := skipField_length_le (except_mapError_eq_ok_iff.mp hskip)
    exact Nat.add_le_add_left (Nat.mul_le_mul_left rate (by omega)) _

/-- Run lemma: what each field may add, a message may. -/
theorem grows_of_fields (hfields : ∀ f ∈ l.fields, f.Grows rate size) : l.Grows rate size := by
  intro depth limit fuel
  induction fuel with
  | zero =>
    intro a bs b rest h
    cases h
    exact Nat.le_refl _
  | succ fuel ih =>
    intro a bs b rest h
    rw [mergeFields] at h
    split at h
    · cases h
      exact Nat.le_refl _
    · simp only [except_bind_eq_ok_iff] at h
      obtain ⟨⟨key, after⟩, hkey, ⟨c, more⟩, hfield, hrest⟩ := h
      have hless := readKey_length_lt (except_mapError_eq_ok_iff.mp hkey)
      -- The field may use what lies between the two keys, the fields behind it what is left.
      calc size b + rate * rest.length
          ≤ size c + rate * more.length := ih _ _ _ _ hrest
        _ ≤ size a + rate * (after.length + 1) := mergeField_grows hfields hfield
        _ ≤ size a + rate * bs.length :=
            Nat.add_le_add_left (Nat.mul_le_mul_left rate hless) _

/-- A nested message of `n` bytes behind its length adds what `n` bytes may. -/
theorem mergeNested_eq_ok (hgrows : l.Grows rate size) {depth : Nat} {a b : α} {bs rest : Bytes}
    (h : l.mergeNested depth a bs = .ok (b, rest)) :
    ∃ n k, 0 < k ∧ bs.length = k + n + rest.length ∧ n < 128 ^ k
      ∧ size b ≤ size a + rate * n := by
  cases depth with
  | zero => cases h
  | succ depth =>
    simp only [mergeNested, except_bind_eq_ok_iff] at h
    obtain ⟨⟨n, after⟩, hread, h⟩ := h
    obtain ⟨k, hpos, hlength, hn⟩ := readVarint_eq_ok (except_mapError_eq_ok_iff.mp hread)
    dsimp only at h
    split at h
    · cases h
    · next hfits =>
      obtain ⟨⟨c, more⟩, hfields, h⟩ := except_bind_eq_ok_iff.mp h
      dsimp only at h
      split at h
      · cases h
      · next hend =>
        cases h
        have hadded := hgrows _ _ _ _ _ _ _ hfields
        -- The fields end where the length says, so that they had `n` bytes.
        have hafter : after.length = n + rest.length := by omega
        rw [hafter, Nat.mul_add] at hadded
        exact ⟨n, k, hpos, by omega, hn, by omega⟩

end Layout

end ChartTrace.Wire
