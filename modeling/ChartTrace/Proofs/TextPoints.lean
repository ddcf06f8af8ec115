import ChartTrace.Location
import ChartTrace.Proofs.Lines

namespace ChartTrace

/-!
# Points of a text

* `Pointer.IsIn`: points that a text has: a line of it, and no more characters than its content;
* pointers are ordered by line first;
* `isIn_pointerAt`, `pointerAt_mono`: every byte offset has such a point, and later offsets later
  ones.
-/

/-- Line by line, and on one line character by character. -/
instance : LE Pointer where
  le p q := p.line < q.line ∨ p.line = q.line ∧ p.column ≤ q.column

instance (p q : Pointer) : Decidable (p ≤ q) :=
  inferInstanceAs (Decidable (p.line < q.line ∨ p.line = q.line ∧ p.column ≤ q.column))

/-- Points that are each at most the other are the same. -/
theorem Pointer.le_antisymm {p q : Pointer} (hpq : p ≤ q) (hqp : q ≤ p) : p = q := by
  obtain ⟨line, column⟩ := p
  obtain ⟨line', column'⟩ := q
  have hpq' : line < line' ∨ line = line' ∧ column ≤ column' := hpq
  have hqp' : line' < line ∨ line' = line ∧ column' ≤ column := hqp
  rw [Pointer.mk.injEq]
  omega

/-- The point lies on a line of the text, within its content or right behind it. -/
structure Pointer.IsIn (p : Pointer) (text : List Char) : Prop where
  line_pos : 1 ≤ p.line
  line_le : p.line ≤ (splitLines text).length
  column_le : ∀ l, (splitLines text)[p.line - 1]? = some l → p.column ≤ l.content.length

/-! ### Characters in front of a byte -/

/-- No more characters start than there are. -/
theorem charsStarting_le_length (cs : List Char) (bytes : Nat) :
    charsStarting cs bytes ≤ cs.length := by
  induction cs generalizing bytes with
  | nil => exact Nat.le_refl _
  | cons c cs ih =>
    rw [charsStarting, List.length_cons]
    split
    · exact Nat.zero_le _
    · exact Nat.succ_le_succ (ih _)

/-- More bytes hold at least as many of them. -/
theorem charsStarting_mono (cs : List Char) {b b' : Nat} (h : b ≤ b') :
    charsStarting cs b ≤ charsStarting cs b' := by
  induction cs generalizing b b' with
  | nil => exact Nat.le_refl _
  | cons c cs ih =>
    rw [charsStarting, charsStarting]
    by_cases hb : b = 0
    · rw [if_pos hb]
      exact Nat.zero_le _
    · rw [if_neg hb, if_neg (by omega)]
      exact Nat.succ_le_succ (ih (by omega))

/-! ### The point of an offset -/

/-- The point of an offset lies on one of the lines, the last of which has no terminator to pass. -/
theorem pointerIn_eq {ls : List Line} (hls : AreLines ls) (offset start number : Nat) :
    ∃ i l bytes, ls[i]? = some l
      ∧ pointerIn offset start number ls = ⟨number + i, charsStarting l.content bytes⟩ := by
  induction ls generalizing start number with
  | nil => exact hls.elim
  | cons l ls ih =>
    rw [pointerIn]
    by_cases hhere : (offset < start + byteLength l.text || l.terminator.isEmpty) = true
    · exact ⟨0, l, offset - start, rfl, if_pos hhere⟩
    · cases ls with
      | nil =>
        -- The last line has no terminator, so the search stops on it at the latest.
        exact absurd hhere (by simp [hls.2])
      | cons k ls =>
        obtain ⟨i, m, bytes, hi, hpoint⟩ := ih hls.2.2.2 (start + byteLength l.text) (number + 1)
        refine ⟨i + 1, m, bytes, hi, ?_⟩
        rw [if_neg hhere, hpoint, Nat.add_assoc, Nat.add_comm 1]

/-- Every offset has its point in the text, also one beyond the end. -/
theorem isIn_pointerAt (text : List Char) (offset : Nat) : (pointerAt text offset).IsIn text := by
  obtain ⟨i, l, bytes, hi, hpoint⟩ := pointerIn_eq (areLines_splitLines text) offset 0 1
  rw [pointerAt, hpoint]
  refine ⟨by dsimp only; omega, ?_, ?_⟩
  · have hlt := (List.getElem?_eq_some_iff.mp hi).1
    dsimp only
    omega
  · intro k hk
    rw [show 1 + i - 1 = i by omega, hi] at hk
    cases hk
    exact charsStarting_le_length _ _

/-- Points do not go back behind the line where the search begins. -/
theorem number_le_line_pointerIn (ls : List Line) (offset start number : Nat) :
    number ≤ (pointerIn offset start number ls).line := by
  induction ls generalizing start number with
  | nil => exact Nat.le_refl _
  | cons l ls ih =>
    rw [pointerIn]
    split
    · exact Nat.le_refl _
    · exact Nat.le_of_succ_le (ih _ (number + 1))

/-- A later offset leaves no line earlier. -/
theorem pointerIn_mono (ls : List Line) {offset offset' : Nat} (h : offset ≤ offset')
    (start number : Nat) :
    pointerIn offset start number ls ≤ pointerIn offset' start number ls := by
  induction ls generalizing start number with
  | nil => exact Or.inr ⟨rfl, Nat.le_refl _⟩
  | cons l ls ih =>
    rw [pointerIn, pointerIn]
    by_cases hhere' : (offset' < start + byteLength l.text || l.terminator.isEmpty) = true
    · have hhere : (offset < start + byteLength l.text || l.terminator.isEmpty) = true := by
        simp only [Bool.or_eq_true, decide_eq_true_eq] at hhere' ⊢
        exact hhere'.imp_left (Nat.lt_of_le_of_lt h)
      -- Both offsets are on this line: the columns decide.
      rw [if_pos hhere, if_pos hhere']
      exact Or.inr ⟨rfl, charsStarting_mono _ (Nat.sub_le_sub_right h start)⟩
    · rw [if_neg hhere']
      by_cases hhere : (offset < start + byteLength l.text || l.terminator.isEmpty) = true
      · rw [if_pos hhere]
        exact Or.inl (number_le_line_pointerIn ls _ _ (number + 1))
      · rw [if_neg hhere]
        exact ih _ _

/-- Points keep the order of offsets. -/
theorem pointerAt_mono (text : List Char) {offset offset' : Nat} (h : offset ≤ offset') :
    pointerAt text offset ≤ pointerAt text offset' :=
  pointerIn_mono _ h 0 1

/-- The range of a location within the text goes from the point of its start to that of its end. -/
theorem toRange_eq_ok {l : Location} {text : List Char}
    (hl : l.position + l.length ≤ byteLength text) (htext : byteLength text < wordLimit) :
    l.toRange text
      = .ok ⟨pointerAt text l.position, pointerAt text (l.position + l.length)⟩ := by
  have hend : l.end? = some (l.position + l.length) := by
    rw [Location.end?, addWord?, if_pos (Nat.lt_of_le_of_lt hl htext)]
  rw [Location.toRange, hend]
  exact if_neg (Nat.not_lt.mpr hl)

/-- **Ranges.** A location that lies within the text has a range of points of the text, in order. -/
theorem toRange_of_le {l : Location} {text : List Char}
    (hl : l.position + l.length ≤ byteLength text)
    (htext : byteLength text < wordLimit) :
    ∃ r, l.toRange text = .ok r ∧ r.start ≤ r.stop ∧ r.start.IsIn text ∧ r.stop.IsIn text :=
  ⟨_, toRange_eq_ok hl htext, pointerAt_mono text (Nat.le_add_right _ _), isIn_pointerAt _ _,
    isIn_pointerAt _ _⟩

end ChartTrace
