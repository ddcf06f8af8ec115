import ChartTrace.Proofs.TextRanges
import ChartTrace.Yaml.Position

namespace ChartTrace.Yaml

/-!
# Lines of a YAML reader

A YAML reader ends a line at U+0085 too, where `splitLines` does not.

* `lineAt`: the line of a byte offset for a YAML reader; `nextLinesAt`: how often U+0085 stands before
  an offset;
* `lineAt_add_one`: the two numberings differ by that much;
* `Cursor.Reaches`: going on over single characters and whole line breaks;
* `Cursor.Reaches.exists_before`: the position of a cursor that a reader gets to this way counts the
  characters and the lines before it.
-/

/-! ### Lines of byte offsets -/

/-- The line of a byte offset from 0: how many line breaks end at or before it. -/
def lineAt : List Char → Nat → Nat
  | [], _ => 0
  | '\r' :: '\n' :: cs, offset => if offset < 2 then 0 else lineAt cs (offset - 2) + 1
  | c :: cs, offset =>
    if offset < c.utf8Size then 0 else lineAt cs (offset - c.utf8Size) + (isBreak c).toNat

/-- How many times U+0085 ends at or before a byte offset. -/
def nextLinesAt : List Char → Nat → Nat
  | [], _ => 0
  | c :: cs, offset =>
    if offset < c.utf8Size then 0 else nextLinesAt cs (offset - c.utf8Size) + (c == '\u0085').toNat

@[simp] theorem lineAt_zero (text : List Char) : lineAt text 0 = 0 := by
  unfold lineAt
  split
  · rfl
  · rfl
  · next c cs _ => exact if_pos c.utf8Size_pos

/-- Behind CR LF the next line has begun. -/
theorem lineAt_crlf (cs : List Char) (n : Nat) :
    lineAt ('\r' :: '\n' :: cs) (2 + n) = lineAt cs n + 1 := by
  rw [lineAt, if_neg (by omega), Nat.add_sub_cancel_left]

/-- Behind any other character a line has begun if it is a line break. -/
theorem lineAt_cons {c : Char} {cs : List Char} (hcrlf : ∀ ds, c = '\r' → cs = '\n' :: ds → False)
    (n : Nat) : lineAt (c :: cs) (c.utf8Size + n) = lineAt cs n + (isBreak c).toNat := by
  rw [lineAt.eq_3 _ _ _ hcrlf, if_neg (by omega), Nat.add_sub_cancel_left]

/-- U+0085 is counted once its bytes are passed. -/
theorem nextLinesAt_cons (c : Char) (cs : List Char) (n : Nat) :
    nextLinesAt (c :: cs) (c.utf8Size + n) = nextLinesAt cs n + (c == '\u0085').toNat := by
  rw [nextLinesAt, if_neg (by omega), Nat.add_sub_cancel_left]

/-- A YAML reader ends lines where all readers do, and at U+0085. -/
theorem toNat_isBreak (c : Char) :
    (isBreak c).toNat = (isTerminator c).toNat + (c == '\u0085').toNat := by
  by_cases h : c = '\u0085'
  · subst h
    rfl
  · have hne : (c == '\u0085') = false := beq_false_of_ne h
    simp [isBreak, isTerminator, hne]

/-- The numberings of the lines of a text that starts at byte `start` with line `number`. -/
theorem line_pointerIn (text : List Char) (start number offset : Nat) :
    (pointerIn (start + offset) start number (splitLines text)).line + nextLinesAt text offset
      = number + lineAt text offset := by
  -- The induction follows `splitLines`: the end, CR LF, another terminator, and a character within a
  -- line.
  fun_induction splitLines text generalizing start number offset with
  | case1 => simp [pointerIn, nextLinesAt, lineAt]
  | case2 cs ih =>
    have hsize : byteLength (Line.text ⟨[], ['\r', '\n']⟩) = 2 := rfl
    rw [pointerIn, hsize]
    by_cases hoffset : offset < 2
    · have hnone : nextLinesAt ('\r' :: '\n' :: cs) offset = 0 := by
        obtain rfl | rfl : offset = 0 ∨ offset = 1 := by omega
        · rfl
        · rfl
      rw [hnone, lineAt, if_pos hoffset, if_pos (by simp [hoffset])]
    · obtain ⟨n, rfl⟩ : ∃ n, offset = 2 + n := ⟨offset - 2, by omega⟩
      have hnext : nextLinesAt ('\r' :: '\n' :: cs) (2 + n) = nextLinesAt cs n := by
        have hcr : '\r'.utf8Size + ('\n'.utf8Size + n) = 2 + n := by
          rw [← Nat.add_assoc]
          rfl
        rw [← hcr, nextLinesAt_cons, nextLinesAt_cons]
        rfl
      have hrest := ih (start + 2) (number + 1) n
      have hlater : ¬(decide (start + (2 + n) < start + 2) || ['\r', '\n'].isEmpty) = true := by
        simp only [List.isEmpty_cons, Bool.or_false, decide_eq_true_eq]
        omega
      rw [if_neg hlater, lineAt_crlf, hnext, ← Nat.add_assoc, hrest]
      omega
  | case3 c cs hcrlf hc ih =>
    have hsize : byteLength (Line.text ⟨[], [c]⟩) = c.utf8Size := rfl
    rw [pointerIn, hsize]
    by_cases hoffset : offset < c.utf8Size
    · rw [nextLinesAt, lineAt.eq_3 _ _ _ hcrlf, if_pos hoffset, if_pos hoffset,
        if_pos (by simp [hoffset])]
    · obtain ⟨n, rfl⟩ : ∃ n, offset = c.utf8Size + n := ⟨offset - c.utf8Size, by omega⟩
      have hrest := ih (start + c.utf8Size) (number + 1) n
      -- A terminator is a line break for both, so that both numbers grow by one and U+0085 is not among
      -- them.
      have hbreak := toNat_isBreak c
      rw [hc, Bool.toNat_true] at hbreak
      have hlater : ¬(decide (start + (c.utf8Size + n) < start + c.utf8Size) || [c].isEmpty) = true := by
        simp only [List.isEmpty_cons, Bool.or_false, decide_eq_true_eq]
        omega
      rw [if_neg hlater, lineAt_cons hcrlf, nextLinesAt_cons, ← Nat.add_assoc start]
      omega
  | case4 c cs hcrlf hc ih =>
    obtain ⟨l, ls, hls⟩ := splitLines_eq_cons cs
    rw [hls] at ih ⊢
    have hsize : start + byteLength (Line.text ⟨c :: l.content, l.terminator⟩)
        = start + c.utf8Size + byteLength l.text := by
      simp [Line.text, byteLength_append, byteLength_cons, Nat.add_assoc]
    show (pointerIn (start + offset) start number (⟨c :: l.content, l.terminator⟩ :: ls)).line + _ = _
    rw [pointerIn, hsize]
    by_cases hoffset : offset < c.utf8Size
    · rw [nextLinesAt, lineAt.eq_3 _ _ _ hcrlf, if_pos hoffset, if_pos hoffset, if_pos]
      simp only [Bool.or_eq_true, decide_eq_true_eq]
      exact Or.inl (by omega)
    · -- The character stands on the first line, whose number stays the same.
      obtain ⟨n, rfl⟩ : ∃ n, offset = c.utf8Size + n := ⟨offset - c.utf8Size, by omega⟩
      have hrest := ih (start + c.utf8Size) number n
      -- Within a line only U+0085 is a line break, and it is counted on the other side.
      have hbreak := toNat_isBreak c
      rw [show isTerminator c = false by simpa using hc, Bool.toNat_false] at hbreak
      rw [pointerIn] at hrest
      rw [lineAt_cons hcrlf, nextLinesAt_cons, ← Nat.add_assoc start]
      split at hrest
      · next hhere =>
        rw [if_pos hhere]
        dsimp only at hrest ⊢
        omega
      · next hhere =>
        rw [if_neg hhere]
        omega

/-- **Two numberings.** The line of an offset for a YAML reader, counted from 1, is the number of its
    line and one more for every U+0085 before it. -/
theorem lineAt_add_one (text : List Char) (offset : Nat) :
    lineAt text offset + 1 = (pointerAt text offset).line + nextLinesAt text offset := by
  have h := line_pointerIn text 0 1 offset
  rw [Nat.zero_add] at h
  rw [pointerAt, h]
  omega

/-! ### Going on in a text -/

/-- The cursor `c` can be reached from `o` over single characters and whole line breaks. -/
inductive Cursor.Reaches (o : Cursor) : Cursor → Prop
  | refl : o.Reaches o
  | skip {c : Cursor} {d : Char} {ds : List Char} : o.Reaches c → c.rest = d :: ds →
      isBreak d = false → o.Reaches c.skip
  | skipBreak {c : Cursor} : o.Reaches c → atBreak c.rest = true → o.Reaches c.skipBreak

/-- What a line break at the cursor is. -/
theorem Cursor.skipBreak_cases {c : Cursor} (h : atBreak c.rest = true) :
    (∃ cs, c.rest = '\r' :: '\n' :: cs ∧ c.skipBreak = ⟨cs, c.position.nextLine 2⟩)
    ∨ ∃ d cs, c.rest = d :: cs ∧ isBreak d = true ∧ (∀ ds, d = '\r' → cs = '\n' :: ds → False)
      ∧ c.skipBreak = ⟨cs, c.position.nextLine 1⟩ := by
  obtain ⟨rest, q⟩ := c
  unfold skipBreak takeBreak
  dsimp only at h ⊢
  split
  · next cs => exact Or.inl ⟨cs, rfl, rfl⟩
  · next d cs hcrlf =>
    have hbreak : isBreak d = true := h
    refine Or.inr ⟨d, cs, rfl, hbreak, fun ds hd hcs => hcrlf ds hd hcs, ?_⟩
    split
    · rfl
    · rfl
  · cases h

/-- A cursor that a reader gets to from the beginning of a text parts the text, and its position counts
    what is before it. -/
theorem Cursor.Reaches.exists_before {text : List Char} {c : Cursor}
    (h : Reaches ⟨text, .origin⟩ c) :
    ∃ before, text = before ++ c.rest ∧ c.position.index = before.length
      ∧ ∀ n, lineAt text (byteLength before + n) = c.position.line + lineAt c.rest n := by
  induction h with
  | refl => exact ⟨[], rfl, rfl, fun n => by simp [Position.origin]⟩
  | @skip c d ds _ hrest hd ih =>
    obtain ⟨before, htext, hindex, hline⟩ := ih
    refine ⟨before ++ [d], ?_, ?_, fun n => ?_⟩
    · rw [htext, hrest, List.append_assoc]
      simp [Cursor.skip, hrest]
    · simp [Cursor.skip, Position.next, hindex]
    · -- A character that ends no line is not the CR of a line break.
      have hcrlf : ∀ es, d = '\r' → ds = '\n' :: es → False := by
        rintro es rfl -
        cases hd
      have hstep := hline (d.utf8Size + n)
      rw [hrest, lineAt_cons hcrlf, hd, Bool.toNat_false] at hstep
      rw [byteLength_append, byteLength_cons, byteLength_nil, Nat.add_zero, Nat.add_assoc, hstep]
      simp [Cursor.skip, Position.next, hrest]
  | @skipBreak c _ hbreak ih =>
    obtain ⟨before, htext, hindex, hline⟩ := ih
    rcases Cursor.skipBreak_cases hbreak with ⟨cs, hrest, hskip⟩ | ⟨d, cs, hrest, hd, hcrlf, hskip⟩
    · refine ⟨before ++ ['\r', '\n'], ?_, ?_, fun n => ?_⟩
      · rw [htext, hrest, hskip, List.append_assoc]
        rfl
      · simp [hskip, Position.nextLine, hindex]
      · have hstep := hline (2 + n)
        rw [hrest, lineAt_crlf] at hstep
        have hsize : byteLength (before ++ ['\r', '\n']) = byteLength before + 2 :=
          byteLength_append _ _
        rw [hsize, Nat.add_assoc, hstep, hskip]
        simp only [Position.nextLine]
        omega
    · refine ⟨before ++ [d], ?_, ?_, fun n => ?_⟩
      · rw [htext, hrest, hskip, List.append_assoc]
        rfl
      · simp [hskip, Position.nextLine, hindex]
      · have hstep := hline (d.utf8Size + n)
        rw [hrest, lineAt_cons hcrlf, hd, Bool.toNat_true] at hstep
        rw [byteLength_append, byteLength_cons, byteLength_nil, Nat.add_zero, Nat.add_assoc, hstep,
          hskip]
        simp only [Position.nextLine]
        omega

end ChartTrace.Yaml
