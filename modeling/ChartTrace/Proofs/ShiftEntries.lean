import ChartTrace.Diagnostic
import ChartTrace.Proofs.Lines
import ChartTrace.Rendered
import Mathlib.Data.List.Basic

namespace ChartTrace

/-!
# The entries of a cleaned text

Cleaning keeps the lines that show anything without their markers, numbers them, and records an
entry for each one that carried a marker:

* `keepLine?_of_stripMarker`, `keptLines_map`: the lines that are kept, one by one and of a text;
* `keptEntries`: the entries of kept lines, in order; `entries_recordShifts` and `entries_clean` say
  that recording and cleaning make exactly these;
* `mem_keptEntries`: one entry for each marked line;
* `entry?_keptLines`: the entry of line `i + 1` is that of the kept line at index `i`;
* `relocate_of_entry`: an error on a line with an entry moves to the first template line of the
  entry.
-/

/-! ### Kept lines -/

/-- A line is kept, without its marker, when it shows anything then. -/
theorem keepLine?_of_stripMarker {l : Line} {content : List Char} {lines? : Option (Nat × Nat)}
    (h : stripMarker l.content = (content, lines?)) :
    keepLine? l = if Line.isVisible ⟨content, l.terminator⟩
      then some ⟨⟨content, l.terminator⟩, lines?⟩ else none := by
  simp only [keepLine?, h, Line.isVisible]
  by_cases hblank : allBlank content = true
  · simp [hblank]
  · simp [hblank]

/-- The kept lines of a text, when it is known of each line whether it is kept and as what. -/
theorem keptLines_map {α : Type} {line : α → Line} {visible : α → Bool} {kept : α → KeptLine}
    {xs : List α}
    (h : ∀ x ∈ xs, keepLine? (line x) = if visible x then some (kept x) else none) :
    keptLines (xs.map line) = (xs.filter visible).map kept := by
  induction xs with
  | nil => rfl
  | cons x xs ih =>
    have hrest := ih (fun y hy => h y (List.mem_cons_of_mem x hy))
    rw [keptLines] at hrest ⊢
    rw [List.map_cons, List.filterMap_cons, h x (by simp), List.filter_cons]
    cases visible x with
    | false => exact hrest
    | true => simpa using hrest

/-! ### Entries -/

/-- The entry of a kept line that has a given number, if the line carried a marker. -/
def KeptLine.shift? (k : KeptLine) (number : Nat) : Option ShiftEntry :=
  k.lines?.map fun p => ⟨number, min p.1 p.2, max p.1 p.2⟩

/-- The entries of kept lines, the first of which has number `number`. -/
def keptEntries : Nat → List KeptLine → List ShiftEntry
  | _, [] => []
  | number, k :: ks => (k.shift? number).toList ++ keptEntries (number + 1) ks

/-- The entry of a kept line is filed under the number of the line. -/
theorem KeptLine.renderedLine_of_shift? {k : KeptLine} {number : Nat} {e : ShiftEntry}
    (h : k.shift? number = some e) : e.renderedLine = number := by
  obtain ⟨p, -, rfl⟩ := Option.map_eq_some_iff.mp h
  rfl

/-! ### Recording -/

/-- **Run lemma.** Recording adds the entries of the kept lines behind those that are there, when
    these are about earlier lines. -/
theorem entries_recordShifts (ks : List KeptLine) (number : Nat) (t : ShiftTable)
    (ht : ∀ e ∈ t.entries, e.renderedLine < number) :
    (recordShifts number ks t).entries = t.entries ++ keptEntries number ks := by
  induction ks generalizing number t with
  | nil => simp [recordShifts, keptEntries]
  | cons k ks ih =>
    rw [recordShifts, keptEntries]
    cases hk : k.lines? with
    | none =>
      rw [ih (number + 1) t (fun e he => by have := ht e he; omega)]
      simp [KeptLine.shift?, hk]
    | some p =>
      obtain ⟨a, b⟩ := p
      have hadd : (t.add number a b).entries = t.entries ++ [⟨number, min a b, max a b⟩] :=
        SortedList.insertInto_of_lt ht
      -- The new entry is behind all others, so the table is still about earlier lines.
      rw [ih (number + 1) (t.add number a b), hadd]
      · simp [KeptLine.shift?, hk]
      · intro e he
        rw [hadd, List.mem_append, List.mem_singleton] at he
        rcases he with he | rfl
        · have := ht e he; omega
        · exact Nat.lt_succ_self number

/-- A cleaned text has the entries of its kept lines, and no others. -/
theorem entries_clean (rendered : List Char) :
    (clean rendered).shifts.entries = keptEntries 1 (keptLines (splitLines rendered)) :=
  entries_recordShifts _ 1 .empty (by simp)

/-! ### The recorded entries -/

/-- The entries are those of the kept lines, each at its number. -/
theorem mem_keptEntries {ks : List KeptLine} {number : Nat} {e : ShiftEntry} :
    e ∈ keptEntries number ks
      ↔ ∃ (i : Nat) (k : KeptLine), ks[i]? = some k ∧ k.shift? (number + i) = some e := by
  induction ks generalizing number with
  | nil => simp [keptEntries]
  | cons k ks ih =>
    rw [keptEntries, List.mem_append, Option.mem_toList, ih]
    -- The entry is that of the first line, or of a later one counted from there.
    constructor
    · rintro (h | ⟨i, j, hj, h⟩)
      · exact ⟨0, k, rfl, h⟩
      · exact ⟨i + 1, j, by simpa using hj, by rw [← h]; congr 1; omega⟩
    · rintro ⟨i, j, hj, h⟩
      cases i with
      | zero =>
        obtain rfl : k = j := by simpa using hj
        exact Or.inl h
      | succ i => exact Or.inr ⟨i, j, by simpa using hj, by rw [← h]; congr 1; omega⟩

/-- Numbers go up from the first. -/
theorem le_renderedLine_of_mem_keptEntries {ks : List KeptLine} {number : Nat} {e : ShiftEntry}
    (he : e ∈ keptEntries number ks) : number ≤ e.renderedLine := by
  obtain ⟨i, k, -, h⟩ := mem_keptEntries.mp he
  rw [KeptLine.renderedLine_of_shift? h]
  exact Nat.le_add_right number i

/-- The entry that is found for a number is that of the line with the number. -/
theorem find?_keptEntries (ks : List KeptLine) (number i : Nat) :
    (keptEntries number ks).find? (fun e => e.renderedLine == number + i)
      = ks[i]?.bind (fun k => k.shift? (number + i)) := by
  induction ks generalizing number i with
  | nil => simp [keptEntries]
  | cons k ks ih =>
    rw [keptEntries, List.find?_append]
    cases i with
    | zero =>
      -- All later lines have greater numbers.
      have hrest : (keptEntries (number + 1) ks).find? (fun e => e.renderedLine == number + 0)
          = none := by
        rw [List.find?_eq_none]
        intro e he
        have := le_renderedLine_of_mem_keptEntries he
        simp only [beq_iff_eq]
        omega
      rw [hrest, Option.or_none, List.getElem?_cons_zero, Option.bind_some, Nat.add_zero]
      cases hk : k.shift? number with
      | none => rfl
      | some e => simp [KeptLine.renderedLine_of_shift? hk]
    -- The first line has another number, so the search goes on with the rest.
    | succ i =>
      have hfirst : (k.shift? number).toList.find? (fun e => e.renderedLine == number + (i + 1))
          = none := by
        rw [List.find?_eq_none]
        intro e he
        have := KeptLine.renderedLine_of_shift? (Option.mem_toList.mp he)
        simp only [beq_iff_eq]
        omega
      have hnumber : number + (i + 1) = number + 1 + i := by omega
      rw [hfirst, Option.none_or, hnumber, ih, List.getElem?_cons_succ]

/-- **Look-up.** The entry of a line of the cleaned text is that of the kept line it is. -/
theorem entry?_keptLines (rendered : List Char) (i : Nat) :
    (clean rendered).shifts.entry? (i + 1)
      = (keptLines (splitLines rendered))[i]?.bind (fun k => k.shift? (i + 1)) := by
  have hnumber : i + 1 = 1 + i := Nat.add_comm i 1
  rw [ShiftTable.entry?_eq_find?, entries_clean, hnumber]
  exact find?_keptEntries _ 1 i

/-! ### Moving errors -/

/-- Where a table moves a mark: to the first column of the first template line, or nowhere when the
    line of the mark has no entry. -/
def ShiftTable.moveMark (t : ShiftTable) (m : Mark) : Mark :=
  match t.entry? (m.line + 1) with
  | some e => ⟨e.templateStart - 1, 0⟩
  | none => m

/-- A mark is moved by the entry of its line, which is counted from one. -/
theorem shiftMark?_of_lt {m : Mark} (t : ShiftTable) (hm : m.line + 1 < wordLimit) :
    shiftMark? m t = some ((t.entry? (m.line + 1)).map fun e => ⟨e.templateStart - 1, 0⟩) := by
  simp [shiftMark?, addWord?, hm]

/-- An error on a line with an entry is reported on the template, its context moved along.  The
    lines of its marks have word numbers. -/
theorem relocate_of_entry {e : MarkedError} {t : ShiftTable} {m : Mark} {entry : ShiftEntry}
    (hm : e.problemMark = some m) (hline : m.line + 1 < wordLimit)
    (hentry : t.entry? (m.line + 1) = some entry)
    (hcontext : ∀ c ∈ e.contextMark, c.line + 1 < wordLimit) :
    relocate e t = some (.shifted e { e with
      problemMark := some ⟨entry.templateStart - 1, 0⟩
      contextMark := e.contextMark.map t.moveMark }) := by
  have hproblem := shiftMark?_of_lt t hline
  rw [hentry, Option.map_some] at hproblem
  -- The context is moved on its own, and stays where its line has no entry.
  cases hc : e.contextMark with
  | none => simp [relocate, hm, hproblem, hc]
  | some c =>
    have hmark := shiftMark?_of_lt t (hcontext c hc)
    cases h : t.entry? (c.line + 1) <;>
      simp [relocate, hm, hproblem, hc, hmark, h, ShiftTable.moveMark]

end ChartTrace
