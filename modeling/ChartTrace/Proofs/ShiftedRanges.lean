import ChartTrace.Proofs.TextPoints
import ChartTrace.ShiftTable

namespace ChartTrace

/-!
# Ranges on the template

A table whose entries keep the order of the lines takes ranges to ranges, and parts to parts:

* `TableStep`, `ShiftTable.after`: the tables that can be made, step by step from the empty one;
* `ShiftTable.isOrdered_step`, `ShiftTable.isOrdered_after`: the template lines of an entry are in order,
  whichever way they were given;
* `ShiftTable.shiftRange_of_entries`: both ends move to the borders of their template lines, so that only
  their lines matter;
* `ShiftTable.shiftRange_mono`: the moved range is in order, and within what its surroundings move to.
-/

/-! ### Making a table -/

/-- A step in the making of a shift table. -/
inductive TableStep where
  /-- An entry for a rendered line, its template lines in either order. -/
  | add (renderedLine a b : Nat)
  /-- The template, with the sizes of its lines. -/
  | template (source : List Char)

namespace ShiftTable

/-- The table after one more step. -/
def step (t : ShiftTable) : TableStep → ShiftTable
  | .add renderedLine a b => t.add renderedLine a b
  | .template source => t.withTemplate source

/-- The table that steps make out of the empty one. -/
def after (steps : List TableStep) : ShiftTable := steps.foldl step empty

/-- No entry ends before it starts. -/
def IsOrdered (t : ShiftTable) : Prop := ∀ e ∈ t.entries, e.templateStart ≤ e.templateEnd

/-- **Step lemma.** An entry is recorded with its template lines in order, and a template changes none. -/
theorem isOrdered_step {t : ShiftTable} (ht : t.IsOrdered) (s : TableStep) : (t.step s).IsOrdered := by
  cases s with
  | template source => exact ht
  | add renderedLine a b =>
    intro e he
    rcases SortedList.of_mem_insert he with rfl | he
    · show min a b ≤ max a b
      omega
    · exact ht e he

/-- All steps together keep it, whatever table they begin with. -/
theorem isOrdered_foldl {t : ShiftTable} (ht : t.IsOrdered) (steps : List TableStep) :
    (steps.foldl step t).IsOrdered := by
  induction steps generalizing t with
  | nil => exact ht
  | cons s steps ih => exact ih (isOrdered_step ht s)

/-- **Run lemma.** However a table is made, no entry ends before it starts. -/
theorem isOrdered_after (steps : List TableStep) : (after steps).IsOrdered :=
  isOrdered_foldl (fun _ he => absurd he List.not_mem_nil) steps

end ShiftTable

/-! ### Ranges -/

/-- The range does not end before it starts. -/
def Range.IsOrdered (r : Range) : Prop := r.start ≤ r.stop

/-- The range starts and ends between the ends of another one. -/
def Range.IsWithin (r outer : Range) : Prop := outer.start ≤ r.start ∧ r.stop ≤ outer.stop

instance (r : Range) : Decidable r.IsOrdered := inferInstanceAs (Decidable (r.start ≤ r.stop))

instance (r outer : Range) : Decidable (r.IsWithin outer) :=
  inferInstanceAs (Decidable (outer.start ≤ r.start ∧ r.stop ≤ outer.stop))

/-- A later point is on no earlier line. -/
theorem Pointer.line_le_of_le {p q : Pointer} (h : p ≤ q) : p.line ≤ q.line := by
  rcases h with hlt | ⟨heq, -⟩
  · exact Nat.le_of_lt hlt
  · exact Nat.le_of_eq heq

namespace ShiftTable

/-- Later rendered lines came from later template lines, or from the same. -/
def KeepsOrder (t : ShiftTable) : Prop :=
  ∀ d ∈ t.entries, ∀ e ∈ t.entries, d.renderedLine ≤ e.renderedLine →
    d.templateStart ≤ e.templateStart ∧ d.templateEnd ≤ e.templateEnd

instance (t : ShiftTable) : Decidable t.KeepsOrder :=
  inferInstanceAs (Decidable (∀ d ∈ t.entries, ∀ e ∈ t.entries, d.renderedLine ≤ e.renderedLine →
    d.templateStart ≤ e.templateStart ∧ d.templateEnd ≤ e.templateEnd))

/-- The lines of both ends have entries. -/
def Covers (t : ShiftTable) (r : Range) : Prop :=
  (∃ d, t.entry? r.start.line = some d) ∧ ∃ e, t.entry? r.stop.line = some e

variable {t : ShiftTable}

/-- What is found for a line is in the table, and filed under it. -/
theorem entry?_eq_some {line : Nat} {e : ShiftEntry} (h : t.entry? line = some e) :
    e ∈ t.entries ∧ e.renderedLine = line :=
  SortedList.of_find?_eq_some h

/-- Of a range with entries at both ends, only the lines of its ends matter. -/
theorem shiftRange_of_entries {r : Range} {d e : ShiftEntry} (hd : t.entry? r.start.line = some d)
    (he : t.entry? r.stop.line = some e) :
    t.shiftRange r = ⟨⟨d.templateStart, 0⟩, ⟨e.templateEnd, t.lineSize e.templateEnd⟩⟩ := by
  simp only [shiftRange, hd, he]

/-- A shifted range depends on the lines of the two points only, not on their columns. -/
theorem shiftRange_congr {r q : Range} (hr : t.Covers r) (hstart : q.start.line = r.start.line)
    (hstop : q.stop.line = r.stop.line) : t.shiftRange q = t.shiftRange r := by
  obtain ⟨⟨d, hd⟩, e, he⟩ := hr
  rw [shiftRange_of_entries hd he, shiftRange_of_entries (hstart ▸ hd) (hstop ▸ he)]

/-- The entry of an earlier line starts no later, and ends no later. -/
theorem KeepsOrder.entry?_le (h : t.KeepsOrder) {p q : Pointer} (hpq : p ≤ q) {d e : ShiftEntry}
    (hd : t.entry? p.line = some d) (he : t.entry? q.line = some e) :
    d.templateStart ≤ e.templateStart ∧ d.templateEnd ≤ e.templateEnd := by
  obtain ⟨hdmem, hdline⟩ := entry?_eq_some hd
  obtain ⟨hemem, heline⟩ := entry?_eq_some he
  apply h d hdmem e hemem
  rw [hdline, heline]
  exact Pointer.line_le_of_le hpq

/-- A start at column 0 comes before any point of the same line or a later one. -/
theorem isOrdered_shiftRange (horder : t.KeepsOrder) (ht : t.IsOrdered) {r : Range} (hr : r.IsOrdered)
    (hcovers : t.Covers r) : (t.shiftRange r).IsOrdered := by
  obtain ⟨⟨d, hd⟩, e, he⟩ := hcovers
  have hstart : d.templateStart ≤ e.templateStart := (horder.entry?_le hr hd he).1
  have hentry : e.templateStart ≤ e.templateEnd := ht e (entry?_eq_some he).1
  rw [shiftRange_of_entries hd he]
  show d.templateStart < e.templateEnd ∨ d.templateStart = e.templateEnd ∧ 0 ≤ _
  omega

/-- Ends on the same template line have the same column, which is the size of that line. -/
theorem isWithin_shiftRange (horder : t.KeepsOrder) {r outer : Range} (hwithin : r.IsWithin outer)
    (hr : t.Covers r) (houter : t.Covers outer) :
    (t.shiftRange r).IsWithin (t.shiftRange outer) := by
  obtain ⟨⟨d, hd⟩, e, he⟩ := hr
  obtain ⟨⟨d', hd'⟩, e', he'⟩ := houter
  have hstart : d'.templateStart ≤ d.templateStart := (horder.entry?_le hwithin.1 hd' hd).1
  have hstop : e.templateEnd ≤ e'.templateEnd := (horder.entry?_le hwithin.2 he he').2
  rw [shiftRange_of_entries hd he, shiftRange_of_entries hd' he']
  constructor
  · show d'.templateStart < d.templateStart ∨ d'.templateStart = d.templateStart ∧ 0 ≤ 0
    omega
  · -- On the same template line both end at the end of that line.
    rcases Nat.lt_or_eq_of_le hstop with hlt | heq
    · exact Or.inl hlt
    · exact Or.inr ⟨heq, Nat.le_of_eq (congrArg t.lineSize heq)⟩

/-- **Monotone shifts.** Let a table be made in any way, and let its entries keep the order of the rendered
    lines.  A range within another one, all four ends on lines with entries, moves to a range that is in
    order and lies within what the other one moves to.  Where ranges start and end on their lines makes no
    difference. -/
theorem shiftRange_mono (steps : List TableStep) (r outer : Range) (horder : (after steps).KeepsOrder)
    (hr : r.IsOrdered) (hwithin : r.IsWithin outer) (hcovers : (after steps).Covers r)
    (houter : (after steps).Covers outer) :
    ((after steps).shiftRange r).IsOrdered
      ∧ ((after steps).shiftRange r).IsWithin ((after steps).shiftRange outer)
      ∧ ∀ p q : Range, (after steps).Covers p → q.start.line = p.start.line →
        q.stop.line = p.stop.line → (after steps).shiftRange q = (after steps).shiftRange p := by
  refine ⟨isOrdered_shiftRange horder (isOrdered_after steps) hr hcovers,
    isWithin_shiftRange horder hwithin hcovers houter, ?_⟩
  intro p q hp hstart hstop
  exact shiftRange_congr hp hstart hstop

/-- The first two rendered lines overlap on the template, the second one was recorded twice, and the last one
    came from a line that the template does not have. -/
def overlappingSteps : List TableStep :=
  [.add 2 9 9, .add 1 3 2, .add 2 3 4, .template ['a', '\n', 'b', 'c', '\n', 'd', 'e', 'f', '\n', 'g'],
    .add 4 7 4]

/-- A range within another one, and a range on the same lines. -/
theorem shiftRange_mono_overlapping :
    (after overlappingSteps).shiftRange ⟨⟨1, 8⟩, ⟨2, 0⟩⟩ = ⟨⟨2, 0⟩, ⟨4, 1⟩⟩
    ∧ (after overlappingSteps).shiftRange ⟨⟨1, 5⟩, ⟨4, 6⟩⟩ = ⟨⟨2, 0⟩, ⟨7, 0⟩⟩
    ∧ Range.IsWithin ⟨⟨2, 0⟩, ⟨4, 1⟩⟩ ⟨⟨2, 0⟩, ⟨7, 0⟩⟩
    ∧ (after overlappingSteps).shiftRange ⟨⟨1, 0⟩, ⟨2, 99⟩⟩ = ⟨⟨2, 0⟩, ⟨4, 1⟩⟩ := by
  have hcovers : (after overlappingSteps).Covers ⟨⟨1, 8⟩, ⟨2, 0⟩⟩ := ⟨⟨_, rfl⟩, _, rfl⟩
  obtain ⟨-, hwithin, hlines⟩ := shiftRange_mono overlappingSteps ⟨⟨1, 8⟩, ⟨2, 0⟩⟩ ⟨⟨1, 5⟩, ⟨4, 6⟩⟩
    (by decide) (by decide) (by decide) hcovers ⟨⟨_, rfl⟩, _, rfl⟩
  exact ⟨rfl, rfl, hwithin, hlines ⟨⟨1, 8⟩, ⟨2, 0⟩⟩ ⟨⟨1, 0⟩, ⟨2, 99⟩⟩ hcovers rfl rfl⟩

end ShiftTable

end ChartTrace
