import ChartTrace.Proofs.ShiftedRanges
import Mathlib.Data.Finset.Card
import Mathlib.Data.List.Induction

namespace ChartTrace

/-!
# Tables and how they were made

A shift table forgets all but the last word on each rendered line:

* `TableStep.linesFor?`, `lastLines?`: the template lines that the last step for a rendered line gives;
  `recordedLines`: the rendered lines that steps are about;
* `ShiftTable.mem_entries_iff`: the entries of a table are those that look-up finds;
* `ShiftTable.entry?_step`, `entry?_after`, `length_entries_after`: what look-up finds after one step and
  after all of them, and how many entries there are;
* `ShiftTable.after_keeps_last`: all of this about any table that can be made.
-/

/-! ### What steps say -/

namespace TableStep

/-- The template lines that a step gives for a rendered line. -/
def linesFor? (n : Nat) : TableStep → Option (Nat × Nat)
  | .add renderedLine a b => if renderedLine = n then some (a, b) else none
  | .template _ => none

/-- The rendered line that a step is about. -/
def line? : TableStep → Option Nat
  | .add renderedLine _ _ => some renderedLine
  | .template _ => none

/-- The line sizes that a step gives. -/
def sizes? : TableStep → Option (List Nat)
  | .add _ _ _ => none
  | .template source => some ((splitLines source).map fun l => l.content.length)

end TableStep

/-- The template lines of the last step for a rendered line. -/
def lastLines? (steps : List TableStep) (n : Nat) : Option (Nat × Nat) :=
  (steps.filterMap (TableStep.linesFor? n)).getLast?

/-- The line sizes of the last step that gives any. -/
def lastSizes? (steps : List TableStep) : Option (List Nat) :=
  (steps.filterMap TableStep.sizes?).getLast?

/-- The rendered lines that steps are about, as often as they are. -/
def recordedLines (steps : List TableStep) : List Nat := steps.filterMap TableStep.line?

/-- The entry of a rendered line that came from the template lines between two, in either order. -/
def ShiftEntry.ofLines (n : Nat) (lines : Nat × Nat) : ShiftEntry :=
  ⟨n, min lines.1 lines.2, max lines.1 lines.2⟩

/-- What a later step gives takes the place of what an earlier one gave. -/
theorem getLast?_filterMap_concat {α : Type} (f : TableStep → Option α) (steps : List TableStep)
    (s : TableStep) :
    ((steps ++ [s]).filterMap f).getLast? = (f s).or (steps.filterMap f).getLast? := by
  rw [List.filterMap_append, List.getLast?_append]
  cases h : f s <;> simp [h]

namespace ShiftTable

/-! ### The entries of a table -/

/-- The entries are what look-up finds, each under its own line. -/
theorem mem_entries_iff (t : ShiftTable) (e : ShiftEntry) : e ∈ t.entries ↔ ∃ n, t.entry? n = some e := by
  constructor
  · exact fun he => ⟨e.renderedLine, SortedList.find?_of_mem he⟩
  · rintro ⟨n, hn⟩
    exact (entry?_eq_some hn).1

/-- No line is listed twice. -/
theorem nodup_entries (t : ShiftTable) : (t.entries.map ShiftEntry.renderedLine).Nodup :=
  List.Pairwise.map _ (fun _ _ hlt => Nat.ne_of_lt hlt) t.lines.sorted

/-! ### One step -/

/-- The last step is the one taken last. -/
theorem after_concat (steps : List TableStep) (s : TableStep) :
    after (steps ++ [s]) = (after steps).step s := List.foldl_concat ..

/-- **Step lemma.** A step changes the entry of its own line only, to the template lines it gives. -/
theorem entry?_step (t : ShiftTable) (s : TableStep) (n : Nat) :
    entry? (t.step s) n = ((s.linesFor? n).map (ShiftEntry.ofLines n)).or (t.entry? n) := by
  cases s with
  | template source => rfl
  | add renderedLine a b =>
    refine (SortedList.find?_insert _ _ _).trans ?_
    by_cases hn : renderedLine = n
    · simp [TableStep.linesFor?, ShiftEntry.ofLines, hn]
    · simp [TableStep.linesFor?, hn, entry?]

/-- A template replaces the sizes, and nothing else changes them. -/
theorem lineSizes_step (t : ShiftTable) (s : TableStep) :
    (t.step s).lineSizes = s.sizes?.getD t.lineSizes := by
  cases s <;> rfl

/-! ### All steps -/

/-- **Run lemma.** The last step for a line decides its entry. -/
theorem entry?_after (steps : List TableStep) (n : Nat) :
    entry? (after steps) n = (lastLines? steps n).map (ShiftEntry.ofLines n) := by
  induction steps using List.reverseRecOn with
  | nil => rfl
  | append_singleton steps s ih =>
    rw [after_concat, entry?_step, ih, lastLines?, lastLines?, getLast?_filterMap_concat,
      Option.map_or]

/-- **Run lemma.** The last template decides the line sizes. -/
theorem lineSizes_after (steps : List TableStep) :
    (after steps).lineSizes = (lastSizes? steps).getD [] := by
  induction steps using List.reverseRecOn with
  | nil => rfl
  | append_singleton steps s ih =>
    rw [after_concat, lineSizes_step, ih, lastSizes?, lastSizes?, getLast?_filterMap_concat]
    cases s.sizes? <;> rfl

/-- A line was recorded exactly when it has an entry. -/
theorem mem_recordedLines_iff {steps : List TableStep} {n : Nat} :
    n ∈ recordedLines steps ↔ ∃ e, entry? (after steps) n = some e := by
  have hstep : ∀ s : TableStep, s.line? = some n ↔ s.linesFor? n ≠ none := by
    intro s
    cases s <;> simp [TableStep.line?, TableStep.linesFor?]
  rw [← Option.isSome_iff_exists, entry?_after, Option.isSome_map, lastLines?, List.getLast?_isSome,
    Ne, List.filterMap_eq_nil_iff, recordedLines, List.mem_filterMap]
  simp [hstep]

/-- There are as many entries as lines that steps are about. -/
theorem length_entries_after (steps : List TableStep) :
    (after steps).entries.length = (recordedLines steps).toFinset.card := by
  -- Both have the same lines, and the entries have each of them once.
  have hlines : ((after steps).entries.map ShiftEntry.renderedLine).toFinset
      = (recordedLines steps).toFinset := by
    ext n
    rw [List.mem_toFinset, List.mem_toFinset, mem_recordedLines_iff, List.mem_map]
    constructor
    · rintro ⟨e, he, rfl⟩
      exact ⟨e, SortedList.find?_of_mem he⟩
    · rintro ⟨e, he⟩
      exact ⟨e, entry?_eq_some he⟩
  rw [← hlines, List.toFinset_card_of_nodup (nodup_entries _), List.length_map]

/-- **Histories.** Let a table be made by any steps from the empty one.  The entry of a line is that of
    the last step for it, and there is none without such a step; its template lines are in order.  The
    entries are what look-up finds, listed by strictly increasing line, and there is one for each line
    that a step was about.  A template changes no entry, and the line sizes are those of the last one;
    an entry changes neither them nor the entries of other lines. -/
theorem after_keeps_last (steps : List TableStep) :
    (∀ n, entry? (after steps) n
      = (lastLines? steps n).map fun p => ⟨n, min p.1 p.2, max p.1 p.2⟩)
    ∧ (∀ e ∈ (after steps).entries, e.templateStart ≤ e.templateEnd)
    ∧ (∀ e, e ∈ (after steps).entries ↔ ∃ n, entry? (after steps) n = some e)
    ∧ (after steps).entries.Pairwise (fun d e => d.renderedLine < e.renderedLine)
    ∧ (after steps).entries.length = (recordedLines steps).toFinset.card
    ∧ (after steps).lineSizes = (lastSizes? steps).getD []
    ∧ (∀ source, ((after steps).withTemplate source).entries = (after steps).entries)
    ∧ ∀ line a b, ((after steps).add line a b).lineSizes = (after steps).lineSizes
      ∧ ∀ n, n ≠ line → entry? ((after steps).add line a b) n = entry? (after steps) n := by
  refine ⟨entry?_after steps, isOrdered_after steps, mem_entries_iff (after steps),
    (after steps).lines.sorted, length_entries_after steps, lineSizes_after steps, fun _ => rfl, ?_⟩
  -- An addition speaks of its own line only.
  intro line a b
  refine ⟨rfl, fun n hn => ?_⟩
  have hstep := entry?_step (after steps) (.add line a b) n
  rw [TableStep.linesFor?, if_neg (Ne.symm hn)] at hstep
  exact hstep

/-- Line 3 is recorded twice, the template is given twice, and line 1 comes from the widest range of words,
    its ends exchanged. -/
def rewrittenSteps : List TableStep :=
  [.add 3 9 9, .template ['a', 'b', '\n', 'c'], .add 1 (wordLimit - 1) 0, .add 3 6 4, .template ['d']]

/-- A line that was recorded twice keeps the later entry. -/
theorem after_keeps_last_rewritten :
    entry? (after rewrittenSteps) 3 = some ⟨3, 4, 6⟩
    ∧ entry? (after rewrittenSteps) 1 = some ⟨1, 0, wordLimit - 1⟩
    ∧ entry? (after rewrittenSteps) 2 = none
    ∧ (after rewrittenSteps).entries.length = 2
    ∧ (after rewrittenSteps).lineSizes = [1]
    ∧ (⟨3, 4, 6⟩ : ShiftEntry) ∈ (after rewrittenSteps).entries
    ∧ 3 ≠ 2 ∧ entry? ((after rewrittenSteps).add 2 8 7) 3 = some ⟨3, 4, 6⟩ := by
  obtain ⟨hentry, -, hmem, -, hlength, hsizes, -, hadd⟩ := after_keeps_last rewrittenSteps
  have hthree : entry? (after rewrittenSteps) 3 = some ⟨3, 4, 6⟩ := hentry 3
  exact ⟨hthree, hentry 1, hentry 2, hlength, hsizes, (hmem _).mpr ⟨3, hthree⟩, by decide,
    ((hadd 2 8 7).2 3 (by decide)).trans hthree⟩

end ShiftTable

end ChartTrace
