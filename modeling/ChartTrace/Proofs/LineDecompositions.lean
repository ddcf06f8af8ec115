import ChartTrace.Proofs.Lines
import Mathlib.Data.List.Chain

namespace ChartTrace

/-!
# The decomposition of a text into lines

A text can be written as lines in many ways.  Which one is meant can be said line by line, without going
through the text:

* `Line.StaysApart`: a line end and the line behind it are not read as one line end;
* `IsDecomposition`: lines that spell a text, each on one line, ended as lines are, and apart;
* `areLines_iff_forall`: conditions on single lines and on neighbours say the same as `AreLines`, which
  goes through the list;
* `splitLines_eq_iff_isDecomposition`: every text has exactly one decomposition, its lines.
-/

/-- The line end of the first line stays one of its own in front of the second: it is no CR in front of an
    LF. -/
def Line.StaysApart (l k : Line) : Prop :=
  ¬ (l.terminator = ['\r'] ∧ k.content = [] ∧ k.terminator = ['\n'])

instance (l k : Line) : Decidable (l.StaysApart k) :=
  inferInstanceAs (Decidable (¬ (l.terminator = ['\r'] ∧ k.content = [] ∧ k.terminator = ['\n'])))

/-- The lines spell the text, and each is one line of it. -/
structure IsDecomposition (text : List Char) (ls : List Line) : Prop where
  spells : joinLines ls = text
  onOneLine : ∀ l ∈ ls, OnOneLine l.content
  lineEnd : ∀ l ∈ ls.dropLast, l.terminator ∈ lineEnds
  lastOpen : ∃ l, ls.getLast? = some l ∧ l.terminator = []
  apart : ls.IsChain Line.StaysApart

/-! ### Line by line -/

/-- The last line of a text has no terminator. -/
theorem AreLines.getLast {ls : List Line} (h : AreLines ls) :
    ∃ l, ls.getLast? = some l ∧ l.terminator = [] := by
  induction ls with
  | nil => exact h.elim
  | cons l ls ih =>
    cases ls with
    | nil => exact ⟨l, rfl, h.2⟩
    | cons k ls =>
      obtain ⟨-, -, -, hrest⟩ := h
      obtain ⟨last, hlast, hopen⟩ := ih hrest
      exact ⟨last, by rw [List.getLast?_cons_cons, hlast], hopen⟩

/-- No CR at the end of a line meets an LF at the start of the next one. -/
theorem AreLines.isChain {ls : List Line} (h : AreLines ls) : ls.IsChain Line.StaysApart := by
  induction ls with
  | nil => exact h.elim
  | cons l ls ih =>
    cases ls with
    | nil => exact List.IsChain.singleton l
    | cons k ls =>
      obtain ⟨-, -, hapart, hrest⟩ := h
      exact List.isChain_cons_cons.mpr ⟨hapart, ih hrest⟩

/-- **Line by line.** Whether lines can be those of a text shows in the single lines and in neighbours. -/
theorem areLines_iff_forall {ls : List Line} :
    AreLines ls ↔ (∀ l ∈ ls, OnOneLine l.content) ∧ (∀ l ∈ ls.dropLast, l.terminator ∈ lineEnds)
      ∧ (∃ l, ls.getLast? = some l ∧ l.terminator = []) ∧ ls.IsChain Line.StaysApart := by
  constructor
  · intro h
    exact ⟨h.onOneLine, h.lineEnd, h.getLast, h.isChain⟩
  · rintro ⟨hcontents, hends, hlast, hapart⟩
    induction ls with
    | nil =>
      obtain ⟨l, hnone, -⟩ := hlast
      cases hnone
    | cons l ls ih =>
      have hfirst := hcontents l List.mem_cons_self
      cases ls with
      | nil =>
        obtain ⟨last, hsame, hopen⟩ := hlast
        cases hsame
        exact ⟨hfirst, hopen⟩
      -- What holds of all lines holds of the first, and of the others by the induction.
      | cons k ls =>
        obtain ⟨hnext, hchain⟩ := List.isChain_cons_cons.mp hapart
        rw [List.dropLast_cons_cons] at hends
        rw [List.getLast?_cons_cons] at hlast
        have hrest : AreLines (k :: ls) :=
          ih (fun j hj => hcontents j (List.mem_cons_of_mem l hj))
            (fun j hj => hends j (List.mem_cons_of_mem l hj)) hlast hchain
        exact ⟨hfirst, hends l List.mem_cons_self, hnext, hrest⟩

/-- A decomposition is a list of lines that spells the text. -/
theorem isDecomposition_iff {text : List Char} {ls : List Line} :
    IsDecomposition text ls ↔ joinLines ls = text ∧ AreLines ls := by
  constructor
  · intro h
    exact ⟨h.spells, areLines_iff_forall.mpr ⟨h.onOneLine, h.lineEnd, h.lastOpen, h.apart⟩⟩
  · rintro ⟨hspells, hlines⟩
    obtain ⟨hcontents, hends, hlast, hapart⟩ := areLines_iff_forall.mp hlines
    exact ⟨hspells, hcontents, hends, hlast, hapart⟩

/-! ### The one decomposition -/

/-- **Unique decomposition.** The lines of a text spell it, have contents without terminators, end in one of
    the five line ends except for the last one, which has none, and no CR of theirs stands in front of an
    empty line that ends in LF.  No other list of lines does all this. -/
theorem splitLines_eq_iff_isDecomposition (text : List Char) (ls : List Line) :
    splitLines text = ls ↔ IsDecomposition text ls := by
  rw [isDecomposition_iff]
  constructor
  · rintro rfl
    exact ⟨joinLines_splitLines text, areLines_splitLines text⟩
  · rintro ⟨rfl, hlines⟩
    exact splitLines_joinLines hlines

/-- Apart from the neighbours, CR and LF could be the ends of two lines. -/
example : joinLines [⟨[], ['\r']⟩, ⟨[], ['\n']⟩, ⟨[], []⟩] = ['\r', '\n']
    ∧ ¬ Line.StaysApart ⟨[], ['\r']⟩ ⟨[], ['\n']⟩
    ∧ splitLines ['\r', '\n'] = [⟨[], ['\r', '\n']⟩, ⟨[], []⟩] := by decide

end ChartTrace
