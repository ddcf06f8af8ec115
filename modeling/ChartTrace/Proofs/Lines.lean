import ChartTrace.Text.CharSet
import ChartTrace.Text.Line
import Mathlib.Data.List.Basic

namespace ChartTrace

/-!
# The lines of a text

`splitLines` and `joinLines` are inverse to each other on the lists of lines that a text can have:

* `AreLines` says which lists these are: contents without terminators, one of the five `lineEnds`
  after each line but the last, and no CR in front of an empty line that ends in LF (together they
  would be one CRLF);
* `joinLines_splitLines`, `areLines_splitLines`: the lines of a text are such a list and spell the
  text;
* `splitLines_joinLines`: such a list is the list of lines of what it spells;
* `splitLines_cut`: cutting a text cuts one of its lines, and leaves the others;
* `AreLines.onOneLine`, `AreLines.lineEnd`, `AreLines.isTerminator`: what this says of each line;
* `dropTrailingTerminators_joinLines`, `areLines_openLast`: what is left of lines with non-empty
  contents once the text loses the terminators at its end.
-/

/-- What ends a line that is not the last one of its text. -/
def lineEnds : List (List Char) := [['\r', '\n'], ['\n'], ['\r'], ['\u2028'], ['\u2029']]

/-- A text that stays on one line. -/
def OnOneLine (cs : List Char) : Prop := ∀ c ∈ cs, isTerminator c = false

instance (cs : List Char) : Decidable (OnOneLine cs) :=
  decidable_of_iff (cs.all (fun c => !isTerminator c) = true) (by simp [OnOneLine])

@[simp] theorem onOneLine_nil : OnOneLine [] := by simp [OnOneLine]

@[simp] theorem onOneLine_cons {c : Char} {cs : List Char} :
    OnOneLine (c :: cs) ↔ isTerminator c = false ∧ OnOneLine cs := by simp [OnOneLine]

/-- Two texts are on one line together when each of them is. -/
@[simp] theorem onOneLine_append {cs ds : List Char} :
    OnOneLine (cs ++ ds) ↔ OnOneLine cs ∧ OnOneLine ds := by
  simp only [OnOneLine, List.mem_append, or_imp, forall_and]

/-- Whether a line shows anything but white space. -/
def Line.isVisible (l : Line) : Bool := !allBlank l.content

/-- A visible line is not empty. -/
theorem Line.content_ne_nil_of_isVisible {l : Line} (hl : l.isVisible = true) : l.content ≠ [] := by
  intro h
  simp [isVisible, h, allBlank] at hl

/-- The lists of lines that a text can have. -/
def AreLines : List Line → Prop
  | [] => False
  | [l] => OnOneLine l.content ∧ l.terminator = []
  | l :: k :: ls =>
    OnOneLine l.content ∧ l.terminator ∈ lineEnds
      ∧ ¬ (l.terminator = ['\r'] ∧ k.content = [] ∧ k.terminator = ['\n']) ∧ AreLines (k :: ls)

/-! ### Joining -/

@[simp] theorem joinLines_nil : joinLines [] = [] := rfl

@[simp] theorem joinLines_cons (l : Line) (ls : List Line) :
    joinLines (l :: ls) = l.content ++ l.terminator ++ joinLines ls := by
  simp [joinLines, Line.text]

/-- Joining goes list by list. -/
@[simp] theorem joinLines_append (ls ks : List Line) :
    joinLines (ls ++ ks) = joinLines ls ++ joinLines ks := by
  simp [joinLines]

/-! ### Splitting -/

/-- The lines of a text are never none, so there is a first one. -/
theorem splitLines_eq_cons (cs : List Char) : ∃ l ls, splitLines cs = l :: ls := by
  fun_induction splitLines cs with
  | case1 => exact ⟨_, _, rfl⟩
  | case2 cs ih => exact ⟨_, _, rfl⟩
  | case3 c cs _ hc ih => exact ⟨_, _, rfl⟩
  | case4 c cs _ hc ih =>
    obtain ⟨l, ls, h⟩ := ih
    exact ⟨_, _, by rw [h]; rfl⟩

/-- And so there is a last one. -/
theorem splitLines_eq_concat (cs : List Char) : ∃ ks k, splitLines cs = ks ++ [k] := by
  obtain ⟨l, ls, hls⟩ := splitLines_eq_cons cs
  rcases List.eq_nil_or_concat' (splitLines cs) with hnil | hconcat
  · rw [hls] at hnil
    cases hnil
  · exact hconcat

/-- Characters in front of a text that end no line stand in front of its first line. -/
theorem splitLines_append {cs ds : List Char} {l : Line} {ls : List Line} (hcs : OnOneLine cs)
    (hds : splitLines ds = l :: ls) :
    splitLines (cs ++ ds) = ⟨cs ++ l.content, l.terminator⟩ :: ls := by
  induction cs with
  | nil => exact hds
  | cons c cs ih =>
    obtain ⟨hc, hcs⟩ := onOneLine_cons.mp hcs
    -- A character that ends no line is not the first half of a CR LF.
    have hcr : ∀ es, c = '\r' → cs ++ ds = '\n' :: es → False := by
      rintro es rfl -
      simp [isTerminator] at hc
    rw [List.cons_append, splitLines.eq_3 _ _ hcr, if_neg (by simp [hc]), ih hcs]
    rfl

/-- A line end in front of a text is an empty line of its own, unless it is a CR that an LF
    follows. -/
theorem splitLines_lineEnd {t ds : List Char} (ht : t ∈ lineEnds)
    (hcr : t = ['\r'] → ds.head? ≠ some '\n') :
    splitLines (t ++ ds) = ⟨[], t⟩ :: splitLines ds := by
  simp only [lineEnds, List.mem_cons, List.not_mem_nil, or_false] at ht
  -- All line ends but CR LF are single characters.
  have alone : ∀ c, isTerminator c = true → (c = '\r' → ds.head? ≠ some '\n') →
      splitLines ([c] ++ ds) = ⟨[], [c]⟩ :: splitLines ds := by
    intro c hc hnext
    have h : ∀ es, c = '\r' → ds = '\n' :: es → False := by
      rintro es hc rfl
      exact hnext hc rfl
    rw [List.singleton_append, splitLines.eq_3 _ _ h, if_pos hc]
  rcases ht with rfl | rfl | rfl | rfl | rfl
  · rfl
  · exact alone _ rfl (fun h => absurd h (by decide))
  · exact alone _ rfl (fun _ => hcr rfl)
  · exact alone _ rfl (fun h => absurd h (by decide))
  · exact alone _ rfl (fun h => absurd h (by decide))

/-- Splitting loses nothing: the lines joined again are the text. -/
theorem joinLines_splitLines (cs : List Char) : joinLines (splitLines cs) = cs := by
  fun_induction splitLines cs with
  | case1 => rfl
  | case2 cs ih => simp [ih]
  | case3 c cs _ hc ih => simp [ih]
  | case4 c cs _ hc ih =>
    obtain ⟨l, ls, h⟩ := splitLines_eq_cons cs
    rw [h] at ih ⊢
    simpa [consToFirst] using ih

/-- A text that starts with LF has an empty first line that ends in LF. -/
theorem head?_joinLines_eq_lf {l : Line} {ls : List Line} (hl : AreLines (l :: ls))
    (h : (joinLines (l :: ls)).head? = some '\n') : l.content = [] ∧ l.terminator = ['\n'] := by
  obtain ⟨content, terminator⟩ := l
  cases content with
  | cons c cs =>
    -- The content would hold a terminator.
    have hc : c = '\n' := by simpa using h
    subst hc
    cases ls <;> simp [AreLines, isTerminator] at hl
  | nil =>
    cases ls with
    | nil =>
      obtain ⟨-, rfl⟩ : OnOneLine [] ∧ terminator = [] := hl
      simp at h
    | cons k ls =>
      have ht : terminator ∈ lineEnds := hl.2.1
      simp only [lineEnds, List.mem_cons, List.not_mem_nil, or_false] at ht
      rcases ht with rfl | rfl | rfl | rfl | rfl <;> simp at h ⊢

/-- **Uniqueness.** A list that can be the lines of a text is the list of lines of the text it
    spells. -/
theorem splitLines_joinLines {ls : List Line} (h : AreLines ls) :
    splitLines (joinLines ls) = ls := by
  induction ls with
  | nil => exact h.elim
  | cons l ls ih =>
    cases ls with
    | nil =>
      obtain ⟨content, terminator⟩ := l
      obtain ⟨hc, rfl⟩ : OnOneLine content ∧ terminator = [] := h
      have hlast := splitLines_append hc (show splitLines [] = [⟨[], []⟩] from rfl)
      simpa using hlast
    | cons k ls =>
      obtain ⟨hc, ht, hcr, hls⟩ := h
      -- The terminator of `l` must not take the LF of an empty next line with it.
      have hnext : l.terminator = ['\r'] → (joinLines (k :: ls)).head? ≠ some '\n' := by
        intro hr hn
        exact hcr ⟨hr, head?_joinLines_eq_lf hls hn⟩
      have hend := splitLines_lineEnd ht hnext
      rw [ih hls] at hend
      rw [joinLines_cons, List.append_assoc, splitLines_append hc hend, List.append_nil]

/-- **Soundness.** The lines of a text satisfy the conditions of `AreLines`. -/
theorem areLines_splitLines (cs : List Char) : AreLines (splitLines cs) := by
  fun_induction splitLines cs with
  | case1 => exact ⟨onOneLine_nil, rfl⟩
  -- A CR LF ends the line.
  | case2 cs ih =>
    obtain ⟨l, ls, h⟩ := splitLines_eq_cons cs
    rw [h] at ih ⊢
    exact ⟨onOneLine_nil, by decide, fun hcr => absurd hcr.1 (by decide), ih⟩
  -- A single character ends it.
  | case3 c cs hcr hc ih =>
    have hnext : c = '\r' → cs.head? ≠ some '\n' := by
      intro hr hn
      obtain ⟨es, rfl⟩ := List.head?_eq_some_iff.mp hn
      exact hcr es hr rfl
    obtain ⟨l, ls, h⟩ := splitLines_eq_cons cs
    rw [h] at ih ⊢
    refine ⟨onOneLine_nil, ?_, ?_, ih⟩
    · simp only [isTerminator, Bool.or_eq_true, beq_iff_eq] at hc
      rcases hc with ((rfl | rfl) | rfl) | rfl <;> decide
    · -- A CR is a line end of its own only when no LF follows it.
      rintro ⟨hr, hl, hn⟩
      refine hnext (by simpa using hr) ?_
      rw [← joinLines_splitLines cs, h, joinLines_cons, hl, hn]
      rfl
  -- The character goes to the front of the first line.
  | case4 c cs _ hc ih =>
    obtain ⟨l, ls, h⟩ := splitLines_eq_cons cs
    have hc' : isTerminator c = false := by simpa using hc
    rw [h] at ih ⊢
    cases ls with
    | nil => exact ⟨onOneLine_cons.mpr ⟨hc', ih.1⟩, ih.2⟩
    | cons k ls => exact ⟨onOneLine_cons.mpr ⟨hc', ih.1⟩, ih.2.1, ih.2.2.1, ih.2.2.2⟩

/-! ### Cutting a text -/

/-- A cut between the CR and the LF of one line end. -/
def PartsLineEnd (before after : List Char) : Prop :=
  before.getLast? = some '\r' ∧ after.head? = some '\n'

/-- Whether a cut parts a CR LF does not depend on what stands further in front. -/
theorem PartsLineEnd.cons {before after : List Char} (h : PartsLineEnd before after) (c : Char) :
    PartsLineEnd (c :: before) after :=
  ⟨by rw [List.getLast?_cons, h.1]; rfl, h.2⟩

/-- The lines of a text that is cut in two, when the cut does not part CR and LF: those before the
    cut, the line that is cut, and those behind it. -/
theorem splitLines_cut {before after : List Char} {first : Line} {rest : List Line}
    (hcut : ¬ PartsLineEnd before after) (hafter : splitLines after = first :: rest) :
    ∃ init last, splitLines before = init ++ [⟨last, []⟩]
      ∧ splitLines (before ++ after)
        = init ++ ⟨last ++ first.content, first.terminator⟩ :: rest := by
  fun_induction splitLines before with
  | case1 => exact ⟨[], [], rfl, hafter⟩
  | case2 cs ih =>
    obtain ⟨init, last, hinit, hlines⟩ := ih fun h => hcut ((h.cons '\n').cons '\r')
    exact ⟨⟨[], ['\r', '\n']⟩ :: init, last, by rw [hinit]; rfl,
      by rw [List.cons_append, List.cons_append, splitLines, hlines]; rfl⟩
  | case3 c cs hcrlf hc ih =>
    obtain ⟨init, last, hinit, hlines⟩ := ih fun h => hcut (h.cons c)
    -- A CR at the cut stays a line end of its own.
    have hnext : ∀ es, c = '\r' → cs ++ after = '\n' :: es → False := by
      rintro es rfl heq
      cases cs with
      | nil => exact hcut ⟨rfl, by rw [show after = '\n' :: es from heq]; rfl⟩
      | cons d ds =>
        obtain ⟨rfl, -⟩ := List.cons_eq_cons.mp heq
        exact hcrlf ds rfl rfl
    exact ⟨⟨[], [c]⟩ :: init, last, by rw [hinit]; rfl,
      by rw [List.cons_append, splitLines.eq_3 _ _ hnext, if_pos hc, hlines]; rfl⟩
  | case4 c cs hcrlf hc ih =>
    obtain ⟨init, last, hinit, hlines⟩ := ih fun h => hcut (h.cons c)
    have hnext : ∀ es, c = '\r' → cs ++ after = '\n' :: es → False := by
      rintro es rfl -
      simp [isTerminator] at hc
    rw [List.cons_append, splitLines.eq_3 _ _ hnext, if_neg hc, hlines, hinit]
    -- The character belongs to the first line, which may be the one that is cut.
    cases init with
    | nil => exact ⟨[], c :: last, rfl, rfl⟩
    | cons l init => exact ⟨⟨c :: l.content, l.terminator⟩ :: init, last, rfl, rfl⟩

/-! ### Each line of a text -/

/-- A line end is made of characters that end lines. -/
theorem isTerminator_of_mem_lineEnds {t : List Char} (ht : t ∈ lineEnds) :
    ∀ c ∈ t, isTerminator c = true := by
  simp only [lineEnds, List.mem_cons, List.not_mem_nil, or_false] at ht
  rcases ht with rfl | rfl | rfl | rfl | rfl <;> simp [isTerminator]

/-- No content holds a line end. -/
theorem AreLines.onOneLine {ls : List Line} (h : AreLines ls) : ∀ l ∈ ls, OnOneLine l.content := by
  induction ls with
  | nil => simp
  | cons l ls ih =>
    cases ls with
    | nil => simpa using h.1
    | cons k ls =>
      obtain ⟨hl, -, -, hrest⟩ := h
      intro j hj
      rcases List.mem_cons.mp hj with rfl | hj
      · exact hl
      · exact ih hrest j hj

/-- All lines but the last one are ended. -/
theorem AreLines.lineEnd {ls : List Line} (h : AreLines ls) :
    ∀ l ∈ ls.dropLast, l.terminator ∈ lineEnds := by
  induction ls with
  | nil => simp
  | cons l ls ih =>
    cases ls with
    | nil => simp
    | cons k ls =>
      obtain ⟨-, hend, -, hrest⟩ := h
      intro j hj
      rw [List.dropLast_cons_cons] at hj
      rcases List.mem_cons.mp hj with rfl | hj
      · exact hend
      · exact ih hrest j hj

/-- No line end is empty. -/
theorem ne_nil_of_mem_lineEnds {t : List Char} (h : t ∈ lineEnds) : t ≠ [] := by
  rintro rfl
  exact absurd h (by decide)

/-- Only the last line may lack a terminator. -/
theorem AreLines.terminator_ne_nil {ls : List Line} (h : AreLines ls) {l : Line}
    (hl : l ∈ ls.dropLast) : l.terminator ≠ [] :=
  ne_nil_of_mem_lineEnds (h.lineEnd l hl)

/-- Every character of a terminator ends lines.  The last line, which is open, has none. -/
theorem AreLines.isTerminator {ls : List Line} (h : AreLines ls) :
    ∀ l ∈ ls, ∀ c ∈ l.terminator, isTerminator c = true := by
  induction ls with
  | nil => simp
  | cons l ls ih =>
    cases ls with
    | nil => simp [show l.terminator = [] from h.2]
    | cons k ls =>
      obtain ⟨-, hend, -, hrest⟩ := h
      intro j hj
      rcases List.mem_cons.mp hj with rfl | hj
      · exact isTerminator_of_mem_lineEnds hend
      · exact ih hrest j hj

/-! ### Terminators at the end of a text -/

/-- The lines, the last one without its terminator. -/
def openLast : List Line → List Line
  | [] => []
  | [l] => [⟨l.content, []⟩]
  | l :: k :: ls => l :: openLast (k :: ls)

/-- The last line is the one that loses its terminator. -/
theorem openLast_concat (ls : List Line) (l : Line) :
    openLast (ls ++ [l]) = ls ++ [⟨l.content, []⟩] := by
  induction ls with
  | nil => rfl
  | cons k ls ih =>
    cases ls with
    | nil => rfl
    | cons j ls => rw [List.cons_append, List.cons_append, openLast, ← List.cons_append, ih]; rfl

/-- A text with characters behind it that are dropped loses just these. -/
theorem dropTrailing_append {p : Char → Bool} {cs ds : List Char}
    (hcs : ∀ c, cs.getLast? = some c → p c = false) (hds : ∀ c ∈ ds, p c = true) :
    dropTrailing p (cs ++ ds) = cs := by
  -- Dropping is done from the end, where `ds` is all dropped and `cs` not at all.
  have hrev : ∀ c ∈ ds.reverse, p c = true := by simpa using hds
  rw [dropTrailing, List.reverse_append, List.dropWhile_append_of_pos hrev]
  cases h : cs.reverse with
  | nil => simpa using h
  | cons c es =>
    have hlast : cs.getLast? = some c := by rw [List.getLast?_eq_head?_reverse, h]; rfl
    rw [List.dropWhile_cons_of_neg (by simp [hcs c hlast]), ← h, List.reverse_reverse]

/-- Dropping the last element keeps sublists. -/
theorem dropLast_sublist {α : Type} {ls ks : List α} (h : List.Sublist ls ks) :
    List.Sublist ls.dropLast ks.dropLast := by
  have htail := h.reverse.tail
  rw [List.tail_reverse, List.tail_reverse] at htail
  exact List.reverse_sublist.mp htail

section

variable {ls : List Line} (hcontent : ∀ l ∈ ls, OnOneLine l.content ∧ l.content ≠ [])
include hcontent

/-- The terminators at the end of a text are the terminator of its last line, when that line is not
    empty. -/
theorem dropTrailingTerminators_joinLines
    (hend : ∀ l ∈ ls, ∀ c ∈ l.terminator, isTerminator c = true) :
    dropTrailingTerminators (joinLines ls) = joinLines (openLast ls) := by
  rcases List.eq_nil_or_concat' ls with rfl | ⟨ks, l, rfl⟩
  · rfl
  · have hl : l ∈ ks ++ [l] := by simp
    obtain ⟨hline, hne⟩ := hcontent l hl
    -- The last content is not empty and ends no line, so that it stops the dropping.
    have hlast : ∀ c, (joinLines ks ++ l.content).getLast? = some c → isTerminator c = false := by
      intro c hc
      rw [List.getLast?_append_of_ne_nil _ hne] at hc
      exact hline c (List.mem_of_getLast? hc)
    have hdrop := dropTrailing_append hlast (hend l hl)
    rw [openLast_concat, joinLines_append, joinLines_append, dropTrailingTerminators]
    simpa using hdrop

/-- Lines with something on each of them are the lines of their text without the last terminator. -/
theorem areLines_openLast (hne : ls ≠ []) (hend : ∀ l ∈ ls.dropLast, l.terminator ∈ lineEnds) :
    AreLines (openLast ls) := by
  fun_induction openLast ls with
  | case1 => exact absurd rfl hne
  | case2 l => exact ⟨(hcontent l (by simp)).1, rfl⟩
  | case3 l k ls ih =>
    have hrest : AreLines (openLast (k :: ls)) := by
      refine ih (fun j hj => hcontent j (List.mem_cons_of_mem _ hj)) (by simp) (fun j hj => ?_)
      exact hend j (by simpa using Or.inr hj)
    obtain ⟨m, ms, hm, hmk⟩ : ∃ m ms, openLast (k :: ls) = m :: ms ∧ m.content = k.content := by
      cases ls <;> exact ⟨_, _, rfl, rfl⟩
    rw [hm] at hrest ⊢
    refine ⟨(hcontent l (by simp)).1, hend l (by simp), ?_, hrest⟩
    -- The next line is not empty, so no CR and LF of different lines meet.
    rintro ⟨-, hempty, -⟩
    exact (hcontent k (by simp)).2 (hmk ▸ hempty)

end

end ChartTrace
