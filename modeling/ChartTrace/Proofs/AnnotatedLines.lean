import ChartTrace.Annotation
import ChartTrace.Proofs.StrippedLines

namespace ChartTrace

/-!
# The lines of an annotated template

Annotation changes no line but by its marker:

* `splitLines_annotate`: the annotated text has the lines of the template, each with its own marker
  in front of its own terminator; `markedLines` pairs them;
* `scanStep_cases`: what one line can do to the scan;
* `Marker.IsWithin`, `isWithin_of_mem_lineMarkers`: a marker names lines in order, none of them
  beyond the line after the last;
* `stopLine_of_getElem?_lineMarkers`: a marker stands on the last line it names, or on the last line
  of the template when an action is left open;
* `lineMarkers_of_balanced`: without unbalanced braces every line has such a marker.
-/

/-! ### One line of the scan -/

/-- What a line can do to the scan: open an action, stand outside of one, close one, or stand
    inside. -/
theorem scanStep_cases (pending : Option Nat) (number : Nat) (balance : Int) :
    (pending = none ∧ 0 < balance ∧ scanStep pending number balance = (some number, none))
    ∨ (pending = none ∧ balance ≤ 0 ∧ scanStep pending number balance = (none, some (.line number)))
    ∨ (∃ start, pending = some start ∧ balance < 0
        ∧ scanStep pending number balance = (none, some (.span start number)))
    ∨ ∃ start, pending = some start ∧ 0 ≤ balance
        ∧ scanStep pending number balance = (some start, none) := by
  cases pending with
  | none =>
    by_cases h : balance > 0
    · exact Or.inl ⟨rfl, h, by simp [scanStep, h]⟩
    · exact Or.inr (Or.inl ⟨rfl, by omega, by simp [scanStep, h]⟩)
  | some start =>
    by_cases h : balance < 0
    · exact Or.inr (Or.inr (Or.inl ⟨start, rfl, h, by simp [scanStep, h]⟩))
    · exact Or.inr (Or.inr (Or.inr ⟨start, rfl, by omega, by simp [scanStep, h]⟩))

/-- The marker of the last line: an action that is still open behind it ends on the line after. -/
def lastMarker (pending : Option Nat) (number : Nat) (l : Line) : Option Marker :=
  match scanStep pending number (braceBalance l.content) with
  | (some start, _) => some (.span start (number + 1))
  | (none, m) => m

/-- The marker of the last line: that of the action which is open behind it, or else its own. -/
theorem lastMarker_eq (pending : Option Nat) (number : Nat) (l : Line) :
    lastMarker pending number l
      = ((scanStep pending number (braceBalance l.content)).1.map
          fun start => .span start (number + 1)).or
        (scanStep pending number (braceBalance l.content)).2 := by
  rw [lastMarker]
  split
  · next h => rw [h]; rfl
  · next h => rw [h]; rfl

/-- The last line has the marker that closes what is open. -/
theorem lineMarkers_singleton (pending : Option Nat) (number : Nat) (l : Line) :
    lineMarkers pending number [l] = [lastMarker pending number l] := by
  rw [lineMarkers, lastMarker]
  split <;> simp_all

/-- Any other line has the marker of its step. -/
theorem lineMarkers_cons_cons (pending : Option Nat) (number : Nat) (l k : Line) (ls : List Line) :
    lineMarkers pending number (l :: k :: ls)
      = (scanStep pending number (braceBalance l.content)).2
        :: lineMarkers (scanStep pending number (braceBalance l.content)).1 (number + 1)
          (k :: ls) := rfl

/-! ### Lines of the annotated text -/

/-- Every line has its place among the markers. -/
theorem length_lineMarkers (ls : List Line) (pending : Option Nat) (number : Nat) :
    (lineMarkers pending number ls).length = ls.length := by
  induction ls generalizing pending number with
  | nil => rfl
  | cons l ls ih =>
    cases ls with
    | nil => rw [lineMarkers_singleton]; rfl
    | cons k ls => rw [lineMarkers_cons_cons, List.length_cons, ih]; rfl

/-- Markers in front of their terminators leave a list of lines a list of lines. -/
theorem areLines_zipWith_mark {ls : List Line} {ms : List (Option Marker)} (hls : AreLines ls)
    (hlength : ms.length = ls.length) : AreLines (List.zipWith Line.mark ls ms) := by
  induction ls generalizing ms with
  | nil => exact hls.elim
  | cons l ls ih =>
    cases ms with
    | nil => simp at hlength
    | cons m ms =>
      have hmark : OnOneLine l.content → OnOneLine (l.mark m).content :=
        fun h => onOneLine_append.mpr ⟨h, onOneLine_markerText m⟩
      cases ls with
      | nil =>
        obtain rfl : ms = [] := by simpa using hlength
        exact ⟨hmark hls.1, hls.2⟩
      | cons k ls =>
        cases ms with
        | nil => simp at hlength
        | cons n ms =>
          obtain ⟨hcontent, hend, hcr, hrest⟩ := hls
          have hmarked : AreLines (List.zipWith Line.mark (k :: ls) (n :: ms)) :=
            ih hrest (by simpa using hlength)
          refine ⟨hmark hcontent, hend, ?_, hmarked⟩
          -- A marked line that is empty was empty before.
          rintro ⟨hl, hk, hterminator⟩
          exact hcr ⟨hl, (List.append_eq_nil_iff.mp hk).1, hterminator⟩

/-- **Alignment.** The annotated text has the lines of the template, each with its marker. -/
theorem splitLines_annotate (source : List Char) :
    splitLines (annotate source)
      = List.zipWith Line.mark (splitLines source) (lineMarkers none 1 (splitLines source)) :=
  splitLines_joinLines
    (areLines_zipWith_mark (areLines_splitLines source) (length_lineMarkers _ _ _))

/-- The lines of a template with their markers. -/
def markedLines (source : List Char) : List (Line × Option Marker) :=
  (splitLines source).zip (lineMarkers none 1 (splitLines source))

/-- Taken without the markers the lines are those of the text. -/
theorem map_fst_markedLines (source : List Char) :
    (markedLines source).map Prod.fst = splitLines source :=
  List.map_fst_zip (le_of_eq (length_lineMarkers _ _ _).symm)

/-- A line stands beside the marker of the same number. -/
theorem getElem?_markedLines {source : List Char} {i : Nat} {l : Line} {m : Option Marker} :
    (markedLines source)[i]? = some (l, m)
      ↔ (splitLines source)[i]? = some l
        ∧ (lineMarkers none 1 (splitLines source))[i]? = some m := by
  rw [markedLines, List.getElem?_zip_eq_some]

/-- The lines of the annotated text are the marked ones. -/
theorem splitLines_annotate_eq_map (source : List Char) :
    splitLines (annotate source) = (markedLines source).map fun p => p.1.mark p.2 := by
  rw [splitLines_annotate, markedLines, List.map_zip_eq_zipWith]
  rfl

/-! ### The lines that markers name -/

/-- The marker names lines in order, up to `last` at most. -/
structure Marker.IsWithin (m : Marker) (last : Nat) : Prop where
  ordered : m.startLine ≤ m.stopLine
  stop_le : m.stopLine ≤ last

/-- A marker within some lines is within more of them. -/
theorem Marker.IsWithin.mono {m : Marker} {last last' : Nat} (h : m.IsWithin last)
    (hle : last ≤ last') :
    m.IsWithin last' :=
  ⟨h.ordered, h.stop_le.trans hle⟩

/-- Step lemma: a line leaves an open action that starts no later, and a marker that ends with
    it. -/
theorem scanStep_isWithin {pending : Option Nat} {number : Nat}
    (hpending : ∀ s ∈ pending, s ≤ number)
    (balance : Int) :
    (∀ s ∈ (scanStep pending number balance).1, s ≤ number)
    ∧ ∀ m ∈ (scanStep pending number balance).2, m.IsWithin number := by
  -- A marker is written where a line has no action open behind it; else the start is passed on.
  rcases scanStep_cases pending number balance with
    ⟨-, -, h⟩ | ⟨-, -, h⟩ | ⟨start, hstart, -, h⟩ | ⟨start, hstart, -, h⟩
  · simp [h]
  · rw [h]
    refine ⟨by simp, fun m hm => ?_⟩
    obtain rfl : Marker.line number = m := by simpa using hm
    exact ⟨le_refl _, le_refl _⟩
  · rw [h]
    refine ⟨by simp, fun m hm => ?_⟩
    obtain rfl : Marker.span start number = m := by simpa using hm
    exact ⟨hpending start hstart, le_refl _⟩
  · rw [h]
    refine ⟨fun s hs => ?_, by simp⟩
    obtain rfl : start = s := by simpa using hs
    exact hpending start hstart

/-- The marker of the last line may name the line after it. -/
theorem lastMarker_isWithin {pending : Option Nat} {number : Nat}
    (hpending : ∀ s ∈ pending, s ≤ number)
    {l : Line} {m : Marker} (hm : lastMarker pending number l = some m) :
    m.IsWithin (number + 1) := by
  obtain ⟨hopen, hmarker⟩ := scanStep_isWithin hpending (braceBalance l.content)
  rw [lastMarker] at hm
  split at hm
  · next start _ h =>
    -- The action is still open and ends on the line after.
    rw [h] at hopen
    cases hm
    exact ⟨(hopen start rfl).trans (Nat.le_succ number), le_refl _⟩
  · next h =>
    rw [h] at hmarker
    exact (hmarker m hm).mono (Nat.le_succ number)

/-- Run lemma: the markers of lines from `number` on end at the latest on the line after these. -/
theorem isWithin_of_mem_lineMarkers {ls : List Line} {pending : Option Nat} {number : Nat}
    (hpending : ∀ s ∈ pending, s ≤ number) {m : Marker}
    (hm : some m ∈ lineMarkers pending number ls) :
    m.IsWithin (number + ls.length) := by
  induction ls generalizing pending number with
  | nil => simp [lineMarkers] at hm
  | cons l ls ih =>
    cases ls with
    | nil =>
      rw [lineMarkers_singleton, List.mem_singleton] at hm
      exact lastMarker_isWithin hpending hm.symm
    | cons k ls =>
      obtain ⟨hopen, hmarker⟩ := scanStep_isWithin hpending (braceBalance l.content)
      rw [lineMarkers_cons_cons, List.mem_cons] at hm
      -- The invariant is that an open action has started no later than the line at hand.
      rcases hm with hm | hm
      · exact (hmarker m hm.symm).mono (Nat.le_add_right _ _)
      · have hrest := ih (fun s hs => (hopen s hs).trans (Nat.le_succ number)) hm
        refine hrest.mono ?_
        simp only [List.length_cons]
        omega

/-! ### Where markers stand -/

/-- The marker of a step ends at its own line. -/
theorem stopLine_of_scanStep {pending : Option Nat} {number : Nat} {balance : Int} {m : Marker}
    (h : (scanStep pending number balance).2 = some m) : m.stopLine = number := by
  rcases scanStep_cases pending number balance with
    ⟨-, -, hs⟩ | ⟨-, -, hs⟩ | ⟨start, -, -, hs⟩ | ⟨start, -, -, hs⟩
  all_goals simp [hs] at h
  · rw [← h, Marker.stopLine]
  · rw [← h, Marker.stopLine]

/-- That of the last line does too, or it closes an open action one line further. -/
theorem stopLine_of_lastMarker {pending : Option Nat} {number : Nat} {l : Line} {m : Marker}
    (h : lastMarker pending number l = some m) :
    m.stopLine = number ∨ ∃ start, m = .span start (number + 1) := by
  rw [lastMarker_eq] at h
  cases hopen : (scanStep pending number (braceBalance l.content)).1 with
  | none =>
    rw [hopen] at h
    exact Or.inl (stopLine_of_scanStep h)
  | some start =>
    rw [hopen] at h
    cases h
    exact Or.inr ⟨start, rfl⟩

/-- A marker stands on the last line that it names.  Only on the last of the lines the marker of an
    open action names one line more. -/
theorem stopLine_of_getElem?_lineMarkers {ls : List Line} {pending : Option Nat} {number i : Nat}
    {m : Marker} (h : (lineMarkers pending number ls)[i]? = some (some m)) :
    m.stopLine = number + i
    ∨ (i + 1 = ls.length ∧ ∃ start, m = .span start (number + i + 1)) := by
  induction ls generalizing pending number i with
  | nil => simp [lineMarkers] at h
  | cons l ls ih =>
    cases ls with
    | nil =>
      rw [lineMarkers_singleton] at h
      cases i with
      | succ i => simp at h
      -- Only the last line may close an action that goes on behind it.
      | zero =>
        have hlast : lastMarker pending number l = some m := by simpa using h
        exact (stopLine_of_lastMarker hlast).imp id (fun hopen => ⟨rfl, hopen⟩)
    | cons k ls =>
      rw [lineMarkers_cons_cons] at h
      cases i with
      | zero => exact Or.inl (stopLine_of_scanStep (by simpa using h))
      | succ i =>
        rw [List.getElem?_cons_succ] at h
        have hnumber : number + 1 + i = number + (i + 1) := by omega
        have hrest := ih h
        rw [hnumber] at hrest
        exact hrest.imp id (fun hopen => ⟨congrArg (· + 1) hopen.1, hopen.2⟩)

/-- A marker of one line stands on the line that it names. -/
theorem line_of_getElem?_lineMarkers {ls : List Line} {pending : Option Nat} {number i n : Nat}
    (h : (lineMarkers pending number ls)[i]? = some (some (.line n))) : n = number + i := by
  rcases stopLine_of_getElem?_lineMarkers h with hstop | ⟨-, start, hspan⟩
  · exact hstop
  · cases hspan

/-- Lines with as many opening as closing delimiters each get a marker of their own. -/
theorem lineMarkers_of_balanced {ls : List Line} (hls : ∀ l ∈ ls, braceBalance l.content = 0)
    (number : Nat) :
    lineMarkers none number ls = ls.mapIdx (fun i _ => some (.line (number + i))) := by
  induction ls generalizing number with
  | nil => rfl
  | cons l ls ih =>
    have hl : braceBalance l.content = 0 := hls l (by simp)
    have hrest := ih (fun k hk => hls k (List.mem_cons_of_mem l hk)) (number + 1)
    have hnumber : ∀ i, number + 1 + i = number + (i + 1) := fun i => by omega
    cases ls with
    | nil => rw [lineMarkers_singleton, lastMarker, hl]; rfl
    | cons k ls =>
      -- A balanced line leaves nothing open, so that the rest begins as the text did.
      rw [lineMarkers_cons_cons, hl, List.mapIdx_cons]
      simp only [hnumber] at hrest
      exact congrArg₂ List.cons rfl hrest

end ChartTrace
