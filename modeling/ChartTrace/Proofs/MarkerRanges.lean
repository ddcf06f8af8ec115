import ChartTrace.Proofs.AnnotatedLines
import Mathlib.Data.List.Nodup

namespace ChartTrace

/-!
# The ranges of markers

The markers of a template share out its lines: read in order, they name line after line, each line
once.

* `openAction`: the first line of the action that is still open behind some lines;
  `pushedMarkers`: what the scan writes on each line, the marker of the line itself and, on the last
  line, that of an open action;
* `pushedMarkers_eq`: never more than one of the two;
* `namedLines`, `flatMap_namedLines`: the lines that markers name, one marker after the other, are
  those from the first line of the open action on, without gap or overlap;
* `templateMarkers_partition`: hence every line of a template has its one marker.
-/

/-! ### The scan over many lines -/

/-- The first line of the action that is open behind the lines numbered from `number` on. -/
def openAction : Option Nat → Nat → List Line → Option Nat
  | pending, _, [] => pending
  | pending, number, l :: ls =>
    openAction (scanStep pending number (braceBalance l.content)).1 (number + 1) ls

/-- The markers that the scan writes on each line: the one of the line, and behind the last line the
    one of an action that is still open. -/
def pushedMarkers : Option Nat → Nat → List Line → List (List Marker)
  | _, _, [] => []
  | pending, number, l :: ls =>
    let s := scanStep pending number (braceBalance l.content)
    (s.2.toList ++ if ls.isEmpty then (s.1.map fun start => .span start (number + 1)).toList else [])
      :: pushedMarkers s.1 (number + 1) ls

/-- A line that leaves an action open has no marker of its own. -/
theorem scanStep_snd_of_open {pending : Option Nat} {number start : Nat} {balance : Int}
    (h : (scanStep pending number balance).1 = some start) :
    (scanStep pending number balance).2 = none := by
  rcases scanStep_cases pending number balance with
    ⟨-, -, hs⟩ | ⟨-, -, hs⟩ | ⟨_, -, -, hs⟩ | ⟨_, -, -, hs⟩
  · rw [hs]
  · simp [hs] at h
  · simp [hs] at h
  · rw [hs]

/-- **One marker at most.** No line gets a marker of its own and that of an open action. -/
theorem pushedMarkers_eq (ls : List Line) (pending : Option Nat) (number : Nat) :
    pushedMarkers pending number ls = (lineMarkers pending number ls).map Option.toList := by
  induction ls generalizing pending number with
  | nil => rfl
  | cons l ls ih =>
    cases ls with
    | nil =>
      rw [lineMarkers_singleton, lastMarker_eq, pushedMarkers, pushedMarkers]
      -- The last line gets the closing marker only where its own step gave none.
      cases h : (scanStep pending number (braceBalance l.content)).1 with
      | none => simp
      | some start => simp [scanStep_snd_of_open h]
    | cons k ls =>
      rw [lineMarkers_cons_cons, pushedMarkers, ih]
      simp

/-! ### Lines named in order -/

/-- The template lines that the marker of a line names. -/
def namedLines : Option Marker → List Nat
  | none => []
  | some m => List.range' m.startLine (m.stopLine + 1 - m.startLine)

/-- A marker names the lines from its first to its last. -/
theorem mem_namedLines {m : Option Marker} {k : Nat} :
    k ∈ namedLines m ↔ ∃ n, m = some n ∧ n.startLine ≤ k ∧ k ≤ n.stopLine := by
  cases m with
  | none => simp [namedLines]
  | some m =>
    simp only [namedLines, List.mem_range'_1, Option.some.injEq, exists_eq_left']
    omega

/-- Consecutive numbers, and those that go on from there. -/
theorem range'_append_range' {a b c : Nat} (hab : a ≤ b) (hbc : b ≤ c) :
    List.range' a (b - a) ++ List.range' b (c - b) = List.range' a (c - a) := by
  have h := List.range'_append_1 (s := a) (m := b - a) (n := c - b)
  rw [Nat.add_sub_cancel' hab] at h
  rw [h]
  congr 1
  omega

/-- Where the lines that are not named yet start: with the open action, or with the next line. -/
def firstUnnamed (pending : Option Nat) (number : Nat) : Nat := pending.getD number

/-- Step lemma: a line names the lines up to itself that are not named yet, or leaves them all
    open. -/
theorem namedLines_scanStep {pending : Option Nat} {number : Nat}
    (hpending : ∀ s ∈ pending, s ≤ number) (balance : Int) :
    firstUnnamed pending number ≤ firstUnnamed (scanStep pending number balance).1 (number + 1)
    ∧ namedLines (scanStep pending number balance).2
      = List.range' (firstUnnamed pending number)
          (firstUnnamed (scanStep pending number balance).1 (number + 1)
            - firstUnnamed pending number) := by
  -- The lines not named yet are those of the open action; a marker names them all and the line itself.
  rcases scanStep_cases pending number balance with
    ⟨rfl, -, h⟩ | ⟨rfl, -, h⟩ | ⟨start, rfl, -, h⟩ | ⟨start, rfl, -, h⟩
  · simp [h, firstUnnamed, namedLines]
  · simp [h, firstUnnamed, namedLines, Marker.startLine, Marker.stopLine]
  · have hstart : start ≤ number := hpending start rfl
    rw [h]
    exact ⟨by simp only [firstUnnamed, Option.getD_some, Option.getD_none]; omega, rfl⟩
  · simp [h, firstUnnamed, namedLines]

/-- One past the last line that the markers of some lines name: an open action reaches to the line
    after them. -/
def namedEnd (pending : Option Nat) (number : Nat) (ls : List Line) : Nat :=
  number + ls.length + if (openAction pending number ls).isSome then 1 else 0

/-- The last marker names all lines that are left. -/
theorem namedLines_lastMarker {pending : Option Nat} {number : Nat}
    (hpending : ∀ s ∈ pending, s ≤ number) (l : Line) :
    namedLines (lastMarker pending number l)
      = List.range' (firstUnnamed pending number)
          (namedEnd pending number [l] - firstUnnamed pending number) := by
  obtain ⟨hle, hnamed⟩ := namedLines_scanStep hpending (braceBalance l.content)
  rw [lastMarker_eq, namedEnd, openAction, openAction]
  cases h : (scanStep pending number (braceBalance l.content)).1 with
  | none =>
    rw [h] at hnamed
    exact hnamed
  | some start =>
    -- The action that is open behind the line starts with the first line not named yet.
    have hopen : start = firstUnnamed pending number := by
      rcases scanStep_cases pending number (braceBalance l.content) with
        ⟨rfl, -, hs⟩ | ⟨-, -, hs⟩ | ⟨_, -, -, hs⟩ | ⟨_, rfl, -, hs⟩
      all_goals simp [hs] at h
      all_goals exact h.symm
    rw [hopen]
    rfl

/-- Run lemma: markers name the lines that are not named yet, one after the other. -/
theorem flatMap_namedLines {ls : List Line} (hls : ls ≠ []) {pending : Option Nat} {number : Nat}
    (hpending : ∀ s ∈ pending, s ≤ number) :
    (lineMarkers pending number ls).flatMap namedLines
      = List.range' (firstUnnamed pending number)
          (namedEnd pending number ls - firstUnnamed pending number) := by
  induction ls generalizing pending number with
  | nil => exact absurd rfl hls
  | cons l ls ih =>
    cases ls with
    | nil =>
      rw [lineMarkers_singleton, List.flatMap_singleton, namedLines_lastMarker hpending]
    | cons k ls =>
      obtain ⟨hopen, -⟩ := scanStep_isWithin hpending (braceBalance l.content)
      obtain ⟨hle, hnamed⟩ := namedLines_scanStep hpending (braceBalance l.content)
      have hnext : ∀ s ∈ (scanStep pending number (braceBalance l.content)).1, s ≤ number + 1 :=
        fun s hs => (hopen s hs).trans (Nat.le_succ number)
      -- The end of the named lines does not depend on where the scan is cut.
      have hend : namedEnd pending number (l :: k :: ls)
          = namedEnd (scanStep pending number (braceBalance l.content)).1 (number + 1)
              (k :: ls) := by
        rw [namedEnd, namedEnd, openAction, List.length_cons]
        omega
      have hrest : firstUnnamed (scanStep pending number (braceBalance l.content)).1 (number + 1)
          ≤ namedEnd pending number (l :: k :: ls) := by
        have hfirst : firstUnnamed (scanStep pending number (braceBalance l.content)).1 (number + 1)
            ≤ number + 1 := by
          cases h : (scanStep pending number (braceBalance l.content)).1 with
          | none => exact le_refl _
          | some s => exact hnext s h
        simp only [namedEnd, List.length_cons]
        omega
      rw [lineMarkers_cons_cons, List.flatMap_cons, hnamed, ih (by simp) hnext, ← hend,
        range'_append_range' hle hrest]

/-! ### Templates -/

/-- The marker of each line of a template. -/
def templateMarkers (source : List Char) : List (Option Marker) :=
  lineMarkers none 1 (splitLines source)

/-- The last line that the markers of a template name: its own last line, or the line after it when
    an action is left open. -/
def lastNamedLine (source : List Char) : Nat :=
  if (openAction none 1 (splitLines source)).isSome then (splitLines source).length + 1
  else (splitLines source).length

/-- The markers of a template name its lines in order, each once, and the line behind if an action stays
    open. -/
theorem flatMap_namedLines_templateMarkers (source : List Char) :
    (templateMarkers source).flatMap namedLines = List.range' 1 (lastNamedLine source) := by
  obtain ⟨l, ls, hls⟩ := splitLines_eq_cons source
  have hnamed : (lineMarkers none 1 (splitLines source)).flatMap namedLines = _ :=
    flatMap_namedLines (by simp [hls]) (by simp)
  have hcount : namedEnd none 1 (splitLines source) - firstUnnamed none 1
      = lastNamedLine source := by
    rw [namedEnd, lastNamedLine, firstUnnamed, Option.getD_none]
    split <;> omega
  rw [templateMarkers, hnamed, hcount]
  rfl

/-- No line is named by two markers. -/
theorem pairwise_disjoint_namedLines (source : List Char) :
    (templateMarkers source).Pairwise fun m m' => (namedLines m).Disjoint (namedLines m') := by
  have hnodup : ((templateMarkers source).flatMap namedLines).Nodup := by
    rw [flatMap_namedLines_templateMarkers]
    exact List.nodup_range'
  exact (List.nodup_flatMap.mp hnodup).2

/-- Every line that is named at all has its one marker. -/
theorem existsUnique_marker {source : List Char} {k : Nat} (hk : 1 ≤ k)
    (hk' : k ≤ lastNamedLine source) :
    ∃! i : Nat, ∃ m : Marker, (templateMarkers source)[i]? = some (some m)
      ∧ m.startLine ≤ k ∧ k ≤ m.stopLine := by
  have hmem : k ∈ (templateMarkers source).flatMap namedLines := by
    rw [flatMap_namedLines_templateMarkers, List.mem_range'_1]
    omega
  obtain ⟨m, hm, hkm⟩ := List.mem_flatMap.mp hmem
  obtain ⟨i, hi⟩ := List.mem_iff_getElem?.mp hm
  obtain ⟨n, rfl, hn⟩ := mem_namedLines.mp hkm
  refine ⟨i, ⟨n, hi, hn⟩, ?_⟩
  rintro j ⟨n', hj, hn'⟩
  have hkm' : k ∈ namedLines (some n') := mem_namedLines.mpr ⟨n', rfl, hn'⟩
  -- Of two places one comes first, and what is named there is not named at the other.
  have happart := List.pairwise_iff_getElem.mp (pairwise_disjoint_namedLines source)
  obtain ⟨hi', hget⟩ := List.getElem?_eq_some_iff.mp hi
  obtain ⟨hj', hget'⟩ := List.getElem?_eq_some_iff.mp hj
  rcases Nat.lt_trichotomy j i with hlt | heq | hlt
  · have hdisjoint := happart j i hj' hi' hlt
    rw [hget, hget'] at hdisjoint
    exact (hdisjoint hkm' hkm).elim
  · exact heq
  · have hdisjoint := happart i j hi' hj' hlt
    rw [hget, hget'] at hdisjoint
    exact (hdisjoint hkm hkm').elim

/-- **Partition.** Annotation puts at most one marker on a line.  In the order of the lines the
    markers name line after line from 1 on, up to the last line of the template, or to the line after
    it when the template ends inside an action; no line is named twice.  A marker stands on the last
    line it names, or on the last line of the template if that comes first, and it names no later
    line but the one after the last.  So each line of the template is named by exactly one marker. -/
theorem templateMarkers_partition (source : List Char) :
    splitLines (annotate source)
      = List.zipWith Line.mark (splitLines source) (templateMarkers source)
    ∧ pushedMarkers none 1 (splitLines source) = (templateMarkers source).map Option.toList
    ∧ (templateMarkers source).flatMap namedLines
      = List.range' 1
          (if (openAction none 1 (splitLines source)).isSome then (splitLines source).length + 1
          else (splitLines source).length)
    ∧ ((templateMarkers source).Pairwise fun m m' => (namedLines m).Disjoint (namedLines m'))
    ∧ (∀ i m, (templateMarkers source)[i]? = some (some m) →
        m.startLine ≤ m.stopLine ∧ i + 1 = min m.stopLine (splitLines source).length
        ∧ ∀ k ∈ namedLines (some m), k ≤ i + 1 ∨ k = (splitLines source).length + 1)
    ∧ ∀ k, 1 ≤ k → k ≤ (splitLines source).length →
        ∃! i : Nat, ∃ m : Marker, (templateMarkers source)[i]? = some (some m)
          ∧ m.startLine ≤ k ∧ k ≤ m.stopLine := by
  refine ⟨splitLines_annotate source, pushedMarkers_eq _ _ _,
    flatMap_namedLines_templateMarkers source, pairwise_disjoint_namedLines source, ?_, ?_⟩
  · intro i m hm
    have hlt : i < (splitLines source).length := by
      rw [← length_lineMarkers (splitLines source) none 1]
      exact (List.getElem?_eq_some_iff.mp hm).1
    have hwithin := isWithin_of_mem_lineMarkers (by simp) (List.mem_of_getElem? hm)
    -- Only the last line has a marker that ends behind it.
    have hstop : m.stopLine = 1 + i
        ∨ (i + 1 = (splitLines source).length ∧ m.stopLine = 1 + i + 1) := by
      rcases stopLine_of_getElem?_lineMarkers hm with hown | ⟨hlast, start, rfl⟩
      · exact Or.inl hown
      · exact Or.inr ⟨hlast, rfl⟩
    refine ⟨hwithin.ordered, by omega, fun k hk => ?_⟩
    obtain ⟨n, hn, -, hkn⟩ := mem_namedLines.mp hk
    cases hn
    omega
  · intro k hk hk'
    refine existsUnique_marker hk (hk'.trans ?_)
    rw [lastNamedLine]
    split
    · exact Nat.le_succ _
    · exact le_refl _

/-- A plain line, an action over two lines, and one that is left open. -/
def unclosedTemplate : List Char :=
  ['a', '\n', openBrace, openBrace, '\n', closeBrace, closeBrace, '\n', openBrace, openBrace]

/-- The last action stays open, so that a line behind the template is named. -/
theorem templateMarkers_partition_unclosedTemplate :
    templateMarkers unclosedTemplate = [some (.line 1), none, some (.span 2 3), some (.span 4 5)]
    ∧ (templateMarkers unclosedTemplate).flatMap namedLines = [1, 2, 3, 4, 5]
    ∧ (templateMarkers unclosedTemplate)[3]? = some (some (.span 4 5))
    ∧ 3 + 1 = min 5 (splitLines unclosedTemplate).length
    ∧ (1 ≤ 2 ∧ 2 ≤ (splitLines unclosedTemplate).length)
    ∧ ∃! i : Nat, ∃ m : Marker, (templateMarkers unclosedTemplate)[i]? = some (some m)
        ∧ m.startLine ≤ 2 ∧ 2 ≤ m.stopLine := by
  obtain ⟨-, -, hnamed, -, hplaces, hunique⟩ := templateMarkers_partition unclosedTemplate
  have hlast : (templateMarkers unclosedTemplate)[3]? = some (some (.span 4 5)) := by decide
  refine ⟨by decide, hnamed, hlast, (hplaces 3 _ hlast).2.1, by decide, ?_⟩
  exact hunique 2 (by decide) (by decide)

end ChartTrace
