import ChartTrace.Proofs.AnnotatedLines
import ChartTrace.Proofs.ShiftEntries

namespace ChartTrace

/-!
# Cleaning an annotated template

A template that is annotated and cleaned again, with nothing rendered in between, comes back without
its blank lines and with a table of where each line was:

* `keepLine?_mark`: a visible line loses its marker, whatever the marker is, and other lines go;
* `keptLines_annotate`: hence what cleaning keeps of an annotated template;
* `visibleRank`: the number of a line among the visible ones; `getElem?_filter_eq_some_iff` finds
  the lines of a filtered list in the list itself;
* `clean_annotate`: the round trip.
-/

/-- The number of the line at index `i` among the visible lines, from 1. -/
def visibleRank (ls : List Line) (i : Nat) : Nat := (ls.take (i + 1)).countP Line.isVisible

/-- What cleaning keeps of a visible line with a given marker. -/
def keptPair (p : Line × Option Marker) : KeptLine :=
  ⟨p.1, p.2.map fun m => (m.startLine, m.stopLine)⟩

/-! ### What is kept of annotated lines -/

/-- An annotated line is kept with its content and the lines of its marker, and dropped if it is blank. -/
theorem keepLine?_mark {l : Line} {m : Option Marker} (hl : ¬ EndsInToken l.content)
    (hm : ∀ k ∈ m, k.IsWithin (wordLimit - 1)) :
    keepLine? (l.mark m) = if l.isVisible then some (keptPair (l, m)) else none := by
  have hstrip : stripMarker (l.mark m).content
      = (l.content, m.map fun k => (k.startLine, k.stopLine)) := by
    cases m with
    | none => simpa [Line.mark, markerText] using stripMarker_of_not_endsInToken hl
    | some k =>
      -- The comment of a marker is a blank and a group of one token.
      obtain ⟨hordered, hstop⟩ := hm k rfl
      have hlimit : 0 < wordLimit := by decide
      have hnames : k.token.NamesLines := Marker.namesLines_token (by omega) (by omega)
      have hstrip := stripMarker_append hl (show isBlank ' ' = true by decide)
        (show (MarkerGroup.one k.token).first.NamesLines from hnames)
      simpa [Line.mark, markerText, Marker.text_eq, MarkerGroup.text, MarkerGroup.first]
        using hstrip
  exact keepLine?_of_stripMarker hstrip

/-- So what is kept of annotated lines are the visible ones, with their markers. -/
theorem keptLines_map_mark {ps : List (Line × Option Marker)}
    (hps : ∀ p ∈ ps, ¬ EndsInToken p.1.content ∧ ∀ k ∈ p.2, k.IsWithin (wordLimit - 1)) :
    keptLines (ps.map fun p => p.1.mark p.2)
      = (ps.filter fun p => p.1.isVisible).map keptPair :=
  keptLines_map (fun p hp => keepLine?_mark (hps p hp).1 (hps p hp).2)

section

variable {source : List Char} (htokens : ∀ l ∈ splitLines source, ¬ EndsInToken l.content)
  (hnumbers : (splitLines source).length + 1 < wordLimit)

include hnumbers in
/-- Markers of a text name lines that fit a word. -/
theorem isWithin_of_mem_markedLines {p : Line × Option Marker} (hp : p ∈ markedLines source)
    {m : Marker} (hm : p.2 = some m) : m.IsWithin (wordLimit - 1) := by
  have hmem : some m ∈ lineMarkers none 1 (splitLines source) := by
    rw [← hm]
    exact (List.of_mem_zip hp).2
  exact (isWithin_of_mem_lineMarkers (by simp) hmem).mono (by omega)

include htokens hnumbers

/-- What cleaning keeps of an annotated text. -/
theorem keptLines_annotate :
    keptLines (splitLines (annotate source))
      = ((markedLines source).filter fun p => p.1.isVisible).map keptPair := by
  rw [splitLines_annotate_eq_map]
  refine keptLines_map_mark (fun p hp => ⟨htokens p.1 (List.of_mem_zip hp).1, fun k hk => ?_⟩)
  exact isWithin_of_mem_markedLines hnumbers hp hk

/-- The text that comes back has the visible lines only, and no line end at the end. -/
theorem source_clean_annotate :
    (clean (annotate source)).source
      = dropTrailingTerminators (joinLines ((splitLines source).filter Line.isVisible)) := by
  -- A line is kept or dropped for its content, whatever its marker.
  have hlines :
      (((markedLines source).filter fun p => p.1.isVisible).map keptPair).map KeptLine.line
      = (splitLines source).filter Line.isVisible := by
    rw [← map_fst_markedLines source, List.filter_map, List.map_map]
    rfl
  rw [clean, keptLines_annotate htokens hnumbers, hlines]

/-- The table has the entries of the lines that are kept. -/
theorem entries_clean_annotate :
    (clean (annotate source)).shifts.entries
      = keptEntries 1 (((markedLines source).filter fun p => p.1.isVisible).map keptPair) := by
  rw [entries_clean, keptLines_annotate htokens hnumbers]

end

/-! ### Numbers among the visible lines -/

/-- An element of a filtered list stands in the list behind as many passing elements as its index
    says. -/
theorem getElem?_filter_eq_some_iff {α : Type} {p : α → Bool} {xs : List α} {j : Nat} {x : α} :
    (xs.filter p)[j]? = some x
      ↔ ∃ i, xs[i]? = some x ∧ p x = true ∧ (xs.take i).countP p = j := by
  induction xs generalizing j with
  | nil => simp
  | cons y ys ih =>
    -- The element is the first one of the list, or one of the rest.
    have hcons : (∃ i, (y :: ys)[i]? = some x ∧ p x = true ∧ ((y :: ys).take i).countP p = j)
        ↔ (y = x ∧ p x = true ∧ j = 0)
          ∨ ∃ i, ys[i]? = some x ∧ p x = true ∧ (y :: ys.take i).countP p = j := by
      constructor
      · rintro ⟨i, hi, hx, hj⟩
        cases i with
        | zero => exact Or.inl ⟨by simpa using hi, hx, by simpa using hj.symm⟩
        | succ i => exact Or.inr ⟨i, by simpa using hi, hx, by simpa using hj⟩
      · rintro (⟨rfl, hx, rfl⟩ | ⟨i, hi, hx, hj⟩)
        · exact ⟨0, rfl, hx, rfl⟩
        · exact ⟨i + 1, by simpa using hi, hx, by simpa using hj⟩
    rw [hcons]
    cases hy : p y with
    | false =>
      rw [List.filter_cons_of_neg (by simp [hy]), ih]
      constructor
      · rintro ⟨i, hi, hx, hj⟩
        exact Or.inr ⟨i, hi, hx, by rw [List.countP_cons_of_neg (by simp [hy])]; exact hj⟩
      · rintro (⟨rfl, hx, -⟩ | ⟨i, hi, hx, hj⟩)
        · rw [hy] at hx; cases hx
        · exact ⟨i, hi, hx, by rw [List.countP_cons_of_neg (by simp [hy])] at hj; exact hj⟩
    | true =>
      rw [List.filter_cons_of_pos hy]
      cases j with
      | zero =>
        have hx : y = x → p x = true := by rintro rfl; exact hy
        simpa [hy] using hx
      | succ j =>
        rw [List.getElem?_cons_succ, ih]
        simp [List.countP_cons_of_pos hy]

/-- Visible lines are counted alike with markers and without. -/
theorem countP_take_markedLines (source : List Char) (i : Nat) :
    ((markedLines source).take i).countP (fun p => p.1.isVisible)
      = ((splitLines source).take i).countP Line.isVisible := by
  rw [← map_fst_markedLines source, ← List.map_take, List.countP_map]
  rfl

/-- A visible line has the number that follows those of the visible lines in front of it. -/
theorem visibleRank_eq {ls : List Line} {i : Nat} {l : Line} (hl : ls[i]? = some l)
    (hvisible : l.isVisible = true) : visibleRank ls i = 1 + (ls.take i).countP Line.isVisible := by
  rw [visibleRank, List.take_add_one, hl, List.countP_append]
  simp [hvisible, Nat.add_comm]

/-- A kept line makes an entry exactly when it has a marker, and the entry names the lines of it. -/
theorem keptPair_shift? {l : Line} {m : Option Marker} {number : Nat} {e : ShiftEntry}
    (hm : ∀ k ∈ m, k.startLine ≤ k.stopLine) :
    (keptPair (l, m)).shift? number = some e
      ↔ ∃ k, m = some k ∧ e = ⟨number, k.startLine, k.stopLine⟩ := by
  cases m with
  | none => simp [KeptLine.shift?, keptPair]
  | some k =>
    have hk := hm k rfl
    simp [KeptLine.shift?, keptPair, Nat.min_eq_left hk, Nat.max_eq_right hk, eq_comm]

/-- The entries of the visible lines that carry a marker, by their numbers. -/
theorem mem_keptEntries_markedLines {source : List Char}
    (hnumbers : (splitLines source).length + 1 < wordLimit) {e : ShiftEntry} :
    e ∈ keptEntries 1 (((markedLines source).filter fun p => p.1.isVisible).map keptPair)
      ↔ ∃ i l m, (splitLines source)[i]? = some l ∧ l.isVisible = true
        ∧ (lineMarkers none 1 (splitLines source))[i]? = some (some m)
        ∧ e = ⟨visibleRank (splitLines source) i, m.startLine, m.stopLine⟩ := by
  rw [mem_keptEntries]
  constructor
  · -- The line at `j` among the kept ones is some line `i` of the text, and `j` counts those in front.
    rintro ⟨j, k, hk, he⟩
    rw [List.getElem?_map, Option.map_eq_some_iff] at hk
    obtain ⟨⟨l, m⟩, hlm, rfl⟩ := hk
    obtain ⟨i, hi, hvisible, hj⟩ := getElem?_filter_eq_some_iff.mp hlm
    have hmem := List.mem_of_getElem? hi
    obtain ⟨hl, hm⟩ := getElem?_markedLines.mp hi
    obtain ⟨k, rfl, rfl⟩ := (keptPair_shift? fun k hk =>
      (isWithin_of_mem_markedLines hnumbers hmem hk).ordered).mp he
    refine ⟨i, l, k, hl, hvisible, hm, ?_⟩
    rw [visibleRank_eq hl hvisible, ← countP_take_markedLines, hj]
  · -- Conversely a visible line is kept at the number of those in front.
    rintro ⟨i, l, m, hl, hvisible, hm, rfl⟩
    have hi := getElem?_markedLines.mpr ⟨hl, hm⟩
    have hmem := List.mem_of_getElem? hi
    refine ⟨((splitLines source).take i).countP Line.isVisible, keptPair (l, some m), ?_, ?_⟩
    · rw [List.getElem?_map,
        getElem?_filter_eq_some_iff.mpr ⟨i, hi, hvisible, countP_take_markedLines source i⟩]
      rfl
    · rw [← visibleRank_eq hl hvisible]
      exact (keptPair_shift? fun k hk =>
        (isWithin_of_mem_markedLines hnumbers hmem hk).ordered).mpr ⟨m, rfl, rfl⟩

/-! ### Balanced templates -/

/-- Lines that show nothing and take no room can be left out of a text. -/
theorem joinLines_filter_isVisible {ls : List Line}
    (hls : ∀ l ∈ ls, l.isVisible = false → l.text = []) :
    joinLines (ls.filter Line.isVisible) = joinLines ls := by
  induction ls with
  | nil => rfl
  | cons l ls ih =>
    have hrest := ih (fun k hk => hls k (List.mem_cons_of_mem l hk))
    cases hl : l.isVisible with
    | true => rw [List.filter_cons_of_pos hl, joinLines_cons, joinLines_cons, hrest]
    -- A line that is dropped has no text, thus nothing is lost.
    | false =>
      have htext : l.content ++ l.terminator = [] := hls l (by simp) hl
      rw [List.filter_cons_of_neg (by simp [hl]), joinLines_cons, htext, hrest]
      rfl

/-- With a marker of its own on each line, and no blank line but an empty last one, the visible
    lines keep their numbers. -/
theorem keptEntries_of_single_markers {ls : List Line} (hlines : AreLines ls)
    (hls : ∀ l ∈ ls, l.isVisible = false → l.text = []) (number : Nat) :
    keptEntries number (((ls.zip (ls.mapIdx fun i _ => some (.line (number + i)))).filter
        fun p => p.1.isVisible).map keptPair)
      = (List.range (ls.countP Line.isVisible)).map
          (fun i => ⟨number + i, number + i, number + i⟩) := by
  induction ls generalizing number with
  | nil => exact hlines.elim
  | cons l ls ih =>
    have hnumber : ∀ i, number + 1 + i = number + (i + 1) := fun i => by omega
    cases ls with
    | nil =>
      cases hl : l.isVisible <;> simp [hl, keptEntries, KeptLine.shift?, keptPair, Marker.startLine,
        Marker.stopLine]
    | cons k ls =>
      obtain ⟨-, hend, -, hrest⟩ := hlines
      -- A line with a terminator takes room, so it cannot be blank.
      have hl : l.isVisible = true := by
        by_contra hblank
        rw [Bool.not_eq_true] at hblank
        have htext : l.content ++ l.terminator = [] := hls l (by simp) hblank
        rw [(List.append_eq_nil_iff.mp htext).2] at hend
        exact absurd hend (by decide)
      have htail := ih hrest (fun j hj => hls j (List.mem_cons_of_mem l hj)) (number + 1)
      simp only [hnumber] at htail
      rw [List.mapIdx_cons, List.zip_cons_cons, List.filter_cons, if_pos hl, List.map_cons,
        keptEntries, htail, List.countP_cons_of_pos hl, List.range_succ_eq_map, List.map_cons,
        List.map_map]
      simp [KeptLine.shift?, keptPair, Marker.startLine, Marker.stopLine, Function.comp_def]

/-- **Round trip.** Let no line of a template end in a token, and let line numbers be words.
    Cleaning the annotated template gives back its visible lines with their own terminators, up to
    those at the end. The table holds one entry for each visible line with a marker, from the number
    of the line among the visible ones to the lines of the marker, and none besides.  A template
    with balanced lines and no blank ones, but for an empty last line, comes back whole and with
    each line on its own number. -/
theorem clean_annotate (source : List Char)
    (htokens : ∀ l ∈ splitLines source, ¬ EndsInToken l.content)
    (hnumbers : (splitLines source).length + 1 < wordLimit) :
    (clean (annotate source)).source
      = dropTrailingTerminators (joinLines ((splitLines source).filter Line.isVisible))
    ∧ (clean (annotate source)).shifts.entries.Pairwise (fun d e => d.renderedLine < e.renderedLine)
    ∧ (∀ e, e ∈ (clean (annotate source)).shifts.entries
        ↔ ∃ i l m, (splitLines source)[i]? = some l ∧ l.isVisible = true
          ∧ (lineMarkers none 1 (splitLines source))[i]? = some (some m)
          ∧ e = ⟨visibleRank (splitLines source) i, m.startLine, m.stopLine⟩)
    ∧ (∀ i n, (lineMarkers none 1 (splitLines source))[i]? = some (some (.line n)) → n = i + 1)
    ∧ ((∀ l ∈ splitLines source, l.isVisible = false → l.text = []) →
        (∀ l ∈ splitLines source, braceBalance l.content = 0) →
        (clean (annotate source)).source = dropTrailingTerminators source
        ∧ (clean (annotate source)).shifts.entries
          = (List.range ((splitLines source).countP Line.isVisible)).map
              (fun i => ⟨i + 1, i + 1, i + 1⟩)) := by
  have hsource := source_clean_annotate htokens hnumbers
  have hentries := entries_clean_annotate htokens hnumbers
  refine ⟨hsource, (clean (annotate source)).shifts.lines.sorted, fun e => ?_, fun i n hn => ?_,
    fun hvisible hbalanced => ⟨?_, ?_⟩⟩
  · rw [hentries]
    exact mem_keptEntries_markedLines hnumbers
  · have := line_of_getElem?_lineMarkers hn
    omega
  · rw [hsource, joinLines_filter_isVisible hvisible, joinLines_splitLines]
  · -- Balanced lines carry their own numbers, and no text is lost with the others.
    have hmarkers := lineMarkers_of_balanced hbalanced 1
    have hkept := keptEntries_of_single_markers (areLines_splitLines source) hvisible 1
    rw [hentries, markedLines, hmarkers, hkept]
    simp only [Nat.add_comm 1]

/-- An action over two lines, a blank line, a comment, and an action that is still open at the
    end. -/
def spanningTemplate : List Char :=
  ['a', openBrace, openBrace, '\r', '\n', closeBrace, closeBrace, '\n', '\n', 'b', '#', '\r',
    openBrace, openBrace]

/-- Two balanced lines and an empty last one. -/
def balancedTemplate : List Char := ['a', '\u2028', 'b', ' ', '\n']

/-- One template has actions over several lines, one of them never closed; the other is balanced, and
    both drop a line. -/
theorem clean_annotate_spanningTemplate :
    (∀ l ∈ splitLines spanningTemplate, ¬ EndsInToken l.content)
    ∧ (splitLines spanningTemplate).length + 1 < wordLimit
    ∧ (clean (annotate spanningTemplate)).source
        = ['a', openBrace, openBrace, '\r', '\n', closeBrace, closeBrace, '\n', 'b', '#', '\r',
          openBrace, openBrace]
    ∧ ⟨2, 1, 2⟩ ∈ (clean (annotate spanningTemplate)).shifts.entries
    ∧ ⟨4, 5, 6⟩ ∈ (clean (annotate spanningTemplate)).shifts.entries
    ∧ (clean (annotate balancedTemplate)).source = ['a', '\u2028', 'b', ' ']
    ∧ (clean (annotate balancedTemplate)).shifts.entries = [⟨1, 1, 1⟩, ⟨2, 2, 2⟩] := by
  have htokens : ∀ l ∈ splitLines spanningTemplate, ¬ EndsInToken l.content := by decide
  have hnumbers : (splitLines spanningTemplate).length + 1 < wordLimit := by decide
  obtain ⟨hsource, -, hentries, -⟩ := clean_annotate spanningTemplate htokens hnumbers
  obtain ⟨-, -, -, -, hbalanced⟩ := clean_annotate balancedTemplate (by decide) (by decide)
  obtain ⟨hsource', hentries'⟩ := hbalanced (by decide) (by decide)
  refine ⟨htokens, hnumbers, hsource, ?_, ?_, hsource', hentries'⟩
  · exact (hentries _).mpr ⟨1, _, .span 1 2, rfl, rfl, rfl, rfl⟩
  · exact (hentries _).mpr ⟨4, _, .span 5 6, rfl, rfl, rfl, rfl⟩

end ChartTrace
