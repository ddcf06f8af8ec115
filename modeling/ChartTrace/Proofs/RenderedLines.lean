import ChartTrace.Proofs.ShiftEntries
import ChartTrace.Proofs.StrippedLines

namespace ChartTrace

/-!
# Line tracking through rendering

Rendering may delete, repeat, reorder, rewrite and merge lines at will.  As long as each rendered
line ends in markers, cleaning finds out where it came from:

* `RenderedLine`: a rendered line taken apart into its content, a blank, the markers and the
  terminator;
* `visibleLines`: the lines with something other than white space in front of the markers;
* `keptLines_line`: these are the lines that cleaning keeps, with the template lines of their
  markers;
* `clean_renderedText`: hence the lines, the entries and the relocated errors of the cleaned text.
-/

/-- A rendered line that carries markers.  The content does not end in a token, so it is clear where
    the markers start; the numbers of the first marker are words. -/
structure RenderedLine where
  /-- What the line shows. -/
  content : List Char
  /-- The blank in front of the markers. -/
  blank : Char
  /-- The markers; merged lines leave several. -/
  group : MarkerGroup
  terminator : List Char
  isBlank_blank : isBlank blank = true
  onOneLine : OnOneLine (content ++ blank :: group.text)
  not_endsInToken : ¬ EndsInToken content
  namesLines : group.first.NamesLines

namespace RenderedLine

/-- The line as it was rendered. -/
def line (l : RenderedLine) : Line := ⟨l.content ++ l.blank :: l.group.text, l.terminator⟩

/-- The line without its markers. -/
def plain (l : RenderedLine) : Line := ⟨l.content, l.terminator⟩

/-- Whether the line shows anything besides its markers. -/
def isVisible (l : RenderedLine) : Bool := l.plain.isVisible

/-- The first template line that the first marker names. -/
def startLine (l : RenderedLine) : Nat := min l.group.first.startLine l.group.first.stopLine

/-- The last template line that the first marker names. -/
def stopLine (l : RenderedLine) : Nat := max l.group.first.startLine l.group.first.stopLine

/-- What cleaning keeps of the line when it is visible. -/
def kept (l : RenderedLine) : KeptLine :=
  ⟨l.plain, some (l.group.first.startLine, l.group.first.stopLine)⟩

theorem shift?_kept (l : RenderedLine) (number : Nat) :
    l.kept.shift? number = some ⟨number, l.startLine, l.stopLine⟩ := rfl

/-- The content is on one line, as the rendered line is. -/
theorem onOneLine_content (l : RenderedLine) : OnOneLine l.content :=
  (onOneLine_append.mp l.onOneLine).1

end RenderedLine

/-- The rendered lines that show anything. -/
def visibleLines (ls : List RenderedLine) : List RenderedLine := ls.filter RenderedLine.isVisible

/-- The text of rendered lines. -/
def renderedText (ls : List RenderedLine) : List Char := joinLines (ls.map RenderedLine.line)

/-! ### What cleaning keeps -/

/-- A rendered line is kept without its marker, if it is visible. -/
theorem keepLine?_line (l : RenderedLine) :
    keepLine? l.line = if l.isVisible then some l.kept else none := by
  have hstrip : stripMarker l.line.content = _ :=
    stripMarker_append l.not_endsInToken l.isBlank_blank l.namesLines
  exact keepLine?_of_stripMarker hstrip

/-- So the visible lines are the ones that are kept. -/
theorem keptLines_line (ls : List RenderedLine) :
    keptLines (ls.map RenderedLine.line) = (visibleLines ls).map RenderedLine.kept :=
  keptLines_map (fun l _ => keepLine?_line l)

/-- Every kept line makes an entry, at its number among them. -/
theorem keptEntries_kept (ls : List RenderedLine) (number : Nat) :
    keptEntries number (ls.map RenderedLine.kept)
      = ls.mapIdx (fun i l => ⟨number + i, l.startLine, l.stopLine⟩) := by
  induction ls generalizing number with
  | nil => rfl
  | cons l ls ih =>
    rw [List.map_cons, keptEntries, RenderedLine.shift?_kept, ih, List.mapIdx_cons]
    have hnumber : ∀ i, number + 1 + i = number + (i + 1) := fun i => by omega
    simp only [hnumber]
    rfl

/-! ### Texts of rendered lines -/

section

variable (ls : List RenderedLine)
  (hends : ∀ l ∈ ls.dropLast, l.terminator ∈ lineEnds)
  (hlast : ∀ l ∈ ls.getLast?, l.terminator = [])
include hends hlast

/-- The lines of the text are the rendered lines: a rendered line is never empty, so no two
    terminators run into one. -/
theorem splitLines_renderedText (hne : ls ≠ []) :
    splitLines (renderedText ls) = ls.map RenderedLine.line := by
  -- The last line has no terminator that `openLast` could take.
  have hopen : openLast (ls.map RenderedLine.line) = ls.map RenderedLine.line := by
    obtain ⟨ks, l, rfl⟩ := (List.eq_nil_or_concat' ls).resolve_left hne
    have hl : l.terminator = [] := hlast l (by simp)
    rw [List.map_append, List.map_singleton, openLast_concat, RenderedLine.line, hl]
  have hlines : AreLines (openLast (ls.map RenderedLine.line)) := by
    refine areLines_openLast ?_ (by simpa using hne) ?_
    · intro k hk
      obtain ⟨l, -, rfl⟩ := List.mem_map.mp hk
      exact ⟨l.onOneLine, by simp [RenderedLine.line]⟩
    · intro k hk
      rw [← List.map_dropLast] at hk
      obtain ⟨l, hl, rfl⟩ := List.mem_map.mp hk
      exact hends l hl
  rw [hopen] at hlines
  exact splitLines_joinLines hlines

/-- What is kept of the text is what is kept of its lines. -/
theorem keptLines_renderedText :
    keptLines (splitLines (renderedText ls)) = (visibleLines ls).map RenderedLine.kept := by
  by_cases hne : ls = []
  · subst hne; rfl
  · rw [splitLines_renderedText ls hends hlast hne, keptLines_line]

/-- The terminator of each line, also of the last one, is made of terminators. -/
theorem isTerminator_of_mem_terminator {l : RenderedLine} (hl : l ∈ ls) :
    ∀ c ∈ l.terminator, isTerminator c = true := by
  have hne : ls ≠ [] := List.ne_nil_of_mem hl
  rw [← List.dropLast_concat_getLast hne, List.mem_append, List.mem_singleton] at hl
  rcases hl with hl | hl
  · exact isTerminator_of_mem_lineEnds (hends l hl)
  · have hempty := hlast l (by rw [hl, List.getLast?_eq_some_getLast hne]; rfl)
    simp [hempty]

/-- The visible lines spell the cleaned text, up to the terminator of the last one. -/
theorem source_clean_renderedText :
    (clean (renderedText ls)).source
      = joinLines (openLast ((visibleLines ls).map RenderedLine.plain)) := by
  rw [clean, keptLines_renderedText ls hends hlast, List.map_map]
  -- A visible line has a content, where the dropping of line ends stops.
  refine dropTrailingTerminators_joinLines ?_ ?_
  · intro k hk
    obtain ⟨l, hl, rfl⟩ := List.mem_map.mp hk
    exact ⟨l.onOneLine_content, Line.content_ne_nil_of_isVisible (List.mem_filter.mp hl).2⟩
  · intro k hk
    obtain ⟨l, hl, rfl⟩ := List.mem_map.mp hk
    exact isTerminator_of_mem_terminator ls hends hlast (List.mem_filter.mp hl).1

omit hlast in
/-- The visible lines, the last of them open, are those of a text. -/
theorem areLines_visibleLines (hne : visibleLines ls ≠ []) :
    AreLines (openLast ((visibleLines ls).map RenderedLine.plain)) := by
  refine areLines_openLast ?_ (by simpa using hne) ?_
  · intro k hk
    obtain ⟨l, hl, rfl⟩ := List.mem_map.mp hk
    exact ⟨l.onOneLine_content, Line.content_ne_nil_of_isVisible (List.mem_filter.mp hl).2⟩
  · intro k hk
    rw [← List.map_dropLast] at hk
    obtain ⟨l, hl, rfl⟩ := List.mem_map.mp hk
    -- A visible line in front of another one is not the last line of the text.
    exact hends l ((dropLast_sublist List.filter_sublist).subset hl)

end

/-- **Line tracking.** Let a text be made of rendered lines, each but the last with a line end
    behind it. The cleaned text has exactly the visible lines, in order, with their contents
    unchanged.  The entry of the line with number `i + 1` names the template lines of the first
    marker on it, and a YAML error on that line is reported at the start of the first of them, its
    context moved likewise. -/
theorem clean_renderedText (ls : List RenderedLine)
    (hends : ∀ l ∈ ls.dropLast, l.terminator ∈ lineEnds)
    (hlast : ∀ l ∈ ls.getLast?, l.terminator = []) :
    (clean (renderedText ls)).source
      = joinLines (openLast ((visibleLines ls).map RenderedLine.plain))
    ∧ (visibleLines ls ≠ [] →
        splitLines (clean (renderedText ls)).source
          = openLast ((visibleLines ls).map RenderedLine.plain))
    ∧ (clean (renderedText ls)).shifts.entries
        = (visibleLines ls).mapIdx (fun i l => ⟨i + 1, l.startLine, l.stopLine⟩)
    ∧ ∀ (i : Nat) (l : RenderedLine), (visibleLines ls)[i]? = some l → i + 1 < wordLimit →
        ∀ (e : MarkedError) (column : Nat), e.problemMark = some ⟨i, column⟩ →
          (∀ c ∈ e.contextMark, c.line + 1 < wordLimit) →
          relocate e (clean (renderedText ls)).shifts = some (.shifted e { e with
            problemMark := some ⟨l.startLine - 1, 0⟩
            contextMark := e.contextMark.map (clean (renderedText ls)).shifts.moveMark }) := by
  have hsource := source_clean_renderedText ls hends hlast
  have hkept := keptLines_renderedText ls hends hlast
  refine ⟨hsource, fun hne => ?_, ?_, ?_⟩
  · rw [hsource]
    exact splitLines_joinLines (areLines_visibleLines ls hends hne)
  · rw [entries_clean, hkept, keptEntries_kept]
    simp [Nat.add_comm]
  · -- The entry of a line is found by its number, and the error is moved by that entry.
    intro i l hl hnumber e column hmark hcontext
    have hentry : ShiftTable.entry? (clean (renderedText ls)).shifts (i + 1)
        = some ⟨i + 1, l.startLine, l.stopLine⟩ := by
      rw [entry?_keptLines, hkept, List.getElem?_map, hl]
      exact l.shift?_kept (i + 1)
    exact relocate_of_entry hmark hnumber hentry hcontext

/-- Two merged lines, an invisible line, and a line whose marker gives its lines in reverse
    order. -/
def mergedLines : List RenderedLine :=
  [{ content := ['a', '#', '1', ';'], blank := ' ', terminator := ['\r', '\n']
     group := .more (.single ['4'] (by decide)) none
       (.one (.pair ['2'] ['3'] (by decide) (by decide)))
     isBlank_blank := by decide, onOneLine := by decide, not_endsInToken := by decide
     namesLines := by decide },
   { content := [' ', ' '], blank := '\t', terminator := ['\r']
     group := .one (.single ['5'] (by decide))
     isBlank_blank := by decide, onOneLine := by decide, not_endsInToken := by decide
     namesLines := by decide },
   { content := ['b'], blank := ' ', terminator := []
     group := .one (.pair ['0', '7'] ['6'] (by decide) (by decide))
     isBlank_blank := by decide, onOneLine := by decide, not_endsInToken := by decide
     namesLines := by decide }]

/-- The second of the rendered lines is blank, and the error on the last line moves with its context. -/
theorem clean_mergedLines :
    (∀ l ∈ mergedLines.dropLast, l.terminator ∈ lineEnds)
    ∧ (∀ l ∈ mergedLines.getLast?, l.terminator = [])
    ∧ (clean (renderedText mergedLines)).source = ['a', '#', '1', ';', '\r', '\n', 'b']
    ∧ (clean (renderedText mergedLines)).shifts.entries = [⟨1, 4, 4⟩, ⟨2, 6, 7⟩]
    ∧ relocate ⟨"problem", some ⟨1, 8⟩, none, some ⟨0, 3⟩⟩ (clean (renderedText mergedLines)).shifts
        = some (.shifted ⟨"problem", some ⟨1, 8⟩, none, some ⟨0, 3⟩⟩
            ⟨"problem", some ⟨5, 0⟩, none, some ⟨3, 0⟩⟩) := by
  have hends : ∀ l ∈ mergedLines.dropLast, l.terminator ∈ lineEnds := by decide
  have hlast : ∀ l ∈ mergedLines.getLast?, l.terminator = [] := by decide
  obtain ⟨hsource, -, hentries, hrelocate⟩ := clean_renderedText mergedLines hends hlast
  refine ⟨hends, hlast, hsource, hentries, ?_⟩
  exact hrelocate 1 _ rfl (by decide) ⟨"problem", some ⟨1, 8⟩, none, some ⟨0, 3⟩⟩ 8 rfl (by decide)

end ChartTrace
