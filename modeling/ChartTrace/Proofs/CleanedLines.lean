import ChartTrace.Proofs.ShiftEntries
import ChartTrace.Proofs.StrippedLines

namespace ChartTrace

/-!
# The lines of a cleaned text

A shift table speaks of lines by number, so its numbers must be those of the cleaned text once that
is split into lines again.  Dropped lines and trimmed terminators change what stands beside what; no
two lines are merged by it, and none is cut:

* `Line.stripped`, `shownLines`: a line without its marker, and the lines that still show something
  then;
* `source_clean`, `splitLines_clean`: they spell the cleaned text and are its lines, the last one
  without its terminator;
* `clean_lines`: hence the number of lines, their contents and terminators, and the entries of the
  table;
* `not_endsInToken_of_splitMarkerGroup`, `stripMarker_stripMarker`: what is left of a line has no
  marker to lose;
* `clean_clean`: so cleaning a cleaned text changes nothing and records nothing, and there is no line
  from which anything could be taken.
-/

/-- The line without its trailing marker. -/
def Line.stripped (l : Line) : Line := ⟨(stripMarker l.content).1, l.terminator⟩

/-- The lines of a rendered text that show anything once their markers are gone. -/
def shownLines (rendered : List Char) : List Line :=
  (splitLines rendered).filter fun l => l.stripped.isVisible

/-- What cleaning keeps of a line that is shown. -/
def keptLine (l : Line) : KeptLine := ⟨l.stripped, (stripMarker l.content).2⟩

/-! ### Lines in a list -/

/-- No line is lost when the last one loses its terminator. -/
theorem length_openLast (ls : List Line) : (openLast ls).length = ls.length := by
  fun_induction openLast ls with
  | case1 => rfl
  | case2 l => rfl
  | case3 l k ls ih => simp [ih]

/-- The last line alone loses its terminator. -/
theorem getElem?_openLast (ls : List Line) (i : Nat) :
    (openLast ls)[i]?
      = ls[i]?.map fun l => ⟨l.content, if i + 1 < ls.length then l.terminator else []⟩ := by
  fun_induction openLast ls generalizing i with
  | case1 => rfl
  | case2 l =>
    cases i with
    | zero => rfl
    | succ i => simp
  | case3 l k ls ih =>
    cases i with
    | zero => simp
    | succ i => simp [ih]

/-- A last line that is open already stays as it is. -/
theorem openLast_openLast (ls : List Line) : openLast (openLast ls) = openLast ls := by
  rcases List.eq_nil_or_concat' ls with rfl | ⟨ks, l, rfl⟩
  · rfl
  · rw [openLast_concat, openLast_concat]

/-- The contents are those of the lines before. -/
theorem exists_content_eq_of_mem_openLast {ls : List Line} {l : Line} (hl : l ∈ openLast ls) :
    ∃ k ∈ ls, l.content = k.content := by
  obtain ⟨i, hi⟩ := List.mem_iff_getElem?.mp hl
  rw [getElem?_openLast, Option.map_eq_some_iff] at hi
  obtain ⟨k, hk, rfl⟩ := hi
  exact ⟨k, List.mem_of_getElem? hk, rfl⟩

/-! ### What stripping leaves of a line -/

/-- What is split off is a group, and no longer suffix is one. -/
theorem splitMarkerGroup_eq_some {cs before group : List Char}
    (h : splitMarkerGroup cs = some (before, group)) :
    cs = before ++ group ∧ isMarkerGroup group = true
      ∧ ∀ s, s <:+ before → s ≠ [] → isMarkerGroup (s ++ group) = false := by
  induction cs generalizing before with
  | nil => simp [splitMarkerGroup] at h
  | cons c cs ih =>
    rw [splitMarkerGroup] at h
    split at h
    · next hgroup =>
      obtain ⟨rfl, rfl⟩ : [] = before ∧ c :: cs = group := by simpa using h
      refine ⟨rfl, hgroup, fun s hs hne => ?_⟩
      exact absurd (List.suffix_nil.mp hs) hne
    · next hgroup =>
      obtain ⟨⟨before', group'⟩, hrest, heq⟩ := Option.map_eq_some_iff.mp h
      obtain ⟨rfl, rfl⟩ : c :: before' = before ∧ group' = group := by simpa using heq
      obtain ⟨rfl, hgroup', hlongest⟩ := ih hrest
      refine ⟨rfl, hgroup', fun s hs hne => ?_⟩
      -- A suffix is the whole of it, which was tried first, or one of the rest.
      rcases List.suffix_cons_iff.mp hs with rfl | hs
      · simpa using hgroup
      · exact hlongest s hs hne

/-- A blank at the end is dropped, and nothing else is. -/
theorem dropLastBlank_cases (cs : List Char) :
    (∃ b, isBlank b = true ∧ cs = dropLastBlank cs ++ [b]) ∨ dropLastBlank cs = cs := by
  rcases List.eq_nil_or_concat' cs with rfl | ⟨ds, b, rfl⟩
  · exact Or.inr rfl
  · by_cases hb : isBlank b = true
    · exact Or.inl ⟨b, hb, by simp [dropLastBlank, hb]⟩
    · exact Or.inr (by simp [dropLastBlank, hb])

/-- **Nothing is left to strip.** What stands in front of the longest group does not end in a token,
    with or without a blank at its end: the token would belong to the group. -/
theorem not_endsInToken_of_splitMarkerGroup {cs before group : List Char}
    (h : splitMarkerGroup cs = some (before, group)) : ¬ EndsInToken (dropLastBlank before) := by
  obtain ⟨-, hgroup, hlongest⟩ := splitMarkerGroup_eq_some h
  obtain ⟨g, rfl⟩ := isMarkerGroup_iff.mp hgroup
  rintro ⟨t, ht⟩
  rcases dropLastBlank_cases before with ⟨b, hb, hbefore⟩ | hbefore
  · -- The blank may stand between the token and the group.
    have hsuffix : t.text ++ [b] <:+ before := by
      rw [hbefore]
      exact (List.suffix_append_inj_of_length_eq rfl).mpr ⟨ht, rfl⟩
    have hlonger : isMarkerGroup (MarkerGroup.more t (some ⟨b, hb⟩) g).text = false := by
      have := hlongest (t.text ++ [b]) hsuffix (by simp)
      rwa [List.append_assoc] at this
    rw [isMarkerGroup_text] at hlonger
    exact Bool.noConfusion hlonger
  · -- Or the token stands right before the group.  Either way the two together are a longer group.
    have hne : t.text ≠ [] := by
      intro hnil
      have hempty := t.isMarkerGroup_text
      rw [hnil, not_isMarkerGroup_nil] at hempty
      exact Bool.noConfusion hempty
    rw [hbefore] at ht
    have hlonger : isMarkerGroup (MarkerGroup.more t none g).text = false := hlongest t.text ht hne
    rw [isMarkerGroup_text] at hlonger
    exact Bool.noConfusion hlonger

/-- A line stays as it is, or loses its longest group and the blank in front of it. -/
theorem stripMarker_cases (line : List Char) :
    stripMarker line = (line, none)
    ∨ ∃ before group lines, splitMarkerGroup line = some (before, group)
      ∧ stripMarker line = (dropLastBlank before, some lines) := by
  unfold stripMarker
  split
  · exact Or.inl rfl
  · next before group h =>
    split
    · exact Or.inl rfl
    · next lines _ => exact Or.inr ⟨before, group, lines, h, rfl⟩

/-- What is left of a line is its beginning. -/
theorem stripMarker_isPrefix (line : List Char) : (stripMarker line).1 <+: line := by
  rcases stripMarker_cases line with h | ⟨before, group, lines, hsplit, h⟩
  · rw [h]
  · obtain ⟨rfl, -, -⟩ := splitMarkerGroup_eq_some hsplit
    -- Both the group and the blank are taken from the end.
    have hbefore : dropLastBlank before <+: before := by
      rcases dropLastBlank_cases before with ⟨b, -, hb⟩ | hb
      · exact ⟨[b], hb.symm⟩
      · rw [hb]
    rw [h]
    exact hbefore.trans (List.prefix_append before group)

/-- A stripped line has no marker, also when the marker it has names nothing. -/
theorem stripMarker_stripMarker (line : List Char) :
    stripMarker (stripMarker line).1 = ((stripMarker line).1, none) := by
  rcases stripMarker_cases line with h | ⟨before, group, lines, hsplit, h⟩
  · rw [h, h]
  · rw [h]
    exact stripMarker_of_not_endsInToken (not_endsInToken_of_splitMarkerGroup hsplit)

/-! ### The cleaned text -/

/-- The lines that are kept are the shown ones, stripped, each with the lines of its marker. -/
theorem keptLines_splitLines (rendered : List Char) :
    keptLines (splitLines rendered) = (shownLines rendered).map keptLine := by
  have hkept : keptLines ((splitLines rendered).map id) = (shownLines rendered).map keptLine :=
    keptLines_map (fun l _ => keepLine?_of_stripMarker rfl)
  rwa [List.map_id] at hkept

/-- A shown line stands on one line, and something stands on it. -/
theorem onOneLine_stripped {rendered : List Char} {l : Line} (hl : l ∈ shownLines rendered) :
    OnOneLine l.stripped.content ∧ l.stripped.content ≠ [] := by
  obtain ⟨hmem, hvisible⟩ := List.mem_filter.mp hl
  have hline := (areLines_splitLines rendered).onOneLine l hmem
  have hstart := stripMarker_isPrefix l.content
  exact ⟨fun c hc => hline c (hstart.subset hc), Line.content_ne_nil_of_isVisible hvisible⟩

/-- The shown lines spell the cleaned text, up to the terminator of the last one. -/
theorem source_clean (rendered : List Char) :
    (clean rendered).source = joinLines (openLast ((shownLines rendered).map Line.stripped)) := by
  rw [clean, keptLines_splitLines, List.map_map]
  -- Contents of kept lines are not blank, so that the dropping stops at the last of them.
  refine dropTrailingTerminators_joinLines ?_ ?_
  · intro k hk
    obtain ⟨l, hl, rfl⟩ := List.mem_map.mp hk
    exact onOneLine_stripped hl
  · intro k hk
    obtain ⟨l, hl, rfl⟩ := List.mem_map.mp hk
    exact (areLines_splitLines rendered).isTerminator l (List.mem_filter.mp hl).1

/-- **Lines of the cleaned text.** Splitting the cleaned text gives back the shown lines. -/
theorem splitLines_clean {rendered : List Char} (hne : shownLines rendered ≠ []) :
    splitLines (clean rendered).source
      = openLast ((shownLines rendered).map Line.stripped) := by
  rw [source_clean]
  apply splitLines_joinLines
  refine areLines_openLast ?_ (by simpa using hne) ?_
  · intro k hk
    obtain ⟨l, hl, rfl⟩ := List.mem_map.mp hk
    exact onOneLine_stripped hl
  · intro k hk
    rw [← List.map_dropLast] at hk
    obtain ⟨l, hl, rfl⟩ := List.mem_map.mp hk
    -- A shown line in front of another one is not the last line of the text.
    have hdropLast := (dropLast_sublist List.filter_sublist).subset hl
    exact (areLines_splitLines rendered).lineEnd l hdropLast

/-- A text without shown lines is cleaned to nothing. -/
theorem clean_of_shownLines_eq_nil {rendered : List Char} (h : shownLines rendered = []) :
    clean rendered = ⟨[], .empty⟩ := by
  rw [clean, keptLines_splitLines, h]
  rfl

/-- The lines of the cleaned text are the shown ones in their order, and only the last is left open. -/
theorem getElem?_splitLines_clean {rendered : List Char} {i : Nat} {l : Line}
    (hl : (shownLines rendered)[i]? = some l) :
    (splitLines (clean rendered).source)[i]? = some ⟨l.stripped.content,
      if i + 1 < (shownLines rendered).length then l.terminator else []⟩ := by
  have hne : shownLines rendered ≠ [] := List.ne_nil_of_mem (List.mem_of_getElem? hl)
  rw [splitLines_clean hne, getElem?_openLast, List.getElem?_map, hl, List.length_map]
  rfl

/-- The entry of a line of the cleaned text is that of the shown line it is. -/
theorem entry?_clean (rendered : List Char) (i : Nat) :
    (clean rendered).shifts.entry? (i + 1)
      = (shownLines rendered)[i]?.bind fun l => (keptLine l).shift? (i + 1) := by
  rw [entry?_keptLines, keptLines_splitLines, List.getElem?_map, Option.bind_map]
  rfl

/-- There is no line with number 0. -/
theorem entry?_clean_zero (rendered : List Char) : (clean rendered).shifts.entry? 0 = none := by
  rw [ShiftTable.entry?_eq_find?, entries_clean, List.find?_eq_none]
  intro e he
  have := le_renderedLine_of_mem_keptEntries he
  simp only [beq_iff_eq]
  omega

/-- A shown line makes an entry exactly when its marker names lines, and the entry has them in order. -/
theorem shift?_keptLine {l : Line} {number : Nat} {e : ShiftEntry} :
    (keptLine l).shift? number = some e
      ↔ ∃ a b, (stripMarker l.content).2 = some (a, b) ∧ e = ⟨number, min a b, max a b⟩ := by
  rw [KeptLine.shift?, keptLine, Option.map_eq_some_iff, Prod.exists]
  simp only [eq_comm]

/-- **Line numbers.** When no line of a rendered text shows anything without its marker, the cleaned
    text is empty and so is its table.  Otherwise the lines of the cleaned text are as many as the
    shown lines and are these in order: each has its content without the marker, which is not blank,
    and its own terminator unless it is the last one.  The table has an entry for a number exactly
    when it is that of a shown line that carried a marker, and the entry names the lines of the
    marker. -/
theorem clean_lines (rendered : List Char) :
    (shownLines rendered = [] → clean rendered = ⟨[], .empty⟩)
    ∧ (shownLines rendered ≠ [] →
        (splitLines (clean rendered).source).length = (shownLines rendered).length
        ∧ ∀ i l, (shownLines rendered)[i]? = some l →
          ∃ k, (splitLines (clean rendered).source)[i]? = some k
            ∧ k.content = (stripMarker l.content).1 ∧ allBlank k.content = false
            ∧ k.terminator = if i + 1 < (shownLines rendered).length then l.terminator else [])
    ∧ ∀ number e, (clean rendered).shifts.entry? number = some e
        ↔ ∃ i l a b, number = i + 1 ∧ (shownLines rendered)[i]? = some l
          ∧ (stripMarker l.content).2 = some (a, b) ∧ e = ⟨number, min a b, max a b⟩ := by
  refine ⟨clean_of_shownLines_eq_nil, fun hne => ⟨?_, fun i l hl => ?_⟩, fun number e => ?_⟩
  · rw [splitLines_clean hne, length_openLast, List.length_map]
  · have hvisible : l.stripped.isVisible = true :=
      (List.mem_filter.mp (List.mem_of_getElem? hl)).2
    exact ⟨_, getElem?_splitLines_clean hl, rfl, by simpa [Line.isVisible] using hvisible, rfl⟩
  · -- Entries begin at line one, and the line `i` of the list has the number `i + 1`.
    cases number with
    | zero => simp [entry?_clean_zero]
    | succ i =>
      rw [entry?_clean, Option.bind_eq_some_iff]
      constructor
      · rintro ⟨l, hl, he⟩
        obtain ⟨a, b, hmarker, rfl⟩ := shift?_keptLine.mp he
        exact ⟨i, l, a, b, rfl, hl, hmarker, rfl⟩
      · rintro ⟨j, l, a, b, hj, hl, hmarker, rfl⟩
        obtain rfl : i = j := Nat.succ_inj.mp hj
        exact ⟨l, hl, shift?_keptLine.mpr ⟨a, b, hmarker, rfl⟩⟩

/-- A line with a CR in front of a line that goes, whose LF must not join it, and a line without a
    marker. -/
def crBeforeDropped : List Char :=
  ['a', ' ', '#', '3', ':', '1', '\r', ' ', '#', '2', '\n', 'b', '\n', '\n']

/-- A line that ends in a CR stands before one that is dropped, and its marker names its lines
    backwards. -/
theorem clean_lines_crBeforeDropped :
    shownLines [' ', '#', '1', '\n'] = [] ∧ clean [' ', '#', '1', '\n'] = ⟨[], .empty⟩
    ∧ shownLines crBeforeDropped ≠ []
    ∧ (splitLines (clean crBeforeDropped).source).length = 2
    ∧ (∃ k, (splitLines (clean crBeforeDropped).source)[0]? = some k
        ∧ k.content = ['a'] ∧ allBlank k.content = false ∧ k.terminator = ['\r'])
    ∧ (∃ k, (splitLines (clean crBeforeDropped).source)[1]? = some k
        ∧ k.content = ['b'] ∧ allBlank k.content = false ∧ k.terminator = [])
    ∧ (clean crBeforeDropped).shifts.entry? 1 = some ⟨1, 1, 3⟩ := by
  have hblank : shownLines [' ', '#', '1', '\n'] = [] := by decide
  have hshown : shownLines crBeforeDropped ≠ [] := by decide
  obtain ⟨-, hlines, hentries⟩ := clean_lines crBeforeDropped
  obtain ⟨hlength, hline⟩ := hlines hshown
  refine ⟨hblank, (clean_lines [' ', '#', '1', '\n']).1 hblank, hshown, hlength, ?_, ?_, ?_⟩
  · exact hline 0 ⟨['a', ' ', '#', '3', ':', '1'], ['\r']⟩ rfl
  · exact hline 1 ⟨['b'], ['\n']⟩ rfl
  · exact (hentries 1 ⟨1, 1, 3⟩).mpr
      ⟨0, ⟨['a', ' ', '#', '3', ':', '1'], ['\r']⟩, 3, 1, rfl, rfl, rfl, rfl⟩

/-! ### Cleaning a cleaned text -/

/-- Lines without markers are recorded nowhere. -/
theorem recordShifts_of_unmarked {ks : List KeptLine} (hks : ∀ k ∈ ks, k.lines? = none)
    (number : Nat) (t : ShiftTable) : recordShifts number ks t = t := by
  induction ks generalizing number with
  | nil => rfl
  | cons k ks ih =>
    have hk : k.lines? = none := hks k (by simp)
    rw [recordShifts, hk]
    exact ih (fun j hj => hks j (List.mem_cons_of_mem k hj)) (number + 1)

/-- Nothing can be taken off a line of a cleaned text, and the line shows something. -/
theorem stripMarker_of_mem_openLast {rendered : List Char} {k : Line}
    (hk : k ∈ openLast ((shownLines rendered).map Line.stripped)) :
    stripMarker k.content = (k.content, none) ∧ k.isVisible = true := by
  obtain ⟨s, hs, hcontent⟩ := exists_content_eq_of_mem_openLast hk
  obtain ⟨l, hl, rfl⟩ := List.mem_map.mp hs
  have hvisible : l.stripped.isVisible = true := (List.mem_filter.mp hl).2
  -- Both are facts about the content, which the line shares with a shown line.
  rw [Line.isVisible, hcontent]
  exact ⟨stripMarker_stripMarker l.content, hvisible⟩

/-- So the lines of a cleaned text stay, and carry no marker. -/
theorem keepLine?_of_mem_openLast {rendered : List Char} {k : Line}
    (hk : k ∈ openLast ((shownLines rendered).map Line.stripped)) :
    keepLine? k = some ⟨k, none⟩ := by
  obtain ⟨hstrip, hvisible⟩ := stripMarker_of_mem_openLast hk
  rw [keepLine?_of_stripMarker hstrip]
  exact if_pos hvisible

/-- Cleaning a text that is clean keeps all of it and records nothing. -/
theorem clean_source_clean (rendered : List Char) :
    clean (clean rendered).source = ⟨(clean rendered).source, .empty⟩ := by
  by_cases hne : shownLines rendered = []
  · rw [clean_of_shownLines_eq_nil hne]
    rfl
  · have hlines := splitLines_clean hne
    have hkept : keptLines (splitLines (clean rendered).source)
        = (splitLines (clean rendered).source).map fun k => ⟨k, none⟩ := by
      have hcongr : keptLines (splitLines (clean rendered).source)
          = (splitLines (clean rendered).source).filterMap fun k => some ⟨k, none⟩ :=
        List.filterMap_congr fun k hk => keepLine?_of_mem_openLast (hlines ▸ hk)
      rw [hcongr, List.filterMap_eq_map']
    -- No terminator is left at the end that could be dropped.
    have hsource : dropTrailingTerminators (joinLines (splitLines (clean rendered).source))
        = (clean rendered).source := by
      rw [dropTrailingTerminators_joinLines _ (areLines_splitLines _).isTerminator]
      · rw [hlines, openLast_openLast, source_clean]
      · intro k hk
        rw [hlines] at hk
        obtain ⟨s, hs, hcontent⟩ := exists_content_eq_of_mem_openLast hk
        obtain ⟨l, hl, rfl⟩ := List.mem_map.mp hs
        rw [hcontent]
        exact onOneLine_stripped hl
    rw [clean, hkept, recordShifts_of_unmarked (by simp), List.map_map]
    simp only [Function.comp_def, List.map_id', hsource]

/-- **Idempotence.** Cleaning a cleaned text changes nothing and records nothing.  No line of it carries
    a marker that could be taken off, and none is blank unless there is no text at all. -/
theorem clean_clean (rendered : List Char) :
    clean (clean rendered).source = ⟨(clean rendered).source, .empty⟩
    ∧ ∀ k ∈ splitLines (clean rendered).source,
        stripMarker k.content = (k.content, none)
        ∧ ((clean rendered).source ≠ [] → k.isVisible = true) := by
  refine ⟨clean_source_clean rendered, fun k hk => ?_⟩
  by_cases hne : shownLines rendered = []
  · -- The one line of the empty text is blank.
    rw [clean_of_shownLines_eq_nil hne] at hk ⊢
    obtain rfl : k = ⟨[], []⟩ := List.mem_singleton.mp hk
    exact ⟨by decide, fun hsource => absurd rfl hsource⟩
  · rw [splitLines_clean hne] at hk
    obtain ⟨hstrip, hvisible⟩ := stripMarker_of_mem_openLast hk
    exact ⟨hstrip, fun _ => hvisible⟩

/-- A line with two tokens side by side, a line that goes, and one with two blanks in front of its
    token, of which one stays. -/
def blankLeft : List Char :=
  ['a', ' ', '#', '1', '#', '2', '\r', '\n', ' ', '#', '3', '\n', 'b', ' ', ' ', '#', '4']

/-- In what remains of these lines there is nothing left to clean, and the blank stays. -/
theorem clean_clean_blankLeft :
    (clean blankLeft).source = ['a', '\r', '\n', 'b', ' ']
    ∧ clean (clean blankLeft).source = ⟨(clean blankLeft).source, .empty⟩
    ∧ (⟨['b', ' '], []⟩ : Line) ∈ splitLines (clean blankLeft).source
    ∧ stripMarker ['b', ' '] = (['b', ' '], none)
    ∧ (clean blankLeft).source ≠ []
    ∧ Line.isVisible ⟨['b', ' '], []⟩ = true := by
  have hsource : (clean blankLeft).source ≠ [] := by decide
  have hmem : (⟨['b', ' '], []⟩ : Line) ∈ splitLines (clean blankLeft).source := by decide
  obtain ⟨hclean, hlines⟩ := clean_clean blankLeft
  obtain ⟨hstrip, hvisible⟩ := hlines _ hmem
  exact ⟨by decide, hclean, hmem, hstrip, hsource, hvisible hsource⟩

end ChartTrace
