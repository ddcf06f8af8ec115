import ChartTrace.Proofs.CleanedLines

namespace ChartTrace

/-!
# Markers at the end of rendered lines

A rendered line that still carries the marker of its template line is to be recorded in the table, and
to lose the marker.  What was rendered in front of the marker can get in the way: it may itself end in
a token, which then heads the group at the end of the line, and a number in it that is no word names
no line.

* `IsLongestGroup`, `exists_longestGroup`: the longest group at the end of a line, which a line that
  ends in a token has;
* `stripMarker_of_isWordNumeral`, `stripMarker_of_not_isWordNumeral`: the first number of that group
  decides whether the line is stripped;
* `clean_trailing_marker`: so it decides whether the line is recorded and loses its marker; when no
  token stands in front of the marker it always is.
-/

/-! ### The longest group -/

/-- A group at the end of a text which no other group there is longer than. -/
structure IsLongestGroup (g : MarkerGroup) (cs : List Char) : Prop where
  isSuffix : g.text <:+ cs
  longest : ∀ h : MarkerGroup, h.text <:+ cs → h.text <:+ g.text

/-- Where nothing is split off, the line does not end in a token. -/
theorem not_endsInToken_of_splitMarkerGroup_eq_none {cs : List Char}
    (h : splitMarkerGroup cs = none) : ¬ EndsInToken cs := by
  induction cs with
  | nil => decide
  | cons c cs ih =>
    rw [splitMarkerGroup] at h
    split at h
    · cases h
    · next hgroup =>
      rintro ⟨t, ht⟩
      rcases List.suffix_cons_iff.mp ht with heq | ht
      · exact hgroup (heq ▸ t.isMarkerGroup_text)
      · exact ih (Option.map_eq_none_iff.mp h) ⟨t, ht⟩

/-- The cut is in front of the longest group. -/
theorem isLongestGroup_of_splitMarkerGroup {cs before : List Char} {g : MarkerGroup}
    (h : splitMarkerGroup cs = some (before, g.text)) : IsLongestGroup g cs := by
  obtain ⟨rfl, -, hlongest⟩ := splitMarkerGroup_eq_some h
  refine ⟨List.suffix_append before g.text, fun k hk => ?_⟩
  rcases List.suffix_or_suffix_of_suffix hk (List.suffix_append before g.text) with hshort | hlong
  · exact hshort
  · -- A longer group would start within what stands before the cut.
    obtain ⟨s, hs⟩ := hlong
    rw [← hs, List.suffix_append_inj_of_length_eq rfl] at hk
    by_cases hempty : s = []
    · rw [← hs, hempty, List.nil_append]
    · have hgroup := isMarkerGroup_text k
      rw [← hs, hlongest s hk.1 hempty] at hgroup
      exact Bool.noConfusion hgroup

/-- A line that ends in a token ends in a longest group, and that is what is split off. -/
theorem exists_longestGroup {cs : List Char} (h : EndsInToken cs) :
    ∃ before, ∃ g : MarkerGroup, splitMarkerGroup cs = some (before, g.text)
      ∧ IsLongestGroup g cs := by
  cases hsplit : splitMarkerGroup cs with
  | none => exact absurd h (not_endsInToken_of_splitMarkerGroup_eq_none hsplit)
  | some p =>
    obtain ⟨before, group⟩ := p
    obtain ⟨-, hgroup, -⟩ := splitMarkerGroup_eq_some hsplit
    obtain ⟨g, rfl⟩ := isMarkerGroup_iff.mp hgroup
    exact ⟨before, g, rfl, isLongestGroup_of_splitMarkerGroup hsplit⟩

/-! ### What the first number decides -/

/-- A number is read exactly when its digits are ASCII and its value fits a word. -/
theorem isSome_readWord?_iff {ds : List Char} (hne : ds ≠ []) :
    (readWord? ds).isSome ↔ IsWordNumeral ds := by
  constructor
  · intro h
    simp only [readWord?] at h
    split at h
    · simp at h
    · next hdigits =>
      simp only [Bool.or_eq_true, Bool.not_eq_true', not_or, Bool.not_eq_false] at hdigits
      split at h
      · next hword => exact ⟨List.all_eq_true.mp hdigits.2, hword⟩
      · simp at h
  · intro h
    rw [readWord?_of_isWordNumeral hne h]
    rfl

/-- A group names lines when its first number is a word, whatever its other numbers are. -/
theorem isSome_groupLines?_iff (g : MarkerGroup) :
    (groupLines? g.text).isSome ↔ IsWordNumeral g.first.first := by
  rw [groupLines?_text, Option.isSome_map]
  exact isSome_readWord?_iff g.first.first_isNumeral.1

section

variable {line before : List Char} {g : MarkerGroup}
  (hsplit : splitMarkerGroup line = some (before, g.text))
include hsplit

/-- If the first number of the group is a word, the group is stripped. -/
theorem stripMarker_of_isWordNumeral (hg : IsWordNumeral g.first.first) :
    ∃ lines, stripMarker line = (dropLastBlank before, some lines) := by
  obtain ⟨lines, hlines⟩ := Option.isSome_iff_exists.mp ((isSome_groupLines?_iff g).mpr hg)
  refine ⟨lines, ?_⟩
  rw [stripMarker, hsplit]
  simp only [hlines]

/-- If it is not, the whole line stays, even where a later token names lines. -/
theorem stripMarker_of_not_isWordNumeral (hg : ¬ IsWordNumeral g.first.first) :
    stripMarker line = (line, none) := by
  have hlines : groupLines? g.text = none := by
    rw [← Option.not_isSome_iff_eq_none, isSome_groupLines?_iff]
    exact hg
  rw [stripMarker, hsplit]
  simp only [hlines]

/-- Behind a content that does not end in a token a marker is the whole group, so the group names
    what the marker names. -/
theorem isWordNumeral_first_of_not_endsInToken {content : List Char} {t : Token}
    (ht : t.NamesLines) (hline : line = content ++ ' ' :: t.text)
    (hcontent : ¬ EndsInToken content) : IsWordNumeral g.first.first := by
  by_contra hg
  have hstrip := stripMarker_append (g := .one t) hcontent (show isBlank ' ' = true by decide) ht
  rw [MarkerGroup.text, ← hline, stripMarker_of_not_isWordNumeral hsplit hg] at hstrip
  cases (Prod.mk.inj hstrip).2

end

/-! ### Recorded lines -/

/-- **Trailing markers.** Let a line that cleaning keeps end in a marker, after any content.  The
    line is recorded, and the cleaned line does not end in the marker, when the longest group at its
    end starts with a word.  Otherwise it is not recorded and keeps the marker.  The group can start
    with another number only when the content itself ends in a token. -/
theorem clean_trailing_marker {rendered : List Char} {i : Nat} {l : Line}
    (hl : (shownLines rendered)[i]? = some l) {content : List Char} {t : Token}
    (ht : t.NamesLines) (hline : l.content = content ++ ' ' :: t.text) :
    ∃ g : MarkerGroup, IsLongestGroup g l.content
      ∧ (¬ EndsInToken content → IsWordNumeral g.first.first)
      ∧ ∃ k, (splitLines (clean rendered).source)[i]? = some k
        ∧ (IsWordNumeral g.first.first →
            ((clean rendered).shifts.entry? (i + 1)).isSome ∧ ¬ (' ' :: t.text) <:+ k.content)
        ∧ (¬ IsWordNumeral g.first.first →
            (clean rendered).shifts.entry? (i + 1) = none ∧ k.content = l.content) := by
  have htoken : EndsInToken l.content := by
    refine ⟨t, ?_⟩
    rw [hline]
    exact (List.suffix_cons ' ' t.text).trans (List.suffix_append content _)
  obtain ⟨before, g, hsplit, hlongest⟩ := exists_longestGroup htoken
  have hentry := entry?_clean rendered i
  rw [hl, Option.bind_some, KeptLine.shift?, keptLine] at hentry
  refine ⟨g, hlongest, isWordNumeral_first_of_not_endsInToken hsplit ht hline, _,
    getElem?_splitLines_clean hl, fun hg => ?_, fun hg => ?_⟩
  · obtain ⟨lines, hstrip⟩ := stripMarker_of_isWordNumeral hsplit hg
    rw [hstrip] at hentry
    refine ⟨by rw [hentry]; rfl, fun hmarker => ?_⟩
    -- What is left in front of the longest group does not end in any token.
    rw [Line.stripped, hstrip] at hmarker
    have hleft : EndsInToken (dropLastBlank before) :=
      ⟨t, (List.suffix_cons ' ' t.text).trans hmarker⟩
    exact not_endsInToken_of_splitMarkerGroup hsplit hleft
  · have hstrip := stripMarker_of_not_isWordNumeral hsplit hg
    rw [hstrip] at hentry
    refine ⟨by rw [hentry]; rfl, ?_⟩
    rw [Line.stripped, hstrip]

/-- A marker behind a number of twenty digits, which is no word. -/
def overlongNumber : List Char :=
  ['a', ' ', '#'] ++ List.replicate 20 '9' ++ [' ', '#', '2']

/-- A marker that stands alone is recorded; behind such a number it is neither recorded nor taken
    off. -/
theorem clean_trailing_marker_overlongNumber :
    (Token.single ['2'] (by decide)).NamesLines
    ∧ (shownLines ['a', ' ', '#', '2'])[0]? = some ⟨['a', ' ', '#', '2'], []⟩
    ∧ ((clean ['a', ' ', '#', '2']).shifts.entry? 1).isSome
    ∧ (shownLines overlongNumber)[0]? = some ⟨overlongNumber, []⟩
    ∧ ∃ k, (splitLines (clean overlongNumber).source)[0]? = some k ∧ k.content = overlongNumber := by
  have hnames : (Token.single ['2'] (by decide)).NamesLines := by decide
  have halone : (shownLines ['a', ' ', '#', '2'])[0]? = some ⟨['a', ' ', '#', '2'], []⟩ := by decide
  have hlong : (shownLines overlongNumber)[0]? = some ⟨overlongNumber, []⟩ := by decide
  obtain ⟨_, -, hword, _, -, hrecorded, -⟩ := clean_trailing_marker halone hnames
    (show _ = ['a'] ++ ' ' :: (Token.single ['2'] (by decide)).text from rfl)
  obtain ⟨_, -, -, k, hk, hrecorded', hlost⟩ := clean_trailing_marker hlong hnames
    (show _ = (['a', ' ', '#'] ++ List.replicate 20 '9')
      ++ ' ' :: (Token.single ['2'] (by decide)).text from rfl)
  have hnone : (clean overlongNumber).shifts.entry? 1 = none := by decide
  refine ⟨hnames, halone, (hrecorded (hword (by decide))).1, hlong, k, hk, (hlost fun hg => ?_).2⟩
  have hsome := (hrecorded' hg).1
  rw [hnone] at hsome
  exact Bool.false_ne_true hsome

/-- Not every line that ends in a marker is recorded. -/
theorem overlongNumber_not_recorded :
    ¬ ∀ (rendered : List Char) (i : Nat) (l : Line) (content : List Char) (t : Token),
      (shownLines rendered)[i]? = some l → t.NamesLines → l.content = content ++ ' ' :: t.text →
      ((clean rendered).shifts.entry? (i + 1)).isSome := by
  intro h
  have hsome := h overlongNumber 0 ⟨overlongNumber, []⟩ (['a', ' ', '#'] ++ List.replicate 20 '9')
    (.single ['2'] (by decide)) (by decide) (by decide) rfl
  have hnone : (clean overlongNumber).shifts.entry? 1 = none := by decide
  rw [hnone] at hsome
  exact Bool.false_ne_true hsome

end ChartTrace
