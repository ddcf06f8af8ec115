import ChartTrace.Proofs.AnnotatedBytes
import ChartTrace.Proofs.MarkerRanges

namespace ChartTrace

/-!
# Lines of a template and of its annotated text

The annotated text is cut into lines anew, and its lines are paired with those of the template in the order
in which they come.  Each pair is a line and that line with its marker:

* `exists_markedLine`, `getElem?_splitLines_annotate`: line by line, the two texts have the same lines,
  up to the markers;
* `bytes_lineContent`: the content of a line stands behind the lines before it;
* `AnnotationOffsets.getElem?_ofPairs`: so does the entry of a pair in the table of offsets;
* `AnnotationOffsets.ofTexts_pairs_lines`: the table has one entry for each line of the template, with the
  bytes of its content and of its marker.
-/

/-! ### One line of both texts -/

/-- Every line of a template has its marker, which may be none. -/
theorem exists_markedLine {source : List Char} {i : Nat} {l : Line}
    (hl : (splitLines source)[i]? = some l) :
    ∃ m, (templateMarkers source)[i]? = some m ∧ (markedLines source)[i]? = some (l, m) := by
  have hi : i < (templateMarkers source).length := by
    rw [templateMarkers, length_lineMarkers]
    exact (List.getElem?_eq_some_iff.mp hl).1
  have hm := List.getElem?_eq_getElem hi
  exact ⟨_, hm, getElem?_markedLines.mpr ⟨hl, hm⟩⟩

/-- A line of the annotated text is the one of the template with its marker. -/
theorem getElem?_splitLines_annotate {source : List Char} {i : Nat} {l : Line} {m : Option Marker}
    (h : (markedLines source)[i]? = some (l, m)) :
    (splitLines (annotate source))[i]? = some (l.mark m) := by
  rw [splitLines_annotate_eq_map, List.getElem?_map, h]
  rfl

/-- Both texts have as many lines. -/
theorem length_splitLines_annotate (source : List Char) :
    (splitLines (annotate source)).length = (splitLines source).length := by
  rw [splitLines_annotate_eq_map, ← map_fst_markedLines, List.length_map, List.length_map]

/-! ### Where a line stands -/

/-- The lines of a text around one of them. -/
theorem eq_around_line {text : List Char} {i : Nat} {l : Line} (hl : (splitLines text)[i]? = some l) :
    text = joinLines ((splitLines text).take i)
      ++ (l.content ++ (l.terminator ++ joinLines ((splitLines text).drop (i + 1)))) := by
  obtain ⟨hi, rfl⟩ := List.getElem?_eq_some_iff.mp hl
  have hlines := List.take_append_drop i (splitLines text)
  rw [List.drop_eq_getElem_cons hi] at hlines
  have htext := congrArg joinLines hlines
  rw [joinLines_splitLines, joinLines_append, joinLines_cons, List.append_assoc] at htext
  exact htext.symm

/-- The content of a line is what its text has behind the lines before it. -/
theorem bytes_lineContent {text : List Char} {i : Nat} {l : Line}
    (hl : (splitLines text)[i]? = some l) :
    Location.bytes ⟨byteLength (joinLines ((splitLines text).take i)), byteLength l.content⟩ text
      = textBytes l.content := by
  have htext := congrArg textBytes (eq_around_line hl)
  rw [textBytes_append, textBytes_append] at htext
  rw [Location.bytes, htext, List.drop_left' (length_textBytes _),
    List.take_left' (length_textBytes _)]

/-! ### The table of offsets -/

namespace AnnotationOffsets

/-- The entry of a pair of lines starts behind the pairs before it, in both texts. -/
theorem getElem?_ofPairs (ps : List (Line × Option Marker)) (a s i : Nat) :
    (ofPairs a s ps)[i]? = ps[i]?.map fun p =>
      p.1.offsets p.2 (a + byteLength (joinLines ((ps.map fun p => p.1.mark p.2).take i)))
        (s + byteLength (joinLines ((ps.map Prod.fst).take i))) := by
  induction ps generalizing a s i with
  | nil => rfl
  | cons p ps ih =>
    obtain ⟨l, m⟩ := p
    rw [ofPairs_cons]
    cases i with
    | zero => rfl
    -- The first line moves the starts of all the others.
    | succ i =>
      rw [List.getElem?_cons_succ, List.getElem?_cons_succ, ih]
      simp only [List.map_cons, List.take_succ_cons, joinLines_cons, byteLength_append, Line.text,
        Nat.add_assoc]

theorem length_ofPairs (ps : List (Line × Option Marker)) (a s : Nat) :
    (ofPairs a s ps).length = ps.length := by
  induction ps generalizing a s with
  | nil => rfl
  | cons p ps ih => rw [ofPairs_cons, List.length_cons, ih, List.length_cons]

/-- **Paired lines.** The annotated text of a template has as many lines as the template, and the table of
    offsets has as many entries.  Each line of the annotated text is the line of the template at the same
    place, its marker, which may be empty, and its terminator.  The entry at this place tells where the two
    lines start, and how many bytes the content and the marker have; so it names the same content in both
    texts, and in the annotated one the marker behind it. -/
theorem ofTexts_pairs_lines (source : List Char) :
    (splitLines (annotate source)).length = (splitLines source).length
    ∧ (ofTexts (annotate source) source).lines.length = (splitLines source).length
    ∧ ∀ i l, (splitLines source)[i]? = some l →
        ∃ m e, (templateMarkers source)[i]? = some m
          ∧ (splitLines (annotate source))[i]? = some ⟨l.content ++ markerText m, l.terminator⟩
          ∧ (ofTexts (annotate source) source).lines[i]? = some e
          ∧ e.contentLength = byteLength l.content ∧ e.markerLength = byteLength (markerText m)
          ∧ e.sourceStart = byteLength (joinLines ((splitLines source).take i))
          ∧ e.annotatedStart = byteLength (joinLines ((splitLines (annotate source)).take i))
          ∧ Location.bytes ⟨e.sourceStart, e.contentLength⟩ source = textBytes l.content
          ∧ Location.bytes ⟨e.annotatedStart, e.contentLength + e.markerLength⟩ (annotate source)
            = textBytes (l.content ++ markerText m) := by
  have htable : ofTexts (annotate source) source = _ := ofTemplate_eq source
  have hpairs : (markedLines source).length = (splitLines source).length := by
    rw [← map_fst_markedLines, List.length_map]
  rw [htable, length_ofPairs]
  refine ⟨length_splitLines_annotate source, hpairs, fun i l hl => ?_⟩
  obtain ⟨m, hm, hpair⟩ := exists_markedLine hl
  have hmarked := getElem?_splitLines_annotate hpair
  have hentry := getElem?_ofPairs (markedLines source) 0 0 i
  rw [← splitLines_annotate_eq_map, map_fst_markedLines, hpair, Nat.zero_add, Nat.zero_add] at hentry
  refine ⟨m, _, hm, hmarked, hentry, rfl, rfl, rfl, rfl, bytes_lineContent hl, ?_⟩
  -- The content of the marked line is content and marker together.
  have hbytes := bytes_lineContent hmarked
  rw [Line.mark, byteLength_append] at hbytes
  exact hbytes

/-- An action over four lines: the two in the middle are empty, and only the last one has a marker. -/
def hollowAction : List Char :=
  [openBrace, openBrace, '\r', '\r', '\n', '\n', closeBrace, closeBrace, '\r']

/-- Lines of an action that holds nothing: an empty one gets no marker, and the last names them all. -/
theorem ofTexts_pairs_lines_hollowAction :
    (splitLines hollowAction)[1]? = some ⟨[], ['\r', '\n']⟩
    ∧ (splitLines (annotate hollowAction))[1]? = some ⟨[], ['\r', '\n']⟩
    ∧ (splitLines hollowAction)[3]? = some ⟨[closeBrace, closeBrace], ['\r']⟩
    ∧ (ofTexts (annotate hollowAction) hollowAction).lines[3]? = some ⟨6, 6, 2, 5⟩
    ∧ Location.bytes ⟨6, 7⟩ (annotate hollowAction) = [125, 125, 32, 35, 49, 58, 52]
    ∧ (ofTexts (annotate hollowAction) hollowAction).lines.length = 5 := by
  have hempty : (splitLines hollowAction)[1]? = some ⟨[], ['\r', '\n']⟩ := by decide
  have hclosing : (splitLines hollowAction)[3]? = some ⟨[closeBrace, closeBrace], ['\r']⟩ := by decide
  have hmarkers : templateMarkers hollowAction
      = [none, none, none, some (.span 1 4), some (.line 5)] := by decide
  obtain ⟨-, hlength, hlines⟩ := ofTexts_pairs_lines hollowAction
  obtain ⟨m, -, hm, hmarked, -⟩ := hlines 1 _ hempty
  obtain ⟨n, e, hn, -, he, hcontent, hmarker, hsource, hannotated, -, hbytes⟩ := hlines 3 _ hclosing
  rw [hmarkers] at hm hn
  obtain rfl : none = m := Option.some.inj hm
  obtain rfl : some (Marker.span 1 4) = n := Option.some.inj hn
  obtain ⟨annotatedStart, sourceStart, contentLength, markerLength⟩ := e
  obtain rfl : contentLength = 2 := hcontent
  obtain rfl : markerLength = 5 := hmarker
  obtain rfl : sourceStart = 6 := hsource
  obtain rfl : annotatedStart = 6 := hannotated
  exact ⟨hempty, hmarked, hclosing, he, hbytes, hlength⟩

end AnnotationOffsets

end ChartTrace
