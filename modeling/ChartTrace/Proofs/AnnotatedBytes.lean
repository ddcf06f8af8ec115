import ChartTrace.Annotation.Offsets
import ChartTrace.Proofs.AnnotatedLines
import ChartTrace.Proofs.Utf8Codec
import Mathlib.Data.List.TakeWhile

namespace ChartTrace

/-!
# The bytes of an annotated template

An offset of the annotated text means what the template bytes in front of it mean:

* `TaggedByte`, `taggedBytes`: the bytes of the annotated text, each with whether it stems from the
  template or from a marker;
* `toSource_eq_countP`: the template offset of an annotated one is the number of template bytes in
  front of it, whatever line, marker or terminator it falls on;
* `filter_drop_take`: hence a stretch of the template is the stretch of the annotated text without
  markers;
* `annotatedOffset`: where a byte of the template stands in the annotated text;
* `toSourceLocation_keeps_text`: offsets, locations and images together.
-/

/-- A byte of the annotated text, and whether it is one of the template. -/
structure TaggedByte where
  byte : UInt8
  fromTemplate : Bool
deriving DecidableEq, Repr

/-- The bytes of a text, all from the template or all from a marker. -/
def tagBytes (fromTemplate : Bool) (cs : List Char) : List TaggedByte :=
  (textBytes cs).map fun b => ⟨b, fromTemplate⟩

/-- The bytes of a line with its marker. -/
def Line.taggedBytes (l : Line) (m : Option Marker) : List TaggedByte :=
  tagBytes true l.content ++ (tagBytes false (markerText m) ++ tagBytes true l.terminator)

/-- The bytes of lines with their markers. -/
def taggedLines (ps : List (Line × Option Marker)) : List TaggedByte :=
  ps.flatMap fun p => p.1.taggedBytes p.2

/-- The bytes of the annotated template. -/
def taggedBytes (source : List Char) : List TaggedByte := taggedLines (markedLines source)

/-- The bytes that are left when those of markers are deleted. -/
def templateBytes (bs : List TaggedByte) : Bytes :=
  (bs.filter TaggedByte.fromTemplate).map TaggedByte.byte

/-! ### Bytes of the two texts -/

/-- Without the tags the bytes are those of the text. -/
@[simp] theorem map_byte_tagBytes (b : Bool) (cs : List Char) :
    (tagBytes b cs).map TaggedByte.byte = textBytes cs := by
  simp [tagBytes, Function.comp_def]

@[simp] theorem length_tagBytes (b : Bool) (cs : List Char) :
    (tagBytes b cs).length = byteLength cs := by
  simp [tagBytes]

@[simp] theorem templateBytes_append (bs cs : List TaggedByte) :
    templateBytes (bs ++ cs) = templateBytes bs ++ templateBytes cs := by
  simp [templateBytes]

/-- Of a text either all bytes are of the template or none is. -/
@[simp] theorem templateBytes_tagBytes (b : Bool) (cs : List Char) :
    templateBytes (tagBytes b cs) = if b then textBytes cs else [] := by
  cases b <;> simp [templateBytes, tagBytes, List.filter_map, Function.comp_def]

@[simp] theorem taggedLines_cons (l : Line) (m : Option Marker) (ps : List (Line × Option Marker)) :
    taggedLines ((l, m) :: ps) = l.taggedBytes m ++ taggedLines ps := rfl

theorem byteLength_text (l : Line) :
    byteLength l.text = byteLength l.content + byteLength l.terminator := by
  rw [Line.text, byteLength_append]

/-- A marked line is longer by its marker. -/
theorem byteLength_text_mark (l : Line) (m : Option Marker) :
    byteLength (l.mark m).text
      = byteLength l.content + byteLength (markerText m) + byteLength l.terminator := by
  rw [byteLength_text, Line.mark, byteLength_append]

/-- There is a tagged byte for each byte of the marked line. -/
theorem length_taggedBytes_line (l : Line) (m : Option Marker) :
    (l.taggedBytes m).length = byteLength (l.mark m).text := by
  simp [Line.taggedBytes, byteLength_text_mark, Nat.add_assoc]

/-- Without the tags the bytes are those of the marked lines. -/
theorem map_byte_taggedLines (ps : List (Line × Option Marker)) :
    (taggedLines ps).map TaggedByte.byte
      = textBytes (joinLines (ps.map fun p => p.1.mark p.2)) := by
  induction ps with
  | nil => rfl
  | cons p ps ih =>
    obtain ⟨l, m⟩ := p
    rw [taggedLines_cons, List.map_append, ih, List.map_cons, joinLines_cons]
    simp [Line.taggedBytes, Line.mark]

/-- The bytes that come from the template are those of the lines without markers. -/
theorem templateBytes_taggedLines (ps : List (Line × Option Marker)) :
    templateBytes (taggedLines ps) = textBytes (joinLines (ps.map Prod.fst)) := by
  induction ps with
  | nil => rfl
  | cons p ps ih =>
    obtain ⟨l, m⟩ := p
    rw [taggedLines_cons, templateBytes_append, ih, List.map_cons, joinLines_cons]
    simp [Line.taggedBytes]

/-- The tagged bytes are those of the annotated text. -/
theorem map_byte_taggedBytes (source : List Char) :
    (taggedBytes source).map TaggedByte.byte = textBytes (annotate source) := by
  rw [taggedBytes, map_byte_taggedLines, ← splitLines_annotate_eq_map, joinLines_splitLines]

/-- Without the bytes of markers they are those of the template. -/
theorem templateBytes_taggedBytes (source : List Char) :
    templateBytes (taggedBytes source) = textBytes source := by
  rw [taggedBytes, templateBytes_taggedLines, map_fst_markedLines, joinLines_splitLines]

/-- Annotating never shortens a text. -/
theorem byteLength_le_annotate (source : List Char) :
    byteLength source ≤ byteLength (annotate source) := by
  rw [← length_textBytes source, ← length_textBytes (annotate source), ← templateBytes_taggedBytes,
    ← map_byte_taggedBytes, templateBytes, List.length_map, List.length_map]
  exact List.length_filter_le _ _

/-! ### Template bytes in front of an offset -/

/-- All bytes in front of an offset come from the template, or none does. -/
theorem countP_take_tagBytes (b : Bool) (cs : List Char) (n : Nat) :
    ((tagBytes b cs).take n).countP TaggedByte.fromTemplate
      = if b then min n (byteLength cs) else 0 := by
  have hall : ∀ x ∈ (tagBytes b cs).take n, x.fromTemplate = b := by
    intro x hx
    obtain ⟨y, -, rfl⟩ := List.mem_map.mp (List.mem_of_mem_take hx)
    rfl
  cases b with
  | false => exact List.countP_eq_zero.mpr (fun x hx => by simp [hall x hx])
  | true =>
    rw [List.countP_eq_length.mpr hall, List.length_take, length_tagBytes, if_pos rfl]

/-- The entry of a line and its marker in the table of offsets. -/
def Line.offsets (l : Line) (m : Option Marker) (annotatedStart sourceStart : Nat) : LineOffsets :=
  ⟨annotatedStart, sourceStart, byteLength l.content, byteLength (markerText m)⟩

/-- Bytes of the content, then bytes behind the marker. -/
theorem mapWithin_offsets (l : Line) (m : Option Marker) (a s n : Nat) :
    (l.offsets m a s).mapWithin n
      = min n (byteLength l.content)
        + (n - (byteLength l.content + byteLength (markerText m))) := by
  rw [LineOffsets.mapWithin, Line.offsets]
  dsimp only
  -- The offset is in the content, in the marker, or behind them.
  split
  · omega
  · split
    · omega
    · omega

/-- Within one line the template bytes in front of an offset are what the entry of the line says. -/
theorem countP_take_taggedBytes_line (l : Line) (m : Option Marker) (a s n : Nat) :
    ((l.taggedBytes m).take n).countP TaggedByte.fromTemplate
      = min ((l.offsets m a s).mapWithin n) (byteLength l.text) := by
  rw [mapWithin_offsets, byteLength_text]
  simp only [Line.taggedBytes, List.take_append, List.countP_append, countP_take_tagBytes,
    length_tagBytes, Bool.false_eq_true, if_true, if_false]
  omega

/-! ### The table of offsets -/

namespace AnnotationOffsets

/-- The offsets of a template in its annotated text. -/
def ofTemplate (source : List Char) : AnnotationOffsets := ofTexts (annotate source) source

/-- The table of lines with their markers, from given starts on. -/
def ofPairs (annotatedStart sourceStart : Nat) (ps : List (Line × Option Marker)) :
    List LineOffsets :=
  pairLines annotatedStart sourceStart (ps.map fun p => p.1.mark p.2) (ps.map Prod.fst)

/-- The first line begins where the texts do, and the next one behind it in both of them. -/
theorem ofPairs_cons (a s : Nat) (l : Line) (m : Option Marker) (ps : List (Line × Option Marker)) :
    ofPairs a s ((l, m) :: ps)
      = l.offsets m a s :: ofPairs (a + byteLength (l.mark m).text) (s + byteLength l.text) ps := by
  have hmarker : byteLength (l.mark m).content - byteLength l.content
      = byteLength (markerText m) := by
    simp [Line.mark]
  rw [ofPairs, List.map_cons, List.map_cons, pairLines, hmarker]
  rfl

/-- The table of an annotated template is that of its lines and their markers. -/
theorem ofTemplate_eq (source : List Char) :
    ofTemplate source = ⟨ofPairs 0 0 (markedLines source), byteLength source⟩ := by
  rw [ofTemplate, ofTexts, splitLines_annotate_eq_map, ofPairs, map_fst_markedLines]

/-- An offset in front of all lines but the first is one of the first. -/
theorem toSource_first {e : LineOffsets} {es : List LineOffsets} {size offset : Nat}
    (he : e.annotatedStart ≤ offset) (hes : ∀ d ∈ es.head?, offset < d.annotatedStart) :
    toSource ⟨e :: es, size⟩ offset
      = min (e.sourceStart + e.mapWithin (offset - e.annotatedStart)) size := by
  -- No further line starts at or before the offset.
  have hstop : es.takeWhile (fun l => l.annotatedStart ≤ offset) = [] := by
    cases es with
    | nil => rfl
    | cons d es =>
      have hd := hes d rfl
      exact List.takeWhile_cons_of_neg (by simpa using hd)
  have hline : lineAt? ⟨e :: es, size⟩ offset = some e := by
    rw [lineAt?, List.takeWhile_cons_of_pos (by simpa using he), hstop]
    rfl
  rw [toSource, hline]

/-- An offset behind the start of the second line is not one of the first. -/
theorem toSource_rest {e d : LineOffsets} {es : List LineOffsets} {size offset : Nat}
    (he : e.annotatedStart ≤ offset) (hd : d.annotatedStart ≤ offset) :
    toSource ⟨e :: d :: es, size⟩ offset = toSource ⟨d :: es, size⟩ offset := by
  have hline : lineAt? ⟨e :: d :: es, size⟩ offset = lineAt? ⟨d :: es, size⟩ offset := by
    rw [lineAt?, lineAt?, List.takeWhile_cons_of_pos (by simpa using he),
      List.takeWhile_cons_of_pos (by simpa using hd), List.getLast?_cons_cons]
  rw [toSource, toSource, hline]

/-- **Key lemma.** From the start of lines on, the template offset of an annotated one grows by the
    template bytes in front of it.  The induction is on the lines; an offset on the first of them is
    answered by `countP_take_taggedBytes_line`, any other by the lines behind. -/
theorem toSource_ofPairs {ps : List (Line × Option Marker)} (hps : ps ≠ []) (a s offset : Nat)
    (ha : a ≤ offset) :
    toSource ⟨ofPairs a s ps, s + byteLength (joinLines (ps.map Prod.fst))⟩ offset
      = s + ((taggedLines ps).take (offset - a)).countP TaggedByte.fromTemplate := by
  induction ps generalizing a s with
  | nil => exact absurd rfl hps
  | cons p ps ih =>
    obtain ⟨l, m⟩ := p
    have hsize : s + byteLength (joinLines (((l, m) :: ps).map Prod.fst))
        = s + byteLength l.text + byteLength (joinLines (ps.map Prod.fst)) := by
      simp [Line.text, Nat.add_assoc]
    rw [taggedLines_cons, List.take_append, List.countP_append,
      countP_take_taggedBytes_line l m a s, length_taggedBytes_line, hsize, ofPairs_cons]
    have hmarked := byteLength_text_mark l m
    cases ps with
    | nil =>
      -- The last line takes every offset; behind its end the length of the template holds.
      rw [toSource_first ha (by simp [ofPairs, pairLines])]
      simp only [taggedLines, List.flatMap_nil, List.take_nil, List.countP_nil, List.map_nil,
        joinLines_nil, byteLength_nil]
      exact Nat.add_min_add_left ..
    | cons q ps =>
      obtain ⟨k, n⟩ := q
      by_cases hfirst : offset < a + byteLength (l.mark m).text
      · -- The offset is on the first line, so nothing of the rest is in front of it.
        have hwithin : (l.offsets m a s).mapWithin (offset - a) ≤ byteLength l.text :=
          by rw [mapWithin_offsets, byteLength_text]; omega
        rw [toSource_first ha (by simpa [ofPairs_cons, Line.offsets] using hfirst),
          show offset - a - byteLength (l.mark m).text = 0 by omega, List.take_zero,
          List.countP_nil]
        show min (s + (l.offsets m a s).mapWithin (offset - a)) _ = _
        omega
      · -- The first line is in front of the offset with all its template bytes.
        have hwithin : byteLength l.text ≤ (l.offsets m a s).mapWithin (offset - a) :=
          by rw [mapWithin_offsets, byteLength_text]; omega
        have hrest := ih (by simp) (a + byteLength (l.mark m).text) (s + byteLength l.text)
          (by omega)
        rw [ofPairs_cons] at hrest ⊢
        rw [toSource_rest ha (by simpa [Line.offsets] using hfirst), hrest, Nat.sub_sub]
        omega

/-- **Offsets are counts.** The template offset of an annotated one is the number of template bytes
    in front of it. -/
theorem toSource_eq_countP (source : List Char) (offset : Nat) :
    (ofTemplate source).toSource offset
      = ((taggedBytes source).take offset).countP TaggedByte.fromTemplate := by
  -- A text has a line, even the empty one.
  have hlines : markedLines source ≠ [] := by
    intro h
    have hnil : splitLines source = [] := by rw [← map_fst_markedLines, h]; rfl
    exact absurd (areLines_splitLines source) (by rw [hnil]; exact id)
  have hkey := toSource_ofPairs hlines 0 0 offset (Nat.zero_le _)
  rw [map_fst_markedLines, joinLines_splitLines, Nat.zero_add, Nat.zero_add, Nat.sub_zero] at hkey
  rw [ofTemplate_eq, hkey, taggedBytes]

/-- Offsets are mapped in order. -/
theorem toSource_mono (source : List Char) {p q : Nat} (h : p ≤ q) :
    (ofTemplate source).toSource p ≤ (ofTemplate source).toSource q := by
  rw [toSource_eq_countP, toSource_eq_countP]
  exact (List.take_sublist_take_left h).countP_le

/-- No offset is mapped beyond the end of the template. -/
theorem toSource_le (o : AnnotationOffsets) (offset : Nat) :
    o.toSource offset ≤ o.sourceLength := by
  rw [toSource]
  split
  · exact Nat.min_le_right _ _
  · exact Nat.min_le_right _ _

/-! ### Sums of offsets -/

/-- A line starts in the annotated text no earlier than in the template. -/
theorem sourceStart_le_of_mem_ofPairs {ps : List (Line × Option Marker)} {a s : Nat} (h : s ≤ a)
    {e : LineOffsets} (he : e ∈ ofPairs a s ps) : e.sourceStart ≤ e.annotatedStart := by
  induction ps generalizing a s with
  | nil => simp [ofPairs, pairLines] at he
  | cons p ps ih =>
    obtain ⟨l, m⟩ := p
    rw [ofPairs_cons, List.mem_cons] at he
    rcases he with rfl | he
    · exact h
    · -- The annotated line is at least as long, so that the next one starts no earlier.
      refine ih ?_ he
      rw [byteLength_text_mark, byteLength_text]
      omega

/-- The sums of an entry are offsets of the two texts. -/
theorem sums_le_of_mem_ofPairs {ps : List (Line × Option Marker)} {a s : Nat} {e : LineOffsets}
    (he : e ∈ ofPairs a s ps) :
    e.annotatedStart + e.contentLength + e.markerLength
      ≤ a + byteLength (joinLines (ps.map fun p => p.1.mark p.2))
    ∧ e.sourceStart + e.contentLength ≤ s + byteLength (joinLines (ps.map Prod.fst)) := by
  induction ps generalizing a s with
  | nil => simp [ofPairs, pairLines] at he
  | cons p ps ih =>
    obtain ⟨l, m⟩ := p
    rw [ofPairs_cons, List.mem_cons] at he
    simp only [List.map_cons, joinLines_cons, byteLength_append, Line.mark, Line.offsets] at he ⊢
    rcases he with rfl | he
    · -- The line itself is a part of both texts.
      constructor
      · dsimp only
        omega
      · dsimp only
        omega
    · obtain ⟨hmarked, hplain⟩ := ih he
      simp only [byteLength_text, byteLength_append, Line.mark] at hmarked hplain
      omega

/-- So the sums stay within the two texts. -/
theorem sums_le_of_mem_lines {source : List Char} {e : LineOffsets}
    (he : e ∈ (ofTemplate source).lines) :
    e.annotatedStart + e.contentLength + e.markerLength ≤ byteLength (annotate source)
    ∧ e.sourceStart + e.contentLength ≤ byteLength source := by
  rw [ofTemplate_eq] at he
  have hsums := sums_le_of_mem_ofPairs he
  rw [← splitLines_annotate_eq_map, map_fst_markedLines, joinLines_splitLines, joinLines_splitLines,
    Nat.zero_add, Nat.zero_add] at hsums
  exact hsums

/-- The sum that gives a template offset is at most the annotated offset. -/
theorem sum_le_of_lineAt? {source : List Char} {offset : Nat} {e : LineOffsets}
    (hline : (ofTemplate source).lineAt? offset = some e) :
    e.annotatedStart ≤ offset
    ∧ e.sourceStart + e.mapWithin (offset - e.annotatedStart) ≤ offset := by
  -- A line starts no later in the template, and the bytes before the offset on it only shrink.
  have hmem := List.mem_of_getLast? hline
  have hbefore : e.annotatedStart ≤ offset := by simpa using List.mem_takeWhile_imp hmem
  have hstart : e.sourceStart ≤ e.annotatedStart := by
    rw [ofTemplate_eq] at hmem
    exact sourceStart_le_of_mem_ofPairs (le_refl 0) ((List.takeWhile_sublist _).subset hmem)
  have hwithin : e.mapWithin (offset - e.annotatedStart) ≤ offset - e.annotatedStart := by
    rw [LineOffsets.mapWithin]
    split
    · exact le_refl _
    · split
      · omega
      · omega
  omega

/-- No sum of a line's start and an offset on it leaves the words that hold the annotated offset. -/
theorem toSource?_annotate (source : List Char) {offset : Nat} (h : offset < wordLimit) :
    (ofTemplate source).toSource? offset
      = some ((ofTemplate source).toSource offset) := by
  rw [toSource?, toSource]
  cases hline : (ofTemplate source).lineAt? offset with
  | none => rfl
  | some e =>
    -- The sum is at most the offset itself, which is a word.
    have hsum : e.sourceStart + e.mapWithin (offset - e.annotatedStart) < wordLimit :=
      Nat.lt_of_le_of_lt (sum_le_of_lineAt? hline).2 h
    simp [addWord?, hsum]

/-- The end of a moved location is the template offset of its end. -/
theorem end_toSourceLocation (source : List Char) (l : Location) :
    ((ofTemplate source).toSourceLocation l).position
        + ((ofTemplate source).toSourceLocation l).length
      = (ofTemplate source).toSource (l.position + l.length) :=
  Nat.add_sub_cancel' (toSource_mono source (Nat.le_add_right _ _))

/-- A location whose end is a word is moved without leaving the words. -/
theorem toSourceLocation?_annotate (source : List Char) {l : Location}
    (h : l.position + l.length < wordLimit) :
    (ofTemplate source).toSourceLocation? l
      = some ((ofTemplate source).toSourceLocation l) := by
  have hend : l.end? = some (l.position + l.length) := by simp [Location.end?, addWord?, h]
  rw [toSourceLocation?, hend, toSource?_annotate source (show l.position < wordLimit by omega)]
  simp [toSource?_annotate source h, toSourceLocation]

end AnnotationOffsets

/-! ### Stretches of the two texts -/

/-- The bytes that a location names. -/
def Location.bytes (l : Location) (text : List Char) : Bytes :=
  ((textBytes text).drop l.position).take l.length

/-- What is left of a stretch of a list is the stretch of what is left, with offsets counted in
    it. -/
theorem filter_drop_take {α : Type} (keep : α → Bool) (xs : List α) {p q : Nat} (h : p ≤ q) :
    ((xs.filter keep).drop ((xs.take p).countP keep)).take
        ((xs.take q).countP keep - (xs.take p).countP keep)
      = ((xs.drop p).take (q - p)).filter keep := by
  -- Cut the list at `p` and at `q`: filtering keeps the three pieces apart.
  have hq : xs.take q = xs.take p ++ (xs.drop p).take (q - p) := by
    rw [← List.take_add, Nat.add_sub_cancel' h]
  have hxs : xs.filter keep = (xs.take p).filter keep
      ++ (((xs.drop p).take (q - p)).filter keep ++ ((xs.drop p).drop (q - p)).filter keep) := by
    rw [← List.filter_append, List.take_append_drop, ← List.filter_append, List.take_append_drop]
  rw [hq, List.countP_append, Nat.add_sub_cancel_left, hxs, List.countP_eq_length_filter,
    List.countP_eq_length_filter, List.drop_left, List.take_left]

/-- A moved location names the bytes of the annotated one that are not of markers. -/
theorem bytes_toSourceLocation (source : List Char) {p q : Nat} (h : p ≤ q) :
    ((AnnotationOffsets.ofTemplate source).toSourceLocation ⟨p, q - p⟩).bytes source
      = templateBytes (((taggedBytes source).drop p).take (q - p)) := by
  rw [AnnotationOffsets.toSourceLocation, Location.bytes, ← templateBytes_taggedBytes,
    templateBytes, templateBytes, ← List.map_drop, ← List.map_take,
    AnnotationOffsets.toSource_eq_countP, AnnotationOffsets.toSource_eq_countP, Nat.add_sub_cancel' h, filter_drop_take _ _ h]

/-! ### Images of template offsets -/

/-- Where a byte of lines stands once they are marked: behind the markers of the lines before, and
    behind that of its own line if it is of the terminator. -/
def imageIn : List (Line × Option Marker) → Nat → Nat
  | [], x => x
  | (l, m) :: ps, x =>
    if x < byteLength l.content then x
    else if x < byteLength l.text then x + byteLength (markerText m)
    else byteLength (l.mark m).text + imageIn ps (x - byteLength l.text)

/-- Where a byte of a template stands in its annotated text. -/
def annotatedOffset (source : List Char) (x : Nat) : Nat := imageIn (markedLines source) x

/-- The tagged byte at an index is the byte of the text there. -/
theorem getElem?_tagBytes (b : Bool) (cs : List Char) (i : Nat) :
    (tagBytes b cs)[i]? = (textBytes cs)[i]?.map fun c => ⟨c, b⟩ := by
  rw [tagBytes, List.getElem?_map]

/-- The byte at the image of an offset is the byte at the offset. -/
theorem getElem?_imageIn (ps : List (Line × Option Marker)) (x : Nat) :
    (taggedLines ps)[imageIn ps x]?
      = (textBytes (joinLines (ps.map Prod.fst)))[x]?.map fun c => ⟨c, true⟩ := by
  induction ps generalizing x with
  | nil => rfl
  | cons p ps ih =>
    obtain ⟨l, m⟩ := p
    have hmarked := byteLength_text_mark l m
    have htext := byteLength_text l
    rw [taggedLines_cons, List.map_cons, joinLines_cons, imageIn, textBytes_append,
      textBytes_append, List.append_assoc]
    -- The offset falls on the content, on the terminator, or on a later line.
    split
    · next hcontent =>
      rw [Line.taggedBytes, List.append_assoc, List.getElem?_append_left (by simpa using hcontent),
        List.getElem?_append_left (by simpa using hcontent), getElem?_tagBytes]
    · next hcontent =>
      split
      · next hterminator =>
        rw [Line.taggedBytes, List.append_assoc, List.append_assoc,
          List.getElem?_append_right (by simp; omega), List.getElem?_append_right (by simp; omega),
          List.getElem?_append_left (by simp; omega), List.getElem?_append_right (by simp; omega),
          List.getElem?_append_left (by simp; omega), getElem?_tagBytes]
        congr 2
        simp
        omega
      · next hrest =>
        rw [List.getElem?_append_right (by rw [length_taggedBytes_line]; omega),
          List.getElem?_append_right (by simp; omega), List.getElem?_append_right (by simp; omega),
          length_taggedBytes_line, Nat.add_sub_cancel_left, ih]
        congr 2
        simp
        omega

/-- In front of the image of an offset stand the template bytes in front of the offset. -/
theorem countP_take_imageIn {ps : List (Line × Option Marker)} {x : Nat}
    (hx : x ≤ byteLength (joinLines (ps.map Prod.fst))) :
    ((taggedLines ps).take (imageIn ps x)).countP TaggedByte.fromTemplate = x := by
  induction ps generalizing x with
  | nil =>
    obtain rfl : x = 0 := by simpa using hx
    rfl
  | cons p ps ih =>
    obtain ⟨l, m⟩ := p
    have hmarked := byteLength_text_mark l m
    have htext := byteLength_text l
    simp only [List.map_cons, joinLines_cons, byteLength_append] at hx
    rw [taggedLines_cons, List.take_append, List.countP_append,
      countP_take_taggedBytes_line l m 0 0, mapWithin_offsets, length_taggedBytes_line, imageIn]
    split
    · next hcontent =>
      -- Within the content nothing of the marker is in front.
      rw [show x - byteLength (l.mark m).text = 0 by omega, List.take_zero, List.countP_nil]
      omega
    · next hcontent =>
      split
      · next hterminator =>
        -- In the terminator all of the marker is.
        rw [show x + byteLength (markerText m) - byteLength (l.mark m).text = 0 by omega,
          List.take_zero, List.countP_nil]
        omega
      · next hrest =>
        -- Behind the line the argument goes on with the next one.
        rw [Nat.add_sub_cancel_left, ih (by omega)]
        omega

namespace AnnotationOffsets

/-- **Text kept.** Offsets of the annotated text count template bytes, so a location of it is moved
    to the same text without the markers, and the image of a template offset back to it.  The sums
    of a location whose end is a word are words. -/
theorem toSourceLocation_keeps_text (source : List Char) :
    (taggedBytes source).map TaggedByte.byte = textBytes (annotate source)
    ∧ templateBytes (taggedBytes source) = textBytes source
    ∧ (∀ p q, p ≤ q →
        (ofTemplate source).toSource p ≤ (ofTemplate source).toSource q
        ∧ (ofTemplate source).toSource q ≤ byteLength source
        ∧ (ofTemplate source).toSourceLocation ⟨p, q - p⟩
          = ⟨(ofTemplate source).toSource p,
              (ofTemplate source).toSource q - (ofTemplate source).toSource p⟩
        ∧ ((ofTemplate source).toSourceLocation ⟨p, q - p⟩).bytes source
          = templateBytes (((taggedBytes source).drop p).take (q - p))
        ∧ (q < wordLimit → (ofTemplate source).toSourceLocation? ⟨p, q - p⟩
          = some ((ofTemplate source).toSourceLocation ⟨p, q - p⟩)))
    ∧ ∀ x, x ≤ byteLength source →
        (taggedBytes source)[annotatedOffset source x]?
          = (textBytes source)[x]?.map (fun c => ⟨c, true⟩)
        ∧ (ofTemplate source).toSource (annotatedOffset source x) = x := by
  have hjoin : joinLines ((markedLines source).map Prod.fst) = source := by
    rw [map_fst_markedLines, joinLines_splitLines]
  refine ⟨map_byte_taggedBytes source, templateBytes_taggedBytes source, ?_, ?_⟩
  · -- Ranges are mapped by their two ends.
    intro p q hpq
    have hend : p + (q - p) = q := Nat.add_sub_cancel' hpq
    refine ⟨toSource_mono source hpq, toSource_le _ _, ?_, bytes_toSourceLocation source hpq, ?_⟩
    · rw [toSourceLocation, hend]
    · intro hword
      exact toSourceLocation?_annotate source (hend.symm ▸ hword)
  · -- Each offset of the template has an image, which is mapped back to it.
    intro x hx
    constructor
    · rw [taggedBytes, annotatedOffset, getElem?_imageIn, hjoin]
    · rw [toSource_eq_countP, taggedBytes, annotatedOffset]
      exact countP_take_imageIn (by rw [hjoin]; exact hx)

/-- A character of two bytes, a terminator of two characters, and an action over two lines. -/
def twoMarkers : List Char :=
  ['é', '\r', '\n', openBrace, openBrace, '\n', closeBrace, closeBrace, ' ']

/-- From the first marker to the last: the terminator and the action between them. -/
theorem toSourceLocation_keeps_text_twoMarkers :
    3 ≤ 15 ∧ 15 < wordLimit ∧ 2 ≤ byteLength twoMarkers
    ∧ ((ofTemplate twoMarkers).toSourceLocation ⟨3, 12⟩).bytes twoMarkers
      = [13, 10, 123, 123, 10, 125, 125, 32]
    ∧ (ofTemplate twoMarkers).toSourceLocation? ⟨3, 12⟩ = some ⟨2, 8⟩
    ∧ (ofTemplate twoMarkers).toSource (annotatedOffset twoMarkers 2) = 2
    ∧ annotatedOffset twoMarkers 2 = 5 := by
  obtain ⟨-, -, hlocations, himages⟩ := toSourceLocation_keeps_text twoMarkers
  obtain ⟨-, -, -, hbytes, hwords⟩ := hlocations 3 15 (by decide)
  refine ⟨by decide, by decide, by decide, hbytes, hwords (by decide), ?_, by decide⟩
  exact (himages 2 (by decide)).2

end AnnotationOffsets

end ChartTrace
