import ChartTrace.Proofs.AnnotatedBytes

namespace ChartTrace

/-!
# Offsets as words

Offsets are words, and the engine may report any of them, also far behind the annotated text.  Moving
them to the template never leaves the words and never subtracts more than there is.

* `subWord?`, `AnnotationOffsets.toSourceWords?`, `AnnotationOffsets.toSourceLocationWords?`: the way
  from an annotated offset to a template offset with each sum and each difference checked;
* `pairwise_annotatedStart_ofPairs`: lines start one after the other, so that those which start up to
  an offset come first;
* `getElem?_countP_lines`: hence there is a last one of them, at the place that counting gives;
* `toSourceWords?_annotate`: no check fails when the annotated text has a length that is a word;
* `toSource_of_length_le`: behind the annotated text every offset is the end of the template;
* `toSource_words`: the results are ordered as the offsets are and lie in the template.
-/

/-- The difference of two words, when there is one. -/
def subWord? (a b : Nat) : Option Nat := if b ≤ a then some (a - b) else none

theorem subWord?_of_le {a b : Nat} (h : b ≤ a) : subWord? a b = some (a - b) := if_pos h

theorem addWord?_of_lt {a b : Nat} (h : a + b < wordLimit) : addWord? a b = some (a + b) := if_pos h

/-- Bytes of the template line before the byte `within` of its annotated line, with checked sums and
    differences. -/
def LineOffsets.mapWithinWords? (l : LineOffsets) (within : Nat) : Option Nat :=
  if within ≤ l.contentLength then some within
  else do
    let stop ← addWord? l.contentLength l.markerLength
    if within < stop then return l.contentLength else subWord? within l.markerLength

/-- Mapping within a line does not overflow where the line with its marker fits a word. -/
theorem LineOffsets.mapWithinWords?_eq {l : LineOffsets}
    (h : l.contentLength + l.markerLength < wordLimit) (within : Nat) :
    l.mapWithinWords? within = some (l.mapWithin within) := by
  rw [mapWithinWords?, mapWithin, addWord?_of_lt h]
  by_cases hcontent : within ≤ l.contentLength
  · rw [if_pos hcontent, if_pos hcontent]
  · rw [if_neg hcontent, if_neg hcontent]
    by_cases hmarker : within < l.contentLength + l.markerLength
    · simp [hmarker]
    · -- Behind the marker there are at least the bytes that are subtracted.
      simp [hmarker, subWord?_of_le (show l.markerLength ≤ within by omega)]

namespace AnnotationOffsets

/-- The template offset of an annotated offset, with checked sums and differences.  The line of the
    offset is found by counting those that start up to it. -/
def toSourceWords? (o : AnnotationOffsets) (offset : Nat) : Option Nat := do
  let index ← subWord? (o.lines.countP fun l => l.annotatedStart ≤ offset) 1
  match o.lines[index]? with
  | none => return min offset o.sourceLength
  | some l =>
    let within ← subWord? offset l.annotatedStart
    let mapped ← l.mapWithinWords? within
    let sum ← addWord? l.sourceStart mapped
    return min sum o.sourceLength

/-- The template location of an annotated one, with checked sums and differences. -/
def toSourceLocationWords? (o : AnnotationOffsets) (l : Location) : Option Location := do
  let start ← o.toSourceWords? l.position
  let stop ← o.toSourceWords? (← l.end?)
  let length ← subWord? stop start
  return ⟨start, length⟩

/-! ### Lines in order -/

/-- No line starts in front of the first. -/
theorem le_annotatedStart_of_mem_ofPairs {ps : List (Line × Option Marker)} {a s : Nat}
    {e : LineOffsets} (he : e ∈ ofPairs a s ps) : a ≤ e.annotatedStart := by
  induction ps generalizing a s with
  | nil => simp [ofPairs, pairLines] at he
  | cons p ps ih =>
    obtain ⟨l, m⟩ := p
    rw [ofPairs_cons, List.mem_cons] at he
    rcases he with rfl | he
    · exact Nat.le_refl a
    · exact (Nat.le_add_right _ _).trans (ih he)

/-- Lines start one after the other. -/
theorem pairwise_annotatedStart_ofPairs (ps : List (Line × Option Marker)) (a s : Nat) :
    (ofPairs a s ps).Pairwise fun d e => d.annotatedStart ≤ e.annotatedStart := by
  induction ps generalizing a s with
  | nil => simp [ofPairs, pairLines]
  | cons p ps ih =>
    obtain ⟨l, m⟩ := p
    rw [ofPairs_cons, List.pairwise_cons]
    refine ⟨fun e he => ?_, ih _ _⟩
    exact (Nat.le_add_right _ _).trans (le_annotatedStart_of_mem_ofPairs he)

/-- Of lines in order, those that start up to an offset are the first ones. -/
theorem takeWhile_eq_take_countP {es : List LineOffsets}
    (h : es.Pairwise fun d e => d.annotatedStart ≤ e.annotatedStart) (offset : Nat) :
    es.takeWhile (fun e => e.annotatedStart ≤ offset)
      = es.take (es.countP fun e => e.annotatedStart ≤ offset) := by
  induction es with
  | nil => rfl
  | cons e es ih =>
    obtain ⟨he, hes⟩ := List.pairwise_cons.mp h
    by_cases hstart : e.annotatedStart ≤ offset
    · rw [List.countP_cons_of_pos (by simpa using hstart),
        List.takeWhile_cons_of_pos (by simpa using hstart), ih hes, List.take_succ_cons]
    · -- As the starts are in order, no later line counts either.
      have hbehind : ∀ d ∈ es, ¬ d.annotatedStart ≤ offset := fun d hd => by
        have := he d hd
        omega
      rw [List.countP_cons_of_neg (by simpa using hstart),
        List.takeWhile_cons_of_neg (by simpa using hstart),
        List.countP_eq_zero.mpr (by simpa using hbehind), List.take_zero]

/-- The first line starts with the annotated text, so that every offset has a line. -/
theorem exists_lineAt? (source : List Char) (offset : Nat) :
    ∃ e, (ofTemplate source).lineAt? offset = some e := by
  obtain ⟨l, ls, hls⟩ := splitLines_eq_cons source
  -- The first line starts at zero, so that every offset is behind its start.
  have hlines : ∃ e es, (ofTemplate source).lines = e :: es ∧ e.annotatedStart = 0 := by
    rw [ofTemplate_eq]
    cases hps : markedLines source with
    | nil =>
      have hnil := map_fst_markedLines source
      rw [hps, hls] at hnil
      cases hnil
    | cons p ps => exact ⟨_, _, ofPairs_cons 0 0 p.1 p.2 ps, rfl⟩
  obtain ⟨e, es, hes, he⟩ := hlines
  rw [lineAt?, hes, List.takeWhile_cons_of_pos (by simp [he])]
  exact ⟨_, List.getLast?_cons⟩

/-- The line of an offset is found by counting the lines that start up to it, of which there is at
    least one. -/
theorem getElem?_countP_lines {source : List Char} {offset : Nat} {e : LineOffsets}
    (h : (ofTemplate source).lineAt? offset = some e) :
    1 ≤ (ofTemplate source).lines.countP (fun l => l.annotatedStart ≤ offset)
    ∧ (ofTemplate source).lines[
        (ofTemplate source).lines.countP (fun l => l.annotatedStart ≤ offset) - 1]? = some e := by
  have hsorted : (ofTemplate source).lines.Pairwise
      fun d e => d.annotatedStart ≤ e.annotatedStart := by
    rw [ofTemplate_eq]
    exact pairwise_annotatedStart_ofPairs _ 0 0
  have hle : (ofTemplate source).lines.countP (fun l => l.annotatedStart ≤ offset)
      ≤ (ofTemplate source).lines.length := List.countP_le_length
  -- The lines that start at or before the offset are the first ones, and the last of them is meant.
  rw [lineAt?, takeWhile_eq_take_countP hsorted, List.getLast?_take] at h
  split at h
  · cases h
  · next hne =>
    have hlt : (ofTemplate source).lines.countP (fun l => l.annotatedStart ≤ offset) - 1
        < (ofTemplate source).lines.length := by omega
    rw [List.getElem?_eq_getElem hlt] at h ⊢
    exact ⟨by omega, h⟩

/-! ### No check fails -/

section

variable {source : List Char} (hlength : byteLength (annotate source) < wordLimit)
include hlength

/-- **No offset wraps.** Every sum on the way to the template is a word, and no difference is taken of
    less than it takes away. -/
theorem toSourceWords?_annotate {offset : Nat} (h : offset < wordLimit) :
    (ofTemplate source).toSourceWords? offset = some ((ofTemplate source).toSource offset) := by
  obtain ⟨e, he⟩ := exists_lineAt? source offset
  obtain ⟨hbefore, hsum⟩ := sum_le_of_lineAt? he
  obtain ⟨hcount, hline⟩ := getElem?_countP_lines he
  -- The line with its marker is a part of the annotated text.
  have hmarker : e.contentLength + e.markerLength < wordLimit := by
    have hsums := sums_le_of_mem_lines (List.mem_of_getElem? hline)
    omega
  rw [toSourceWords?, toSource, he, subWord?_of_le hcount]
  simp only [Option.bind_eq_bind, Option.bind_some, hline, subWord?_of_le hbefore,
    LineOffsets.mapWithinWords?_eq hmarker, addWord?_of_lt (Nat.lt_of_le_of_lt hsum h)]
  rfl

/-- The same of the two offsets of a location and of its length. -/
theorem toSourceLocationWords?_annotate {l : Location} (h : l.position + l.length < wordLimit) :
    (ofTemplate source).toSourceLocationWords? l
      = some ((ofTemplate source).toSourceLocation l) := by
  have hstart : l.position < wordLimit := by omega
  have hend : l.end? = some (l.position + l.length) := addWord?_of_lt h
  rw [toSourceLocationWords?, toSourceWords?_annotate hlength hstart, hend]
  simp only [Option.bind_eq_bind, Option.bind_some, toSourceWords?_annotate hlength h,
    subWord?_of_le (toSource_mono source (Nat.le_add_right l.position l.length))]
  rfl

end

/-- Behind the annotated text there are no template bytes left. -/
theorem toSource_of_length_le {source : List Char} {offset : Nat}
    (h : byteLength (annotate source) ≤ offset) :
    (ofTemplate source).toSource offset = byteLength source := by
  have hall : (taggedBytes source).take offset = taggedBytes source := by
    refine List.take_of_length_le ?_
    rw [← length_textBytes, ← map_byte_taggedBytes, List.length_map] at h
    exact h
  rw [toSource_eq_countP, hall, List.countP_eq_length_filter, ← length_textBytes source,
    ← templateBytes_taggedBytes, templateBytes, List.length_map]

/-- **Offsets stay in the template.** Of two annotated offsets the greater one has the greater
    template offset, which lies in the template and is its end for every offset behind the annotated
    text.  So a location is moved into the template, and its length is the difference of its moved
    ends.  When the length of the annotated text is a word, no sum on the way leaves the words and no
    difference falls below zero. -/
theorem toSource_words (source : List Char) :
    (∀ x y, x ≤ y →
      (ofTemplate source).toSource x ≤ (ofTemplate source).toSource y
      ∧ (ofTemplate source).toSource y ≤ byteLength source)
    ∧ (∀ x, byteLength (annotate source) ≤ x → (ofTemplate source).toSource x = byteLength source)
    ∧ (∀ l : Location,
      ((ofTemplate source).toSourceLocation l).position
          + ((ofTemplate source).toSourceLocation l).length
        = (ofTemplate source).toSource (l.position + l.length)
      ∧ (ofTemplate source).toSource (l.position + l.length) ≤ byteLength source)
    ∧ (byteLength (annotate source) < wordLimit →
      (∀ x < wordLimit,
        (ofTemplate source).toSourceWords? x = some ((ofTemplate source).toSource x))
      ∧ ∀ l : Location, l.position + l.length < wordLimit →
        (ofTemplate source).toSourceLocationWords? l
          = some ((ofTemplate source).toSourceLocation l)) := by
  refine ⟨fun x y hxy => ⟨toSource_mono source hxy, toSource_le _ _⟩,
    fun x hx => toSource_of_length_le hx,
    fun l => ⟨end_toSourceLocation source l, toSource_le _ _⟩, fun hlength => ⟨fun x hx => ?_, ?_⟩⟩
  · exact toSourceWords?_annotate hlength hx
  · exact fun l hl => toSourceLocationWords?_annotate hlength hl

/-- A location from the first marker of an annotated text to the last word of all. -/
theorem toSource_words_lastWord :
    byteLength (annotate twoMarkers) = 18 ∧ byteLength twoMarkers = 10 ∧ 18 < wordLimit
    ∧ (3 ≤ wordLimit - 1
      ∧ (ofTemplate twoMarkers).toSource 3 ≤ (ofTemplate twoMarkers).toSource (wordLimit - 1))
    ∧ (18 ≤ wordLimit - 1 ∧ (ofTemplate twoMarkers).toSource (wordLimit - 1) = 10)
    ∧ (wordLimit - 1 < wordLimit
      ∧ (ofTemplate twoMarkers).toSourceWords? (wordLimit - 1) = some 10)
    ∧ (3 + (wordLimit - 4) < wordLimit
      ∧ (ofTemplate twoMarkers).toSourceLocationWords? ⟨3, wordLimit - 4⟩ = some ⟨2, 8⟩) := by
  have hlength : byteLength (annotate twoMarkers) = 18 := by decide
  have hword : 18 < wordLimit := by decide
  have hbehind : 18 ≤ wordLimit - 1 := by decide
  have hlast : wordLimit - 1 < wordLimit := by decide
  have hend : 3 + (wordLimit - 4) < wordLimit := by decide
  obtain ⟨horder, htail, -, hwords⟩ := toSource_words twoMarkers
  obtain ⟨hoffsets, hlocations⟩ := hwords (hlength ▸ hword)
  have hten : (ofTemplate twoMarkers).toSource (wordLimit - 1) = 10 :=
    htail _ (hlength ▸ hbehind)
  refine ⟨hlength, by decide, hword, ⟨by decide, (horder _ _ (by decide)).1⟩, ⟨hbehind, hten⟩,
    ⟨hlast, (hoffsets _ hlast).trans (congrArg some hten)⟩, hend, ?_⟩
  rw [hlocations _ hend]
  decide

end AnnotationOffsets

end ChartTrace
