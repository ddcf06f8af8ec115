import ChartTrace.Proofs.BraceRuns
import Mathlib.Data.List.Forall2

namespace ChartTrace

/-!
# Templates recovered from their annotated text

A line of a template may end in the text of a marker, and a line inside an action gets none, so a
marker cannot be told by its looks.  The scan tells it all the same: a marker changes no balance, so it
reads the annotated lines as it reads those of the template.

* `lineMarkers_of_balances`: the balances of the lines are all that the scan sees of them;
* `templateMarkers_annotate`: so the annotated text has the markers of the template;
* `unannotate`: the text without the markers that its own scan finds;
* `annotate_recoverable`: it is the template, and no two templates share their annotated text.
-/

/-! ### Markers and the scan -/

/-- Run lemma: lines with the same balances have the same markers. -/
theorem lineMarkers_of_balances {ls ks : List Line}
    (h : List.Forall₂ (fun l k => braceBalance l.content = braceBalance k.content) ls ks)
    (pending : Option Nat) (number : Nat) :
    lineMarkers pending number ls = lineMarkers pending number ks := by
  -- The scan looks at the balance of a line and at nothing else of it.
  induction h generalizing pending number with
  | nil => rfl
  | @cons l k ls ks hl hrest ih =>
    cases hrest with
    | nil => rw [lineMarkers_singleton, lineMarkers_singleton, lastMarker, lastMarker, hl]
    | cons => rw [lineMarkers_cons_cons, lineMarkers_cons_cons, hl, ih]

/-- **Replay.** Scanned again, an annotated text has the markers that it was given. -/
theorem templateMarkers_annotate (source : List Char) :
    templateMarkers (annotate source) = templateMarkers source := by
  have hbalances : List.Forall₂ (fun l k => braceBalance l.content = braceBalance k.content)
      (splitLines (annotate source)) (splitLines source) := by
    rw [splitLines_annotate_eq_map, ← map_fst_markedLines, List.forall₂_map_left_iff,
      List.forall₂_map_right_iff, List.forall₂_same]
    exact fun p _ => braceBalance_append_markerText p.1.content p.2
  exact lineMarkers_of_balances hbalances none 1

/-! ### Taking the markers off -/

/-- A line without the last characters of its content, as many as a marker has. -/
def Line.unmark (l : Line) (m : Option Marker) : Line :=
  ⟨l.content.take (l.content.length - (markerText m).length), l.terminator⟩

/-- The text without the markers that its own scan finds. -/
def unannotate (text : List Char) : List Char :=
  joinLines (List.zipWith Line.unmark (splitLines text) (templateMarkers text))

@[simp] theorem Line.unmark_mark (l : Line) (m : Option Marker) : (l.mark m).unmark m = l := by
  simp [Line.mark, Line.unmark]

/-- Markers that were put on lines can be taken off again. -/
theorem zipWith_unmark_mark {ls : List Line} {ms : List (Option Marker)}
    (h : ms.length = ls.length) :
    List.zipWith Line.unmark (List.zipWith Line.mark ls ms) ms = ls := by
  induction ls generalizing ms with
  | nil => simp
  | cons l ls ih =>
    cases ms with
    | nil => simp at h
    | cons m ms => simp [ih (by simpa using h)]

/-- So the template can be recovered from the annotated text alone. -/
theorem unannotate_annotate (source : List Char) : unannotate (annotate source) = source := by
  have hlength : (templateMarkers source).length = (splitLines source).length :=
    length_lineMarkers _ _ _
  rw [unannotate, templateMarkers_annotate, splitLines_annotate]
  exact (congrArg joinLines (zipWith_unmark_mark hlength)).trans (joinLines_splitLines source)

/-- **Nothing is lost.** The template is recovered from its annotated text alone, whatever its lines
    end in, however they are terminated and wherever an action is left open.  So different templates
    have different annotated texts. -/
theorem annotate_recoverable :
    Function.LeftInverse unannotate annotate ∧ Function.Injective annotate :=
  ⟨unannotate_annotate, Function.LeftInverse.injective unannotate_annotate⟩

end ChartTrace
