import ChartTrace.Annotation
import ChartTrace.Location

namespace ChartTrace

/-!
# Offsets of an annotated template

The engine parses the annotated text, so the offsets it reports count the markers of all lines before.

* `AnnotationOffsets.ofTexts`: where each line starts in the annotated text and in the template.
* `AnnotationOffsets.toSource`: the template offset of an annotated one.  An offset on a marker is the
  end of its line.
* `AnnotationOffsets.toSource?`: the same, refused when a sum on the way is not a word.
* `AnnotationOffsets.toSourceLocation`, `AnnotationOffsets.toSourceLocation?`: the same for a location.
-/

/-- A line of the template and of its annotated text. -/
structure LineOffsets where
  /-- Where the line starts in the annotated text. -/
  annotatedStart : Nat
  /-- Where the line starts in the template. -/
  sourceStart : Nat
  /-- Bytes of the line without marker and terminator. -/
  contentLength : Nat
  /-- Bytes of the marker. -/
  markerLength : Nat
deriving DecidableEq, Repr

/-- Bytes of the template line before the byte `within` of its annotated line. -/
def LineOffsets.mapWithin (l : LineOffsets) (within : Nat) : Nat :=
  if within ≤ l.contentLength then within
  else if within < l.contentLength + l.markerLength then l.contentLength
  else within - l.markerLength

/-- The lines of an annotated template, and the length of the template. -/
structure AnnotationOffsets where
  lines : List LineOffsets
  sourceLength : Nat
deriving DecidableEq, Repr

namespace AnnotationOffsets

/-- The offsets of paired lines, from given starts on. -/
def pairLines : Nat → Nat → List Line → List Line → List LineOffsets
  | annotatedStart, sourceStart, marked :: ms, plain :: ps =>
    ⟨annotatedStart, sourceStart, byteLength plain.content,
      byteLength marked.content - byteLength plain.content⟩
      :: pairLines (annotatedStart + byteLength marked.text) (sourceStart + byteLength plain.text) ms ps
  | _, _, _, _ => []

/-- The offsets of a template in its annotated text. -/
def ofTexts (annotated source : List Char) : AnnotationOffsets :=
  ⟨pairLines 0 0 (splitLines annotated) (splitLines source), byteLength source⟩

/-- The last line that starts at or before an annotated offset. -/
def lineAt? (o : AnnotationOffsets) (offset : Nat) : Option LineOffsets :=
  (o.lines.takeWhile fun l => l.annotatedStart ≤ offset).getLast?

/-- The template offset of an annotated offset, at most the length of the template. -/
def toSource (o : AnnotationOffsets) (offset : Nat) : Nat :=
  match o.lineAt? offset with
  | none => min offset o.sourceLength
  | some l => min (l.sourceStart + l.mapWithin (offset - l.annotatedStart)) o.sourceLength

/-- The template offset of an annotated offset, when the offset behind the start of its line is a word. -/
def toSource? (o : AnnotationOffsets) (offset : Nat) : Option Nat :=
  match o.lineAt? offset with
  | none => some (min offset o.sourceLength)
  | some l => (addWord? l.sourceStart (l.mapWithin (offset - l.annotatedStart))).map (min · o.sourceLength)

/-- The template location of an annotated one. -/
def toSourceLocation (o : AnnotationOffsets) (l : Location) : Location :=
  let start := o.toSource l.position
  ⟨start, o.toSource (l.position + l.length) - start⟩

/-- The template location of an annotated one, when all sums on the way are words. -/
def toSourceLocation? (o : AnnotationOffsets) (l : Location) : Option Location := do
  let start ← o.toSource? l.position
  let stop ← o.toSource? (← l.end?)
  return ⟨start, stop - start⟩

end AnnotationOffsets

end ChartTrace
