import ChartTrace.Marker
import ChartTrace.ShiftTable

namespace ChartTrace

/-!
# Rendered templates

What the engine renders still carries markers.  Cleaning takes them off and keeps what they say.

* `keptLines`: the lines that are not blank once their marker is gone, with the template lines named.
  Blank lines stem from deleted constructs and are dropped.
* `clean`: the cleaned text and its shift table.  Rendered lines are numbered from 1 among those kept.
-/

/-- A rendered text without markers, and where its lines came from. -/
structure Cleaned where
  source : List Char
  shifts : ShiftTable
deriving DecidableEq, Repr

/-- A line without its marker, with the template lines that the marker named. -/
structure KeptLine where
  line : Line
  lines? : Option (Nat × Nat)
deriving DecidableEq, Repr

/-- The line that cleaning keeps of a rendered line, if any. -/
def keepLine? (l : Line) : Option KeptLine :=
  let s := stripMarker l.content
  if allBlank s.1 then none else some ⟨⟨s.1, l.terminator⟩, s.2⟩

/-- The lines that cleaning keeps, in order. -/
def keptLines (ls : List Line) : List KeptLine := ls.filterMap keepLine?

/-- Records the template lines of kept lines, the first of which has number `number`. -/
def recordShifts : Nat → List KeptLine → ShiftTable → ShiftTable
  | _, [], t => t
  | number, k :: ks, t =>
    recordShifts (number + 1) ks
      (match k.lines? with
        | some (a, b) => t.add number a b
        | none => t)

/-- Takes the markers off a rendered text. -/
def clean (rendered : List Char) : Cleaned :=
  let kept := keptLines (splitLines rendered)
  { source := dropTrailingTerminators (joinLines (kept.map KeptLine.line))
    shifts := recordShifts 1 kept .empty }

end ChartTrace
