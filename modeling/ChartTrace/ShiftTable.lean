import ChartTrace.Location
import ChartTrace.SortedList
import ChartTrace.Text.Line

namespace ChartTrace

/-!
# Shift tables

A shift table tells from which template lines each rendered line came.

* `ShiftEntry`: one rendered line and its template lines.
* `ShiftTable.add`: records an entry; a later one for the same rendered line replaces it.
* `ShiftTable.entry?`, `ShiftTable.entries`: look-up, and all entries by rendered line.
* `ShiftTable.shiftRange`: a range of the rendered text as a range of whole template lines.
-/

/-- The template lines that a rendered line came from. -/
structure ShiftEntry where
  /-- Line of the rendered text, from 1. -/
  renderedLine : Nat
  /-- First template line, from 1. -/
  templateStart : Nat
  /-- Last template line, not before the first. -/
  templateEnd : Nat
deriving DecidableEq, Repr

/-- The entries of one rendered text, and the line sizes of its template. -/
structure ShiftTable where
  /-- Entries by increasing rendered line, at most one for each. -/
  lines : SortedList ShiftEntry.renderedLine
  /-- How many characters each template line has, when the template is known. -/
  lineSizes : List Nat
deriving DecidableEq, Repr

namespace ShiftTable

/-- The table of a text whose lines came from nowhere. -/
def empty : ShiftTable := ⟨.empty, []⟩

/-- The entries by increasing rendered line. -/
def entries (t : ShiftTable) : List ShiftEntry := t.lines.toList

/-- Records that a rendered line came from the template lines between `a` and `b`, in either order. -/
def add (t : ShiftTable) (renderedLine a b : Nat) : ShiftTable :=
  { t with lines := t.lines.insert ⟨renderedLine, min a b, max a b⟩ }

/-- Records the line sizes of the template. -/
def withTemplate (t : ShiftTable) (source : List Char) : ShiftTable :=
  { t with lineSizes := (splitLines source).map fun l => l.content.length }

/-- The entry of a rendered line. -/
def entry? (t : ShiftTable) (renderedLine : Nat) : Option ShiftEntry :=
  t.lines.find? renderedLine

@[simp] theorem entries_empty : empty.entries = [] := rfl

/-- Look-up goes through the entries. -/
theorem entry?_eq_find? (t : ShiftTable) (renderedLine : Nat) :
    t.entry? renderedLine = t.entries.find? fun e => e.renderedLine == renderedLine := rfl

/-- The size of a template line; 0 where there is no such line. -/
def lineSize (t : ShiftTable) (line : Nat) : Nat :=
  match line with
  | 0 => 0
  | n + 1 => t.lineSizes.getD n 0

/-- A range of the rendered text on the template.  The start moves to the beginning of its first template
line and the end to the end of its last one; an end without an entry stays. -/
def shiftRange (t : ShiftTable) (r : Range) : Range :=
  { start := match t.entry? r.start.line with
      | some e => ⟨e.templateStart, 0⟩
      | none => r.start
    stop := match t.entry? r.stop.line with
      | some e => ⟨e.templateEnd, t.lineSize e.templateEnd⟩
      | none => r.stop }

end ShiftTable

end ChartTrace
