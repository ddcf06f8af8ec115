import ChartTrace.Processing
import ChartTrace.Report.Template

namespace ChartTrace

/-!
# Reports of cleaned and evaluated templates

* `lineOrigins`: the template ranges of the rendered lines that came from the template.
* `Cleaned.reportText`, `Cleaned.reportJson`: a rendered text without its markers.
* `Evaluated.reportText`, `Evaluated.reportJson`: a rendered template and where its lines came from.
-/

/-- Where a rendered line came from. -/
structure LineOrigin where
  /-- The rendered line, from 1. -/
  line : Nat
  range : Range
  /-- The bytes of `range` in the template, when it lies inside. -/
  location : Option Location
deriving DecidableEq, Repr

/-- Where a rendered line came from, when it has an entry in the shift table. -/
def lineOrigin? (p : Processed) (template : List Char) (line : Nat) (content : List Char) :
    Option LineOrigin :=
  (p.shifts.entry? line).map fun _ =>
    let range := p.templateRange ⟨⟨line, 0⟩, ⟨line, content.length⟩⟩
    ⟨line, range, (Location.ofRange range template).toOption⟩

/-- The lines of the rendered text with their numbers. -/
def renderedLines (p : Processed) : List (Line × Nat) := (splitLines p.source).zipIdx 1

/-- Where the rendered lines came from. -/
def lineOrigins (p : Processed) (template : List Char) : List LineOrigin :=
  (renderedLines p).filterMap fun (l, n) => lineOrigin? p template n l.content

/-- The report form of the origin of a line. -/
def LineOrigin.toJson (o : LineOrigin) : JsonValue :=
  .object [("line", .nat o.line), ("range", o.range.toJson),
    ("location", .ofOption Location.toJson o.location)]

/-! ### Cleaned texts -/

/-- What a shift entry says, as a comment. -/
def ShiftEntry.comment (e : ShiftEntry) : String :=
  "# " ++ decimalText e.renderedLine ++ " -> " ++ decimalText e.templateStart ++ ":"
    ++ decimalText e.templateEnd ++ "\n"

/-- The text report of a cleaned text: the text, then its shift table. -/
def Cleaned.reportText (c : Cleaned) : String :=
  String.ofList c.source ++ "\n\n# shifted line -> template lines\n"
    ++ String.join (c.shifts.entries.map ShiftEntry.comment)

/-- The structured report of a cleaned text. -/
def Cleaned.reportJson (c : Cleaned) : JsonValue :=
  .object [("source", .string (String.ofList c.source)),
    ("shifts", .array (c.shifts.entries.map ShiftEntry.toJson))]

/-! ### Evaluated templates -/

/-- A template, what it rendered to, and the number of documents in that. -/
structure Evaluated where
  name : String
  /-- The chart as given or found. -/
  chart : String
  template : List Char
  processed : Processed
  documents : Nat

/-- How wide the column of template ranges is. -/
def originWidth : Nat := 16

/-- A rendered line behind its template range. -/
def Evaluated.lineText (e : Evaluated) (l : Line) (n : Nat) : List Char :=
  let origin := match lineOrigin? e.processed e.template n l.content with
    | some o => o.range.text.toList
    | none => []
  origin.leftpad originWidth ' ' ++ " | ".toList ++ l.content ++ ['\n']

/-- The text report of an evaluated template: its lines behind their template ranges, and the number of
documents. -/
def Evaluated.reportText (e : Evaluated) : String :=
  String.ofList ((renderedLines e.processed).flatMap fun (l, n) => e.lineText l n)
    ++ "\n" ++ decimalText e.documents ++ " document(s)"

/-- The structured report of an evaluated template. -/
def Evaluated.reportJson (e : Evaluated) : JsonValue :=
  .object [
    ("template", .string e.name),
    ("chart", .string e.chart),
    ("source", .string (String.ofList e.processed.source)),
    ("shifts", .array (e.processed.shifts.entries.map ShiftEntry.toJson)),
    ("lines", .array ((lineOrigins e.processed e.template).map LineOrigin.toJson)),
    ("documents", .nat e.documents),
    ("ast", .ofOption Tree.toJson e.processed.ast)]

end ChartTrace
