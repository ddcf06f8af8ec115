import ChartTrace.ShiftTable

namespace ChartTrace

/-!
# Diagnostics on the template

A YAML error points into the rendered text.  Relocation moves it to the template line that the rendered
line came from.

* `Mark`, `MarkedError`: an error with the points of its problem and of its context, both from 0.
* `relocate`: the error on the template, or unchanged when its line came from nowhere.
* `MarkedError.text?`, `describeShift?`: the wording.  Lines and columns are shown from 1, and what is not
  a word after that step is refused.
* `LogRecord`: what is told about a failure that is not reported.
-/

/-- How serious a log record is. -/
inductive LogLevel where
  | warn
  | debug
deriving DecidableEq, Repr

/-- A log record. -/
structure LogRecord where
  level : LogLevel
  message : String
deriving DecidableEq, Repr

/-- A point of a YAML text, from 0. -/
structure Mark where
  line : Nat
  column : Nat
deriving DecidableEq, Repr

/-- A YAML error with the points it is about. -/
structure MarkedError where
  problem : String
  problemMark : Option Mark := none
  context : Option String := none
  contextMark : Option Mark := none
deriving DecidableEq, Repr

/-- A YAML error after relocation. -/
inductive Relocated where
  /-- The error as reported, and the same error on the template. -/
  | shifted (reported moved : MarkedError)
  /-- No template line is known for the problem. -/
  | unchanged (error : MarkedError)
deriving DecidableEq, Repr

/-- The mark from 1, as ` at line L, column C`. -/
def Mark.place? (m : Mark) : Option String := do
  let line ← addWord? m.line 1
  let column ← addWord? m.column 1
  return " at line " ++ decimalText line ++ ", column " ++ decimalText column

/-- The mark from 1, as `[L:C]`. -/
def Mark.bracket? (m : Mark) : Option String := do
  let line ← addWord? m.line 1
  let column ← addWord? m.column 1
  return "[" ++ decimalText line ++ ":" ++ decimalText column ++ "]"

/-- The place of a mark that may be missing. -/
def placeText? : Option Mark → Option String
  | none => some ""
  | some m => m.place?

/-- The error as shown to a reader: the context first, then the problem, each with its place. -/
def MarkedError.text? (e : MarkedError) : Option String := do
  let lead ← match e.context with
    | none => some ""
    | some context => (placeText? e.contextMark).map fun place => context ++ place ++ ": "
  let place ← placeText? e.problemMark
  return lead ++ e.problem ++ place

/-- The first column of the first template line of a rendered mark, if its line has an entry.  The outer
result is missing when the number of the line is not a word. -/
def shiftMark? (m : Mark) (t : ShiftTable) : Option (Option Mark) := do
  let line ← addWord? m.line 1
  return (t.entry? line).map fun e => ⟨e.templateStart - 1, 0⟩

/-- Moves the marks of an error to the template.  The problem decides whether the error moves at all; a
context mark without an entry stays. -/
def relocate (e : MarkedError) (t : ShiftTable) : Option Relocated := do
  let moved ← match e.problemMark with
    | none => some none
    | some m => shiftMark? m t
  match moved with
  | none => return .unchanged e
  | some problemMark =>
    let contextMark ← match e.contextMark with
      | none => some none
      | some m => (shiftMark? m t).map fun m' => some (m'.getD m)
    return .shifted e { e with problemMark := some problemMark, contextMark }

/-- The error to report on the template. -/
def Relocated.report : Relocated → MarkedError
  | .shifted _ moved => moved
  | .unchanged e => e

/-- How the problem of a shifted error moved. -/
def describeShift? (reported moved : MarkedError) : Option String :=
  match reported.problemMark, moved.problemMark with
  | some a, some b => do
    let source ← a.bracket?
    let target ← b.bracket?
    return "from " ++ source ++ " to " ++ target
  | _, _ => some "without position"

end ChartTrace
