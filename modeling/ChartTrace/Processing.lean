import ChartTrace.Annotation.Offsets
import ChartTrace.Evaluator.Evaluation
import ChartTrace.Rendered
import ChartTrace.Template.Node
import ChartTrace.Yaml.Document

namespace ChartTrace

/-!
# Processing a template

One template goes through annotation, evaluation and cleaning.

* `Processor`: an evaluator, or why there is none.
* `Processor.prepare`: the request for a template.  It fails without an evaluator, without a values file
  and with an empty chart file, in this order.
* `Processor.process`: the rendered text, its shift table and the syntax tree, both about the template.
* `Processor.processOrSkip`: the same, with a failure turned into a log record.
* `Processor.processLogged`: the same, with the record written to the log.
* `Processed.readDocuments`: the values of all documents in the rendered text, or the error moved to the
  template.
-/

/-- Why a template was not processed. -/
inductive ProcessingError where
  | evaluation (path : String) (error : EvaluationError)
  | missingValuesFile (path : String)
  | emptyDependency (path dependency : String)
  | uninitialized (path : String)
  | evaluatorUnavailable (path reason : String)
  | noChart (path : String)
  | unreadableDependency (path dependency message : String)
  /-- A location of the syntax tree ends beyond the largest word. -/
  | overflow
deriving DecidableEq, Repr

/-- The wording of a processing error. -/
def ProcessingError.message : ProcessingError → String
  | .evaluation path e => failed path ("Template evaluation failed: " ++ e.message)
  | .missingValuesFile path => failed path "Failed to find values file"
  | .emptyDependency path dependency => failed path ("File at " ++ dependency ++ " is empty")
  | .uninitialized path =>
    "Attempt to process Helm template " ++ path ++ " with uninitialized Helm evaluator"
  | .evaluatorUnavailable path reason => failed path ("Helm evaluator is unavailable: " ++ reason)
  | .noChart path => failed path "No Chart.yaml found in any parent directory"
  | .unreadableDependency path dependency message =>
    failed path ("Failed to read file at " ++ dependency ++ ": " ++ message)
  | .overflow => overflowMessage
where
  failed (path rest : String) : String := "Failed to evaluate Helm file " ++ path ++ ": " ++ rest

/-- What the evaluator said, when it was the evaluator that failed. -/
def ProcessingError.details? : ProcessingError → Option String
  | .evaluation _ e => some e.message
  | _ => none

/-- What renders templates, as an action of `m`. -/
inductive Processor (m : Type → Type := Id) where
  | enabled (evaluate : Request → m (Except EvaluationError Outcome))
  /-- There is no evaluator. -/
  | disabled
  /-- The evaluator could not be set up. -/
  | unavailable (reason : String)

/-- A rendered template on its way to a YAML reader. -/
structure Processed where
  /-- The rendered text without markers. -/
  source : List Char
  /-- Where the lines of `source` came from. -/
  shifts : ShiftTable
  /-- The syntax tree, located in the template. -/
  ast : Option Tree

/-- Whether the template rendered to white space alone. -/
def Processed.isBlank (p : Processed) : Bool := allBlank p.source

/-- The template range of a range of the rendered text. -/
def Processed.templateRange (p : Processed) (r : Range) : Range := p.shifts.shiftRange r

/-- The values of the documents in a rendered template.  What is wrong is reported on the template; the result
is missing when its place there is not a word. -/
def Processed.readDocuments (p : Processed) : Option (Except Relocated (List Yaml.Value)) :=
  match Yaml.readDocuments p.source with
  | .ok values => some (.ok values)
  | .error e => (relocate e.toMarked p.shifts).map .error

/-- The first file without content. -/
def firstBlankFile? (files : FileMap) : Option String :=
  (files.toList.find? fun f => allBlank f.2.toList).map (·.1)

/-- Moves the locations of a syntax tree from the annotated text to the template. -/
def locateTree (annotated source : List Char) (t : Tree) : Except ProcessingError Tree :=
  if t.locations.all fun l => l.end?.isSome then
    .ok (t.mapLocations (AnnotationOffsets.ofTexts annotated source).toSourceLocation)
  else .error .overflow

/-- The processed form of what the evaluator returned for an annotated template. -/
def finishProcessing (annotated source : List Char) (outcome : Outcome) :
    Except ProcessingError Processed := do
  let ast ← match outcome.ast with
    | none => pure none
    | some t => some <$> locateTree annotated source t
  let cleaned := clean outcome.template.toList
  return ⟨cleaned.source, cleaned.shifts.withTemplate source, ast⟩

namespace Processor

/-- Whether there is an evaluator. -/
def isEnabled : Processor m → Bool
  | enabled _ => true
  | _ => false

/-- The evaluator and the request for a template, if all that they need is there. -/
def prepare (p : Processor m) (path : String) (source : List Char) (files : FileMap) :
    Except ProcessingError ((Request → m (Except EvaluationError Outcome)) × Request) :=
  match p with
  | unavailable reason => .error (.evaluatorUnavailable path reason)
  | disabled => .error (.uninitialized path)
  | enabled evaluate =>
    if !(files.contains "values.yaml" || files.contains "values.yml") then
      .error (.missingValuesFile path)
    else
      match firstBlankFile? files with
      | some name => .error (.emptyDependency path name)
      | none => .ok (evaluate, ⟨path, String.ofList (annotate source), files⟩)

/-- Renders a template with its chart files and takes the result back to the template. -/
def process [Monad m] (p : Processor m) (path : String) (source : List Char) (files : FileMap) :
    m (Except ProcessingError Processed) :=
  match p.prepare path source files with
  | .error e => return .error e
  | .ok (evaluate, request) => do
    match ← evaluate request with
    | .error e => return .error (.evaluation path e)
    | .ok outcome => return finishProcessing (annotate source) source outcome

/-- What the engine says about a named template that nobody defines. -/
def missingTemplateSign : String := "\" associated with template \"aggregatingTemplate\""

/-- The log record of a failure.  A missing evaluator and a missing named template are no cause for a
warning. -/
def skipRecord (path : String) (e : ProcessingError) : LogRecord :=
  if (e.details?.map fun d => occursIn missingTemplateSign.toList d.toList).getD false then
    ⟨.debug, "Helm file " ++ path
      ++ " requires a named template that is missing; skipping processing of Helm file"⟩
  else
    match e with
    | .uninitialized _ | .evaluatorUnavailable _ _ =>
      ⟨.debug, "Helm evaluator is not initialized, skipping processing of Helm file " ++ path⟩
    | _ => ⟨.warn, e.message⟩

/-- Processes a template; a failure leaves a log record instead. -/
def processOrSkip [Monad m] (p : Processor m) (path : String) (source : List Char) (files : FileMap) :
    m (Except LogRecord Processed) :=
  return (← p.process path source files).mapError (skipRecord path)

/-- Processes a template; a failure is logged, and there is nothing then. -/
def processLogged [Monad m] (log : LogRecord → m Unit) (p : Processor m) (path : String)
    (source : List Char) (files : FileMap) : m (Option Processed) := do
  match ← p.processOrSkip path source files with
  | .ok processed => return some processed
  | .error record =>
    log record
    return none

end Processor

end ChartTrace
