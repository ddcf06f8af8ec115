import ChartTrace.Chart
import ChartTrace.CommandLine.Arguments
import ChartTrace.Detection
import ChartTrace.Evaluator.Launch
import ChartTrace.Evaluator.Platform
import ChartTrace.Report.Evaluation
import ChartTrace.Settings

namespace ChartTrace

/-!
# Running a task

* `TaskError`: why a task fails, and its wording.
* `installEvaluator`: puts the evaluator of this platform where it can be run.
* `evaluateTask`: what the evaluation of a template prints.
* `Task.run`: what a task prints, and what the evaluator read for it.
-/

/-- Why a task fails. -/
inductive TaskError where
  | file (error : FileError)
  | processing (error : ProcessingError)
  /-- The rendered text is not YAML. -/
  | yaml (error : Relocated)
  /-- A place in the template is not a word. -/
  | overflow
deriving DecidableEq, Repr

/-- The wording of a task error. -/
def TaskError.message : TaskError → String
  | .file e => "I/O error: " ++ e.message
  | .processing e => e.message
  | .yaml e => "Invalid YAML: " ++ e.report.text?.getD overflowMessage
  | .overflow => overflowMessage

/-- What a task prints, or why it fails, and what the evaluator read for it. -/
structure TaskRun where
  output : Except TaskError String
  request : Option Bytes

/-- A report in one of two forms. -/
def formatReport (format : OutputFormat) (text : String) (json : JsonValue) : String :=
  match format with
  | .text => text
  | .json => String.ofList json.render

/-! ### Reading, cleaning, detecting -/

/-- The text of a file. -/
def readSource (tree : FileTree) (file : Path) : Except TaskError (List Char) :=
  ((tree.readText file).map String.toList).mapError .file

/-- A template with its markers. -/
def annotateTask (tree : FileTree) (file : Path) : Except TaskError String := do
  return String.ofList (annotate (← readSource tree file))

/-- A rendered file without its markers. -/
def cleanTask (tree : FileTree) (file : Path) (format : OutputFormat) : Except TaskError String := do
  let cleaned := clean (← readSource tree file)
  return formatReport format cleaned.reportText cleaned.reportJson

/-- What a file is to the evaluation of its chart. -/
def classify (tree : FileTree) (file : Path) : Except TaskError String :=
  if isChartInput file (findChartRoot? tree file none) then .ok "input"
  else do return if textHasDirective (← readSource tree file) then "helm" else "plain"

/-- What each file is. -/
def detectTask (tree : FileTree) (files : List Path) : Except TaskError String := do
  let lines ← files.mapM fun file => do return (← classify tree file) ++ "\t" ++ file.toString
  return "\n".intercalate lines

/-! ### Evaluating -/

/-- A template, its chart, and what it may read there. -/
structure ChartTemplate where
  source : List Char
  root : Path
  name : String
  files : FileMap

/-- Finds and reads a template and its chart. -/
def openTemplate (tree : FileTree) (template : Path) (chart : Option Path) :
    Except TaskError ChartTemplate := do
  let source ← readSource tree template
  let root ← match chart <|> findChartRoot? tree template none with
    | some root => pure root
    | none => throw (.processing (.noChart template.toString))
  let files ← (collectFiles tree root template).mapError .processing
  return ⟨source, root, templateName root template, files⟩

/-- Puts the evaluator of this platform where it can be run. -/
def installEvaluator (tree : FileTree) (around : Surroundings) (settings : Settings) :
    Except EvaluationError Path × FileTree :=
  let (extracted, tree) := extractProgram tree (settings.resolveBundleDirectory around)
    (Platform.host.executableName settings.executableName) (settings.resolveWorkingDirectory around)
  (extracted.mapError fun e => .io e.message, tree)

/-- The number of documents in a rendered template. -/
def countDocuments (p : Processed) : Except TaskError Nat :=
  if p.isBlank then .ok 0
  else
    match p.readDocuments with
    | some (.ok values) => .ok values.length
    | some (.error e) => if e.report.text?.isSome then .error (.yaml e) else .error .overflow
    | none => .error .overflow

/-- The report of a processed template. -/
def evaluationReport (processed : Except ProcessingError Processed) (t : ChartTemplate)
    (format : OutputFormat) : Except TaskError String := do
  let processed ← processed.mapError .processing
  let documents ← countDocuments processed
  let evaluated : Evaluated := ⟨t.name, t.root.toString, t.source, processed, documents⟩
  return formatReport format evaluated.reportText evaluated.reportJson

/-- Evaluates a template with its chart. -/
def evaluateTask (tree : FileTree) (around : Surroundings) (settings : Settings) (template : Path)
    (chart : Option Path) (format : OutputFormat) : TaskRun :=
  match openTemplate tree template chart with
  | .error e => ⟨.error e, none⟩
  | .ok t =>
    let pool : WorkerPool Unit := (WorkerPool.ofSize settings.poolSize).start
    let (installed, tree) := installEvaluator tree around settings
    let processor : Processor Recorded := match installed with
      | .error e => .unavailable e.message
      | .ok p => .enabled (tree.runner pool settings.timeout p).recording.evaluate
    let (processed, journal) := (processor.process t.name t.source t.files).run .empty
    let received := do
      let program ← (tree.program (← installed.toOption)).toOption
      program.reads? settings.timeout pool.size (← journal.requests.head?)
    ⟨evaluationReport processed t format, received⟩

/-! ### Tasks -/

/-- Does a task. -/
def Task.run (tree : FileTree) (around : Surroundings) (settings : Settings) : Task → TaskRun
  | .annotate file => ⟨annotateTask tree file, none⟩
  | .clean file format => ⟨cleanTask tree file format, none⟩
  | .evaluate template chart format => evaluateTask tree around settings template chart format
  | .detect files => ⟨detectTask tree files, none⟩

end ChartTrace
