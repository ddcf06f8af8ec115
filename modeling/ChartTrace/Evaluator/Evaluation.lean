import ChartTrace.Diagnostic
import ChartTrace.Evaluator.Request
import ChartTrace.Template.Unpack

namespace ChartTrace

/-!
# Evaluating a template

The evaluator is a process: it reads a request and prints a response.

* `ProcessFailure`, `EvaluationError`: what can go wrong, and its wording.
* `Runner`: something that feeds bytes to a process and collects what it prints, as an action of a monad.
* `interpretOutput`: the outcome that printed bytes stand for.  The exit code counts only when nothing
  was printed.
* `Runner.evaluate`: a whole evaluation.
* `Journal`, `Runner.recording`: what was fed to processes and what was logged, written down in order.
-/

/-- What a process printed, and its exit code unless a signal ended it. -/
structure ProcessOutput where
  stdout : Bytes
  exitCode : Option Int
deriving DecidableEq, Repr

/-- How a process failed. -/
inductive ProcessFailure where
  /-- It ended well and printed nothing. -/
  | emptyResult (name : String)
  /-- It ended with an error and printed nothing. -/
  | badExit (name : String) (code : Int)
  /-- A signal ended it before it printed anything. -/
  | terminated (name : String)
  /-- It could not be started. -/
  | notStarted (name reason : String)
  /-- The worker pool that watches it is not running. -/
  | poolStopped (name : String)
  /-- It did not end in time. -/
  | timedOut (name : String)
deriving DecidableEq, Repr

/-- The wording of a stopped worker pool. -/
def poolStoppedMessage : String := "worker pool is not running"

/-- The wording of a process failure. -/
def ProcessFailure.message : ProcessFailure → String
  | .emptyResult name => "Empty evaluation result returned from " ++ name
  | .badExit name code =>
    name ++ " exited with non-zero exit code: " ++ signedText code ++ ", possible serialization failure"
  | .terminated name => name ++ " was terminated without output"
  | .notStarted name reason => "Failed to start " ++ name ++ ": " ++ reason
  | .poolStopped name => "Unable to run " ++ name ++ ": " ++ poolStoppedMessage
  | .timedOut name => name ++ " took too long. External process killed forcibly"

/-- How an evaluation failed. -/
inductive EvaluationError where
  /-- There is no evaluator for the platform. -/
  | unsupportedPlatform (os arch : String)
  | process (failure : ProcessFailure)
  /-- The process printed something else than a response. -/
  | undecodable (error : Wire.DecodeError)
  /-- The template engine could not render the template. -/
  | render (message : String)
  /-- A file or the request could not be handled. -/
  | io (message : String)
deriving DecidableEq, Repr

/-- The wording of an evaluation error. -/
def EvaluationError.message : EvaluationError → String
  | .unsupportedPlatform os arch =>
    "Template evaluator is not available for platform " ++ os ++ "/" ++ arch
  | .process failure => failure.message
  | .undecodable e => "Deserialization error: " ++ e.message
  | .render message => "Evaluation error in template engine: " ++ message
  | .io message => "I/O error: " ++ message

/-- A rendered template, with its markers, and its syntax tree. -/
structure Outcome where
  template : String
  ast : Option Tree

/-- Feeds a request to a process and collects what it prints, as an action of `m`. -/
structure Runner (m : Type → Type := Id) where
  /-- The name of the process in messages. -/
  name : String
  run : Bytes → m (Except EvaluationError ProcessOutput)

/-- The failure of a process that printed nothing. -/
def silentFailure (name : String) : Option Int → ProcessFailure
  | some 0 => .emptyResult name
  | some code => .badExit name code
  | none => .terminated name

/-- The outcome that the output of the process `name` stands for. -/
def interpretOutput (name : String) (output : ProcessOutput) : Except EvaluationError Outcome :=
  if output.stdout.isEmpty then .error (.process (silentFailure name output.exitCode))
  else
    match Wire.responseLayout.decode output.stdout with
    | .error e => .error (.undecodable e)
    | .ok response =>
      if response.error.isEmpty then .ok ⟨response.template, response.ast.bind Tree.ofMessage?⟩
      else .error (.render response.error)

/-- Renders the template of a request. -/
def Runner.evaluate [Monad m] (runner : Runner m) (request : Request) :
    m (Except EvaluationError Outcome) :=
  match request.encode with
  | .error e => return .error (.io e.message)
  | .ok bytes => do
    match ← runner.run bytes with
    | .error e => return .error e
    | .ok output => return interpretOutput runner.name output

/-! ### Recording -/

/-- What was done outside, each kind in the order in which it was done. -/
structure Journal where
  /-- What was fed to processes. -/
  requests : List Bytes
  log : List LogRecord
deriving DecidableEq, Repr

/-- Actions that are written down. -/
abbrev Recorded := StateM Journal

namespace Journal

/-- The journal before anything is done. -/
def empty : Journal := ⟨[], []⟩

/-- Writes down what is fed to a process. -/
def addRequest (bytes : Bytes) : Recorded Unit :=
  modify fun j => { j with requests := j.requests ++ [bytes] }

/-- Writes down a log record. -/
def addRecord (record : LogRecord) : Recorded Unit := modify fun j => { j with log := j.log ++ [record] }

end Journal

/-- The same runner, with all that it feeds to the process written down. -/
def Runner.recording (runner : Runner) : Runner Recorded where
  name := runner.name
  run bytes := do
    Journal.addRequest bytes
    return runner.run bytes

end ChartTrace
