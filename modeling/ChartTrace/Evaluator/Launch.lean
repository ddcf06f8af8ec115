import ChartTrace.Evaluator.Pool
import ChartTrace.FileTree

namespace ChartTrace

/-!
# Installing and launching the evaluator

The evaluator program lies in a bundle.  Before the first run it is copied to a working directory, by way
of a file under another name, so that a program that is there is always complete.

* `ExtractionError`: why there is no program to run.
* `extractProgram`: the path of the program in the working directory, and the file tree after that.
* `FileTree.program`: the program that a path starts.
* `FileTree.runner`: runs the program at a path, watched by a worker pool.
-/

/-! ### Installing -/

/-- Why a program could not be extracted. -/
inductive ExtractionError where
  /-- The bundle has no such program. -/
  | notBundled (source : Path)
  | file (error : FileError)
deriving DecidableEq, Repr

/-- The wording of an extraction error. -/
def ExtractionError.message : ExtractionError → String
  | .notBundled source => "evaluator binary not found at " ++ source.toString
  | .file e => e.message

/-- The name of a copy that is not complete. -/
def stagingName (fileName : String) : Path :=
  Path.ofString ("." ++ fileName ++ ".partial")

/-- Copies a program to a path under which it can be run at once. -/
def installProgram (tree : FileTree) (source staging target : Path) : Except FileError FileTree := do
  let (content, _) ← tree.fileAt source
  let tree ← tree.write staging content
  let tree ← tree.makeExecutable staging
  tree.rename staging target

/-- Copies a program from a bundle to a working directory, unless it is there.  A failure may leave the
working directory behind. -/
def extractProgram (tree : FileTree) (bundle : Path) (fileName : String) (working : Path) :
    Except ExtractionError Path × FileTree :=
  let target := working.join (Path.ofString fileName)
  let source := bundle.join (Path.ofString fileName)
  if tree.contains target then (.ok target, tree)
  else if !tree.isFile source then (.error (.notBundled source), tree)
  else
    match tree.makeDirectories working with
    | .error e => (.error (.file e), tree)
    | .ok tree =>
      match installProgram tree source (working.join (stagingName fileName)) target with
      | .ok installed => (.ok target, installed)
      | .error e => (.error (.file e), tree)

/-! ### Launching -/

/-- The program that a path starts.  A path without a slash is looked for in the directories of programs,
which hold none of ours. -/
def FileTree.program (tree : FileTree) (p : Path) : Except FileError Program := do
  let text := p.text
  if text.contains '\x00' then throw .badProgramPath
  if !text.contains '/' then
    if text = ['.'] || text = upSegment then throw .permissionDenied else throw .notFound
  match ← tree.find p with
  | (_, .file (.program program) true) => return program
  | (_, .file (.bytes _) true) => throw .badProgramFormat
  | _ => throw .permissionDenied

/-- The name of a program in messages. -/
def programName (p : Path) : String :=
  match p.fileName? with
  | some name => String.ofList name
  | none => p.toString

/-- Runs the program at a path for at most `limit` milliseconds.  A worker of the pool follows its error
output and another one its time. -/
def FileTree.runner (tree : FileTree) (pool : WorkerPool α) (limit : Nat) (p : Path) : Runner :=
  let name := programName p
  ⟨name, fun input =>
    match tree.program p with
    | .error e => .error (.process (.notStarted name e.message))
    | .ok program =>
      if pool.isRunning then program.run name limit pool.size input
      else .error (.process (.poolStopped name))⟩

end ChartTrace
