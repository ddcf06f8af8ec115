import ChartTrace.Evaluator.Pool
import ChartTrace.FileTree
import ChartTrace.Toml.Document

namespace ChartTrace

/-!
# Settings

How templates are evaluated: for how long, with how many workers, and where the evaluator lies.

* `Settings`: the values, with defaults for those that are not set.
* `Settings.ofTable?`: the settings in a table; keys without a meaning are passed over.
* `Settings.ofFile`, `Settings.load`: settings from a file, or from the first file that is there.
-/

/-- How templates are evaluated. -/
structure Settings where
  /-- How long the evaluator may take, in milliseconds. -/
  timeout : Nat
  /-- How many workers watch the evaluator. -/
  poolSize : Nat
  /-- Where the evaluator is copied to. -/
  workingDirectory : Option Path
  /-- Where the evaluator comes from. -/
  bundleDirectory : Option Path
  /-- The name of the evaluator before the name of the platform. -/
  executableName : String
deriving DecidableEq, Repr

/-- Where settings and programs are looked for unless something else is said. -/
structure Surroundings where
  /-- The home directory. -/
  home : Option Path
  /-- The directory of temporary files. -/
  temporary : Path
  /-- The directory of the running program. -/
  program : Path

/-- Why there are no settings. -/
inductive SettingsError where
  | unreadable (path : Path) (error : FileError)
  /-- The file is no document, or a value in it has the wrong type. -/
  | malformed
deriving DecidableEq, Repr

/-- How the wording of malformed settings begins. -/
def malformedSettings : String := "Failed to parse configuration: "

/-- The wording of a settings error. -/
def SettingsError.message : SettingsError → String
  | .unreadable path e => "Failed to read configuration file " ++ path.toString ++ ": " ++ e.message
  | .malformed => malformedSettings ++ "not a table of settings"

namespace Settings

/-- The settings where nothing is set. -/
def default : Settings := ⟨5000, WorkerPool.defaultSize, none, none, "helm-iac-evaluator"⟩

/-- Sets the time of the evaluator in seconds and nanoseconds.  Parts of a millisecond are dropped, and
what is too long becomes the longest time. -/
def withTimeout (s : Settings) (seconds nanoseconds : Nat) : Settings :=
  { s with timeout := min (seconds * 1000 + nanoseconds / 1000000) (wordLimit - 1) }

/-- The time of the evaluator in seconds and nanoseconds. -/
def timeoutParts (s : Settings) : Nat × Nat := (s.timeout / 1000, s.timeout % 1000 * 1000000)

/-- The directory to which the evaluator is copied. -/
def resolveWorkingDirectory (s : Settings) (around : Surroundings) : Path :=
  s.workingDirectory.getD (around.temporary.join (.ofString "helm-iac"))

/-- The directory from which the evaluator is copied. -/
def resolveBundleDirectory (s : Settings) (around : Surroundings) : Path :=
  s.bundleDirectory.getD around.program

/-! ### Settings in tables -/

/-- The number of a key; without the key it is `otherwise`.  It fits a word. -/
def wordOf? (t : Toml.Table) (key : String) (otherwise : Nat) : Option Nat :=
  match t.get? key.toList with
  | none => some otherwise
  | some (.integer i) => if 0 ≤ i && i < wordLimit then some i.toNat else none
  | some _ => none

/-- The text of a key; without the key it is `otherwise`. -/
def textOf? (t : Toml.Table) (key : String) (otherwise : Option String) : Option (Option String) :=
  match t.get? key.toList with
  | none => some otherwise
  | some (.string text) => some (some (String.ofList text))
  | some _ => none

/-- The settings in a table. -/
def ofTable? (t : Toml.Table) : Option Settings := do
  let timeout ← wordOf? t "timeout_ms" default.timeout
  let poolSize ← wordOf? t "pool_size" default.poolSize
  let working ← textOf? t "working_dir" none
  let bundle ← textOf? t "bundle_dir" none
  let name ← textOf? t "executable_name" none
  return ⟨timeout, poolSize, working.map .ofString, bundle.map .ofString, name.getD default.executableName⟩

/-! ### Settings in files -/

/-- The name of settings files. -/
def fileName : Path := .ofString ".helm-iac.toml"

/-- The settings in a file. -/
def ofFile (tree : FileTree) (p : Path) : Except SettingsError Settings :=
  match tree.readText p with
  | .error e => .error (.unreadable p e)
  | .ok text =>
    match (Toml.readDocument? text.toList).bind ofTable? with
    | some settings => .ok settings
    | none => .error .malformed

/-- The settings of a project, else those of the home directory, else the defaults. -/
def load (tree : FileTree) (around : Surroundings) (project : Option Path) :
    Except SettingsError Settings :=
  let candidates := (project.toList ++ around.home.toList).map (·.join fileName)
  match candidates.find? tree.contains with
  | some p => ofFile tree p
  | none => .ok default

end Settings

end ChartTrace
