import ChartTrace.CommandLine.Help
import ChartTrace.CommandLine.TaskRun

namespace ChartTrace

/-!
# The end of the program

* `Invocation.run`: does what an invocation says, with the settings that hold for it.
* `runProgram`: what the program prints for its arguments, and its exit code.
-/

/-- What the program prints, and its exit code. -/
structure Exit where
  code : Nat
  stdout : String
  stderr : String
deriving DecidableEq, Repr

/-- The wording of a usage problem. -/
def UsageProblem.message : UsageProblem → String
  | .noArguments | .missingVerb => "a subcommand is required"
  | .missingOperand => "a required argument is missing"
  | .unknownArgument => "unexpected argument"
  | .unknownVerb => "unrecognized subcommand"
  | .badValue => "invalid value"
  | .repeatedOption => "an argument cannot be used multiple times"
  | .needlessValue => "unexpected value for an argument"
  | .help topic detailed => topic.text detailed
  | .version => versionText

/-- The exit for a usage problem.  Requests for help and version are answered. -/
def UsageProblem.exit : UsageProblem → Exit
  | .help topic detailed => ⟨0, topic.text detailed, ""⟩
  | .version => ⟨0, versionText, ""⟩
  | problem => ⟨2, "", "error: " ++ problem.message ++ "\n"⟩

/-- The path of the current directory. -/
def FileTree.currentPath (tree : FileTree) : Path := ⟨.root, tree.current.reverse⟩

/-- The settings of an invocation: those of the file it names, else those of the current directory or of
the home directory. -/
def Invocation.settings (i : Invocation) (tree : FileTree) (around : Surroundings) :
    Except SettingsError Settings :=
  match i.config with
  | some file => Settings.ofFile tree file
  | none => Settings.load tree around (some tree.currentPath)

/-- Does what an invocation says. -/
def Invocation.run (i : Invocation) (tree : FileTree) (around : Surroundings) :
    Except SettingsError TaskRun := do
  return i.task.run tree around (← i.settings tree around)

/-- The exit for an error. -/
def failureExit (message : String) : Exit := ⟨1, "", "Error: " ++ message ++ "\n"⟩

/-- The exit code of a computation that left the words. -/
def overflowCode : Nat := 101

/-- What the program prints for its arguments, and its exit code. -/
def runProgram (tree : FileTree) (around : Surroundings) (arguments : List String) : Exit :=
  match readArguments arguments with
  | .error problem => problem.exit
  | .ok i =>
    match i.run tree around with
    | .error e => failureExit e.message
    | .ok run =>
      match run.output with
      | .ok text => ⟨0, if i.quiet then "" else text ++ "\n", ""⟩
      | .error .overflow | .error (.processing .overflow) => ⟨overflowCode, "", overflowMessage ++ "\n"⟩
      | .error e => failureExit e.message

end ChartTrace
