import ChartTrace.CommandLine.Arguments

namespace ChartTrace

/-!
# Help

* `HelpTopic.text`: the help about the program or one of its tasks.
* `versionText`: the name and version of the program.
-/

/-- A name in a list of help, and what it stands for. -/
structure HelpRow where
  label : String
  meaning : String

/-- Rows with their meanings in one column. -/
def helpTable (rows : List HelpRow) : String :=
  let width := (rows.map fun r => r.label.length).foldl max 0
  String.join (rows.map fun r => "  " ++ String.ofList (r.label.toList.rightpad width ' ') ++ "  "
    ++ r.meaning ++ "\n")

/-- Rows with their meanings on lines of their own. -/
def helpList (rows : List HelpRow) : String :=
  "\n".intercalate (rows.map fun r => "  " ++ r.label ++ "\n          " ++ r.meaning ++ "\n")

/-- A list of help under its title. -/
def helpSection (title body : String) : String := "\n" ++ title ++ ":\n" ++ body

/-- The name of the program. -/
def programTitle : String := "helm-iac"

/-- The version of the program. -/
def versionText : String := programTitle ++ " 0.1.0\n"

/-- The name of a task. -/
def Verb.name : Verb → String
  | annotate => "annotate"
  | clean => "clean"
  | evaluate => "evaluate"
  | detect => "detect"

/-- What a task does. -/
def Verb.summary : Verb → String
  | annotate => "Print a template with a line marker on every line"
  | clean => "Strip line markers from evaluated output and print the shift table"
  | evaluate => "Evaluate a template against its chart"
  | detect => "Report which files contain template directives"

/-- The files of a task. -/
def Verb.operandRow : Verb → HelpRow
  | annotate => ⟨"<FILE>", "Template file"⟩
  | clean => ⟨"<FILE>", "Evaluated file carrying line markers"⟩
  | evaluate => ⟨"<TEMPLATE>", "Template file inside a chart"⟩
  | detect => ⟨"<FILES>...", "Files to check"⟩

/-- All tasks. -/
def Verb.all : List Verb := [.annotate, .clean, .evaluate, .detect]

/-- What the request for help does. -/
def helpSummary : String := "Print this message or the help of the given subcommand(s)"

/-- The option that names a settings file. -/
def configRow : HelpRow := ⟨"-c, --config <FILE>", "Path to configuration file"⟩

/-- The options about what is printed. -/
def outputRows : List HelpRow := [
  ⟨"-v, --verbose...", "Enable verbose logging (-v for info, -vv for debug, -vvv for trace)"⟩,
  ⟨"-q, --quiet", "Suppress all output except errors"⟩]

/-- The option that chooses the form of a report. -/
def formatRow : HelpRow :=
  ⟨"    --format <FORMAT>", "Output format [default: text] [possible values: text, json]"⟩

/-- The option that names a chart. -/
def chartRow : HelpRow :=
  ⟨"    --chart <DIR>", "Chart root directory (defaults to the nearest directory with a Chart.yaml)"⟩

/-- The options of a task. -/
def Verb.optionRows : Verb → List HelpRow
  | annotate | detect => configRow :: outputRows
  | clean => configRow :: formatRow :: outputRows
  | evaluate => configRow :: chartRow :: formatRow :: outputRows

/-- The option that asks for help. -/
def helpRow (meaning : String) : HelpRow := ⟨"-h, --help", meaning⟩

/-- The tasks of the program. -/
def taskRows : List HelpRow :=
  (Verb.all.map fun v => ⟨v.name, v.summary⟩) ++ [⟨"help", helpSummary⟩]

/-- The options of the program. -/
def programRows (helpMeaning : String) : List HelpRow :=
  configRow :: outputRows ++ [helpRow helpMeaning, ⟨"-V, --version", "Print version"⟩]

/-- The text of a usage line. -/
def usageLine (arguments : String) : String := "\n\nUsage: " ++ programTitle ++ " " ++ arguments ++ "\n"

/-- The help about a topic. -/
def HelpTopic.text (detailed : Bool) : HelpTopic → String
  | program =>
    let tasks := usageLine "[OPTIONS] <COMMAND>" ++ helpSection "Commands" (helpTable taskRows)
    if detailed then
      "Renders Helm chart templates through an external evaluator, strips the line markers it relies on and "
        ++ "reports every rendered line, parse tree node and YAML error against the original template source."
        ++ tasks ++ helpSection "Options" (helpList (programRows "Print help (see a summary with '-h')"))
    else
      "Evaluate Helm templates and map the result back to template lines" ++ tasks
        ++ helpSection "Options" (helpTable (programRows "Print help (see more with '--help')"))
  | verb v =>
    v.summary ++ usageLine (v.name ++ " [OPTIONS] " ++ v.operandRow.label)
      ++ helpSection "Arguments" (helpTable [v.operandRow])
      ++ helpSection "Options" (helpTable (v.optionRows ++ [helpRow "Print help"]))
  | help =>
    helpSummary ++ usageLine "help [COMMAND]..."
      ++ helpSection "Arguments" (helpTable [⟨"[COMMAND]...", "Print help for the subcommand(s)"⟩])

end ChartTrace
