import ChartTrace.Path

namespace ChartTrace

/-!
# Arguments

The arguments of the command line name a task, its files and its options.  Some options may stand before
the task as well as behind it.

* `Task`, `Invocation`: what is to be done.
* `UsageProblem`: why arguments do not say that.
* `readArguments`: the invocation that arguments stand for.
-/

/-- The form of a report. -/
inductive OutputFormat where
  | text
  | json
deriving DecidableEq, Repr

/-- What is to be done. -/
inductive Task where
  /-- Print a template with a marker on every line. -/
  | annotate (file : Path)
  /-- Strip the markers of a rendered file. -/
  | clean (file : Path) (format : OutputFormat)
  /-- Evaluate a template with its chart. -/
  | evaluate (template : Path) (chart : Option Path) (format : OutputFormat)
  /-- Tell which files hold template directives. -/
  | detect (files : List Path)
deriving DecidableEq, Repr

/-- A task and the options that hold for every task. -/
structure Invocation where
  task : Task
  /-- The settings file. -/
  config : Option Path
  verbosity : Nat
  /-- Print nothing but errors. -/
  quiet : Bool
deriving DecidableEq, Repr

/-- The tasks by name. -/
inductive Verb where
  | annotate
  | clean
  | evaluate
  | detect
deriving DecidableEq, Repr

/-- What help is about. -/
inductive HelpTopic where
  | program
  | verb (verb : Verb)
  /-- The request for help itself. -/
  | help
deriving DecidableEq, Repr

/-- Why arguments stand for no invocation. -/
inductive UsageProblem where
  | noArguments
  | missingVerb
  | missingOperand
  | unknownArgument
  | unknownVerb
  | badValue
  | repeatedOption
  /-- A value for an option that takes none. -/
  | needlessValue
  /-- A request for help, with all details or not. -/
  | help (topic : HelpTopic) (detailed : Bool)
  /-- A request for the version. -/
  | version
deriving DecidableEq, Repr

/-! ### Names -/

/-- The task of a name. -/
def Verb.ofName? : String → Option Verb
  | "annotate" => some .annotate
  | "clean" => some .clean
  | "evaluate" => some .evaluate
  | "detect" => some .detect
  | _ => none

/-- What an argument gives a value to. -/
inductive Parameter where
  | config
  | verbose
  | quiet
  | help
  | version
  | format
  | chart
  | operand
deriving DecidableEq, Repr

/-- Whether a parameter has a value. -/
def Parameter.takesValue : Parameter → Bool
  | config | format | chart | operand => true
  | verbose | quiet | help | version => false

/-- The place of an argument: before the task, or behind it. -/
inductive Level where
  | top
  | behind (verb : Verb)
deriving DecidableEq, Repr

/-- The option that a letter stands for. -/
def Level.short? (level : Level) (c : Char) : Option Parameter :=
  if c = 'c' then some .config
  else if c = 'v' then some .verbose
  else if c = 'q' then some .quiet
  else if c = 'h' then some .help
  else if c = 'V' && level = .top then some .version
  else none

/-- The option that a name stands for. -/
def Level.long? (level : Level) (name : String) : Option Parameter :=
  match name with
  | "config" => some .config
  | "verbose" => some .verbose
  | "quiet" => some .quiet
  | "help" => some .help
  | "version" => if level = .top then some .version else none
  | "format" => if level = .behind .clean || level = .behind .evaluate then some .format else none
  | "chart" => if level = .behind .evaluate then some .chart else none
  | _ => none

/-- What help is about at a level. -/
def Level.topic : Level → HelpTopic
  | top => .program
  | behind verb => .verb verb

/-! ### Values -/

/-- What the arguments of a level have given. -/
structure Given where
  config : Option Path
  verbosity : Option Nat
  quiet : Bool
  format : Option OutputFormat
  chart : Option Path
  operands : List Path
deriving DecidableEq, Repr

/-- Nothing given. -/
def Given.none : Given := ⟨.none, .none, false, .none, .none, []⟩

/-- The highest verbosity. -/
def verbosityLimit : Nat := 255

/-- The path of a value, which is not empty. -/
def readPathValue (value : String) : Except UsageProblem Path :=
  if value.isEmpty then .error .badValue else .ok (.ofString value)

/-- The report form of a value. -/
def readFormat : String → Except UsageProblem OutputFormat
  | "text" => .ok .text
  | "json" => .ok .json
  | _ => .error .badValue

/-- The value of an option that is given once. -/
def readOnce (previous : Option α) (read : String → Except UsageProblem α) (values : List String) :
    Except UsageProblem (Option α) :=
  match values with
  | [] => .error .badValue
  | value :: _ => if previous.isSome then .error .repeatedOption else (read value).map some

/-- Gives values to a parameter.  `detailed` tells a long option from a short one. -/
def Given.accept (g : Given) (level : Level) (detailed : Bool) (values : List String) :
    Parameter → Except UsageProblem Given
  | .config => do return { g with config := ← readOnce g.config readPathValue values }
  | .format => do return { g with format := ← readOnce g.format readFormat values }
  | .chart => do return { g with chart := ← readOnce g.chart readPathValue values }
  | .operand => do return { g with operands := g.operands ++ (← values.mapM readPathValue) }
  | .verbose => .ok { g with verbosity := some (min (g.verbosity.getD 0 + 1) verbosityLimit) }
  | .quiet => if g.quiet then .error .repeatedOption else .ok { g with quiet := true }
  | .help => .error (.help level.topic detailed)
  | .version => .error .version

/-! ### One level -/

/-- How far the arguments of a level have been read. -/
structure Reading where
  /-- The parameter whose values are being collected, and the values so far.  They are looked at when the
  next parameter comes. -/
  pending : Option (Parameter × List String)
  /-- Whether the option that is pending waits for its value. -/
  awaits : Bool
  /-- Whether all further arguments are operands. -/
  escaped : Bool
  given : Given
deriving DecidableEq, Repr

namespace Reading

/-- Nothing read. -/
def start : Reading := ⟨none, false, false, .none⟩

/-- Looks at the values that have been collected. -/
def flush (r : Reading) (level : Level) : Except UsageProblem Reading :=
  match r.pending with
  | none => .ok r
  | some (p, values) => do
    return { r with pending := none, awaits := false, given := ← r.given.accept level false values p }

/-- Takes an option with the values that came with it. -/
def take (r : Reading) (level : Level) (detailed : Bool) (values : List String) (p : Parameter) :
    Except UsageProblem Reading := do
  let r ← r.flush level
  return { r with awaits := false, given := ← r.given.accept level detailed values p }

/-- Takes an option whose value is the next argument. -/
def await (r : Reading) (level : Level) (p : Parameter) : Except UsageProblem Reading := do
  return { ← r.flush level with pending := some (p, []), awaits := true }

/-- An argument with two dashes: the name of an option, perhaps with a value behind an equals sign. -/
def readLong (r : Reading) (level : Level) (text : List Char) : Except UsageProblem Reading :=
  let name := String.ofList (text.takeWhile (· ≠ '='))
  let value? : Option String := match text.dropWhile (· ≠ '=') with
    | _ :: value => some (String.ofList value)
    | [] => none
  match level.long? name with
  | none => .error .unknownArgument
  | some p =>
    match p.takesValue, value? with
    | true, some value => r.take level true [value] p
    | true, none => r.await level p
    | false, some _ => .error .needlessValue
    | false, none => r.take level true [] p

/-- An argument with one dash: letters of options; behind one with a value stands that value. -/
def readShort (r : Reading) (level : Level) : List Char → Except UsageProblem Reading
  | [] => .ok r
  | c :: cs =>
    match level.short? c with
    | none => .error .unknownArgument
    | some p =>
      if p.takesValue then
        match cs with
        | [] => r.await level p
        | '=' :: value => r.take level false [String.ofList value] p
        | value => r.take level false [String.ofList value] p
      else do
        let r ← r.take level false [] p
        r.readShort level cs

/-- Whether operands have been read. -/
def hasOperands (r : Reading) : Bool :=
  !r.given.operands.isEmpty || r.pending.any fun p => p.1 = .operand

/-- An argument that is no option. -/
def readOperand (r : Reading) (level : Level) (text : String) : Except UsageProblem Reading :=
  match level with
  | .top =>
    if r.escaped && ((Verb.ofName? text).isSome || text = "help") then .error .unknownArgument
    else .error .unknownVerb
  | .behind verb =>
    if verb = .detect then
      match r.pending with
      | some (.operand, values) => .ok { r with pending := some (.operand, values ++ [text]) }
      | _ => do return { ← r.flush level with pending := some (.operand, [text]) }
    else if r.hasOperands then .error .unknownArgument
    else do return { ← r.flush level with pending := some (.operand, [text]) }

/-- Reads one argument. -/
def read (r : Reading) (level : Level) (argument : String) : Except UsageProblem Reading :=
  if r.escaped then r.readOperand level argument
  else
    match argument.toList with
    | ['-', '-'] => .ok { r with escaped := true }
    | '-' :: '-' :: text => r.readLong level text
    | '-' :: c :: cs => r.readShort level (c :: cs)
    | _ =>
      match r.awaits, r.pending with
      | true, some (p, values) =>
        .ok { r with pending := some (p, values ++ [argument]), awaits := false }
      | _, _ => r.readOperand level argument

end Reading

/-! ### Both levels -/

/-- Help about the task of a name. -/
def readHelp : List String → UsageProblem
  | [] => .help .program true
  | [name] =>
    match Verb.ofName? name with
    | some verb => .help (.verb verb) true
    | none => if name = "help" then .help .help true else .unknownVerb
  | _ :: _ :: _ => .unknownVerb

/-- The task of a name with what was given behind it. -/
def Given.task? (g : Given) : Verb → Option Task
  | .annotate => g.operands.head?.map .annotate
  | .clean => g.operands.head?.map fun file => .clean file (g.format.getD .text)
  | .evaluate => g.operands.head?.map fun file => .evaluate file g.chart (g.format.getD .text)
  | .detect => if g.operands.isEmpty then .none else some (.detect g.operands)

/-- Reads the arguments behind a task. -/
def readBehind (verb : Verb) (arguments : List String) : Except UsageProblem (Given × Task) := do
  let level := Level.behind verb
  let r ← arguments.foldlM (fun r a => r.read level a) Reading.start
  let r ← r.flush level
  match r.given.task? verb with
  | some task => return (r.given, task)
  | none => throw .missingOperand

/-- The problem of arguments that name no task. -/
def Given.withoutTask (g : Given) : UsageProblem :=
  if g = .none then .noArguments else .missingVerb

/-- Reads arguments up to the task and then those behind it.  What the options before the task say is
looked at last. -/
def readTop (r : Reading) : List String → Except UsageProblem Invocation
  | [] => do throw (← r.flush .top).given.withoutTask
  | a :: rest =>
    let free := !r.escaped && !r.awaits
    match Verb.ofName? a with
    | some verb =>
      if free then do
        let (inner, task) ← readBehind verb rest
        let outer := (← r.flush .top).given
        return ⟨task, inner.config <|> outer.config, (inner.verbosity <|> outer.verbosity).getD 0,
          inner.quiet || outer.quiet⟩
      else do readTop (← r.read .top a) rest
    | none =>
      if free && a = "help" then .error (readHelp rest)
      else do readTop (← r.read .top a) rest

/-- The invocation that arguments stand for. -/
def readArguments (arguments : List String) : Except UsageProblem Invocation :=
  readTop .start arguments

end ChartTrace
