import ChartTrace.Toml.Scalar
import ChartTrace.Toml.Text

namespace ChartTrace.Toml

/-!
# TOML documents

A document is a list of statements, one a line: assignments, and headers that say to which table the
assignments behind them belong.

* `readValue?`: a value; arrays and tables in it are nested to a limited depth.
* `readStatements?`: the statements of a document.
* `readDocument?`: the table that the statements define.
-/

/-- A statement. -/
inductive Statement where
  | assign (key : List Char) (path : List (List Char)) (value : Value)
  /-- A table header: the keys before the last one, and the last one. -/
  | table (path : List (List Char)) (key : List Char)
  /-- The header of one more of several tables. -/
  | tables (path : List (List Char)) (key : List Char)

/-- How deep arrays and tables may be nested in a value. -/
def nestingLimit : Nat := 80

/-- A dotted key. -/
def readPath? (cs : List Char) : Option ((List Char × List (List Char)) × List Char) :=
  readDottedKey? cs.length cs

/-- An assignment, whose value `read?` reads. -/
def readAssignment? (read? : List Char → Option (Value × List Char)) (cs : List Char) :
    Option ((List Char × List (List Char) × Value) × List Char) := do
  let ((key, path), rest) ← readPath? cs
  match skipBlank rest with
  | '=' :: rest => do
    let (value, rest) ← read? (skipBlank rest)
    return ((key, path, value), rest)
  | _ => none

/-- The items of an array behind its bracket, at most `n`. -/
def readItems? (read? : List Char → Option (Value × List Char)) :
    Nat → List Char → Option (List Value × List Char)
  | 0, _ => none
  | n + 1, cs => do
    match ← skipGap? cs with
    | ']' :: rest => return ([], rest)
    | rest => do
      let (value, rest) ← read? rest
      match ← skipGap? rest with
      | ',' :: rest => do
        let (values, rest) ← readItems? read? n rest
        return (value :: values, rest)
      | ']' :: rest => return ([value], rest)
      | _ => none

/-- The entries of a table value behind its brace, at most `n`, added to those before them. -/
def readEntries? (read? : List Char → Option (Value × List Char)) :
    Nat → Table → List Char → Option (Table × List Char)
  | 0, _, _ => none
  | n + 1, t, cs => do
    match ← skipGap? cs with
    | '\x7d' :: rest => return (t, rest)
    | rest => do
      let ((key, path, value), rest) ← readAssignment? read? rest
      let t ← t.assign? key path value
      match ← skipGap? rest with
      | ',' :: rest => readEntries? read? n t rest
      | '\x7d' :: rest => return (t, rest)
      | _ => none

/-- A value, with arrays and tables nested at most `depth` deep. -/
def readValue? : Nat → List Char → Option (Value × List Char)
  | 0, '[' :: _ => none
  | 0, '\x7b' :: _ => none
  | depth + 1, '[' :: cs => do
    let (items, rest) ← readItems? (readValue? depth) (cs.length + 1) cs
    return (.array items, rest)
  | depth + 1, '\x7b' :: cs => do
    let (entries, rest) ← readEntries? (readValue? depth) (cs.length + 1) [] cs
    return (.table .inline entries, rest)
  | _, cs =>
    match cs with
    | [] => none
    | c :: _ =>
      if c = quote || c = apostrophe then
        (readString? cs).map fun (text, rest) => (.string text, rest)
      else
        let (word, rest) := splitWord cs
        (readScalar? word).map fun value => (value, rest)

/-- The path and the key of a header. -/
def headerKeys (key : List Char) (path : List (List Char)) : List (List Char) × List Char :=
  match (key :: path).reverse with
  | last :: before => (before.reverse, last)
  | [] => ([], key)

/-- A statement. -/
def readStatement? (cs : List Char) : Option (Statement × List Char) :=
  match cs with
  | '[' :: '[' :: rest => do
    let ((key, path), rest) ← readPath? (skipBlank rest)
    match skipBlank rest with
    | ']' :: ']' :: rest =>
      let (path, key) := headerKeys key path
      return (.tables path key, rest)
    | _ => none
  | '[' :: rest => do
    let ((key, path), rest) ← readPath? (skipBlank rest)
    match skipBlank rest with
    | ']' :: rest =>
      let (path, key) := headerKeys key path
      return (.table path key, rest)
    | _ => none
  | cs => do
    let ((key, path, value), rest) ← readAssignment? (readValue? nestingLimit) cs
    return (.assign key path value, rest)

/-- The statements of a text of at most `n` lines. -/
def readLines? : Nat → List Char → Option (List Statement)
  | 0, _ => none
  | n + 1, cs => do
    match ← skipGap? cs with
    | [] => return []
    | cs => do
      let (statement, rest) ← readStatement? cs
      let rest ← skipComment? (skipBlank rest)
      match rest, skipNewline? rest with
      | [], _ => return [statement]
      | _, some rest => (statement :: ·) <$> readLines? n rest
      | _, none => none

/-- The statements of a document.  A byte order mark in front is passed over. -/
def readStatements? (cs : List Char) : Option (List Statement) :=
  let cs := match cs with
    | '\ufeff' :: rest => rest
    | cs => cs
  readLines? (cs.length + 1) cs

/-- The table after a statement, and the keys of the table to which assignments belong. -/
def applyStatement? (t : Table) (current : List (List Char)) : Statement →
    Option (Table × List (List Char))
  | .assign key path value => do
    return (← t.change? (fun inner => inner.assign? key path value) current, current)
  | .table path key => do return (← t.change? (Table.open? key) path, path ++ [key])
  | .tables path key => do return (← t.change? (Table.append? key) path, path ++ [key])

/-- The table that statements define. -/
def buildTable? (statements : List Statement) : Option Table := do
  let (t, _) ← statements.foldlM (fun (t, current) s => applyStatement? t current s) ([], [])
  return t

/-- The table of a document. -/
def readDocument? (cs : List Char) : Option Table := do buildTable? (← readStatements? cs)

end ChartTrace.Toml
