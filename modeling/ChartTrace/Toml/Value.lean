namespace ChartTrace.Toml

/-!
# TOML values

* `Value`: a value of a document.  Of floats and times only the kind is kept.
* `Origin`: what defined a table.  It decides what may be added to the table later.
* `Table.assign?`, `Table.open?`, `Table.append?`: the statements of a document, which define each key once.
-/

/-- What defined a table. -/
inductive Origin where
  /-- A table header. -/
  | header
  /-- The header of a table inside it. -/
  | implied
  /-- A dotted key. -/
  | dotted
  /-- A table value. -/
  | inline
deriving DecidableEq, Repr

/-- A value. -/
inductive Value where
  | string (text : List Char)
  | integer (value : Int)
  | float
  | boolean (value : Bool)
  | dateTime
  | array (items : List Value)
  | table (origin : Origin) (entries : List (List Char × Value))
  /-- Tables that headers of one name define one after the other. -/
  | tables (items : List (List (List Char × Value)))

/-- The entries of a table, each key once. -/
abbrev Table := List (List Char × Value)

namespace Table

/-- The value of a key. -/
def get? (t : Table) (key : List Char) : Option Value := (t.find? fun e => e.1 = key).map (·.2)

/-- Gives a key a value, in its place if it has one. -/
def set (t : Table) (key : List Char) (value : Value) : Table :=
  if (t.get? key).isSome then t.map fun e => if e.1 = key then (key, value) else e
  else t ++ [(key, value)]

/-- Assigns a value to a dotted key, `path` behind `key`.  The tables on the way are made by such keys, or
implied by headers; the last of them is not one that headers imply. -/
def assign? (t : Table) (key : List Char) : List (List Char) → Value → Option Table
  | [], value => if (t.get? key).isSome then none else some (t ++ [(key, value)])
  | next :: path, value =>
    match t.get? key with
    | none => do
      let inner ← assign? [] next path value
      return t ++ [(key, .table .dotted inner)]
    | some (.table .dotted inner) => do
      let inner ← assign? inner next path value
      return t.set key (.table .dotted inner)
    | some (.table .implied inner) =>
      if path.isEmpty then none
      else do
        let inner ← assign? inner next path value
        return t.set key (.table .implied inner)
    | some _ => none

/-- Changes the table behind the keys of a header.  Tables on the way that are not there are implied, and
of several tables the last one counts. -/
def change? (change : Table → Option Table) (t : Table) : List (List Char) → Option Table
  | [] => change t
  | key :: path =>
    match t.get? key with
    | none => do
      let inner ← change? change [] path
      return t ++ [(key, .table .implied inner)]
    | some (.table .inline _) => none
    | some (.table origin inner) => do
      let inner ← change? change inner path
      return t.set key (.table origin inner)
    | some (.tables items) =>
      match items.reverse with
      | [] => none
      | last :: before => do
        let last ← change? change last path
        return t.set key (.tables (before.reverse ++ [last]))
    | some _ => none

/-- Defines a table by its header, whose last key is `key`. -/
def open? (key : List Char) (t : Table) : Option Table :=
  match t.get? key with
  | none => some (t ++ [(key, .table .header [])])
  | some (.table .implied inner) => some (t.set key (.table .header inner))
  | some _ => none

/-- Defines one more of several tables by its header, whose last key is `key`. -/
def append? (key : List Char) (t : Table) : Option Table :=
  match t.get? key with
  | none => some (t ++ [(key, .tables [[]])])
  | some (.tables items) => some (t.set key (.tables (items ++ [[]])))
  | some _ => none

end Table

end ChartTrace.Toml
