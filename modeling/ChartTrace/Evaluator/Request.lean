import ChartTrace.SortedList
import ChartTrace.Text.Numeral
import ChartTrace.Text.Utf8

namespace ChartTrace

/-!
# Requests to the evaluator

A request holds a template and the chart files it may read.  On the wire a string is its length in bytes,
in four bytes with the highest first, and then its bytes.

* `FileMap`: files by name, in the order of their names.
* `Request.encode`: path, content, number of files, then name and content of each file.
* `RequestError`: a string or a map that four bytes cannot count.
-/

/-- Files by name, sorted by name, each name once. -/
abbrev FileMap := SortedList (Prod.fst : String × String → String)

namespace FileMap

/-- The map of files given one after the other; the last one of a name counts. -/
def ofList (fs : List (String × String)) : FileMap := SortedList.ofList Prod.fst fs

/-- The content of the file of a name. -/
def lookup (m : FileMap) (name : String) : Option String := (m.find? name).map Prod.snd

/-- Whether there is a file of a name. -/
def contains (m : FileMap) (name : String) : Bool := (m.find? name).isSome

end FileMap

/-- A template to render, with the chart files it may read. -/
structure Request where
  /-- The name under which the engine reports the template. -/
  path : String
  content : String
  /-- Chart files by path from the chart root. -/
  files : FileMap
deriving DecidableEq, Repr

/-- Why a request cannot be written. -/
inductive RequestError where
  | stringTooLong (bytes : Nat)
  | tooManyFiles
deriving DecidableEq, Repr

/-- The wording of a request error. -/
def RequestError.message : RequestError → String
  | .stringTooLong n => "string of " ++ decimalText n ++ " bytes does not fit the request format"
  | .tooManyFiles => "too many dependencies"

/-- Numbers below this fit four bytes. -/
def countLimit : Nat := 4294967296

/-- A number in four bytes, the highest first. -/
def bigEndian32 (n : Nat) : Bytes :=
  [UInt8.ofNat (n / 16777216), UInt8.ofNat (n / 65536), UInt8.ofNat (n / 256), UInt8.ofNat n]

/-- A string behind its length in bytes. -/
def encodeString (s : String) : Except RequestError Bytes :=
  let bs := utf8 s
  if bs.length < countLimit then .ok (bigEndian32 bs.length ++ bs) else .error (.stringTooLong bs.length)

/-- The files of a request, one after the other. -/
def encodeFiles : List (String × String) → Except RequestError Bytes
  | [] => .ok []
  | f :: fs => do
    let name ← encodeString f.1
    let content ← encodeString f.2
    let rest ← encodeFiles fs
    return name ++ content ++ rest

/-- The bytes of a request. -/
def Request.encode (r : Request) : Except RequestError Bytes := do
  let path ← encodeString r.path
  let content ← encodeString r.content
  if countLimit ≤ r.files.toList.length then throw .tooManyFiles
  let files ← encodeFiles r.files.toList
  return path ++ content ++ bigEndian32 r.files.toList.length ++ files

end ChartTrace
