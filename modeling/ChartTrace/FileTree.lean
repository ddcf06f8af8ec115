import ChartTrace.Evaluator.Program
import ChartTrace.Path
import ChartTrace.Text.Line

namespace ChartTrace

/-!
# File trees

Files, directories and links by their place below the root, and the operations that the library performs
on them.

* `FileError`: why an operation is refused, and its wording.
* `FileTree.locate`: the place that a path leads to.  A link on the way is followed, and a parent segment
  leads to the parent of the directory reached so far.
* `FileTree.readText`, `FileTree.write`, `FileTree.makeDirectories`, `FileTree.rename`.
-/

/-- Why an operation on files is refused. -/
inductive FileError where
  | notFound
  | badProgramFormat
  | permissionDenied
  | alreadyExists
  | notDirectory
  | isDirectory
  | nameTooLong
  | tooManyLinks
  /-- A path holds the character that ends paths. -/
  | badPath
  /-- The path of a program holds the character that ends paths. -/
  | badProgramPath
  /-- The bytes of a file are not UTF-8. -/
  | notText
deriving DecidableEq, Repr

/-- The wording of a file error. -/
def FileError.message : FileError → String
  | notFound => "No such file or directory (os error 2)"
  | badProgramFormat => "Exec format error (os error 8)"
  | permissionDenied => "Permission denied (os error 13)"
  | alreadyExists => "File exists (os error 17)"
  | notDirectory => "Not a directory (os error 20)"
  | isDirectory => "Is a directory (os error 21)"
  | nameTooLong => "File name too long (os error 36)"
  | tooManyLinks => "Too many levels of symbolic links (os error 40)"
  | badPath => "file name contained an unexpected NUL byte"
  | badProgramPath => "nul byte found in provided data"
  | notText => "stream did not contain valid UTF-8"

/-- What a file holds. -/
inductive Content where
  | bytes (bytes : Bytes)
  | program (program : Program)
deriving DecidableEq, Repr

/-- What stands at a place of a file tree. -/
inductive Entry where
  | directory
  | file (content : Content) (executable : Bool)
  | link (target : Path)
deriving DecidableEq, Repr

/-- A place below the root: the names on the way to it, the last one first. -/
abbrev Place := List (List Char)

/-- Entries by place, and the current directory. -/
structure FileTree where
  entries : List (Place × Entry)
  current : Place

/-- How many links are followed on the way to one place. -/
def linkLimit : Nat := 40

/-- How many bytes a name may have. -/
def nameLimit : Nat := 255

/-- How many bytes a path may have. -/
def pathLimit : Nat := 4095

namespace FileTree

/-! ### Places -/

/-- The entry at a place.  The root is always there. -/
def entry? (t : FileTree) (place : Place) : Option Entry :=
  if place = [] then some .directory else (t.entries.find? fun e => e.1 = place).map (·.2)

/-- Puts an entry at a place. -/
def put (t : FileTree) (place : Place) (entry : Entry) : FileTree :=
  { t with entries := (t.entries.filter fun e => e.1 ≠ place) ++ [(place, entry)] }

/-- Frees a place. -/
def erase (t : FileTree) (place : Place) : FileTree :=
  { t with entries := t.entries.filter fun e => e.1 ≠ place }

/-- The names in a directory. -/
def names (t : FileTree) (directory : Place) : List (List Char) :=
  (t.entries.filterMap fun e =>
    match e.1 with
    | name :: rest => if rest = directory then some name else none
    | [] => none).mergeSort fun a b => String.ofList a ≤ String.ofList b

/-- Where a path starts. -/
def start (p : Path) (current : Place) : Place := if p.anchor = .root then [] else current

/-- Goes from a place along segments.  The last name may be free.  A link in the last place is followed
only on demand. -/
def walk (t : FileTree) (followLast : Bool) (links : Nat) (place : Place) (segments : List (List Char)) :
    Except FileError Place :=
  match segments with
  | [] => .ok place
  | s :: rest =>
    match t.entry? place with
    | none => .error .notFound
    | some (.file _ _) | some (.link _) => .error .notDirectory
    | some .directory =>
      if isVacant s then t.walk followLast links place rest
      else if s = upSegment then t.walk followLast links place.tail rest
      else if nameLimit < byteLength s then .error .nameTooLong
      else
        match t.entry? (s :: place) with
        | some (.link target) =>
          if rest.isEmpty && !followLast then .ok (s :: place)
          else
            match links with
            | 0 => .error .tooManyLinks
            | links + 1 => t.walk followLast links (start target place) (target.segments ++ rest)
        | _ => t.walk followLast links (s :: place) rest
termination_by (links, segments.length)

/-- The place that a path leads to.  Nothing need be there. -/
def locate (t : FileTree) (followLast : Bool) (p : Path) : Except FileError Place :=
  let text := p.text
  if text.contains '\x00' then .error .badPath
  else if text = [] then .error .notFound
  else if pathLimit < byteLength text then .error .nameTooLong
  else t.walk followLast linkLimit (start p t.current) p.segments

/-- The entry at the end of a path, and its place. -/
def lookUp (t : FileTree) (followLast : Bool) (p : Path) : Except FileError (Place × Entry) := do
  let place ← t.locate followLast p
  match t.entry? place with
  | some entry => return (place, entry)
  | none => throw .notFound

/-- The entry that a path leads to when all links are followed, and its place. -/
def find (t : FileTree) (p : Path) : Except FileError (Place × Entry) := t.lookUp true p

/-! ### Looking -/

/-- Whether a path leads to something. -/
def contains (t : FileTree) (p : Path) : Bool := (t.find p).toOption.isSome

/-- Whether a path leads to a file. -/
def isFile (t : FileTree) (p : Path) : Bool :=
  match t.find p with
  | .ok (_, .file _ _) => true
  | _ => false

/-- Whether a path leads to a directory. -/
def isDirectory (t : FileTree) (p : Path) : Bool :=
  match t.find p with
  | .ok (_, .directory) => true
  | _ => false

/-- The file that a path leads to. -/
def fileAt (t : FileTree) (p : Path) : Except FileError (Content × Bool) := do
  match ← t.find p with
  | (_, .file content executable) => return (content, executable)
  | _ => throw .isDirectory

/-- The text of the file that a path leads to. -/
def readText (t : FileTree) (p : Path) : Except FileError String := do
  match ← t.fileAt p with
  | (.bytes bs, _) =>
    match readUtf8? bs with
    | some s => return s
    | none => throw .notText
  | (.program _, _) => throw .notText

/-- The paths of the files below a directory, in the order of their names.  Links are not followed.  The
walk goes at most `depth` directories deep. -/
def filesBelow (t : FileTree) : Nat → Path → Place → List Path
  | 0, _, _ => []
  | depth + 1, directory, place =>
    (t.names place).flatMap fun name =>
      let p := directory.join ⟨.none, [name]⟩
      match t.entry? (name :: place) with
      | some .directory => t.filesBelow depth p (name :: place)
      | some (.file _ _) => [p]
      | _ => []

/-- The paths of the files at or below a path.  A link is followed only to a directory, and only when it
is the path itself. -/
def filesUnder (t : FileTree) (p : Path) : List Path :=
  match t.lookUp false p with
  | .ok (place, .directory) => t.filesBelow (t.entries.length + 1) p place
  | .ok (_, .file _ _) => [p]
  | .ok (_, .link _) =>
    match t.find p with
    | .ok (place, .directory) => t.filesBelow (t.entries.length + 1) p place
    | _ => []
  | .error _ => []

/-! ### Changing -/

/-- Makes a directory.  Its parent has to be there. -/
def makeDirectory (t : FileTree) (p : Path) : Except FileError FileTree := do
  let bare : Path := ⟨p.anchor, (p.segments.reverse.dropWhile (·.isEmpty)).reverse⟩
  match bare.segments.reverse with
  | last :: _ =>
    let place ← t.locate false bare
    if isVacant last || last = upSegment then throw .alreadyExists
    match t.entry? place with
    | some _ => throw .alreadyExists
    | none => return t.put place .directory
  | [] => if p.text = [] then throw .notFound else throw .alreadyExists

/-- Makes a directory unless there is one. -/
def ensureDirectory (t : FileTree) (p : Path) : Except FileError FileTree :=
  match t.makeDirectory p with
  | .ok t => .ok t
  | .error e => if t.isDirectory p then .ok t else .error e

/-- Makes the directories of a list that are not there, starting after those that are. -/
def makeDirectories (t : FileTree) (p : Path) : Except FileError FileTree :=
  go (p :: p.ancestors)
where
  /-- Makes a directory after those that lead to it. -/
  go : List Path → Except FileError FileTree
    | [] => .ok t
    | p :: above =>
      if p.text = [] then .ok t
      else
        match t.makeDirectory p with
        | .ok t => .ok t
        | .error .notFound => do
          let t ← go above
          t.ensureDirectory p
        | .error e => if t.isDirectory p then .ok t else .error e

/-- Writes a file.  One that is there keeps its right to run. -/
def write (t : FileTree) (p : Path) (content : Content) : Except FileError FileTree := do
  let place ← t.locate true p
  match t.entry? place with
  | some (.file _ executable) => return t.put place (.file content executable)
  | none => return t.put place (.file content false)
  | some _ => throw .isDirectory

/-- Gives everyone the right to run a file. -/
def makeExecutable (t : FileTree) (p : Path) : Except FileError FileTree := do
  match ← t.find p with
  | (place, .file content _) => return t.put place (.file content true)
  | _ => return t

/-- Moves a file to another path. -/
def rename (t : FileTree) (source target : Path) : Except FileError FileTree := do
  let (place, entry) ← t.lookUp false source
  let destination ← t.locate false target
  match t.entry? destination with
  | some .directory => throw .isDirectory
  | _ => return (t.erase place).put destination entry

/-- Removes a file. -/
def removeFile (t : FileTree) (p : Path) : FileTree :=
  match t.lookUp false p with
  | .ok (place, .file _ _) | .ok (place, .link _) => t.erase place
  | _ => t

/-- Puts a link at a path. -/
def link (t : FileTree) (p target : Path) : Except FileError FileTree := do
  let place ← t.locate false p
  match t.entry? place with
  | some _ => throw .alreadyExists
  | none => return t.put place (.link target)

end FileTree

end ChartTrace
