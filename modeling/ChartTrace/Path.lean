namespace ChartTrace

/-!
# Paths

A path is kept as it was written: where it starts, and the segments between its slashes, empty ones
included.  Segments that are empty or a single dot name nothing, so paths that differ only in them are the
same path.

* `Path.ofText`, `Path.text`: reading and printing; printing gives back what was read.
* `Path.components`: what the path names, from its start on.  `Path.Same` compares paths by it.
* `Path.parent?`, `Path.fileName?`, `Path.extension?`, `Path.relativeTo?`, `Path.join`.
-/

/-- Where a path starts. -/
inductive Anchor where
  /-- At the root of the file tree. -/
  | root
  /-- At the current directory, named by a leading dot. -/
  | here
  /-- At the current directory, which is not named. -/
  | none
deriving DecidableEq, Repr

/-- How the start of a path is written. -/
def Anchor.text : Anchor → List Char
  | root => ['/']
  | here => ['.']
  | none => []

/-- A path as written: its start and the segments between its slashes. -/
structure Path where
  anchor : Anchor
  segments : List (List Char)
deriving DecidableEq, Repr

/-- What one part of a path names. -/
inductive Component where
  | root
  | here
  | up
  | name (name : List Char)
deriving DecidableEq, Repr

/-- Whether a segment names nothing. -/
def isVacant (segment : List Char) : Bool := segment = [] || segment = ['.']

/-- The segment that leads to the parent directory. -/
def upSegment : List Char := ['.', '.']

/-- The pieces of a text between its slashes. -/
def splitSegments : List Char → List (List Char)
  | [] => [[]]
  | c :: cs =>
    if c = '/' then [] :: splitSegments cs
    else
      match splitSegments cs with
      | [] => [[c]]
      | s :: ss => (c :: s) :: ss

/-- Segments with slashes between them. -/
def joinSegments : List (List Char) → List Char
  | [] => []
  | [s] => s
  | s :: ss => s ++ '/' :: joinSegments ss

/-- Leaves out the segments at the end that name nothing. -/
def trimVacant (segments : List (List Char)) : List (List Char) :=
  (segments.reverse.dropWhile isVacant).reverse

/-- Leaves out the first `n` segments that name something, and those around them that do not. -/
def dropNamed : Nat → List (List Char) → List (List Char)
  | _, [] => []
  | n, s :: ss =>
    if isVacant s then dropNamed n ss
    else
      match n with
      | 0 => s :: ss
      | n + 1 => dropNamed n ss

namespace Path

/-- The path that a text is written for. -/
def ofText : List Char → Path
  | '/' :: cs => ⟨.root, splitSegments cs⟩
  | ['.'] => ⟨.here, splitSegments []⟩
  | '.' :: '/' :: cs => ⟨.here, splitSegments ('/' :: cs)⟩
  | cs => ⟨.none, splitSegments cs⟩

/-- The path that a string is written for. -/
def ofString (s : String) : Path := ofText s.toList

/-- A path as written. -/
def text (p : Path) : List Char := p.anchor.text ++ joinSegments p.segments

/-- A path as written, as a string. -/
def toString (p : Path) : String := String.ofList p.text

/-- The component of the start of a path. -/
def anchorComponents : Anchor → List Component
  | .root => [.root]
  | .here => [.here]
  | .none => []

/-- What the parts of a path name. -/
def components (p : Path) : List Component :=
  anchorComponents p.anchor ++ (p.segments.filter fun s => !isVacant s).map fun s =>
    if s = upSegment then .up else .name s

/-- Whether two paths name the same things. -/
def Same (p q : Path) : Prop := p.components = q.components

instance (p q : Path) : Decidable (Same p q) := inferInstanceAs (Decidable (_ = _))

/-- The path without its last component.  The root and the empty path have none. -/
def parent? (p : Path) : Option Path :=
  match (trimVacant p.segments).reverse with
  | _ :: before => some ⟨p.anchor, trimVacant before.reverse⟩
  | [] => if p.anchor = .here then some ⟨.none, []⟩ else none

/-- The last component, when it is a name. -/
def fileName? (p : Path) : Option (List Char) :=
  match (trimVacant p.segments).reverse with
  | last :: _ => if last = upSegment then none else some last
  | [] => none

/-- What follows the last dot of the file name, unless that dot is its first character. -/
def extension? (p : Path) : Option (List Char) := do
  let name := (← p.fileName?).reverse
  match name.dropWhile (· ≠ '.') with
  | _ :: _ :: _ => some (name.takeWhile (· ≠ '.')).reverse
  | _ => none

/-- Whether a path lies at or below another one. -/
def startsWith (p base : Path) : Bool := base.components.isPrefixOf p.components

/-- What is left of a path below another one. -/
def relativeTo? (p base : Path) : Option Path :=
  if p.startsWith base then
    if base.components = [] then some ⟨p.anchor, trimVacant p.segments⟩
    else
      let named := base.components.length - (anchorComponents p.anchor).length
      some ⟨.none, trimVacant (dropNamed named p.segments)⟩
  else none

/-- A path below a directory.  A path from the root stands for itself. -/
def join (directory p : Path) : Path :=
  let left := directory.text
  if p.anchor = .root || left = [] then p
  else if left.getLast? = some '/' then ofText (left ++ p.text)
  else ofText (left ++ '/' :: p.text)

/-- The text of a path with forward slashes only. -/
def forwardText (p : Path) : String :=
  String.ofList (p.text.map fun c => if c = '\\' then '/' else c)

/-- The ancestors of a path, the nearest first, one for every step up to the start. -/
def ancestors (p : Path) : List Path := go (p.segments.length + 1) p
where
  /-- At most `n` ancestors. -/
  go : Nat → Path → List Path
    | 0, _ => []
    | n + 1, p =>
      match p.parent? with
      | some q => q :: go n q
      | none => []

end Path

end ChartTrace
