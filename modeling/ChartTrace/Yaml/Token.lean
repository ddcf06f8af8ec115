import ChartTrace.Text.Utf8
import ChartTrace.Yaml.Position

namespace ChartTrace.Yaml

/-!
# Tokens of YAML text

* `TokenKind`, `Token`: indicators, properties and scalars, with the places they cover.
* `ScalarStyle`: how a scalar is written.
-/

/-- How a scalar is written. -/
inductive ScalarStyle where
  | plain
  | quoted
  | block
deriving DecidableEq, Repr

/-- The kinds of tokens.  Starts and ends of block collections stand for changes of indentation. -/
inductive TokenKind where
  | streamEnd
  | version (major minor : Nat)
  /-- A shorthand for tags: the handle and what it stands for. -/
  | tagShorthand (handle : List Char) (expansion : Bytes)
  | documentStart
  | documentEnd
  | blockSequenceStart
  | blockMappingStart
  | blockEnd
  | flowSequenceStart
  | flowSequenceEnd
  | flowMappingStart
  | flowMappingEnd
  | blockEntry
  | flowEntry
  | key
  | value
  | alias (name : List Char)
  | anchor (name : List Char)
  /-- A tag; without a handle the suffix is the whole tag. -/
  | tag (handle : List Char) (suffix : Bytes)
  | scalar (text : List Char) (style : ScalarStyle)
deriving DecidableEq, Repr

/-- A token and the places where it starts and stops. -/
structure Token where
  kind : TokenKind
  start : Position
  stop : Position
deriving DecidableEq, Repr

end ChartTrace.Yaml
