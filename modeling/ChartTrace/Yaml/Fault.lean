import ChartTrace.Text.Numeral
import ChartTrace.Yaml.Position

namespace ChartTrace.Yaml

/-!
# Faults in YAML text

Why a text is no YAML stream, and how that is said.

* `Problem`, `Activity`: what is wrong, and what was being read.
* `Fault`: a problem with the places it concerns.
* `Fault.text`: the wording.  Places at the beginning of the text are left out, and so is the place of the
  activity when it is that of the problem.
-/

/-- What is wrong. -/
inductive Problem where
  -- in characters and tokens
  | controlCharacter
  | noToken
  | simpleKeyWithoutColon
  | entryNotAllowed
  | keyNotAllowed
  | valueNotAllowed
  | noDirectiveName
  | badDirectiveName
  | unknownDirective
  | noVersionNumber
  | longVersionNumber
  | noVersionSeparator
  | noWhitespace
  | noWhitespaceOrBreak
  | noCommentOrBreak
  | badAnchorName
  | noTagBang
  | noTagUri
  | noTagEnd
  | noEscapedOctet
  | badLeadingOctet
  | badTrailingOctet
  | zeroIndentation
  | tabInBlockIndentation
  | tabInPlainIndentation
  | colonInFlow
  | documentIndicatorInQuotes
  | endOfStreamInQuotes
  | unknownEscape
  | noHexadecimalNumber
  | badCharacterCode
  -- in the order of tokens
  | noDocumentStart
  | noNodeContent
  | undefinedTagHandle
  | noEntryIndicator
  | noMappingKey
  | noFlowSequenceSeparator
  | noFlowMappingSeparator
  | duplicateVersion
  | duplicateTagHandle
  | incompatibleVersion
deriving DecidableEq, Repr

/-- The wording of a problem. -/
def Problem.message : Problem → String
  | .controlCharacter => "control characters are not allowed"
  | .noToken => "found character that cannot start any token"
  | .simpleKeyWithoutColon => "could not find expected ':'"
  | .entryNotAllowed => "block sequence entries are not allowed in this context"
  | .keyNotAllowed => "mapping keys are not allowed in this context"
  | .valueNotAllowed => "mapping values are not allowed in this context"
  | .noDirectiveName => "could not find expected directive name"
  | .badDirectiveName => "found unexpected non-alphabetical character"
  | .unknownDirective => "found unknown directive name"
  | .noVersionNumber => "did not find expected version number"
  | .longVersionNumber => "found extremely long version number"
  | .noVersionSeparator => "did not find expected digit or '.' character"
  | .noWhitespace => "did not find expected whitespace"
  | .noWhitespaceOrBreak => "did not find expected whitespace or line break"
  | .noCommentOrBreak => "did not find expected comment or line break"
  | .badAnchorName => "did not find expected alphabetic or numeric character"
  | .noTagBang => "did not find expected '!'"
  | .noTagUri => "did not find expected tag URI"
  | .noTagEnd => "did not find the expected '>'"
  | .noEscapedOctet => "did not find URI escaped octet"
  | .badLeadingOctet => "found an incorrect leading UTF-8 octet"
  | .badTrailingOctet => "found an incorrect trailing UTF-8 octet"
  | .zeroIndentation => "found an indentation indicator equal to 0"
  | .tabInBlockIndentation => "found a tab character where an indentation space is expected"
  | .tabInPlainIndentation => "found a tab character that violates indentation"
  | .colonInFlow => "found unexpected ':'"
  | .documentIndicatorInQuotes => "found unexpected document indicator"
  | .endOfStreamInQuotes => "found unexpected end of stream"
  | .unknownEscape => "found unknown escape character"
  | .noHexadecimalNumber => "did not find expected hexadecimal number"
  | .badCharacterCode => "found invalid Unicode character escape code"
  | .noDocumentStart => "did not find expected <document start>"
  | .noNodeContent => "did not find expected node content"
  | .undefinedTagHandle => "found undefined tag handle"
  | .noEntryIndicator => "did not find expected '-' indicator"
  | .noMappingKey => "did not find expected key"
  | .noFlowSequenceSeparator => "did not find expected ',' or ']'"
  | .noFlowMappingSeparator => "did not find expected ',' or '\x7d'"
  | .duplicateVersion => "found duplicate %YAML directive"
  | .duplicateTagHandle => "found duplicate %TAG directive"
  | .incompatibleVersion => "found incompatible YAML document"

/-- What was being read when a problem was found. -/
inductive Activity where
  | nextToken
  | simpleKey
  | directive
  | versionDirective
  | tagDirective
  | anchor
  | alias
  | tag
  | directiveHandleStart
  | directiveHandle
  | directiveUri
  | tagUri
  | blockScalar
  | plainScalar
  | quotedScalar
  | escapeSequence
  | node
  | blockNode
  | flowNode
  | blockSequence
  | blockMapping
  | flowSequence
  | flowMapping
deriving DecidableEq, Repr

/-- The wording of an activity. -/
def Activity.message : Activity → String
  | .nextToken => "while scanning for the next token"
  | .simpleKey => "while scanning a simple key"
  | .directive => "while scanning a directive"
  | .versionDirective => "while scanning a %YAML directive"
  | .tagDirective => "while scanning a %TAG directive"
  | .anchor => "while scanning an anchor"
  | .alias => "while scanning an alias"
  | .tag => "while scanning a tag"
  | .directiveHandleStart => "while scanning a tag directive"
  | .directiveHandle => "while parsing a tag directive"
  | .directiveUri => "while parsing a %TAG directive"
  | .tagUri => "while parsing a tag"
  | .blockScalar => "while scanning a block scalar"
  | .plainScalar => "while scanning a plain scalar"
  | .quotedScalar => "while scanning a quoted scalar"
  | .escapeSequence => "while parsing a quoted scalar"
  | .node => "while parsing a node"
  | .blockNode => "while parsing a block node"
  | .flowNode => "while parsing a flow node"
  | .blockSequence => "while parsing a block collection"
  | .blockMapping => "while parsing a block mapping"
  | .flowSequence => "while parsing a flow sequence"
  | .flowMapping => "while parsing a flow mapping"

/-- A problem and where it is. -/
structure Fault where
  problem : Problem
  /-- Where the problem is. -/
  position : Position
  /-- What was being read, and where it starts. -/
  activity : Option (Activity × Position) := none
  /-- The bytes before a character that cannot be read. -/
  offset : Nat := 0
deriving DecidableEq, Repr

/-- A place in words, counted from 1. -/
def placeText (line column : Nat) : String :=
  " at line " ++ decimalText (line + 1) ++ " column " ++ decimalText (column + 1)

/-- A position in words, or nothing at the beginning of the text. -/
def Position.text (p : Position) : String := if p.isOrigin then "" else placeText p.line p.column

/-- The wording of a fault. -/
def Fault.text (f : Fault) : String :=
  f.problem.message
    ++ (if f.position.isOrigin && f.offset != 0 then " at position " ++ decimalText f.offset
        else f.position.text)
    ++ match f.activity with
      | none => ""
      | some (a, p) =>
        ", " ++ a.message
          ++ if p.line = f.position.line ∧ p.column = f.position.column then "" else p.text

end ChartTrace.Yaml
