import ChartTrace.Annotation
import ChartTrace.Text.CharSet

namespace ChartTrace

/-!
# Detecting template directives

A file needs rendering when one of its lines holds a directive outside comments, quoted strings and
pipeline variables.

* `hasDirective`: the rule for one line.
* `textHasDirective`: some line of a text holds a directive.
-/

/-- Whether some suffix of a text satisfies `p`. -/
def anySuffix (p : List Char → Bool) : List Char → Bool
  | [] => p []
  | c :: cs => p (c :: cs) || anySuffix p cs

/-- Whether a text starts with the doubled character `c`. -/
def startsDoubled (c : Char) : List Char → Bool
  | a :: b :: _ => a == c && b == c
  | _ => false

/-- Whether a text holds an opening delimiter. -/
def holdsOpening (cs : List Char) : Bool := anySuffix (startsDoubled openBrace) cs

/-- A comment sign with an opening delimiter after it, before the next line feed. -/
def startsCommentedOpening : List Char → Bool
  | '#' :: cs => holdsOpening (cs.takeWhile (· != '\n'))
  | _ => false

/-- A string in quotes `quote` that holds an opening delimiter. -/
def startsQuotedOpening (quote : Char) : List Char → Bool
  | [] => false
  | c :: cs =>
    c == quote && holdsOpening (cs.takeWhile (· != quote)) && !(cs.dropWhile (· != quote)).isEmpty

/-- A pipeline variable: a dollar sign and a name, with blanks or not, between delimiters. -/
def startsPipelineVariable : List Char → Bool
  | '$' :: cs =>
    let inner := (cs.drop 2).dropWhile fun c => isWordChar c || isBlank c
    startsDoubled openBrace cs && inner.length < (cs.drop 2).length && startsDoubled closeBrace inner
  | _ => false

/-- Whether a line holds a directive, and none of the excluded forms. -/
def hasDirective (line : List Char) : Bool :=
  holdsOpening line
    && !(anySuffix startsCommentedOpening line || anySuffix (startsQuotedOpening '\x27') line
      || anySuffix (startsQuotedOpening '\x22') line || anySuffix startsPipelineVariable line)

/-- Whether some line of a text holds a directive. -/
def textHasDirective (text : List Char) : Bool :=
  (splitLines text).any fun l => hasDirective l.content

end ChartTrace
