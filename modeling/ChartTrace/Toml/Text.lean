import ChartTrace.Decimal.Numeral

namespace ChartTrace.Toml

/-!
# TOML strings and blanks

Readers take what is left of a document and give what they read and what is left then.

* `skipBlank`, `skipComment?`, `skipGap?`: what stands between keys and values.
* `readString?`: strings in quotes of either kind, on one line or several.
* `readKey?`: a key, bare or in quotes.
-/

/-- The double quote. -/
def quote : Char := '\x22'

/-- The single quote. -/
def apostrophe : Char := '\x27'

/-- Whether a character may stand in strings and comments: no control character but the tab. -/
def isPrintable (c : Char) : Bool := c = '\t' || (' ' ≤ c && c ≠ '\x7f')

/-- Whether a character is a space or a tab. -/
def isBlank (c : Char) : Bool := c = ' ' || c = '\t'

/-- What follows spaces and tabs. -/
def skipBlank (cs : List Char) : List Char := cs.dropWhile isBlank

/-- What follows the end of a line, if that is what comes next. -/
def skipNewline? : List Char → Option (List Char)
  | '\n' :: cs => some cs
  | '\r' :: '\n' :: cs => some cs
  | _ => none

/-- What follows a comment, if there is one.  A comment ends with its line. -/
def skipComment? (cs : List Char) : Option (List Char) :=
  match cs with
  | '#' :: rest =>
    let rest := rest.dropWhile isPrintable
    if rest.isEmpty || (skipNewline? rest).isSome then some rest else none
  | _ => some cs

/-- What follows blanks, comments and line ends. -/
def skipGap? (cs : List Char) : Option (List Char) := go (cs.length + 1) cs
where
  /-- Passes at most `n` lines. -/
  go : Nat → List Char → Option (List Char)
    | 0, _ => none
    | n + 1, cs => do
      let rest ← skipComment? (skipBlank cs)
      match skipNewline? rest with
      | some rest => go n rest
      | none => return rest

/-- The character with a code in hexadecimal digits. -/
def readCode? (digits : List Char) : Option Char := do
  let n ← readNumeral? 16 digits
  if n.isValidChar then some (Char.ofNat n) else none

/-- The character of an escape, and how many characters write it behind the backslash. -/
def readEscape? : List Char → Option (Char × Nat)
  | [] => none
  | c :: cs =>
    if c = 'b' then some ('\x08', 1)
    else if c = 't' then some ('\t', 1)
    else if c = 'n' then some ('\n', 1)
    else if c = 'f' then some ('\x0c', 1)
    else if c = 'r' then some ('\r', 1)
    else if c = 'e' then some ('\x1b', 1)
    else if c = quote then some (quote, 1)
    else if c = '\\' then some ('\\', 1)
    else if c = 'x' then coded 2 cs
    else if c = 'u' then coded 4 cs
    else if c = 'U' then coded 8 cs
    else none
where
  /-- The character of `n` digits. -/
  coded (n : Nat) (cs : List Char) : Option (Char × Nat) :=
    if n ≤ cs.length then (readCode? (cs.take n)).map fun c => (c, n + 1) else none

/-- Puts a character in front of what was read. -/
def consText (c : Char) (r : Option (List Char × List Char)) : Option (List Char × List Char) :=
  r.map fun (text, rest) => (c :: text, rest)

/-- What follows blanks and line ends, as far as they go. -/
def skipLines : List Char → List Char
  | [] => []
  | '\r' :: '\n' :: cs => skipLines cs
  | c :: cs => if isBlank c || c = '\n' then skipLines cs else c :: cs

theorem length_skipLines_le (cs : List Char) : (skipLines cs).length ≤ cs.length := by
  fun_induction skipLines cs <;> simp_all <;> omega

/-- The rest of a text that ends with three quotes; up to two quotes before them belong to the text. -/
def closeTriple (q : Char) (cs : List Char) : List Char × List Char :=
  let extra := min 2 (cs.takeWhile (· = q)).length
  (List.replicate extra q, cs.drop extra)

/-- A string with escapes, behind its opening quote or, with `lines`, behind its three quotes. -/
def readEscaped (lines : Bool) (cs : List Char) : Option (List Char × List Char) :=
  match cs with
  | [] => none
  | c :: rest =>
    if c = quote then
      if lines then
        match rest with
        | a :: b :: more =>
          if a = quote && b = quote then some (closeTriple quote more)
          else consText quote (readEscaped lines (a :: b :: more))
        | _ => none
      else some ([], rest)
    else if c = '\\' then
      match readEscape? rest with
      | some (e, n) => consText e (readEscaped lines (rest.drop n))
      | none =>
        if lines && (skipNewline? (skipBlank rest)).isSome then
          have := length_skipLines_le rest
          readEscaped lines (skipLines rest)
        else none
    else if isPrintable c || (lines && (skipNewline? (c :: rest)).isSome) then
      consText c (readEscaped lines rest)
    else none
termination_by cs.length
decreasing_by all_goals (simp only [List.length_cons, List.length_drop]; omega)

/-- A string without escapes on several lines, behind its three quotes. -/
def readLiteralLines : List Char → Option (List Char × List Char)
  | [] => none
  | c :: rest =>
    if c = apostrophe then
      match rest with
      | a :: b :: more =>
        if a = apostrophe && b = apostrophe then some (closeTriple apostrophe more)
        else consText apostrophe (readLiteralLines (a :: b :: more))
      | _ => none
    else if isPrintable c || (skipNewline? (c :: rest)).isSome then consText c (readLiteralLines rest)
    else none

/-- A string without escapes, behind its opening quote. -/
def readLiteral (cs : List Char) : Option (List Char × List Char) :=
  let inside (c : Char) : Bool := isPrintable c && c ≠ apostrophe
  match cs.dropWhile inside with
  | c :: rest => if c = apostrophe then some (cs.takeWhile inside, rest) else none
  | [] => none

/-- What follows three quotes and the line end behind them. -/
def skipTriple? (q : Char) : List Char → Option (List Char)
  | a :: b :: c :: rest =>
    if a = q && b = q && c = q then some ((skipNewline? rest).getD rest) else none
  | _ => none

/-- A string on one line. -/
def readLine? : List Char → Option (List Char × List Char)
  | [] => none
  | c :: rest =>
    if c = quote then readEscaped false rest
    else if c = apostrophe then readLiteral rest
    else none

/-- A string. -/
def readString? (cs : List Char) : Option (List Char × List Char) :=
  match skipTriple? quote cs, skipTriple? apostrophe cs with
  | some rest, _ => readEscaped true rest
  | none, some rest => readLiteralLines rest
  | none, none => readLine? cs

/-- Whether a character may stand in a bare key. -/
def isBareChar (c : Char) : Bool := c.isAlphanum || c = '_' || c = '-'

/-- A key. -/
def readKey? (cs : List Char) : Option (List Char × List Char) :=
  match cs.takeWhile isBareChar with
  | [] => if (skipTriple? quote cs).isSome || (skipTriple? apostrophe cs).isSome then none else readLine? cs
  | key => some (key, cs.dropWhile isBareChar)

/-- Keys with dots between them, at most `n` behind the first. -/
def readDottedKey? : Nat → List Char → Option ((List Char × List (List Char)) × List Char)
  | n, cs => do
    let (key, rest) ← readKey? cs
    match skipBlank rest, n with
    | '.' :: rest, n + 1 => do
      let ((next, path), rest) ← readDottedKey? n (skipBlank rest)
      return ((key, next :: path), rest)
    | '.' :: _, 0 => none
    | rest, _ => return ((key, []), rest)

end ChartTrace.Toml
