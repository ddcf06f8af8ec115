import ChartTrace.Marker
import ChartTrace.Proofs.Lines

namespace ChartTrace

/-!
# The grammar of marker groups

Rendered lines end in a group of markers, which `isMarkerGroup` reads character by character.  Here
a group is built from its tokens instead:

* `IsNumeral`, `IsWordNumeral`: digits of any script, and ASCII digits that spell a word;
* `Token`, `MarkerGroup`: a token `#D` or `#D:D`, and one or more of them with at most one blank
  between two;
* `isMarkerGroup_iff`: the groups are exactly what the reader accepts.
-/

/-! ### Classes of characters -/

/-- A character is in a set exactly when one of the ranges holds it. -/
theorem CharSet.contains_iff {s : CharSet} {c : Char} :
    s.contains c = true ↔ ∃ r ∈ s.ranges, r.1 ≤ c.toNat ∧ c.toNat ≤ r.2 := by
  simp [CharSet.contains]

/-- No decimal digit is a blank: their ranges of code points do not meet. -/
theorem isDecimalDigit_of_isBlank {c : Char} (hc : isBlank c = true) :
    isDecimalDigit c = false := by
  -- The two tables are finite, so that their ranges are compared one by one.
  have apart : ∀ r ∈ CharSet.blank.ranges, ∀ s ∈ CharSet.decimalDigit.ranges,
      r.2 < s.1 ∨ s.2 < r.1 := by
    decide
  obtain ⟨r, hr, hr1, hr2⟩ := CharSet.contains_iff.mp hc
  by_contra hd
  rw [Bool.not_eq_false] at hd
  obtain ⟨s, hs, hs1, hs2⟩ := CharSet.contains_iff.mp hd
  have := apart r hr s hs
  omega

/-- A blank is none of the characters that are not blank. -/
theorem ne_of_isBlank {c d : Char} (hc : isBlank c = true) (hd : isBlank d = false) : c ≠ d := by
  rintro rfl
  rw [hc] at hd
  exact Bool.noConfusion hd

/-- Characters that end a line are blank. -/
theorem isBlank_of_isTerminator {c : Char} (hc : isTerminator c = true) : isBlank c = true := by
  simp only [isTerminator, Bool.or_eq_true, beq_iff_eq] at hc
  rcases hc with ((rfl | rfl) | rfl) | rfl <;> decide

/-- So no digit ends a line. -/
theorem isTerminator_of_isDecimalDigit {c : Char} (hc : isDecimalDigit c = true) :
    isTerminator c = false := by
  by_contra ht
  rw [Bool.not_eq_false] at ht
  rw [isDecimalDigit_of_isBlank (isBlank_of_isTerminator ht)] at hc
  exact Bool.false_ne_true hc

/-- The digits from `0` to `9` are decimal digits, and not the only ones. -/
theorem isDecimalDigit_of_isAsciiDigit {c : Char} (hc : isAsciiDigit c = true) :
    isDecimalDigit c = true := by
  simp only [isAsciiDigit, Bool.and_eq_true, decide_eq_true_eq] at hc
  exact CharSet.contains_iff.mpr ⟨(0x30, 0x39), by decide, hc.1, hc.2⟩

theorem isAsciiDigit_of_isDigit {c : Char} (hc : c.isDigit = true) : isAsciiDigit c = true := by
  simp only [Char.isDigit, Bool.and_eq_true, decide_eq_true_eq] at hc
  simp only [isAsciiDigit, Bool.and_eq_true, decide_eq_true_eq]
  exact hc

/-! ### Numerals -/

/-- One or more decimal digits, of any script. -/
def IsNumeral (ds : List Char) : Prop := ds ≠ [] ∧ ∀ c ∈ ds, isDecimalDigit c = true

instance (ds : List Char) : Decidable (IsNumeral ds) :=
  decidable_of_iff (ds ≠ [] ∧ ds.all isDecimalDigit = true) (by rw [IsNumeral, List.all_eq_true])

/-- The number that ASCII digits spell. -/
def numeralValue (ds : List Char) : Nat := Nat.ofDigitChars 10 ds 0

/-- Digits that spell a word: ASCII digits with a value below `wordLimit`. -/
def IsWordNumeral (ds : List Char) : Prop :=
  (∀ c ∈ ds, isAsciiDigit c = true) ∧ numeralValue ds < wordLimit

instance (ds : List Char) : Decidable (IsWordNumeral ds) :=
  decidable_of_iff (ds.all isAsciiDigit = true ∧ numeralValue ds < wordLimit)
    (by rw [IsWordNumeral, List.all_eq_true])

/-- A numeral goes on with a further digit. -/
theorem IsNumeral.append_digit {ds : List Char} {c : Char} (hds : IsNumeral ds)
    (hc : isDecimalDigit c = true) : IsNumeral (ds ++ [c]) := by
  refine ⟨by simp, fun d hd => ?_⟩
  rcases List.mem_append.mp hd with hd | hd
  · exact hds.2 d hd
  · rw [List.mem_singleton.mp hd]; exact hc

/-- A numeral of ASCII digits that fits a word is read as its value. -/
theorem readWord?_of_isWordNumeral {ds : List Char} (hne : ds ≠ []) (h : IsWordNumeral ds) :
    readWord? ds = some (numeralValue ds) := by
  have hall : ds.all isAsciiDigit = true := List.all_eq_true.mpr h.1
  have hval : Nat.ofDigitChars 10 ds 0 < wordLimit := h.2
  simp [readWord?, hne, hall, hval, numeralValue]

/-- A number is written with ASCII digits only. -/
theorem isAsciiDigit_of_mem_decimal {n : Nat} {c : Char} (hc : c ∈ decimal n) :
    isAsciiDigit c = true :=
  isAsciiDigit_of_isDigit (Nat.isDigit_of_mem_toDigits (by decide) (by decide) hc)

/-- A written number is a numeral, zero included. -/
theorem isNumeral_decimal (n : Nat) : IsNumeral (decimal n) :=
  ⟨Nat.toDigits_ne_nil, fun _ hc => isDecimalDigit_of_isAsciiDigit (isAsciiDigit_of_mem_decimal hc)⟩

@[simp] theorem numeralValue_decimal (n : Nat) : numeralValue (decimal n) = n :=
  Nat.ofDigitChars_ten_toDigits

/-- What is written for a word is read as a word again. -/
theorem isWordNumeral_decimal {n : Nat} (hn : n < wordLimit) : IsWordNumeral (decimal n) :=
  ⟨fun _ hc => isAsciiDigit_of_mem_decimal hc, by rw [numeralValue_decimal]; exact hn⟩

/-! ### Tokens and groups -/

/-- A token of a marker group: `#` and a number, or two numbers with a colon between them. -/
structure Token where
  first : List Char
  second : Option (List Char)
  first_isNumeral : IsNumeral first
  second_isNumeral : ∀ ds ∈ second, IsNumeral ds

namespace Token

/-- The text of a token. -/
def text (t : Token) : List Char :=
  match t.second with
  | none => '#' :: t.first
  | some ds => '#' :: (t.first ++ ':' :: ds)

/-- The first template line that the token names, when its numbers are words. -/
def startLine (t : Token) : Nat := numeralValue t.first

/-- The last template line that the token names; the first one when there is no second number. -/
def stopLine (t : Token) : Nat :=
  match t.second with
  | none => t.startLine
  | some ds => numeralValue ds

/-- The numbers of the token are words. -/
def NamesLines (t : Token) : Prop := IsWordNumeral t.first ∧ ∀ ds ∈ t.second, IsWordNumeral ds

instance (t : Token) : Decidable t.NamesLines :=
  inferInstanceAs (Decidable (IsWordNumeral t.first ∧ ∀ ds ∈ t.second, IsWordNumeral ds))

end Token

/-- A white-space character. -/
abbrev Blank := {c : Char // isBlank c = true}

/-- One or more tokens, with at most one blank between two of them. -/
inductive MarkerGroup where
  | one (t : Token)
  | more (t : Token) (gap : Option Blank) (rest : MarkerGroup)

namespace MarkerGroup

/-- The blank between two tokens, if there is one. -/
def gapText : Option Blank → List Char
  | none => []
  | some c => [c.val]

/-- The text of a group. -/
def text : MarkerGroup → List Char
  | one t => t.text
  | more t gap rest => t.text ++ (gapText gap ++ rest.text)

/-- The first token of a group. -/
def first : MarkerGroup → Token
  | one t => t
  | more t _ _ => t

/-- The text of a group behind its first token. -/
def tailText : MarkerGroup → List Char
  | one _ => []
  | more _ gap rest => gapText gap ++ rest.text

/-- A group begins with its first token. -/
theorem text_eq (g : MarkerGroup) : g.text = g.first.text ++ g.tailText := by
  cases g with
  | one t => simp [text, first, tailText]
  | more t gap rest => rfl

/-- So it begins with a sharp. -/
theorem text_eq_cons (g : MarkerGroup) : ∃ cs, g.text = '#' :: cs := by
  rw [text_eq, Token.text]
  split
  · exact ⟨_, rfl⟩
  · exact ⟨_, rfl⟩

end MarkerGroup

/-! ### What the reader accepts is a group -/

/-- What the rest of a text does from a state of the reader on: together with any characters that
    lead to the state it spells a group. -/
def GroupState.Completes : GroupState → List Char → Prop
  | .token, cs => ∃ g : MarkerGroup, g.text = cs
  | .sharp, cs => ∃ g : MarkerGroup, g.text = '#' :: cs
  | .first, cs => ∀ ds, IsNumeral ds → ∃ g : MarkerGroup, g.text = '#' :: (ds ++ cs)
  | .colon, cs => ∀ ds, IsNumeral ds → ∃ g : MarkerGroup, g.text = '#' :: (ds ++ ':' :: cs)
  | .second, cs =>
    ∀ ds es, IsNumeral ds → IsNumeral es →
      ∃ g : MarkerGroup, g.text = '#' :: (ds ++ ':' :: (es ++ cs))

/-- What follows a token makes a group with it, when it is a group behind an optional blank. -/
theorem exists_group_of_afterToken {s : GroupState} {c : Char} {cs : List Char} (t : Token)
    (hc : GroupState.afterToken c = some s) (hcs : s.Completes cs) :
    ∃ g : MarkerGroup, g.text = t.text ++ c :: cs := by
  simp only [GroupState.afterToken] at hc
  -- A group goes on with a token right away or after one blank.
  split at hc
  · next hsharp =>
    cases hc
    obtain ⟨g, hg⟩ := hcs
    exact ⟨.more t none g, by simp [MarkerGroup.text, MarkerGroup.gapText, hg, hsharp]⟩
  · split at hc
    · next hblank =>
      cases hc
      obtain ⟨g, hg⟩ := hcs
      exact ⟨.more t (some ⟨c, hblank⟩) g, by simp [MarkerGroup.text, MarkerGroup.gapText, hg]⟩
    · cases hc

/-- The token with one number. -/
def Token.single (ds : List Char) (hds : IsNumeral ds) : Token := ⟨ds, none, hds, by simp⟩

/-- The token with two numbers. -/
def Token.pair (ds es : List Char) (hds : IsNumeral ds) (hes : IsNumeral es) : Token :=
  ⟨ds, some es, hds, by simpa using hes⟩

/-- What the reader accepts from a state on completes every beginning of a group that leads to the
    state. -/
theorem completes_of_completesGroup {s : GroupState} {cs : List Char}
    (h : completesGroup s cs = true) :
    s.Completes cs := by
  induction cs generalizing s with
  | nil =>
    -- The text may end only within a number, which then is the last of its token.
    cases s with
    | token => simp [completesGroup] at h
    | sharp => simp [completesGroup] at h
    | first =>
      exact fun ds hds => ⟨.one (.single ds hds),
        by simp [MarkerGroup.text, Token.text, Token.single]⟩
    | colon => simp [completesGroup] at h
    | second =>
      exact fun ds es hds hes =>
        ⟨.one (.pair ds es hds hes), by simp [MarkerGroup.text, Token.text, Token.pair]⟩
  | cons c cs ih =>
    simp only [completesGroup] at h
    split at h
    · next t ht =>
      -- By induction the rest completes the next state; `c` joins what led to the state `s`.
      have hcs := ih h
      cases s with
      | token =>
        simp only [GroupState.next] at ht
        split at ht
        · next hc => cases ht; subst hc; exact hcs
        · cases ht
      | sharp =>
        simp only [GroupState.next] at ht
        split at ht
        · next hc => cases ht; exact hcs [c] ⟨by simp, by simpa using hc⟩
        · cases ht
      | first =>
        intro ds hds
        simp only [GroupState.next] at ht
        split at ht
        · next hc => cases ht; simpa using hcs (ds ++ [c]) (hds.append_digit hc)
        · split at ht
          · next hc => cases ht; subst hc; exact hcs ds hds
          · simpa [Token.text, Token.single]
              using exists_group_of_afterToken (.single ds hds) ht hcs
      | colon =>
        intro ds hds
        simp only [GroupState.next] at ht
        split at ht
        · next hc => cases ht; exact hcs ds [c] hds ⟨by simp, by simpa using hc⟩
        · cases ht
      | second =>
        intro ds es hds hes
        simp only [GroupState.next] at ht
        split at ht
        · next hc => cases ht; simpa using hcs ds (es ++ [c]) hds (hes.append_digit hc)
        · simpa [Token.text, Token.pair]
            using exists_group_of_afterToken (.pair ds es hds hes) ht hcs
    · cases h

/-! ### A group is what the reader accepts -/

/-- A state in which digits may go on takes any number of them. -/
theorem completesGroup_digits {s : GroupState}
    (hs : ∀ c, isDecimalDigit c = true → s.next c = some s)
    {ds : List Char} (hds : ∀ c ∈ ds, isDecimalDigit c = true) (cs : List Char) :
    completesGroup s (ds ++ cs) = completesGroup s cs := by
  induction ds with
  | nil => rfl
  | cons d ds ih =>
    have hd : s.next d = some s := hs d (hds d (by simp))
    simp only [List.cons_append, completesGroup, hd]
    exact ih (fun c hc => hds c (List.mem_cons_of_mem d hc))

/-- Within a number a digit changes nothing. -/
theorem next_first_digit (c : Char) (hc : isDecimalDigit c = true) :
    GroupState.first.next c = some .first := by
  simp [GroupState.next, hc]

theorem next_second_digit (c : Char) (hc : isDecimalDigit c = true) :
    GroupState.second.next c = some .second := by
  simp [GroupState.next, hc]

/-- The state of the reader behind a token. -/
def Token.lastState (t : Token) : GroupState := if t.second.isSome then .second else .first

/-- A sharp and a numeral take the reader to where the first number of a token may end. -/
theorem completesGroup_sharp {ds : List Char} (hds : IsNumeral ds) (cs : List Char) :
    completesGroup .token ('#' :: (ds ++ cs)) = completesGroup .first cs := by
  obtain ⟨hne, hdigits⟩ := hds
  cases ds with
  | nil => exact absurd rfl hne
  | cons d ds =>
    have hd : isDecimalDigit d = true := hdigits d (by simp)
    have hrest := completesGroup_digits next_first_digit
      (fun c hc => hdigits c (List.mem_cons_of_mem d hc)) cs
    simp [completesGroup, GroupState.next, hd, hrest]

/-- The reader takes a whole token in its stride. -/
theorem completesGroup_token (t : Token) (cs : List Char) :
    completesGroup .token (t.text ++ cs) = completesGroup t.lastState cs := by
  obtain ⟨first, second, hfirst, hsecond⟩ := t
  cases second with
  | none => simpa [Token.text, Token.lastState] using completesGroup_sharp hfirst cs
  | some es =>
    obtain ⟨hne, hdigits⟩ := hsecond es rfl
    simp only [Token.text, Token.lastState, List.cons_append, List.append_assoc,
      Option.isSome_some, if_true]
    -- Behind the first number stand the colon and the second one.
    rw [completesGroup_sharp hfirst]
    cases es with
    | nil => exact absurd rfl hne
    | cons e es =>
      have he : isDecimalDigit e = true := hdigits e (by simp)
      have hcolon : isDecimalDigit ':' = false := by decide
      have hrest := completesGroup_digits next_second_digit
        (fun c hc => hdigits c (List.mem_cons_of_mem e hc)) cs
      simp [completesGroup, GroupState.next, hcolon, he, hrest]

/-- Behind a token the reader goes on as at the start of a group, with or without a blank before
    it. -/
theorem completesGroup_lastState (t : Token) (gap : Option Blank) (g : MarkerGroup) :
    completesGroup t.lastState (MarkerGroup.gapText gap ++ g.text)
      = completesGroup .token g.text := by
  obtain ⟨cs, hcs⟩ := g.text_eq_cons
  have hsharp : isDecimalDigit '#' = false := by decide
  -- Neither a blank nor `#` goes on with the number, whichever of the two it is.
  cases gap with
  | none =>
    simp only [MarkerGroup.gapText, List.nil_append, hcs, Token.lastState]
    split <;> simp [completesGroup, GroupState.next, GroupState.afterToken, hsharp]
  | some c =>
    have hdigit := isDecimalDigit_of_isBlank c.property
    have hne : c.val ≠ '#' := ne_of_isBlank c.property (by decide)
    have hne' : c.val ≠ ':' := ne_of_isBlank c.property (by decide)
    simp only [MarkerGroup.gapText, List.singleton_append, Token.lastState]
    split <;> simp [completesGroup, GroupState.next, GroupState.afterToken, hdigit, hne, hne',
      c.property]

/-- The reader accepts the text of every group. -/
theorem isMarkerGroup_text (g : MarkerGroup) : isMarkerGroup g.text = true := by
  induction g with
  | one t =>
    have h := completesGroup_token t []
    rw [List.append_nil] at h
    rw [isMarkerGroup, MarkerGroup.text, h, Token.lastState]
    split <;> rfl
  | more t gap rest ih =>
    rw [isMarkerGroup, MarkerGroup.text, completesGroup_token, completesGroup_lastState]
    exact ih

/-- **Grammar.** The reader accepts exactly the texts of groups. -/
theorem isMarkerGroup_iff {cs : List Char} :
    isMarkerGroup cs = true ↔ ∃ g : MarkerGroup, g.text = cs := by
  constructor
  · exact completes_of_completesGroup
  · rintro ⟨g, rfl⟩
    exact isMarkerGroup_text g

end ChartTrace
