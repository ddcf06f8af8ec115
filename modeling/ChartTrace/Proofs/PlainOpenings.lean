import ChartTrace.Proofs.DirectiveLines

namespace ChartTrace

/-!
# Plain openings

An opening delimiter stands plainly on its line when it is outside comments and strings and opens no
variable.  A line with one has a directive; it is missed when the searches find something else on the line,
or take the text between two strings for a string.

* `OpensPlainly`: an opening delimiter that stands plainly between the two sides of its line;
* `OpensBetween.cases`: where another opening delimiter of the line can be;
* `commentsOpening_append`, `quotesOpening_append`, `holdsVariable_append`: what a search finds on the line
  comes from one of the sides, except for the two ends of a string;
* `plainOpening_missed_iff`: so the sides say when a plain opening is missed.
-/

/-- The opening delimiter between the two texts is outside comments and strings, and no dollar sign makes it
    that of a variable. -/
structure OpensPlainly (line before after : List Char) : Prop where
  opens : OpensBetween line before after
  uncommented : '#' ∉ before
  outsideStrings : ∀ quote ∈ ['\x27', '\x22'], before.count quote % 2 = 0
  noDollar : before.getLast? ≠ some '$'

/-- An opening delimiter with the same quote on both sides. -/
def QuotesOpening (quote : Char) (text : List Char) : Prop :=
  ∃ before after, OpensBetween text before after ∧ quote ∈ before ∧ quote ∈ after

/-- A dollar sign with a name between delimiters. -/
def HoldsVariable (text : List Char) : Prop :=
  ∃ name, name ≠ [] ∧ (∀ c ∈ name, isWordChar c = true ∨ isBlank c = true)
    ∧ ['$'] ++ openingText ++ name ++ closingText <:+: text

/-! ### Two openings on a line -/

/-- A text that starts with an opening delimiter and has one further on: the two are the same, they overlap,
    or there is something between them. -/
theorem openingText_append_eq {rest skipped after : List Char}
    (h : openingText ++ rest = skipped ++ (openingText ++ after)) :
    (skipped = [] ∧ rest = after) ∨ (skipped = [openBrace] ∧ rest = openBrace :: after)
      ∨ ∃ middle, skipped = openingText ++ middle ∧ rest = middle ++ openingText ++ after := by
  -- The second opening is the same one, begins with its second brace, or stands behind it.
  rcases skipped with _ | ⟨c, _ | ⟨d, middle⟩⟩
  · exact Or.inl ⟨rfl, List.append_cancel_left h⟩
  · simp only [openingText, List.cons_append, List.nil_append, List.cons.injEq] at h
    obtain ⟨rfl, -, rfl⟩ := h
    exact Or.inr (Or.inl ⟨rfl, rfl⟩)
  · simp only [openingText, List.cons_append, List.nil_append, List.cons.injEq] at h
    obtain ⟨rfl, rfl, rfl⟩ := h
    exact Or.inr (Or.inr ⟨middle, rfl, by simp [openingText]⟩)

/-- Where an opening delimiter can be on a line that has one between `before` and `after`. -/
theorem OpensBetween.cases {line b a before after : List Char} (h : OpensBetween line b a)
    (hline : OpensBetween line before after) :
    (∃ middle, before = b ++ openingText ++ middle ∧ a = middle ++ openingText ++ after)
      ∨ (∃ middle, after = middle ++ openingText ++ a ∧ b = before ++ openingText ++ middle)
      ∨ (b = before ∧ a = after)
      ∨ (before = b ++ [openBrace] ∧ a = openBrace :: after)
      ∨ (b = before ++ [openBrace] ∧ after = openBrace :: a) := by
  have heq : b ++ (openingText ++ a) = before ++ (openingText ++ after) := by
    rw [← List.append_assoc, ← List.append_assoc, ← h, ← hline]
  -- Whichever of the two comes first, the other is cut from what follows.
  rcases List.append_eq_append_iff.mp heq with ⟨skipped, rfl, hrest⟩ | ⟨skipped, rfl, hrest⟩
  · rcases openingText_append_eq hrest with ⟨rfl, rfl⟩ | ⟨rfl, rfl⟩ | ⟨middle, rfl, rfl⟩
    · simp
    · simp
    · exact Or.inl ⟨middle, by simp, rfl⟩
  · rcases openingText_append_eq hrest with ⟨rfl, rfl⟩ | ⟨rfl, rfl⟩ | ⟨middle, rfl, rfl⟩
    · simp
    · simp
    · exact Or.inr (Or.inl ⟨middle, rfl, by simp⟩)

/-! ### The searches on the two sides -/

section

variable {before after : List Char}

/-- A comment on the line starts behind the opening. -/
theorem commentsOpening_append (hbefore : '#' ∉ before) :
    CommentsOpening (before ++ openingText ++ after) ↔ CommentsOpening after := by
  constructor
  · rintro ⟨us, vs, ws, heq, hvs⟩
    have hstart : '#' ∉ before ++ openingText := by simp [hbefore, openingText, openBrace]
    rcases List.append_eq_append_iff.mp heq with ⟨cs, rfl, hafter⟩ | ⟨cs, hcs, hafter⟩
    · exact ⟨cs, vs, ws, hafter, hvs⟩
    · cases cs with
      | nil => exact ⟨[], vs, ws, hafter.symm, hvs⟩
      | cons c cs =>
        -- The comment sign would stand in front of the opening.
        obtain ⟨rfl, -⟩ := List.cons.inj hafter
        rw [hcs] at hstart
        exact absurd (by simp) hstart
  · rintro ⟨us, vs, ws, rfl, hvs⟩
    exact ⟨before ++ openingText ++ us, vs, ws, by simp, hvs⟩

/-- Quotes around an opening are on one side of the line, or one of them is on each side. -/
theorem quotesOpening_append {quote : Char} (hquote : quote ∉ openingText) :
    QuotesOpening quote (before ++ openingText ++ after)
      ↔ QuotesOpening quote before ∨ QuotesOpening quote after ∨ (quote ∈ before ∧ quote ∈ after) := by
  have hbrace : quote ≠ openBrace := by
    rintro rfl
    simp [openingText] at hquote
  constructor
  · rintro ⟨b, a, hopens, hb, ha⟩
    rcases hopens.cases rfl with ⟨middle, rfl, rfl⟩ | ⟨middle, rfl, rfl⟩ | ⟨rfl, rfl⟩ | ⟨rfl, rfl⟩
      | ⟨rfl, rfl⟩
    · -- The opening is before ours, and its second quote may be behind ours.
      by_cases hmiddle : quote ∈ middle
      · exact Or.inl ⟨b, middle, rfl, hb, hmiddle⟩
      · have hafter : quote ∈ after := by simpa [hmiddle, hquote] using ha
        exact Or.inr (Or.inr ⟨by simp [hb], hafter⟩)
    · -- And the same the other way round.
      by_cases hmiddle : quote ∈ middle
      · exact Or.inr (Or.inl ⟨middle, a, rfl, hmiddle, ha⟩)
      · have hbefore : quote ∈ before := by simpa [hmiddle, hquote] using hb
        exact Or.inr (Or.inr ⟨hbefore, by simp [ha]⟩)
    · exact Or.inr (Or.inr ⟨hb, ha⟩)
    · exact Or.inr (Or.inr ⟨by simp [hb], by simpa [hbrace] using ha⟩)
    · exact Or.inr (Or.inr ⟨by simpa [hbrace] using hb, by simp [ha]⟩)
  · rintro (⟨b, a, rfl, hb, ha⟩ | ⟨b, a, rfl, hb, ha⟩ | ⟨hb, ha⟩)
    · exact ⟨b, a ++ openingText ++ after, by simp [OpensBetween], hb, by simp [ha]⟩
    · exact ⟨before ++ openingText ++ b, a, by simp [OpensBetween], by simp [hb], ha⟩
    · exact ⟨before, after, rfl, hb, ha⟩

/-- Nothing in a name or its closing delimiter is an opening brace. -/
theorem openBrace_notMem_name {name : List Char}
    (hname : ∀ c ∈ name, isWordChar c = true ∨ isBlank c = true) :
    openBrace ∉ name ++ closingText := by
  -- A brace is neither a word character nor a blank, and the closing is made of other braces.
  have hword : (isWordChar openBrace || isBlank openBrace) = false := by decide +kernel
  intro hmem
  rcases List.mem_append.mp hmem with hmem | hmem
  · have hbrace := hname openBrace hmem
    rw [← Bool.or_eq_true, hword] at hbrace
    cases hbrace
  · exact absurd hmem (by decide)

/-- What does not hold an opening brace ends in front of an opening delimiter. -/
theorem append_eq_of_notMem {cs rest middle after : List Char} (hcs : openBrace ∉ cs)
    (h : cs ++ rest = middle ++ (openingText ++ after)) : ∃ tail, middle = cs ++ tail := by
  rcases List.append_eq_append_iff.mp h with ⟨tail, hmiddle, -⟩ | ⟨tail, rfl, hrest⟩
  · exact ⟨tail, hmiddle⟩
  · cases tail with
    | nil => exact ⟨[], by simp⟩
    | cons c tail =>
      obtain ⟨rfl, -⟩ := List.cons.inj hrest
      exact absurd (by simp) hcs

/-- A variable keeps clear of an opening that no dollar sign precedes. -/
theorem holdsVariable_append (hbefore : before.getLast? ≠ some '$') :
    HoldsVariable (before ++ openingText ++ after) ↔ HoldsVariable before ∨ HoldsVariable after := by
  constructor
  · rintro ⟨name, hne, hname, us, ws, heq⟩
    have hopens : OpensBetween (before ++ openingText ++ after) (us ++ ['$']) (name ++ closingText ++ ws) := by
      rw [OpensBetween, ← heq]
      simp
    have hclear := openBrace_notMem_name hname
    rcases hopens.cases rfl with ⟨middle, rfl, hrest⟩ | ⟨middle, rfl, hstart⟩ | ⟨hsame, -⟩
      | ⟨-, hrest⟩ | ⟨hstart, -⟩
    · -- The name and its end lie between the two openings.
      obtain ⟨tail, rfl⟩ := append_eq_of_notMem hclear (hrest.trans (List.append_assoc _ _ _))
      exact Or.inl ⟨name, hne, hname, us, tail, by simp⟩
    · -- The dollar sign lies between the two openings.
      rcases List.eq_nil_or_concat' middle with rfl | ⟨init, c, rfl⟩
      · have hlast := congrArg List.getLast? hstart
        simp [openingText, openBrace] at hlast
      · obtain ⟨-, hc⟩ := List.append_inj' (hstart.trans (List.append_assoc _ _ _).symm) rfl
        cases hc
        exact Or.inr ⟨name, hne, hname, init, ws, by simp⟩
    · rw [← hsame] at hbefore
      simp at hbefore
    · -- The name would start with a brace.
      cases name with
      | nil => exact absurd rfl hne
      | cons c name =>
        obtain ⟨rfl, -⟩ := List.cons.inj hrest
        exact absurd (by simp) hclear
    · have hlast := congrArg List.getLast? hstart
      simp [openBrace] at hlast
  · rintro (⟨name, hne, hname, hheld⟩ | ⟨name, hne, hname, hheld⟩)
    · exact ⟨name, hne, hname, hheld.trans ⟨[], openingText ++ after, by simp⟩⟩
    · exact ⟨name, hne, hname, hheld.trans ⟨before ++ openingText, [], by simp⟩⟩

end

/-! ### Missed lines -/

/-- A line that opens an action is missed when one of the four searches finds something. -/
theorem hasDirective_eq_false_iff {line before after : List Char} (h : OpensBetween line before after) :
    hasDirective line = false ↔ CommentsOpening line ∨ QuotesOpening '\x27' line
      ∨ QuotesOpening '\x22' line ∨ HoldsVariable line := by
  rw [hasDirective, holdsOpening_iff.mpr ⟨before, after, h⟩, Bool.true_and, Bool.not_eq_false',
    Bool.or_eq_true, Bool.or_eq_true, Bool.or_eq_true, commentsOpening_iff, quotedOpening_iff (by decide),
    quotedOpening_iff (by decide), pipelineVariable_iff, or_assoc, or_assoc]
  rfl

/-- **Missed openings.** A line with a plain opening is missed exactly if one of its sides holds what a search
    is for, a commented opening behind the plain one, an opening in quotes or a variable on either side, or if
    a string lies in front of the plain opening and a quote of the same kind behind it. -/
theorem plainOpening_missed_iff (line before after : List Char) (h : OpensPlainly line before after) :
    hasDirective line = false
      ↔ CommentsOpening after
        ∨ (∃ quote ∈ ['\x27', '\x22'], QuotesOpening quote before ∨ QuotesOpening quote after
          ∨ (2 ≤ before.count quote ∧ quote ∈ after))
        ∨ HoldsVariable before ∨ HoldsVariable after := by
  -- A quote in front of the opening is never alone.
  have hpair : ∀ quote ∈ ['\x27', '\x22'], quote ∈ before ↔ 2 ≤ before.count quote := by
    intro quote hquote
    have heven := h.outsideStrings quote hquote
    rw [← List.count_pos_iff]
    omega
  rw [hasDirective_eq_false_iff h.opens]
  obtain ⟨rfl, hcomment, -, hdollar⟩ := h
  rw [commentsOpening_append hcomment, quotesOpening_append (by decide), quotesOpening_append (by decide),
    holdsVariable_append hdollar, hpair _ (by simp), hpair _ (by simp)]
  simp [or_assoc]

/-- What follows an opening in `a }} # {{ b }}`: another one, in a comment. -/
def commentBehind : List Char :=
  ['a', closeBrace, closeBrace, ' ', '#', ' ', openBrace, openBrace, 'b', closeBrace, closeBrace]

/-- Nothing excuses the first opening, and the line is missed for the comment behind it. -/
theorem plainOpening_missed_iff_commentBehind :
    OpensPlainly (openingText ++ commentBehind) [] commentBehind
    ∧ CommentsOpening commentBehind
    ∧ hasDirective (openingText ++ commentBehind) = false := by
  have hplain : OpensPlainly (openingText ++ commentBehind) [] commentBehind :=
    ⟨rfl, by simp, by simp, by simp⟩
  have hcomment : CommentsOpening commentBehind :=
    ⟨['a', closeBrace, closeBrace, ' '], [' '], ['b', closeBrace, closeBrace], rfl, by simp⟩
  exact ⟨hplain, hcomment,
    (plainOpening_missed_iff (openingText ++ commentBehind) [] commentBehind hplain).mpr (Or.inl hcomment)⟩

/-- A string in front of an opening. -/
def stringBefore : List Char := ['\x27', 'a', '\x27', ' ']

/-- The rest of an action, and a second string. -/
def stringBehind : List Char := ['b', closeBrace, closeBrace, ' ', '\x27', 'c', '\x27']

/-- **A miss.** The opening is outside both strings, but the text between them is taken for a string. -/
theorem plainOpening_between_strings_missed :
    OpensPlainly (stringBefore ++ openingText ++ stringBehind) stringBefore stringBehind
    ∧ hasDirective (stringBefore ++ openingText ++ stringBehind) = false
    ∧ textHasDirective (stringBefore ++ openingText ++ stringBehind) = false := by
  refine ⟨⟨rfl, by decide, ?_, by decide⟩, by decide +kernel, by decide +kernel⟩
  exact List.forall_mem_cons.mpr ⟨by decide, List.forall_mem_singleton.mpr (by decide)⟩

end ChartTrace
