import ChartTrace.Detection
import ChartTrace.Proofs.Lines
import ChartTrace.Proofs.PlainDelimiters
import Mathlib.Data.List.TakeWhile

namespace ChartTrace

/-!
# Lines with a directive

A line that opens an action holds a directive unless one of four searches finds something in it.  Three of
them come down to what stands on the two sides of an opening delimiter, wherever there is one.

* `OpensBetween`, `HoldsDirective`: an opening delimiter between two texts, and what a line with a
  directive may have around it;
* `anySuffix_eq_true_iff`: a search tries each place of the line;
* `holdsOpening_iff`, `commentsOpening_iff`, `quotedOpening_iff`, `pipelineVariable_iff`: what each search
  finds; `commentedOpening_iff` is the form for a single line;
* `hasDirective_iff_holdsDirective`: the decision for a line and for a text.
-/

/-- What opens an action. -/
def openingText : List Char := [openBrace, openBrace]

/-- The line has an opening delimiter between the two texts. -/
def OpensBetween (line before after : List Char) : Prop := line = before ++ openingText ++ after

/-- What makes a line one with a directive: it opens an action, nowhere after a comment sign, nowhere with
    the same quote on both sides, and it holds no pipeline variable. -/
structure HoldsDirective (line : List Char) : Prop where
  opens : ∃ before after, OpensBetween line before after
  uncommented : ∀ before after, OpensBetween line before after → '#' ∉ before
  unquoted : ∀ quote ∈ ['\x27', '\x22'], ∀ before after, OpensBetween line before after →
    ¬ (quote ∈ before ∧ quote ∈ after)
  noVariable : ∀ name, name ≠ [] → (∀ c ∈ name, isWordChar c = true ∨ isBlank c = true) →
    ¬ ['$'] ++ openingText ++ name ++ closingText <:+: line

/-! ### Searches -/

/-- A search tries the text from each of its characters on. -/
theorem anySuffix_eq_true_iff {p : List Char → Bool} {cs : List Char} :
    anySuffix p cs = true ↔ ∃ us vs, cs = us ++ vs ∧ p vs = true := by
  induction cs with
  | nil => simp [anySuffix]
  | cons c cs ih =>
    rw [anySuffix, Bool.or_eq_true, ih]
    -- The suffix is the whole text or one of the rest, just as `us` is empty or begins with `c`.
    constructor
    · rintro (h | ⟨us, vs, rfl, h⟩)
      · exact ⟨[], c :: cs, rfl, h⟩
      · exact ⟨c :: us, vs, rfl, h⟩
    · rintro ⟨us, vs, hcs, h⟩
      cases us with
      | nil => exact Or.inl (hcs ▸ h)
      | cons u us =>
        obtain ⟨rfl, rfl⟩ := List.cons.inj hcs
        exact Or.inr ⟨us, vs, rfl, h⟩

/-- A text starts with a doubled character exactly when the character stands twice in front. -/
theorem startsDoubled_eq_true_iff {c : Char} {cs : List Char} :
    startsDoubled c cs = true ↔ ∃ ds, cs = [c, c] ++ ds := by
  rcases cs with _ | ⟨a, _ | ⟨b, cs⟩⟩ <;> simp [startsDoubled]

/-- The search for an opening finds one wherever it stands: with any text before it and any after it. -/
theorem holdsOpening_iff {cs : List Char} :
    holdsOpening cs = true ↔ ∃ before after, OpensBetween cs before after := by
  rw [holdsOpening, anySuffix_eq_true_iff]
  constructor
  · rintro ⟨us, vs, rfl, h⟩
    obtain ⟨ds, rfl⟩ := startsDoubled_eq_true_iff.mp h
    exact ⟨us, ds, (List.append_assoc _ _ _).symm⟩
  · rintro ⟨before, after, rfl⟩
    exact ⟨before, openingText ++ after, List.append_assoc _ _ _,
      startsDoubled_eq_true_iff.mpr ⟨after, rfl⟩⟩

/-! ### Comments -/

/-- The form in which a search tests that a character is missing. -/
theorem bne_of_notMem {c : Char} {cs : List Char} (h : c ∉ cs) : ∀ d ∈ cs, (d != c) = true := by
  intro d hd
  simpa using ne_of_mem_of_not_mem hd h

/-- A comment sign with an opening delimiter behind it, and no line feed between the two. -/
def CommentsOpening (text : List Char) : Prop :=
  ∃ us vs ws, text = us ++ '#' :: (vs ++ openingText ++ ws) ∧ '\n' ∉ vs

/-- A comment reaches to the next line feed. -/
theorem commentsOpening_iff {text : List Char} :
    anySuffix startsCommentedOpening text = true ↔ CommentsOpening text := by
  rw [anySuffix_eq_true_iff]
  constructor
  · rintro ⟨us, vs, rfl, h⟩
    rw [startsCommentedOpening.eq_def] at h
    split at h
    · next cs =>
      obtain ⟨before, after, hcomment⟩ := holdsOpening_iff.mp h
      -- The comment goes up to the next line feed, and the opening lies in it.
      have hcs : before ++ openingText ++ (after ++ cs.dropWhile (· != '\n')) = cs := by
        rw [← List.append_assoc, ← hcomment]
        exact List.takeWhile_append_dropWhile
      refine ⟨us, before, _, by rw [hcs], fun hmem => ?_⟩
      have hinside : '\n' ∈ cs.takeWhile (· != '\n') := by
        rw [hcomment]
        simp [hmem]
      simpa using List.mem_takeWhile_imp hinside
    · cases h
  · rintro ⟨us, vs, ws, rfl, hvs⟩
    refine ⟨us, _, rfl, ?_⟩
    -- The search passes over `vs` and the opening, neither of which holds a line feed.
    have hstart : ∀ c ∈ vs ++ openingText, (c != '\n') = true := by
      apply bne_of_notMem
      simp [hvs, openingText, openBrace]
    rw [startsCommentedOpening, List.takeWhile_append_of_pos hstart]
    exact holdsOpening_iff.mpr ⟨vs, _, rfl⟩

/-- On a line without a line feed, a comment reaches to the end. -/
theorem commentedOpening_iff {line : List Char} (hline : '\n' ∉ line) :
    anySuffix startsCommentedOpening line = true
      ↔ ∃ before after, OpensBetween line before after ∧ '#' ∈ before := by
  rw [commentsOpening_iff]
  constructor
  · rintro ⟨us, vs, ws, rfl, -⟩
    exact ⟨us ++ '#' :: vs, ws, by simp [OpensBetween], by simp⟩
  · -- Any sharp in front will do, as there is no line feed that could end the comment.
    rintro ⟨before, after, rfl, hmem⟩
    obtain ⟨us, vs, rfl⟩ := List.append_of_mem hmem
    refine ⟨us, vs, after, by simp, fun hvs => hline ?_⟩
    simp [hvs]

/-! ### Quotes -/

/-- A member of a list has a last occurrence. -/
theorem exists_last_of_mem {α : Type} {a : α} {l : List α} (h : a ∈ l) :
    ∃ us vs, l = us ++ a :: vs ∧ a ∉ vs := by
  obtain ⟨vs, us, hl, hvs⟩ := List.eq_append_cons_of_mem (List.mem_reverse.mpr h)
  refine ⟨us.reverse, vs.reverse, ?_, by simpa using hvs⟩
  rw [← List.reverse_reverse l, hl]
  simp

/-- A quoted string reaches as far as the next quote. -/
theorem startsQuotedOpening_append {quote : Char} {inner : List Char} (hinner : quote ∉ inner)
    (rest : List Char) :
    startsQuotedOpening quote (quote :: (inner ++ quote :: rest)) = holdsOpening inner := by
  have hne := bne_of_notMem hinner
  simp [startsQuotedOpening, List.takeWhile_append_of_pos hne, List.dropWhile_append_of_pos hne]

/-- A quote that is not closed starts no string. -/
theorem startsQuotedOpening_eq_false {quote c : Char} {cs : List Char} (h : quote ∉ cs) :
    startsQuotedOpening quote (c :: cs) = false := by
  have hnil : cs.dropWhile (· != quote) = [] := List.dropWhile_eq_nil_iff.mpr (bne_of_notMem h)
  simp [startsQuotedOpening, hnil]

/-- An opening is taken for a quoted one exactly when a quote stands somewhere before it and somewhere
    after it, whether or not the two belong together. -/
theorem quotedOpening_iff {quote : Char} (hquote : quote ∉ openingText) {line : List Char} :
    anySuffix (startsQuotedOpening quote) line = true
      ↔ ∃ before after, OpensBetween line before after ∧ quote ∈ before ∧ quote ∈ after := by
  rw [anySuffix_eq_true_iff]
  constructor
  · rintro ⟨us, vs, rfl, h⟩
    cases vs with
    | nil => cases h
    | cons c cs =>
      by_cases hmem : quote ∈ cs
      · -- The string goes from `c` to the next quote, and the opening lies between them.
        obtain rfl : c = quote := by
          simp only [startsQuotedOpening, Bool.and_eq_true, beq_iff_eq] at h
          exact h.1.1
        obtain ⟨inner, rest, rfl, hinner⟩ := List.eq_append_cons_of_mem hmem
        rw [startsQuotedOpening_append hinner] at h
        obtain ⟨before, after, rfl⟩ := holdsOpening_iff.mp h
        exact ⟨us ++ c :: before, after ++ c :: rest, by simp [OpensBetween], by simp, by simp⟩
      · -- Without a second quote there is no string.
        rw [startsQuotedOpening_eq_false hmem] at h
        cases h
  · rintro ⟨before, after, rfl, hbefore, hafter⟩
    -- Of the quotes on each side, the nearest one is an end of the string.
    obtain ⟨us, vs, rfl, hvs⟩ := exists_last_of_mem hbefore
    obtain ⟨ws, rest, rfl, hws⟩ := List.eq_append_cons_of_mem hafter
    have hinner : quote ∉ vs ++ openingText ++ ws := by
      simp only [List.mem_append, not_or]
      exact ⟨⟨hvs, hquote⟩, hws⟩
    refine ⟨us, quote :: (vs ++ openingText ++ ws ++ quote :: rest), by simp, ?_⟩
    rw [startsQuotedOpening_append hinner]
    exact holdsOpening_iff.mpr ⟨vs, ws, rfl⟩

/-! ### Pipeline variables -/

/-- The name of a variable ends in front of its closing delimiter. -/
theorem dropWhile_name_append {name : List Char}
    (hname : ∀ c ∈ name, isWordChar c = true ∨ isBlank c = true) (rest : List Char) :
    (name ++ (closingText ++ rest)).dropWhile (fun c => isWordChar c || isBlank c)
      = closingText ++ rest := by
  have hend : (isWordChar closeBrace || isBlank closeBrace) = false := by decide +kernel
  rw [List.dropWhile_append_of_pos (by simpa using hname)]
  simp [closingText, hend]

/-- Behind the dollar and the opening the search wants a name, then a closing. -/
theorem startsPipelineVariable_opening (inner : List Char) :
    startsPipelineVariable ('$' :: (openingText ++ inner))
      = (decide ((inner.dropWhile fun c => isWordChar c || isBlank c).length < inner.length)
        && startsDoubled closeBrace (inner.dropWhile fun c => isWordChar c || isBlank c)) := by
  simp [startsPipelineVariable, openingText, startsDoubled]

/-- A line holds a pipeline variable exactly when a name of word characters and blanks stands between
    `$` with an opening and a closing. -/
theorem pipelineVariable_iff {line : List Char} :
    anySuffix startsPipelineVariable line = true
      ↔ ∃ name, name ≠ [] ∧ (∀ c ∈ name, isWordChar c = true ∨ isBlank c = true)
          ∧ ['$'] ++ openingText ++ name ++ closingText <:+: line := by
  rw [anySuffix_eq_true_iff]
  constructor
  · rintro ⟨us, vs, rfl, h⟩
    obtain ⟨inner, rfl⟩ : ∃ inner, vs = '$' :: (openingText ++ inner) := by
      rw [startsPipelineVariable.eq_def] at h
      split at h
      · next cs =>
        simp only [Bool.and_eq_true] at h
        obtain ⟨inner, rfl⟩ := startsDoubled_eq_true_iff.mp h.1.1
        exact ⟨inner, rfl⟩
      · cases h
    rw [startsPipelineVariable_opening, Bool.and_eq_true, decide_eq_true_eq] at h
    obtain ⟨hlength, hclose⟩ := h
    obtain ⟨rest, hrest⟩ := startsDoubled_eq_true_iff.mp hclose
    -- The name is what the search passes over.
    obtain ⟨name, hname, rfl⟩ : ∃ name, (∀ c ∈ name, isWordChar c = true ∨ isBlank c = true)
        ∧ inner = name ++ (closingText ++ rest) := by
      refine ⟨inner.takeWhile fun c => isWordChar c || isBlank c, fun c hc => ?_, ?_⟩
      · simpa using List.mem_takeWhile_imp hc
      · have hparts := List.takeWhile_append_dropWhile (p := fun c => isWordChar c || isBlank c)
          (l := inner)
        rw [hrest] at hparts
        exact hparts.symm
    have hne : name ≠ [] := by
      rintro rfl
      rw [dropWhile_name_append hname] at hlength
      exact Nat.lt_irrefl _ hlength
    exact ⟨name, hne, hname, us, rest, by simp⟩
  · rintro ⟨name, hne, hname, us, rest, rfl⟩
    refine ⟨us, '$' :: (openingText ++ (name ++ (closingText ++ rest))), by simp, ?_⟩
    rw [startsPipelineVariable_opening, dropWhile_name_append hname]
    have hpos : 0 < name.length := List.length_pos_iff.mpr hne
    have hlength : (closingText ++ rest).length < (name ++ (closingText ++ rest)).length := by
      simp only [List.length_append]
      omega
    exact Bool.and_eq_true_iff.mpr
      ⟨decide_eq_true hlength, startsDoubled_eq_true_iff.mpr ⟨rest, rfl⟩⟩

/-! ### The decision -/

/-- A line has a directive exactly when it holds an opening and nothing excuses it. -/
theorem hasDirective_iff {line : List Char} (hline : '\n' ∉ line) :
    hasDirective line = true ↔ HoldsDirective line := by
  rw [hasDirective, Bool.and_eq_true, Bool.not_eq_true', ← Bool.not_eq_true, Bool.or_eq_true,
    Bool.or_eq_true, Bool.or_eq_true, holdsOpening_iff, commentedOpening_iff hline,
    quotedOpening_iff (by decide), quotedOpening_iff (by decide), pipelineVariable_iff]
  -- The four searches are the three ways to be excused, one of them for each kind of quote.
  constructor
  · rintro ⟨hopens, hnone⟩
    refine ⟨hopens, ?_, ?_, ?_⟩
    · intro before after hbetween hmem
      exact hnone (Or.inl (Or.inl (Or.inl ⟨before, after, hbetween, hmem⟩)))
    · intro quote hquote before after hbetween hmem
      rcases List.mem_pair.mp hquote with rfl | rfl
      · exact hnone (Or.inl (Or.inl (Or.inr ⟨before, after, hbetween, hmem⟩)))
      · exact hnone (Or.inl (Or.inr ⟨before, after, hbetween, hmem⟩))
    · intro name hne hname hheld
      exact hnone (Or.inr ⟨name, hne, hname, hheld⟩)
  · intro h
    refine ⟨h.opens, ?_⟩
    rintro (((⟨before, after, hbetween, hmem⟩ | ⟨before, after, hbetween, hmem⟩)
      | ⟨before, after, hbetween, hmem⟩) | ⟨name, hne, hname, hheld⟩)
    · exact h.uncommented before after hbetween hmem
    · exact h.unquoted _ (by simp) before after hbetween hmem
    · exact h.unquoted _ (by simp) before after hbetween hmem
    · exact h.noVariable name hne hname hheld

/-- **Directive detection.** A line is taken for one with a directive exactly if it opens an action and
    none of its opening delimiters has a comment sign before it, or the same quote on both sides, and there
    is no pipeline variable in it.  A text is taken for a template exactly if one of its lines is. -/
theorem hasDirective_iff_holdsDirective (line text : List Char) (hline : '\n' ∉ line) :
    (hasDirective line = true ↔ HoldsDirective line)
      ∧ (textHasDirective text = true ↔ ∃ l ∈ splitLines text, HoldsDirective l.content) := by
  refine ⟨hasDirective_iff hline, ?_⟩
  rw [textHasDirective, List.any_eq_true]
  refine exists_congr fun l => and_congr_right fun hl => hasDirective_iff fun hmem => ?_
  have hone := (areLines_splitLines text).onOneLine l hl '\n' hmem
  cases hone

/-- One single and one double quote, neither of them with another of its kind, and a pipeline variable
    with a dot in its name. -/
def unpairedQuotes : List Char :=
  ['\x27', openBrace, openBrace, 'a', closeBrace, closeBrace, '\x22', '$', openBrace, openBrace, 'b',
    '.', 'c', closeBrace, closeBrace]

/-- The same line after one that is a comment. -/
theorem hasDirective_iff_holdsDirective_unpairedQuotes :
    '\n' ∉ unpairedQuotes ∧ HoldsDirective unpairedQuotes
      ∧ ∃ l ∈ splitLines (['#', openBrace, openBrace, '\n'] ++ unpairedQuotes),
          HoldsDirective l.content := by
  have hline : '\n' ∉ unpairedQuotes := by decide
  obtain ⟨hholds, htext⟩ := hasDirective_iff_holdsDirective unpairedQuotes
    (['#', openBrace, openBrace, '\n'] ++ unpairedQuotes) hline
  exact ⟨hline, hholds.mp (by decide +kernel), htext.mp (by decide +kernel)⟩

end ChartTrace
