import ChartTrace.Proofs.MarkerGroups
import Mathlib.Data.List.Infix

namespace ChartTrace

/-!
# Taking markers off a line

What `stripMarker` leaves of a line, told from what the line is made of:

* `splitMarkerGroup_append`, `splitMarkerGroup_eq_none`: the cut is in front of the longest group at
  the end of the line, and there is none when no group ends the line;
* `groupLines?_text`: the first token alone decides which template lines a group names;
* `EndsInToken`: a text with a token at its end;
* `stripMarker_append`: a line made of a content, a blank and a group loses the blank and the group,
  when the content does not end in a token;
* `stripMarker_of_not_endsInToken`: a line that does not end in a token stays as it is.
-/

/-! ### The longest group at the end of a line -/

theorem not_isMarkerGroup_nil : isMarkerGroup [] = false := rfl

/-- Where no suffix is a group, none is split off. -/
theorem splitMarkerGroup_eq_none {cs : List Char}
    (h : ∀ s, s <:+ cs → isMarkerGroup s = false) : splitMarkerGroup cs = none := by
  induction cs with
  | nil => rfl
  | cons c cs ih =>
    have hcs := ih (fun s hs => h s (hs.trans (List.suffix_cons c cs)))
    rw [splitMarkerGroup, if_neg (by simp [h (c :: cs) (List.suffix_refl _)]), hcs]
    rfl

/-- The cut stands in front of a group that no character before it belongs to. -/
theorem splitMarkerGroup_append {before group : List Char} (hgroup : isMarkerGroup group = true)
    (hbefore : ∀ s, s <:+ before → s ≠ [] → isMarkerGroup (s ++ group) = false) :
    splitMarkerGroup (before ++ group) = some (before, group) := by
  induction before with
  | nil =>
    cases group with
    | nil => rw [not_isMarkerGroup_nil] at hgroup; cases hgroup
    | cons c cs => rw [List.nil_append, splitMarkerGroup, if_pos hgroup]
  | cons c before ih =>
    -- The suffixes are tried from the longest on, and `hbefore` refuses those that hold more than the
    -- group.
    have hc := hbefore (c :: before) (List.suffix_refl _) (by simp)
    have hrest := ih (fun s hs hne => hbefore s (hs.trans (List.suffix_cons c before)) hne)
    rw [List.cons_append] at hc ⊢
    rw [splitMarkerGroup, if_neg (by simp [hc]), hrest]
    rfl

/-! ### What a group names -/

/-- Behind the first token of a group neither a digit nor a colon follows. -/
theorem MarkerGroup.tailText_head (g : MarkerGroup) {c : Char} (hc : g.tailText.head? = some c) :
    isDecimalDigit c = false ∧ c ≠ ':' := by
  cases g with
  | one t => simp [tailText] at hc
  | more t gap rest =>
    -- Tokens follow each other at once or after a blank.
    cases gap with
    | none =>
      obtain ⟨cs, hcs⟩ := rest.text_eq_cons
      have : c = '#' := by simpa [tailText, gapText, hcs] using hc.symm
      subst this
      exact ⟨by decide, by decide⟩
    | some b =>
      have : c = b.val := by simpa [tailText, gapText] using hc.symm
      subst this
      exact ⟨isDecimalDigit_of_isBlank b.property, ne_of_isBlank b.property (by decide)⟩

/-- A numeral is read up to its last digit, where no further digit follows. -/
theorem takeWhile_digits {ds cs : List Char} (hds : IsNumeral ds)
    (hcs : ∀ c, cs.head? = some c → isDecimalDigit c = false) :
    (ds ++ cs).takeWhile isDecimalDigit = ds ∧ (ds ++ cs).dropWhile isDecimalDigit = cs := by
  have hstop : cs.takeWhile isDecimalDigit = [] ∧ cs.dropWhile isDecimalDigit = cs := by
    cases cs with
    | nil => exact ⟨rfl, rfl⟩
    | cons c cs => simp [hcs c rfl]
  rw [List.takeWhile_append_of_pos hds.2, List.dropWhile_append_of_pos hds.2, hstop.1, hstop.2]
  exact ⟨List.append_nil ds, rfl⟩

/-- **The first token counts.** What a group names is what its first token spells, whatever follows
    it; a second number that is not a word counts as absent. -/
theorem groupLines?_text (g : MarkerGroup) :
    groupLines? g.text = (readWord? g.first.first).map fun first =>
      (first, (g.first.second.bind readWord?).getD first) := by
  have htail : ∀ c, g.tailText.head? = some c → isDecimalDigit c = false :=
    fun c hc => (g.tailText_head hc).1
  rw [MarkerGroup.text_eq]
  generalize g.first = t
  obtain ⟨first, second, hfirst, hsecond⟩ := t
  cases second with
  | none =>
    obtain ⟨htake, hdrop⟩ := takeWhile_digits hfirst htail
    simp only [groupLines?, Token.text, List.cons_append, List.drop_succ_cons, List.drop_zero,
      htake, hdrop, Option.bind_none, Option.getD_none]
    congr 1
    funext a
    split
    · next more heq =>
      -- A colon behind the number would belong to the token.
      have hcolon := (g.tailText_head (by rw [heq]; rfl)).2
      exact absurd rfl hcolon
    · rfl
  | some es =>
    have hes := hsecond es rfl
    have hcolon : ∀ c, (':' :: (es ++ g.tailText)).head? = some c → isDecimalDigit c = false := by
      intro c hc
      obtain rfl : ':' = c := by simpa using hc
      decide
    obtain ⟨htake, hdrop⟩ := takeWhile_digits hfirst hcolon
    simp only [groupLines?, Token.text, List.cons_append, List.append_assoc, List.drop_succ_cons,
      List.drop_zero, htake, hdrop, (takeWhile_digits hes htail).1, Option.bind_some]

/-- A group whose first token has words for numbers names the lines from one to the other. -/
theorem groupLines?_of_namesLines {g : MarkerGroup} (hg : g.first.NamesLines) :
    groupLines? g.text = some (g.first.startLine, g.first.stopLine) := by
  rw [groupLines?_text]
  generalize g.first = t at hg ⊢
  obtain ⟨first, second, hfirst, hsecond⟩ := t
  rw [readWord?_of_isWordNumeral hfirst.1 hg.1]
  cases second with
  | none => rfl
  | some es =>
    have hread := readWord?_of_isWordNumeral (hsecond es rfl).1 (hg.2 es rfl)
    simp [hread, Token.startLine, Token.stopLine]

/-! ### Contents and their markers -/

/-- A text with a token at its end. -/
def EndsInToken (cs : List Char) : Prop := ∃ t : Token, t.text <:+ cs

/-- What ends in a suffix that ends in a token does so itself. -/
theorem EndsInToken.of_suffix {cs ds : List Char} (h : EndsInToken cs) (hcs : cs <:+ ds) :
    EndsInToken ds := by
  obtain ⟨t, ht⟩ := h
  exact ⟨t, ht.trans hcs⟩

/-- Every group ends in a token. -/
theorem MarkerGroup.endsInToken (g : MarkerGroup) : EndsInToken g.text := by
  induction g with
  | one t => exact ⟨t, List.suffix_refl _⟩
  | more t gap rest ih =>
    refine ih.of_suffix ?_
    rw [text, ← List.append_assoc]
    exact List.suffix_append _ _

theorem endsInToken_of_isMarkerGroup {cs : List Char} (h : isMarkerGroup cs = true) :
    EndsInToken cs := by
  obtain ⟨g, rfl⟩ := isMarkerGroup_iff.mp h
  exact g.endsInToken

/-- A token alone is a group. -/
theorem Token.isMarkerGroup_text (t : Token) : isMarkerGroup t.text = true :=
  isMarkerGroup_iff.mpr ⟨.one t, rfl⟩

/-- A text ends in a token exactly when one of its suffixes is a group, which can be tried. -/
theorem endsInToken_iff {cs : List Char} :
    EndsInToken cs ↔ ∃ s ∈ cs.tails, isMarkerGroup s = true := by
  constructor
  · rintro ⟨t, ht⟩
    exact ⟨t.text, (List.mem_tails _ _).mpr ht, t.isMarkerGroup_text⟩
  · rintro ⟨s, hs, hgroup⟩
    exact (endsInToken_of_isMarkerGroup hgroup).of_suffix ((List.mem_tails _ _).mp hs)

instance (cs : List Char) : Decidable (EndsInToken cs) := decidable_of_iff _ endsInToken_iff.symm

/-- A blank inside a group stands between two tokens, so a group ends in front of it. -/
theorem completesGroup_of_append_blank {s : GroupState} {cs ds : List Char} {b : Char}
    (hb : isBlank b = true) (h : completesGroup s (cs ++ b :: ds) = true) :
    completesGroup s cs = true := by
  have hdigit := isDecimalDigit_of_isBlank hb
  have hsharp : b ≠ '#' := ne_of_isBlank hb (by decide)
  have hcolon : b ≠ ':' := ne_of_isBlank hb (by decide)
  induction cs generalizing s with
  | nil =>
    -- The reader takes a blank behind a number only, and there the group may end.
    cases s with
    | token => simp [completesGroup, GroupState.next, hsharp] at h
    | sharp => simp [completesGroup, GroupState.next, hdigit] at h
    | first => rfl
    | colon => simp [completesGroup, GroupState.next, hdigit] at h
    | second => rfl
  | cons c cs ih =>
    rw [List.cons_append] at h
    simp only [completesGroup] at h ⊢
    split at h
    · next t ht => exact ih h
    · cases h

/-- **Stripping.** A line made of a content, a blank and a group loses the blank and the group, and
    the first token of the group says where the line came from. -/
theorem stripMarker_append {content : List Char} {b : Char} {g : MarkerGroup}
    (hcontent : ¬ EndsInToken content) (hb : isBlank b = true) (hg : g.first.NamesLines) :
    stripMarker (content ++ b :: g.text)
      = (content, some (g.first.startLine, g.first.stopLine)) := by
  have hbefore : ∀ s, s <:+ content ++ [b] → s ≠ [] → isMarkerGroup (s ++ g.text) = false := by
    intro s hs hne
    by_contra hgroup
    rw [Bool.not_eq_false] at hgroup
    -- A longer group would hold the blank, and end in a token right before it.
    rcases List.suffix_concat_iff.mp hs with rfl | ⟨r, rfl, hr⟩
    · exact hne rfl
    · rw [List.append_assoc, List.singleton_append] at hgroup
      have htoken := endsInToken_of_isMarkerGroup (completesGroup_of_append_blank hb hgroup)
      exact hcontent (htoken.of_suffix hr)
  have hsplit := splitMarkerGroup_append (isMarkerGroup_text g) hbefore
  rw [List.append_assoc, List.singleton_append] at hsplit
  rw [stripMarker, hsplit]
  simp [groupLines?_of_namesLines hg, dropLastBlank, hb]

/-- A line that does not end in a token has no marker. -/
theorem stripMarker_of_not_endsInToken {line : List Char} (h : ¬ EndsInToken line) :
    stripMarker line = (line, none) := by
  have hnone : splitMarkerGroup line = none := by
    refine splitMarkerGroup_eq_none (fun s hs => ?_)
    by_contra hgroup
    rw [Bool.not_eq_false] at hgroup
    exact h ((endsInToken_of_isMarkerGroup hgroup).of_suffix hs)
  rw [stripMarker, hnone]

/-! ### The tokens that annotation writes -/

namespace Marker

/-- The first template line that a marker names. -/
def startLine : Marker → Nat
  | line n => n
  | span a _ => a

/-- The last template line that a marker names. -/
def stopLine : Marker → Nat
  | line n => n
  | span _ b => b

/-- The token in the comment of a marker. -/
def token : Marker → Token
  | line n => .single (decimal n) (isNumeral_decimal n)
  | span a b => .pair (decimal a) (decimal b) (isNumeral_decimal a) (isNumeral_decimal b)

/-- A marker is written as a blank and a token. -/
theorem text_eq (m : Marker) : m.text = ' ' :: m.token.text := by cases m <;> rfl

/-- The token names the lines of its marker, by their values. -/
@[simp] theorem startLine_token (m : Marker) : m.token.startLine = m.startLine := by
  cases m <;> exact numeralValue_decimal _

@[simp] theorem stopLine_token (m : Marker) : m.token.stopLine = m.stopLine := by
  cases m <;> exact numeralValue_decimal _

/-- Markers whose lines fit a word can be read back. -/
theorem namesLines_token {m : Marker} (hstart : m.startLine < wordLimit)
    (hstop : m.stopLine < wordLimit) :
    m.token.NamesLines := by
  cases m with
  | line n => exact ⟨isWordNumeral_decimal hstart, by simp [token, Token.single]⟩
  | span a b =>
    refine ⟨isWordNumeral_decimal hstart, fun ds hds => ?_⟩
    obtain rfl : decimal b = ds := by simpa [token, Token.pair] using hds
    exact isWordNumeral_decimal hstop

end Marker

/-- A token holds no line end. -/
theorem onOneLine_token (t : Token) : OnOneLine t.text := by
  have hnum : ∀ ds, IsNumeral ds → OnOneLine ds :=
    fun ds hds c hc => isTerminator_of_isDecimalDigit (hds.2 c hc)
  obtain ⟨first, second, hfirst, hsecond⟩ := t
  have hsharp : isTerminator '#' = false := by decide
  have hcolon : isTerminator ':' = false := by decide
  cases second with
  | none => simp [Token.text, hsharp, hnum first hfirst]
  | some es => simp [Token.text, hsharp, hcolon, hnum first hfirst, hnum es (hsecond es rfl)]

/-- So annotating a line does not break it. -/
theorem onOneLine_markerText (m : Option Marker) : OnOneLine (markerText m) := by
  cases m with
  | none => exact onOneLine_nil
  | some m =>
    rw [markerText, Marker.text_eq, onOneLine_cons]
    exact ⟨by decide, onOneLine_token m.token⟩

end ChartTrace
