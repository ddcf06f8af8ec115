import ChartTrace.Proofs.YamlLines
import ChartTrace.Yaml.Token.Scan

namespace ChartTrace.Yaml

/-!
# Places that a YAML reader comes to

The scanner moves over a character that ends no line, or over a whole line break, so that each of its
cursors can be reached in the sense of `Cursor.Reaches`.  Scalars, anchors, tags and directives stop at such
places, and their faults are at such places.

* `Ensures`: what holds of the result of a computation, or of its error;
* `avoidsBreaks`: a test that holds of no line break, so that what passes it can be moved over;
* `Cursor.Places`, `Cursor.PlacesFault`: the positions a reader comes to, and the faults at them;
* one lemma `ensures_takeX` for each function `takeX` that can fail, and `Cursor.Reaches.takeX` for each
  that cannot.
-/

section

variable {ε α β : Type}

/-- The computation fails with an error that satisfies `P`, or gives a result that satisfies `Q`. -/
def Ensures (P : ε → Prop) (Q : α → Prop) : Except ε α → Prop
  | .error e => P e
  | .ok a => Q a

variable {P : ε → Prop} {Q : α → Prop} {R : β → Prop} {x : Except ε α}

/-- A result may be described more loosely; what is said of errors stays. -/
theorem Ensures.mono {Q' : α → Prop} (h : Ensures P Q x) (hQ : ∀ a, Q a → Q' a) : Ensures P Q' x := by
  cases x with
  | error e => exact h
  | ok a => exact hQ a h

/-- What is ensured of a result, at the result that a computation is known to give. -/
theorem Ensures.of_ok {a : α} (h : Ensures P Q x) (hx : x = .ok a) : Q a := by
  subst hx
  exact h

/-- What is ensured of an error, at the error that a computation is known to fail with. -/
theorem Ensures.of_error {e : ε} (h : Ensures P Q x) (hx : x = .error e) : P e := by
  subst hx
  exact h

/-- Step by step: `Q` is what the first computation hands over to the second, and both fail with `P`. -/
theorem Ensures.bind {f : α → Except ε β} (h : Ensures P Q x) (hf : ∀ a, Q a → Ensures P R (f a)) :
    Ensures P R (x >>= f) := by
  cases x with
  | error e => exact h
  | ok a => exact hf a h

/-- A test may be used in its first branch; no branch here needs that the test failed. -/
theorem Ensures.ite {p : Prop} [Decidable p] {y : Except ε α} (hx : p → Ensures P Q x)
    (hy : Ensures P Q y) : Ensures P Q (if p then x else y) := by
  by_cases hp : p
  · rw [if_pos hp]
    exact hx hp
  · rwa [if_neg hp]

/-- A run over a list stops at its first error, and otherwise has a result for each element. -/
theorem Ensures.mapM {f : α → Except ε β} {l : List α} (hf : ∀ a ∈ l, Ensures P R (f a)) :
    Ensures P (fun bs => ∀ b ∈ bs, R b) (l.mapM f) := by
  induction l with
  | nil => exact List.forall_mem_nil _
  | cons a l ih =>
    rw [List.mapM_cons]
    -- `bs` are the results of the elements behind `a`, which are all there once `b` is.
    refine (hf a List.mem_cons_self).bind fun b hb => ?_
    refine (ih fun a' ha' => hf a' (List.mem_cons_of_mem a ha')).bind fun bs hbs => ?_
    exact List.forall_mem_cons.mpr ⟨hb, hbs⟩

end

/-! ### Characters that end no line -/

/-- The characters that end a line. -/
def breaks : List Char := ['\n', '\r', '\u0085', '\u2028', '\u2029']

/-- The list holds what `isBreak` tests for, so that a test can be tried on all line breaks in turn. -/
theorem mem_breaks {d : Char} : d ∈ breaks ↔ isBreak d = true := by
  simp [breaks, isBreak, or_assoc]

/-- Whether a test holds of no line break. -/
def avoidsBreaks (p : Char → Bool) : Bool := breaks.all fun d => !p d

/-- What passes a test that avoids line breaks is none. -/
theorem isBreak_of_avoidsBreaks {p : Char → Bool} (hp : avoidsBreaks p = true) {d : Char}
    (hd : p d = true) : isBreak d = false := by
  by_contra hbreak
  have hmem : d ∈ breaks := mem_breaks.mpr (by simpa using hbreak)
  have hnot := List.all_eq_true.mp hp d hmem
  rw [hd] at hnot
  cases hnot

/-- The test for a first character gives the text behind it. -/
theorem exists_of_startsWith {x : Char} {cs : List Char} (h : startsWith x cs = true) :
    ∃ ds, cs = x :: ds := by
  cases cs with
  | nil => cases h
  | cons d ds =>
    obtain rfl : x = d := by simpa [startsWith] using h
    exact ⟨ds, rfl⟩

namespace Cursor

/-- A position that a reader comes to from `o`: that of a cursor, or the end of the text, which is moved
    to a line of its own where it does not start one. -/
def Places (o : Cursor) (q : Position) : Prop :=
  ∃ c, o.Reaches c ∧ (q = c.position
    ∨ c.rest = [] ∧ c.position.column ≠ 0 ∧ q = ⟨c.position.index, c.position.line + 1, 0⟩)

variable {o c : Cursor}

/-- Wherever the cursor can stand, an error can be. -/
theorem Reaches.places (h : o.Reaches c) : o.Places c.position := ⟨c, h, Or.inl rfl⟩

/-- A step over a character that ends no line, with the rest and the position written out. -/
theorem Reaches.next {d : Char} {ds : List Char} {q : Position} (h : o.Reaches ⟨d :: ds, q⟩)
    (hd : isBreak d = false) : o.Reaches ⟨ds, q.next⟩ :=
  h.skip rfl hd

/-- CR LF is one line break and two characters. -/
theorem Reaches.crlf {ds : List Char} {q : Position} (h : o.Reaches ⟨'\r' :: '\n' :: ds, q⟩) :
    o.Reaches ⟨ds, q.nextLine 2⟩ :=
  h.skipBreak rfl

/-- A step over a line break of one character: the CR of a CR LF is none. -/
theorem Reaches.nextLine {d : Char} {ds : List Char} {q : Position} (h : o.Reaches ⟨d :: ds, q⟩)
    (hd : isBreak d = true) (hcrlf : ∀ es, d = '\r' → ds = '\n' :: es → False) :
    o.Reaches ⟨ds, q.nextLine 1⟩ := by
  have hskip := h.skipBreak hd
  -- `skipBreak` sees a line break of two characters or of one, and `hcrlf` excludes the first.
  rcases skipBreak_cases (c := ⟨d :: ds, q⟩) hd with ⟨cs, hrest, -⟩ | ⟨d', cs, hrest, -, -, heq⟩
  · cases hrest
    exact (hcrlf cs rfl rfl).elim
  · cases hrest
    rwa [heq] at hskip

/-- A step over a character that was tested for, such as an indicator. -/
theorem Reaches.skip_of_startsWith {x : Char} (h : o.Reaches c) (hx : startsWith x c.rest = true)
    (hbreak : isBreak x = false) : o.Reaches c.skip := by
  obtain ⟨ds, hrest⟩ := exists_of_startsWith hx
  exact h.skip hrest hbreak

/-- A step within a word, where neither blanks nor line breaks stand. -/
theorem Reaches.skip_of_word {d : Char} {ds : List Char} (h : o.Reaches c) (hrest : c.rest = d :: ds)
    (hd : ¬(isBlank d || isBreak d) = true) : o.Reaches c.skip :=
  h.skip hrest (by simp_all)

/-- Where there is no line break, taking one moves nothing. -/
theorem takeBreak_of_not_atBreak (h : atBreak c.rest = false) : c.takeBreak = ([], c) := by
  obtain ⟨rest, q⟩ := c
  unfold takeBreak
  dsimp only at h ⊢
  split
  · cases h
  · next d ds _ =>
    have hd : isBreak d = false := h
    -- The separators are looked for apart from the other line breaks, and kept as they are.
    have hseparator : (d == '\u2028' || d == '\u2029') = false := by
      simp only [isBreak, Bool.or_eq_false_iff] at hd ⊢
      exact ⟨hd.1.2, hd.2⟩
    simp [hseparator, hd]
  · rfl

/-- Taking a line break is a step wherever the cursor stands, at a line break or not. -/
theorem Reaches.takeBreak (h : o.Reaches c) : o.Reaches c.takeBreak.2 := by
  cases hbreak : atBreak c.rest with
  | true => exact h.skipBreak hbreak
  | false =>
    rw [takeBreak_of_not_atBreak hbreak]
    exact h

/-- Characters can be taken while they pass a test, when no line break passes it. -/
theorem Reaches.takeWhile (h : o.Reaches c) {p : Char → Bool} (hp : avoidsBreaks p = true) :
    o.Reaches (c.takeWhile p).2 := by
  obtain ⟨rest, q⟩ := c
  show o.Reaches (takeWhile.go p rest q).2
  fun_induction takeWhile.go p rest q with
  | case1 q => exact h
  | case2 d ds q hd taken c' hgo ih =>
    have hrest := ih (h.next (isBreak_of_avoidsBreaks hp hd))
    rwa [hgo] at hrest
  | case3 d ds q hd => exact h

/-- What a cursor takes is the beginning of the text that is left. -/
theorem fst_takeWhile (c : Cursor) (p : Char → Bool) : (c.takeWhile p).1 = c.rest.takeWhile p := by
  obtain ⟨rest, q⟩ := c
  show (takeWhile.go p rest q).1 = rest.takeWhile p
  fun_induction takeWhile.go p rest q with
  | case1 q => rfl
  | case2 d ds q hd taken c' hgo ih =>
    rw [hgo] at ih
    rw [List.takeWhile_cons_of_pos hd, ← ih]
  | case3 d ds q hd => rw [List.takeWhile_cons_of_neg hd]

theorem avoidsBreaks_isBlank : avoidsBreaks isBlank = true := by decide

theorem avoidsBreaks_isNameChar : avoidsBreaks isNameChar = true := by decide

theorem avoidsBreaks_not_isBreak : avoidsBreaks (fun d => !isBreak d) = true := by decide

/-- Blanks and a comment are left behind without leaving the line. -/
theorem Reaches.skipComment (h : o.Reaches c) : o.Reaches c.skipComment := by
  have hblanks : o.Reaches (c.skipWhile isBlank) := h.takeWhile avoidsBreaks_isBlank
  unfold Cursor.skipComment
  dsimp only
  split
  · exact hblanks.takeWhile avoidsBreaks_not_isBreak
  · exact hblanks

/-- As many steps as there are characters that end no line; `cs` are those characters. -/
theorem Reaches.skipMany {n : Nat} (h : o.Reaches c) {cs ds : List Char} (hrest : c.rest = cs ++ ds)
    (hn : cs.length = n) (hcs : ∀ d ∈ cs, isBreak d = false) : o.Reaches (c.skipMany n) := by
  induction n generalizing c cs with
  | zero => exact h
  | succ n ih =>
    obtain ⟨d, cs, rfl⟩ := List.exists_cons_of_length_eq_add_one hn
    have hskip : o.Reaches c.skip := h.skip hrest (hcs d (by simp))
    exact ih hskip (by simp [Cursor.skip, hrest]) (by simpa using hn)
      (fun e he => hcs e (List.mem_cons_of_mem _ he))

/-- A fault at a place that a reader comes to from `o`. -/
def PlacesFault (o : Cursor) (f : Fault) : Prop := o.Places f.position

end Cursor

open Cursor

variable {o c : Cursor}

/-! ### Scalars -/

/-- A scalar that stops at a place the reader comes to from `o`, with the cursor at such a place too. -/
def ScannedScalar.IsPlaced (o : Cursor) (r : ScannedScalar) : Prop :=
  o.Places r.stop ∧ o.Reaches r.cursor

/-- A gap remembers the tabs in it, for the fault about them; a blank adds at most its own place. -/
theorem Gap.places_addBlank {g : Gap} {d : Char} {q : Position} (hg : ∀ t ∈ g.tabs, o.Places t)
    (hq : o.Places q) : ∀ t ∈ (g.addBlank d q).tabs, o.Places t := by
  unfold Gap.addBlank
  split
  · exact hg
  · split
    · intro t ht
      rcases List.mem_append.mp ht with ht | ht
      · exact hg t ht
      · rwa [List.mem_singleton.mp ht]
    · exact hg

/-- A line break adds no tab. -/
theorem Gap.places_addBreak {g : Gap} {d : Char} (hg : ∀ t ∈ g.tabs, o.Places t) :
    ∀ t ∈ (g.addBreak d).tabs, o.Places t := by
  unfold Gap.addBreak
  split
  · exact hg
  · exact nofun

/-- Run lemma of `takeGap`, which moves over blanks and whole line breaks: the tabs it found are at
    places the reader comes to, and so is the cursor behind the gap. -/
theorem Cursor.Reaches.of_takeGap {g g' : Gap} {c' : Cursor} (h : o.Reaches c)
    (hg : ∀ t ∈ g.tabs, o.Places t) (hgap : takeGap g c = (g', c')) :
    (∀ t ∈ g'.tabs, o.Places t) ∧ o.Reaches c' := by
  obtain ⟨rest, q⟩ := c
  replace hgap : takeGap.go rest q g = (g', c') := hgap
  -- One case for the end, CR LF, a blank, another line break and the word behind the gap.
  fun_induction takeGap.go rest q g with
  | case1 q g =>
    cases hgap
    exact ⟨hg, h⟩
  | case2 ds q g ih => exact ih (Gap.places_addBreak hg) h.crlf hgap
  | case3 d ds q g hcrlf hd ih =>
    exact ih (Gap.places_addBlank hg h.places)
      (h.next (isBreak_of_avoidsBreaks avoidsBreaks_isBlank hd)) hgap
  | case4 d ds q g hcrlf hblank hd ih => exact ih (Gap.places_addBreak hg) (h.nextLine hd hcrlf) hgap
  | case5 d ds q g hcrlf hblank hd =>
    cases hgap
    exact ⟨hg, h⟩

/-- A word of a plain scalar stops before a blank, a line break or an indicator.  Its one error is a
    colon that may not stand there, at its place. -/
theorem ensures_takePlainWord (inFlow : Bool) (h : o.Reaches c) :
    Ensures o.Places (fun r => o.Reaches r.2) (takePlainWord inFlow c) := by
  obtain ⟨rest, q⟩ := c
  show Ensures o.Places (fun r => o.Reaches r.2) (takePlainWord.go inFlow rest q)
  fun_induction takePlainWord.go inFlow rest q with
  | case1 q => exact h
  | case2 d ds q hd => exact h
  | case3 d ds q hd hcolon => exact h.places
  | case4 d ds q hd hcolon hend => exact h
  -- A character of the word, which is no line break because the test for the end failed on it.
  | case5 d ds q hd hcolon hend ih =>
    have hbreak : isBreak d = false := by simp_all
    exact (ih (h.next hbreak)).bind fun r hr => hr

/-- Run lemma of `takePlainWords`.  The scalar stops behind its last word, not where the reader then
    stands, so that `stop` is carried along as a place of its own. -/
theorem ensures_takePlainWords {inFlow : Bool} {indent : Int} {start stop : Position} {fuel : Nat}
    {pieces : List (List Char)} {gap : Gap} (h : o.Reaches c) (hstop : o.Places stop) :
    Ensures o.PlacesFault (·.IsPlaced o)
      (takePlainWords inFlow indent start fuel c pieces gap stop) := by
  fun_induction takePlainWords inFlow indent start fuel c pieces gap stop with
  | case1 c pieces gap stop => exact ⟨hstop, h⟩
  | case2 fuel c pieces gap stop hend => exact ⟨hstop, h⟩
  | case3 fuel c pieces gap stop hend q hword => exact (ensures_takePlainWord inFlow h).of_error hword
  | case4 fuel c pieces gap stop hend c' hword =>
    exact ⟨hstop, (ensures_takePlainWord inFlow h).of_ok hword⟩
  | case5 fuel c pieces gap stop hend word c' hne hword pieces' stop' hlast =>
    have hc' : o.Reaches c' := (ensures_takePlainWord inFlow h).of_ok hword
    exact ⟨hc'.places, hc'⟩
  -- A tab in the indentation of the next line is a fault at the tab.
  | case6 fuel c pieces gap stop hend word c' hne hword hmore gap' c'' hgap q htab =>
    have hc' : o.Reaches c' := (ensures_takePlainWord inFlow h).of_ok hword
    exact (hc'.of_takeGap (by simp) hgap).1 q (List.mem_of_find?_eq_some htab)
  | case7 fuel c pieces gap stop hend word c' hne hword pieces' stop' hmore gap' c'' hgap =>
    have hc' : o.Reaches c' := (ensures_takePlainWord inFlow h).of_ok hword
    exact ⟨hc'.places, (hc'.of_takeGap (by simp) hgap).2⟩
  -- Another word follows, and the scalar reaches to the one just read.
  | case8 fuel c pieces gap stop hend word c' hne hword pieces' stop' hmore gap' c'' hgap _ _ ih =>
    have hc' : o.Reaches c' := (ensures_takePlainWord inFlow h).of_ok hword
    exact ih (hc'.of_takeGap (by simp) hgap).2 hc'.places

/-- A plain scalar starts with an empty gap and stops where it starts until a word is read. -/
theorem ensures_takePlain (inFlow : Bool) (indent : Int) (h : o.Reaches c) :
    Ensures o.PlacesFault (·.IsPlaced o) (takePlain inFlow indent c) :=
  ensures_takePlainWords h h.places

/-- A number of `n` hexadecimal digits stands at the beginning of the text, and no digit ends a line. -/
theorem exists_of_readHex? {n value code : Nat} {cs : List Char}
    (h : readHex? n value cs = some code) :
    ∃ ds es, cs = ds ++ es ∧ ds.length = n ∧ ∀ d ∈ ds, isBreak d = false := by
  induction n generalizing value cs with
  | zero => exact ⟨[], cs, rfl, rfl, nofun⟩
  | succ n ih =>
    cases cs with
    | nil => cases h
    | cons d cs =>
      obtain ⟨digit, hdigit, h⟩ := Option.bind_eq_some_iff.mp h
      obtain ⟨ds, es, rfl, rfl, hds⟩ := ih h
      have hd : isBreak d = false :=
        isBreak_of_avoidsBreaks (p := fun d => (hexValue? d).isSome) (by decide) (by simp [hdigit])
      exact ⟨d :: ds, es, rfl, rfl, by simpa [hd] using hds⟩

/-- So the cursor can move over the digits of a number that was read. -/
theorem Cursor.Reaches.skipHex {n value code : Nat} (h : o.Reaches c)
    (hcode : readHex? n value c.rest = some code) : o.Reaches (c.skipMany n) := by
  obtain ⟨ds, es, hrest, hn, hds⟩ := exists_of_readHex? hcode
  exact h.skipMany hrest hn hds

/-- An escape is a backslash, a letter and the digits that the letter asks for.  Faults are at the
    backslash, or at the digits where these are at fault. -/
theorem ensures_takeEscape {start : Position} {ds : List Char} (h : o.Reaches c)
    (hrest : c.rest = '\\' :: ds) :
    Ensures o.PlacesFault (fun r => o.Reaches r.2) (takeEscape start c) := by
  have hskip : o.Reaches c.skip := h.skip hrest rfl
  have htail : c.skip.rest = ds := by simp [Cursor.skip, hrest]
  unfold takeEscape
  rw [hrest]
  dsimp only [List.tail_cons]
  split
  · exact h.places
  · next e es =>
    split
    · next hchar =>
      exact hskip.skip htail
        (isBreak_of_avoidsBreaks (p := fun d => (escapeChar? d).isSome) (by decide) (by simp [hchar]))
    · exact h.places
    · next n _ hdigits =>
      -- Only a letter that asks for digits gets here, and no such letter is a line break.
      have hskip₂ : o.Reaches c.skip.skip := hskip.skip htail
        (isBreak_of_avoidsBreaks (p := fun d => (escapeDigits? d).isSome) (by decide)
          (by simp [hdigits]))
      split
      · exact hskip₂.places
      · next code hcode =>
        split
        · exact hskip₂.skipHex hcode
        · exact hskip₂.places

/-- Run lemma of `takeQuotedWord`: only escapes can fail in it, and an escaped line break is taken
    whole. -/
theorem ensures_takeQuotedWord {single : Bool} {start : Position} {fuel : Nat} {word : List Char}
    (h : o.Reaches c) :
    Ensures o.PlacesFault (fun r => o.Reaches r.2.1) (takeQuotedWord single start fuel c word) := by
  fun_induction takeQuotedWord single start fuel c word with
  | case1 c word => exact h
  | case2 fuel c word hrest => exact h
  | case3 fuel c word d ds hrest hd => exact h
  -- Two single quotes side by side stand for one.
  | case4 fuel c word d ds hrest hd hsingle hquote hnext ih =>
    have hskip := h.skip_of_word hrest hd
    have hds : startsWith '\x27' c.skip.rest = true := by simpa [Cursor.skip, hrest] using hnext
    exact ih (hskip.skip_of_startsWith hds rfl)
  | case5 fuel c word d ds hrest hd hsingle hquote hnext => exact h
  | case6 fuel c word d ds hrest hd hsingle hquote ih => exact ih (h.skip_of_word hrest hd)
  | case7 fuel c word d ds hrest hd hsingle hquote => exact h
  -- A backslash in front of a line break joins the lines.
  | case8 fuel c word d ds hrest hd hsingle hquote hslash hbreak =>
    exact (h.skip_of_word hrest hd).takeBreak
  | case9 fuel c word d ds hrest hd hsingle hquote hslash hbreak ih =>
    obtain rfl : d = '\\' := eq_of_beq hslash
    exact (ensures_takeEscape h hrest).bind fun r hr => ih r.1 r.2 hr
  | case10 fuel c word d ds hrest hd hsingle hquote hslash ih => exact ih (h.skip_of_word hrest hd)

/-- Run lemma of `takeQuotedWords`, which ends at the closing quote, or in a fault at the end of the
    text or at a document indicator. -/
theorem ensures_takeQuotedWords {single : Bool} {start : Position} {fuel : Nat}
    {pieces : List (List Char)} (h : o.Reaches c) :
    Ensures o.PlacesFault (·.IsPlaced o) (takeQuotedWords single start fuel c pieces) := by
  induction fuel generalizing c pieces with
  | zero => exact ⟨h.places, h⟩
  | succ fuel ih =>
    -- Both quotes can be moved over; which of them closes the scalar does not matter from here on.
    have hquote : isBreak (if single then '\x27' else '\x22') = false := by cases single <;> rfl
    unfold takeQuotedWords
    generalize (if single then '\x27' else '\x22') = quote at hquote ⊢
    split
    · exact h.places
    · split
      · exact h.places
      · refine (ensures_takeQuotedWord h).bind ?_
        rintro ⟨word, c', escaped⟩ hc'
        dsimp only at hc' ⊢
        split
        · next hend =>
          have hskip : o.Reaches c'.skip := hc'.skip_of_startsWith hend hquote
          exact ⟨hskip.places, hskip⟩
        · exact ih (hc'.of_takeGap (by simp) rfl).2

/-- A quoted scalar is read from behind its opening quote. -/
theorem ensures_takeQuoted (single : Bool) (hskip : o.Reaches c.skip) :
    Ensures o.PlacesFault (·.IsPlaced o) (takeQuoted single c) :=
  ensures_takeQuotedWords hskip

/-- The chomping indicator is one character or missing. -/
theorem Cursor.Reaches.takeChomping (h : o.Reaches c) : o.Reaches (takeChomping c).2 := by
  unfold Yaml.takeChomping
  split
  · next hrest => exact h.skip hrest rfl
  · next hrest => exact h.skip hrest rfl
  · exact h

/-- The indentation indicator is one digit or missing; zero is a fault at the digit. -/
theorem ensures_takeIndentation {start : Position} (h : o.Reaches c) :
    Ensures o.PlacesFault (fun r => o.Reaches r.2) (takeIndentation start c) := by
  unfold takeIndentation
  split
  · exact h.places
  · next d ds _ hrest =>
    split
    · next hd => exact h.skip hrest (isBreak_of_avoidsBreaks (p := Char.isDigit) (by decide) hd)
    · exact h
  · exact h

/-- The two indicators of a block scalar, in either order. -/
theorem ensures_takeBlockHeader {start : Position} (h : o.Reaches c) :
    Ensures o.PlacesFault (fun r => o.Reaches r.2.2) (takeBlockHeader start c) := by
  have hchomp := h.takeChomping
  unfold takeBlockHeader
  split
  · next chomping c' heq =>
    -- Chomping came first, so that only the indentation can follow.
    rw [heq] at hchomp
    exact (ensures_takeIndentation hchomp).bind fun r hr => hr
  · next c' heq =>
    -- Indentation may come first, and chomping behind it is looked for again.
    rw [heq] at hchomp
    refine (ensures_takeIndentation hchomp).bind ?_
    rintro ⟨n, c''⟩ hc''
    dsimp only at hc'' ⊢
    split
    · exact hc''
    · exact hc''.takeChomping

/-- Empty lines that stop at a place the reader comes to from `o`, with the cursor at such a place
    too. -/
def EmptyLines.IsPlaced (o : Cursor) (e : EmptyLines) : Prop := o.Places e.stop ∧ o.Reaches e.cursor

/-- Run lemma of `takeEmptyLines`.  Its `stop` is the beginning of a line, and stays there while blanks
    are moved over. -/
theorem ensures_takeEmptyLines {indent : Nat} {start : Position} (h : o.Reaches c) :
    Ensures o.PlacesFault (·.IsPlaced o) (takeEmptyLines indent start c) := by
  unfold takeEmptyLines
  have hstop : o.Places (EmptyLines.mk 0 [] c.position c).stop := h.places
  -- The record that the loop carries matters only by its `stop`.
  generalize EmptyLines.mk 0 [] c.position c = e at hstop ⊢
  obtain ⟨rest, q⟩ := c
  dsimp only
  fun_induction takeEmptyLines.go indent start rest q e with
  | case1 q e => exact ⟨hstop, h⟩
  | case2 ds q e ih => exact ih h.crlf.places h.crlf
  | case3 d ds q e hcrlf hd ih =>
    obtain rfl : d = ' ' := by simp_all
    exact ih hstop (h.next rfl)
  | case4 d ds q e hcrlf hblank htab => exact h.places
  | case5 d ds q e hcrlf hblank htab hd ih =>
    have hnext := h.nextLine hd hcrlf
    exact ih hnext.places hnext
  | case6 d ds q e hcrlf hblank htab hd => exact ⟨hstop, h⟩

/-- Lines of a block scalar that stop at a place the reader comes to from `o`, with the cursor at
    such a place too. -/
def BlockLines.IsPlaced (o : Cursor) (b : BlockLines) : Prop := o.Places b.stop ∧ o.Reaches b.cursor

/-- Run lemma of `takeBlockLines`: a line, its line break and the empty lines behind it. -/
theorem ensures_takeBlockLines {literal : Bool} {indent : Nat} {start : Position} {fuel : Nat}
    {b : BlockLines} (h : b.IsPlaced o) :
    Ensures o.PlacesFault (·.IsPlaced o) (takeBlockLines literal indent start fuel b) := by
  induction fuel generalizing b with
  | zero => exact h
  | succ fuel ih =>
    have hline := (h.2.takeWhile avoidsBreaks_not_isBreak).takeBreak
    unfold takeBlockLines
    split
    · exact h
    · exact (ensures_takeEmptyLines hline).bind fun e he => ih he

/-- A block scalar is its header, the rest of that line, and lines.  What follows the header on its line
    must be blank or a comment. -/
theorem ensures_takeBlock (literal : Bool) (parent : Int) (hskip : o.Reaches c.skip) :
    Ensures o.PlacesFault (·.IsPlaced o) (takeBlock literal parent c) := by
  unfold takeBlock
  refine (ensures_takeBlockHeader hskip).bind ?_
  rintro ⟨chomping, increment, c'⟩ hc'
  have hcomment : o.Reaches c'.skipComment := hc'.skipComment
  dsimp only
  split
  · exact hcomment.places
  · refine (ensures_takeEmptyLines hcomment.takeBreak).bind fun e he => ?_
    exact (ensures_takeBlockLines ⟨he.1, he.2⟩).bind fun b hb => hb

/-! ### Anchors, tags and directives -/

/-- An anchor or an alias is a name behind its indicator; the fault is at the end of what could be a
    name. -/
theorem ensures_takeAnchor (activity : Activity) (hskip : o.Reaches c.skip) :
    Ensures o.PlacesFault (fun r => o.Reaches r.2) (takeAnchor activity c) := by
  have hname := hskip.takeWhile avoidsBreaks_isNameChar
  unfold takeAnchor
  dsimp only
  split
  · exact hname.places
  · exact hname

/-- A percent sign and two hexadecimal digits are three characters that end no line. -/
theorem Cursor.Reaches.skipOctet {octet : Nat} (h : o.Reaches c)
    (hoctet : escapedOctet? c = some octet) : o.Reaches (c.skipMany 3) := by
  unfold escapedOctet? at hoctet
  split at hoctet
  · next rest hrest =>
    have hskip : o.Reaches c.skip := h.skip hrest rfl
    have hhex : readHex? 2 0 c.skip.rest = some octet := by simpa [Cursor.skip, hrest] using hoctet
    exact hskip.skipHex hhex
  · cases hoctet

/-- The octets that continue a character, each at fault where it starts. -/
theorem ensures_takeTrailingOctets {activity : Activity × Position} {n : Nat} (h : o.Reaches c) :
    Ensures o.PlacesFault (fun r => o.Reaches r.2) (takeTrailingOctets activity n c) := by
  induction n generalizing c with
  | zero => exact h
  | succ n ih =>
    unfold takeTrailingOctets
    split
    · exact h.places
    · next octet hoctet =>
      split
      · exact h.places
      · exact (ih (h.skipOctet hoctet)).bind fun r hr => hr

/-- A character written as octets: the first one says how many follow. -/
theorem ensures_takeEscapedChar {activity : Activity × Position} (h : o.Reaches c) :
    Ensures o.PlacesFault (fun r => o.Reaches r.2) (takeEscapedChar activity c) := by
  unfold takeEscapedChar
  split
  · exact h.places
  · next octet hoctet =>
    split
    · exact h.places
    · exact (ensures_takeTrailingOctets (h.skipOctet hoctet)).bind fun r hr => hr

theorem avoidsBreaks_isUriChar (writtenOut : Bool) : avoidsBreaks (isUriChar writtenOut) = true := by
  cases writtenOut <;> decide

/-- Run lemma of `takeUriChars`: a URI goes on while its characters may stand in one, octets among them. -/
theorem ensures_takeUriChars {writtenOut : Bool} {activity : Activity × Position} {fuel : Nat}
    (h : o.Reaches c) :
    Ensures o.PlacesFault (fun r => o.Reaches r.2) (takeUriChars writtenOut activity fuel c) := by
  induction fuel generalizing c with
  | zero => exact h
  | succ fuel ih =>
    unfold takeUriChars
    split
    · exact h
    · next d ds hrest =>
      split
      · exact h
      · next hd =>
        -- The character is in the set of those that may stand here, which has no line break.
        have hskip : o.Reaches c.skip :=
          h.skip hrest (isBreak_of_avoidsBreaks (avoidsBreaks_isUriChar writtenOut) (by simpa using hd))
        dsimp only
        split
        · exact (ensures_takeEscapedChar h).bind fun r hr => (ih hr).bind fun t ht => ht
        · exact (ih hskip).bind fun t ht => ht

/-- A URI that must not be empty is at fault where it would start. -/
theorem ensures_takeUri {writtenOut : Bool} {activity : Activity × Position} {head : List Char}
    (h : o.Reaches c) :
    Ensures o.PlacesFault (fun r => o.Reaches r.2) (takeUri writtenOut activity head c) := by
  unfold takeUri
  refine (ensures_takeUriChars h).bind fun r hr => ?_
  dsimp only
  split
  · exact h.places
  · exact hr

/-- The handle of a tag is a name, with the exclamation mark behind it where there is one. -/
theorem Cursor.Reaches.takeHandle (hskip : o.Reaches c.skip) : o.Reaches (takeHandle c).2 := by
  have hname := hskip.takeWhile avoidsBreaks_isNameChar
  unfold Yaml.takeHandle
  dsimp only
  split
  · next hmark => exact hname.skip_of_startsWith hmark rfl
  · exact hname

/-- A tag is written out between `<` and `>`, or is a handle with a suffix, or a suffix alone. -/
theorem ensures_takeTagParts (h : o.Reaches c) (hmark : startsWith '!' c.rest = true) :
    Ensures o.PlacesFault (fun r => o.Reaches r.2.2) (takeTagParts c) := by
  have hskip : o.Reaches c.skip := h.skip_of_startsWith hmark rfl
  unfold takeTagParts
  dsimp only
  split
  · next hopen =>
    have hskip₂ : o.Reaches c.skip.skip := hskip.skip_of_startsWith hopen rfl
    refine (ensures_takeUri hskip₂).bind fun r hr => ?_
    split
    · exact hr.places
    · next hclose => exact hr.skip_of_startsWith (by simpa using hclose) rfl
  · -- What looks like a handle without its second mark is read on as a suffix.
    have hhandle := hskip.takeHandle
    split
    · exact (ensures_takeUri hhandle).bind fun r hr => hr
    · refine (ensures_takeUri hhandle).bind fun r hr => ?_
      split <;> exact hr

/-- A tag must be followed by a blank or the end of its line. -/
theorem ensures_takeTag (inFlow : Bool) (h : o.Reaches c) (hmark : startsWith '!' c.rest = true) :
    Ensures o.PlacesFault (fun r => o.Reaches r.2.2) (takeTag inFlow c) := by
  unfold takeTag
  refine (ensures_takeTagParts h hmark).bind fun r hr => ?_
  dsimp only
  split
  · exact hr
  · exact hr.places

theorem avoidsBreaks_isDigit : avoidsBreaks Char.isDigit = true := by decide

/-- A number of a version directive has one to nine digits.  A longer one is at fault behind its ninth
    digit. -/
theorem ensures_takeVersionNumber {start : Position} (h : o.Reaches c) :
    Ensures o.PlacesFault (fun r => o.Reaches r.2) (takeVersionNumber start c) := by
  have hdigits := h.takeWhile avoidsBreaks_isDigit
  unfold takeVersionNumber
  dsimp only
  split
  · exact h.places
  · split
    · next hlong =>
      -- The first nine digits are the beginning of the text that is left.
      rw [fst_takeWhile] at hlong
      have hrest : c.rest = (c.rest.takeWhile Char.isDigit).take 9
          ++ ((c.rest.takeWhile Char.isDigit).drop 9 ++ c.rest.dropWhile Char.isDigit) := by
        rw [← List.append_assoc, List.take_append_drop, List.takeWhile_append_dropWhile]
      refine (h.skipMany hrest (by simp; omega) fun d hd => ?_).places
      exact isBreak_of_avoidsBreaks avoidsBreaks_isDigit
        (List.all_eq_true.mp List.all_takeWhile d (List.mem_of_mem_take hd))
    · exact hdigits

/-- Two numbers with a dot between them. -/
theorem ensures_takeVersion {start : Position} (h : o.Reaches c) :
    Ensures o.PlacesFault (fun r => o.Reaches r.2) (takeVersion start c) := by
  unfold takeVersion
  refine (ensures_takeVersionNumber (h.takeWhile avoidsBreaks_isBlank)).bind fun r hr => ?_
  dsimp only
  split
  · exact hr.places
  · next hdot =>
    have hskip := hr.skip_of_startsWith (x := '.') (by simpa using hdot) rfl
    exact (ensures_takeVersionNumber hskip).bind fun t ht => ht

/-- A handle and the URI it stands for, with blanks around them. -/
theorem ensures_takeTagShorthand {start : Position} (h : o.Reaches c) :
    Ensures o.PlacesFault (fun r => o.Reaches r.2) (takeTagShorthand start c) := by
  have hblanks : o.Reaches (c.skipWhile isBlank) := h.takeWhile avoidsBreaks_isBlank
  unfold takeTagShorthand
  dsimp only
  -- Each way to fail does so at the place that has been reached by then.
  split
  · exact hblanks.places
  · next hmark =>
    have hhandle :=
      (hblanks.skip_of_startsWith (x := '!') (by simpa using hmark) rfl).takeHandle
    split
    · exact hhandle.places
    · split
      · exact hhandle.places
      · refine (ensures_takeUri (hhandle.takeWhile avoidsBreaks_isBlank)).bind fun r hr => ?_
        split
        · exact hr.places
        · exact hr

/-- A directive by its name, and the rest of its line.  The token stops behind what it holds, and the
    cursor is on the next line. -/
theorem ensures_takeDirective (hskip : o.Reaches c.skip) :
    Ensures o.PlacesFault (fun r => o.Places r.2.1 ∧ o.Reaches r.2.2) (takeDirective c) := by
  have hname := hskip.takeWhile avoidsBreaks_isNameChar
  unfold takeDirective
  dsimp only
  split
  · exact hname.places
  · split
    · exact hname.places
    · -- Both kinds of directive are followed by the end of the line.
      have hend : ∀ r : TokenKind × Cursor, o.Reaches r.2 →
          Ensures o.PlacesFault (fun r => o.Places r.2.1 ∧ o.Reaches r.2.2)
            (if (!atLineEnd r.2.skipComment.rest) = true then
              Except.error { problem := .noCommentOrBreak, position := r.2.skipComment.position,
                             activity := some (.directive, c.position) }
            else Except.ok (r.1, r.2.position, r.2.skipComment.skipBreak)) := by
        intro r hr
        split
        · exact hr.skipComment.places
        · exact ⟨hr.places, hr.skipComment.takeBreak⟩
      split
      · exact (ensures_takeVersion hname).bind hend
      · split
        · exact (ensures_takeTagShorthand hname).bind hend
        · exact hname.places

end ChartTrace.Yaml
