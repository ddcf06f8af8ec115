import ChartTrace.Proofs.TrailingMarkers

namespace ChartTrace

/-!
# Markers as a pattern

The markers at the end of a line are the leftmost match of a regular expression, and its captured parts are
the numbers of the first one:

* `Pattern`, `Pattern.successes`: regular expressions, and the ways in which one matches at the start of a
  text, the preferred one first; `Pattern.search?`: the preferred one of the leftmost matches;
* `markerPattern`, `stripPattern`: the pattern of a marker group at the end of a line, and what is left of a
  line in front of it;
* `Pattern.Reads`, `mem_successes_token`, `mem_successes_otherTokens`: what the parts of the pattern take;
* `mem_successes_markerPattern`: at a given place there is a match if and only if a group spells the rest of
  the line, so that no choice between matches is left;
* `Strips`: what stripping leaves, in terms of the longest group;
* `stripMarker_takes_longest`: the two say the same as `stripMarker`.
-/

/-! ### Regular expressions -/

/-- A regular expression with numbered parts. -/
inductive Pattern where
  /-- A character of a class. -/
  | char (p : Char → Bool)
  /-- One after the other. -/
  | seq (a b : Pattern)
  /-- Once or not at all, rather once. -/
  | optional (a : Pattern)
  /-- Any number of times, rather more than less. -/
  | many (a : Pattern)
  /-- A part whose text is kept. -/
  | captured (number : Nat) (a : Pattern)
  /-- The end of the text. -/
  | atEnd

/-- A way in which a pattern matches at the start of a text. -/
structure Success where
  /-- The captured texts, in the order of their parts. -/
  captures : List (Nat × List Char)
  /-- What follows the match. -/
  rest : List Char
deriving DecidableEq, Repr

/-- The text that a part captured last. -/
def Success.capture? (x : Success) (number : Nat) : Option (List Char) :=
  (x.captures.filterMap fun p => if p.1 = number then some p.2 else none).getLast?

/-- A success is given by its captures and its rest. -/
theorem Success.eq_of_captures {x : Success} {captures : List (Nat × List Char)}
    (h : x.captures = captures) : x = ⟨captures, x.rest⟩ := by rw [← h]

/-- A success behind another one. -/
def Success.followedBy (x y : Success) : Success := ⟨x.captures ++ y.captures, y.rest⟩

/-- The ways to go on as often as possible, as long as each time takes some of the text. -/
def repeated (next : List Char → List Success) (cs : List Char) : List Success :=
  (next cs).flatMap (fun x =>
    if _h : x.rest.length < cs.length then (repeated next x.rest).map x.followedBy else [])
    ++ [⟨[], cs⟩]
termination_by cs.length

namespace Pattern

/-- The ways in which a pattern matches at the start of a text, the preferred one first. -/
def successes : Pattern → List Char → List Success
  | .char _, [] => []
  | .char p, c :: cs => if p c then [⟨[], cs⟩] else []
  | .seq a b, cs => (a.successes cs).flatMap fun x => (b.successes x.rest).map x.followedBy
  | .optional a, cs => a.successes cs ++ [⟨[], cs⟩]
  | .many a, cs => repeated a.successes cs
  | .captured number a, cs => (a.successes cs).map fun x =>
      ⟨(number, cs.take (cs.length - x.rest.length)) :: x.captures, x.rest⟩
  | .atEnd, cs => if cs.isEmpty then [⟨[], []⟩] else []

/-- The preferred one of the leftmost matches, and the text in front of it. -/
def search? (p : Pattern) : List Char → Option (List Char × Success)
  | [] => (p.successes []).head?.map fun x => ([], x)
  | c :: cs =>
    match (p.successes (c :: cs)).head? with
    | some x => some ([], x)
    | none => (p.search? cs).map fun m => (c :: m.1, m.2)

/-- Once or more often. -/
def oneOrMore (a : Pattern) : Pattern := .seq a (.many a)

end Pattern

/-! ### The pattern of a marker group -/

/-- A number, of digits of any script. -/
def numberPattern : Pattern := .oneOrMore (.char isDecimalDigit)

/-- A token, from patterns of its numbers. -/
def tokenPattern (first second : Pattern) : Pattern :=
  .seq (.char (· == '#')) (.seq first (.optional (.seq (.char (· == ':')) second)))

/-- Tokens behind the first one, each behind an optional blank. -/
def otherTokens : Pattern :=
  .many (.seq (.optional (.char isBlank)) (tokenPattern numberPattern numberPattern))

/-- A marker group at the end of a line, the numbers of its first token captured.  In the usual notation
    this is `#(\d+)(?::(\d+))?(?:\s?#\d+(?::\d+)?)*$`. -/
def markerPattern : Pattern :=
  .seq (tokenPattern (.captured 1 numberPattern) (.captured 2 numberPattern))
    (.seq otherTokens .atEnd)

/-- The captured numbers of a token. -/
def Token.captures (t : Token) : List (Nat × List Char) :=
  (1, t.first) :: t.second.elim [] fun ds => [(2, ds)]

/-- What is left of a line in front of the match, and the template lines that the captured numbers name. -/
def stripPattern (line : List Char) : List Char × Option (Nat × Nat) :=
  match markerPattern.search? line with
  | none => (line, none)
  | some (before, found) =>
    match (found.capture? 1).bind readWord? with
    | none => (line, none)
    | some first =>
      (dropLastBlank before, some (first, ((found.capture? 2).bind readWord?).getD first))

/-! ### What each kind of pattern takes -/

namespace Pattern

variable {a b : Pattern} {cs : List Char} {x : Success}

/-- A character class takes one character and captures nothing. -/
theorem mem_successes_char {p : Char → Bool} :
    x ∈ (char p).successes cs ↔ ∃ c, p c = true ∧ cs = c :: x.rest ∧ x.captures = [] := by
  obtain ⟨captures, rest⟩ := x
  cases cs with
  | nil =>
    show _ ∈ [] ↔ _
    simp
  | cons d cs =>
    show Success.mk captures rest ∈ (if p d then [⟨[], cs⟩] else []) ↔ _
    constructor
    · intro h
      split at h
      · next hd =>
        obtain ⟨rfl, rfl⟩ : captures = [] ∧ rest = cs := by simpa using h
        exact ⟨d, hd, rfl, rfl⟩
      · cases h
    · rintro ⟨c, hc, heq, hcaptures⟩
      obtain ⟨rfl, rfl⟩ := List.cons_eq_cons.mp heq
      simp [hc, show captures = [] from hcaptures]

/-- A sequence goes on where its first part stops. -/
theorem mem_successes_seq :
    x ∈ (seq a b).successes cs
      ↔ ∃ y ∈ a.successes cs, ∃ z ∈ b.successes y.rest, y.followedBy z = x := by
  show x ∈ (a.successes cs).flatMap (fun y => (b.successes y.rest).map y.followedBy) ↔ _
  simp

/-- What is optional is taken or left out. -/
theorem mem_successes_optional :
    x ∈ (Pattern.optional a).successes cs ↔ x ∈ a.successes cs ∨ x = ⟨[], cs⟩ := by
  show x ∈ a.successes cs ++ [⟨[], cs⟩] ↔ _
  simp

/-- A repetition takes the pattern once, which must shorten the text, and goes on; or it stops. -/
theorem mem_successes_many :
    x ∈ (many a).successes cs
      ↔ (∃ y ∈ a.successes cs, y.rest.length < cs.length
          ∧ ∃ z ∈ (many a).successes y.rest, y.followedBy z = x) ∨ x = ⟨[], cs⟩ := by
  show x ∈ repeated a.successes cs ↔ (∃ y ∈ a.successes cs, y.rest.length < cs.length
    ∧ ∃ z ∈ repeated a.successes y.rest, y.followedBy z = x) ∨ x = ⟨[], cs⟩
  rw [repeated]
  simp

/-- The end of the text is matched at the end only. -/
theorem mem_successes_atEnd : x ∈ atEnd.successes cs ↔ cs = [] ∧ x = ⟨[], []⟩ := by
  show x ∈ (if cs.isEmpty then [⟨[], []⟩] else []) ↔ _
  cases cs <;> simp

/-- A class any number of times takes any characters of it from the start. -/
theorem mem_successes_many_char {p : Char → Bool} :
    x ∈ (many (char p)).successes cs
      ↔ ∃ ds, (∀ c ∈ ds, p c = true) ∧ cs = ds ++ x.rest ∧ x.captures = [] := by
  induction cs generalizing x with
  | nil =>
    rw [mem_successes_many]
    constructor
    · rintro (⟨y, hy, -⟩ | rfl)
      · obtain ⟨c, -, hcs, -⟩ := mem_successes_char.mp hy
        cases hcs
      · exact ⟨[], List.forall_mem_nil _, rfl, rfl⟩
    · rintro ⟨ds, -, hcs, hcaptures⟩
      obtain ⟨rfl, hrest⟩ := List.append_eq_nil_iff.mp hcs.symm
      exact Or.inr (hrest ▸ Success.eq_of_captures hcaptures)
  | cons d cs ih =>
    rw [mem_successes_many]
    constructor
    · -- One character is taken, and the induction gives the others.
      rintro (⟨y, hy, -, z, hz, rfl⟩ | rfl)
      · obtain ⟨c, hc, heq, hcaptures⟩ := mem_successes_char.mp hy
        obtain ⟨rfl, rfl⟩ := List.cons_eq_cons.mp heq
        obtain ⟨ds, hds, hrest, hz⟩ := ih.mp hz
        refine ⟨d :: ds, List.forall_mem_cons.mpr ⟨hc, hds⟩, congrArg (d :: ·) hrest, ?_⟩
        rw [Success.followedBy, hcaptures, hz, List.append_nil]
      · exact ⟨[], List.forall_mem_nil _, rfl, rfl⟩
    · rintro ⟨ds, hds, hcs, hcaptures⟩
      cases ds with
      | nil => exact Or.inr (hcs ▸ Success.eq_of_captures hcaptures)
      | cons c ds =>
        obtain ⟨rfl, hrest⟩ := List.cons_eq_cons.mp hcs
        obtain ⟨hc, hds⟩ := List.forall_mem_cons.mp hds
        exact Or.inl ⟨⟨[], cs⟩, mem_successes_char.mpr ⟨d, hc, rfl, rfl⟩, Nat.lt_succ_self _,
          x, ih.mpr ⟨ds, hds, hrest, hcaptures⟩, rfl⟩

/-! ### What the parts of the pattern take -/

/-- The pattern takes one or more digits, any number of those that stand there, and keeps of them what
    `captures` says. -/
def Reads (a : Pattern) (captures : List Char → List (Nat × List Char)) : Prop :=
  ∀ cs x, x ∈ a.successes cs
    ↔ ∃ ds, IsNumeral ds ∧ cs = ds ++ x.rest ∧ x.captures = captures ds

/-- The pattern of a number takes every numeral at the front of the text, also the shorter ones. -/
theorem reads_numberPattern : numberPattern.Reads fun _ => [] := by
  intro cs x
  rw [numberPattern, oneOrMore, mem_successes_seq]
  -- One digit is needed, and the repetition takes any number of further ones.
  constructor
  · rintro ⟨y, hy, z, hz, rfl⟩
    obtain ⟨c, hc, rfl, hcaptures⟩ := mem_successes_char.mp hy
    obtain ⟨ds, hds, hrest, hz⟩ := mem_successes_many_char.mp hz
    refine ⟨c :: ds, ⟨List.cons_ne_nil c ds, List.forall_mem_cons.mpr ⟨hc, hds⟩⟩,
      congrArg (c :: ·) hrest, ?_⟩
    rw [Success.followedBy, hcaptures, hz, List.append_nil]
  · rintro ⟨ds, ⟨hne, hdigits⟩, rfl, hcaptures⟩
    cases ds with
    | nil => exact absurd rfl hne
    | cons c ds =>
      obtain ⟨hc, hds⟩ := List.forall_mem_cons.mp hdigits
      exact ⟨⟨[], ds ++ x.rest⟩, mem_successes_char.mpr ⟨c, hc, rfl, rfl⟩, x,
        mem_successes_many_char.mpr ⟨ds, hds, rfl, hcaptures⟩, rfl⟩

/-- A group captures just what its pattern takes. -/
theorem Reads.captured {a : Pattern} (ha : a.Reads fun _ => []) (number : Nat) :
    (captured number a).Reads fun ds => [(number, ds)] := by
  intro cs x
  show x ∈ (a.successes cs).map _ ↔ _
  rw [List.mem_map]
  constructor
  · rintro ⟨y, hy, rfl⟩
    obtain ⟨ds, hds, rfl, hcaptures⟩ := (ha cs y).mp hy
    exact ⟨ds, hds, rfl, by simp [hcaptures]⟩
  · rintro ⟨ds, hds, rfl, hcaptures⟩
    refine ⟨⟨[], x.rest⟩, (ha _ _).mpr ⟨ds, hds, rfl, rfl⟩, ?_⟩
    obtain ⟨captures, rest⟩ := x
    obtain rfl : captures = [(number, ds)] := hcaptures
    simp

/-- A second number with the colon in front of it may be there or not. -/
theorem mem_successes_second {second : Pattern} {g : List Char → List (Nat × List Char)}
    (hsecond : second.Reads g) :
    x ∈ (Pattern.optional (.seq (.char (· == ':')) second)).successes cs
      ↔ ∃ es? : Option (List Char), (∀ es ∈ es?, IsNumeral es)
        ∧ cs = es?.elim [] (':' :: ·) ++ x.rest ∧ x.captures = es?.elim [] g := by
  rw [mem_successes_optional, mem_successes_seq]
  constructor
  · -- The colon and the number are there, or neither is.
    rintro (⟨y, hy, z, hz, rfl⟩ | rfl)
    · obtain ⟨c, hc, rfl, hcolon⟩ := mem_successes_char.mp hy
      obtain ⟨es, hes, hrest, hcaptures⟩ := (hsecond _ _).mp hz
      obtain rfl : c = ':' := by simpa using hc
      refine ⟨some es, by simpa using hes, congrArg (':' :: ·) hrest, ?_⟩
      rw [Success.followedBy, hcolon, hcaptures]
      rfl
    · exact ⟨none, by simp, rfl, rfl⟩
  · rintro ⟨_ | es, hes, rfl, hcaptures⟩
    · exact Or.inr (Success.eq_of_captures hcaptures)
    · exact Or.inl ⟨⟨[], es ++ x.rest⟩, mem_successes_char.mpr ⟨':', by decide, rfl, rfl⟩, x,
        (hsecond _ _).mpr ⟨es, hes es rfl, rfl, hcaptures⟩, rfl⟩

/-- A token pattern takes a token, and captures what its parts capture of the numbers. -/
theorem mem_successes_token {first second : Pattern} {f g : List Char → List (Nat × List Char)}
    (hfirst : first.Reads f) (hsecond : second.Reads g) :
    x ∈ (tokenPattern first second).successes cs
      ↔ ∃ t : Token, cs = t.text ++ x.rest ∧ x.captures = f t.first ++ t.second.elim [] g := by
  -- A token is a sharp, a numeral, and perhaps a colon with a second one.
  have htext : ∀ t : Token, t.text = '#' :: (t.first ++ t.second.elim [] (':' :: ·)) := by
    rintro ⟨ds, _ | es, -, -⟩
    · simp [Token.text]
    · rfl
  simp only [tokenPattern, mem_successes_seq, htext]
  constructor
  · rintro ⟨y, hy, z, ⟨u, hu, v, hv, rfl⟩, rfl⟩
    obtain ⟨c, hc, rfl, hsharp⟩ := mem_successes_char.mp hy
    obtain rfl : c = '#' := by simpa using hc
    obtain ⟨ds, hds, hnumber, hcaptures⟩ := (hfirst _ _).mp hu
    obtain ⟨es?, hes, hrest, hcaptures'⟩ := (mem_successes_second hsecond).mp hv
    refine ⟨⟨ds, es?, hds, hes⟩, ?_, ?_⟩
    · rw [hnumber, hrest, List.cons_append, List.append_assoc]
      rfl
    · rw [Success.followedBy, Success.followedBy, hsharp, hcaptures, hcaptures', List.nil_append]
  · rintro ⟨⟨ds, es?, hds, hes⟩, rfl, hcaptures⟩
    refine ⟨⟨[], _⟩, mem_successes_char.mpr ⟨'#', by decide, rfl, rfl⟩, x, ?_, rfl⟩
    refine ⟨⟨f ds, es?.elim [] (':' :: ·) ++ x.rest⟩,
      (hfirst _ _).mpr ⟨ds, hds, List.append_assoc .., rfl⟩, ⟨es?.elim [] g, x.rest⟩,
      (mem_successes_second hsecond).mpr ⟨es?, hes, rfl, rfl⟩, ?_⟩
    rw [Success.followedBy, ← hcaptures]

/-- Behind a token other tokens may follow, each with at most one blank in front of it. -/
theorem mem_successes_nextToken :
    x ∈ (Pattern.seq (.optional (.char isBlank))
        (tokenPattern numberPattern numberPattern)).successes cs
      ↔ ∃ (gap : Option Blank) (t : Token),
        cs = MarkerGroup.gapText gap ++ (t.text ++ x.rest) ∧ x.captures = [] := by
  -- Further tokens are outside of the groups, so that nothing of them is captured.
  have hplain : ∀ t : Token, [] ++ t.second.elim [] (fun _ => ([] : List (Nat × List Char))) = [] := by
    rintro ⟨ds, _ | es, -, -⟩ <;> rfl
  simp only [mem_successes_seq, mem_successes_optional,
    mem_successes_token reads_numberPattern reads_numberPattern, hplain]
  constructor
  · rintro ⟨y, hy, z, ⟨t, hrest, hcaptures⟩, rfl⟩
    rcases hy with hy | rfl
    · obtain ⟨c, hc, rfl, hblank⟩ := mem_successes_char.mp hy
      refine ⟨some ⟨c, hc⟩, t, congrArg (c :: ·) hrest, ?_⟩
      rw [Success.followedBy, hblank, hcaptures, List.append_nil]
    · exact ⟨none, t, hrest, hcaptures⟩
  · rintro ⟨gap, t, rfl, hcaptures⟩
    refine ⟨⟨[], t.text ++ x.rest⟩, ?_, x, ⟨t, rfl, hcaptures⟩, rfl⟩
    cases gap with
    | none => exact Or.inr rfl
    | some b => exact Or.inl (mem_successes_char.mpr ⟨b.val, b.property, rfl, rfl⟩)

/-- One token more in front of tokens that reach to the end of the line. -/
theorem mem_successes_otherTokens_of_rest (gap : Option Blank) (t : Token) {rest : List Char}
    (hrest : ⟨[], []⟩ ∈ otherTokens.successes rest) :
    ⟨[], []⟩ ∈ otherTokens.successes (MarkerGroup.gapText gap ++ (t.text ++ rest)) := by
  refine mem_successes_many.mpr (Or.inl ⟨⟨[], rest⟩,
    mem_successes_nextToken.mpr ⟨gap, t, rfl, rfl⟩, ?_, ⟨[], []⟩, hrest, rfl⟩)
  -- A token is not empty, so each turn takes some of the line.
  obtain ⟨cs, hcs⟩ := (MarkerGroup.one t).text_eq_cons
  rw [MarkerGroup.text] at hcs
  simp only [hcs, List.length_append, List.length_cons]
  omega

/-- Up to the end of the line, tokens behind the first one are nothing, or a group behind an optional
    blank. -/
theorem mem_successes_otherTokens {captures : List (Nat × List Char)} :
    ⟨captures, []⟩ ∈ otherTokens.successes cs
      ↔ captures = [] ∧ (cs = [] ∨ ∃ (gap : Option Blank) (g : MarkerGroup),
          cs = MarkerGroup.gapText gap ++ g.text) := by
  have hend : ⟨[], []⟩ ∈ otherTokens.successes [] := mem_successes_many.mpr (Or.inr rfl)
  constructor
  · intro h
    -- The induction is on the length of what is left; each turn shortens it.
    induction hn : cs.length using Nat.strongRecOn generalizing cs captures with
    | ind n ih =>
      rw [otherTokens, mem_successes_many] at h
      rcases h with ⟨y, hy, hshorter, ⟨last, rest⟩, hz, heq⟩ | heq
      · obtain ⟨gap, t, rfl, hcaptures⟩ := mem_successes_nextToken.mp hy
        obtain ⟨hall, rfl⟩ : y.captures ++ last = captures ∧ rest = [] := Success.mk.inj heq
        obtain ⟨hnone, htail⟩ := ih _ (hn ▸ hshorter) hz rfl
        refine ⟨by rw [← hall, hcaptures, hnone, List.append_nil], Or.inr ⟨gap, ?_⟩⟩
        rcases htail with htail | ⟨gap', g, htail⟩
        · exact ⟨.one t, by rw [htail, List.append_nil]; rfl⟩
        · exact ⟨.more t gap' g, by rw [htail]; rfl⟩
      · obtain ⟨hnone, hcs⟩ := Success.mk.inj heq
        exact ⟨hnone, Or.inl hcs.symm⟩
  · rintro ⟨rfl, rfl | ⟨gap, g, rfl⟩⟩
    · exact hend
    · induction g generalizing gap with
      | one t =>
        have hlast := mem_successes_otherTokens_of_rest gap t hend
        rwa [List.append_nil] at hlast
      | more t gap' g ih => exact mem_successes_otherTokens_of_rest gap t (ih gap')

/-- **One match at most.** The pattern matches where a group spells the rest of the line, in no other way
    than that of the group, with the numbers of its first token. -/
theorem mem_successes_markerPattern :
    x ∈ markerPattern.successes cs
      ↔ ∃ g : MarkerGroup, g.text = cs ∧ x = ⟨g.first.captures, []⟩ := by
  simp only [markerPattern, mem_successes_seq, mem_successes_atEnd,
    mem_successes_token (reads_numberPattern.captured 1) (reads_numberPattern.captured 2)]
  constructor
  · rintro ⟨y, ⟨t, rfl, hcaptures⟩, z, ⟨⟨captures, rest⟩, hother, v, ⟨hend, rfl⟩, rfl⟩, rfl⟩
    obtain rfl : rest = [] := hend
    obtain ⟨rfl, htail⟩ := mem_successes_otherTokens.mp hother
    have hx : y.followedBy (Success.followedBy ⟨[], []⟩ ⟨[], []⟩) = ⟨t.captures, []⟩ := by
      rw [Success.followedBy, hcaptures, Success.followedBy, List.append_nil, List.append_nil]
      rfl
    rcases htail with htail | ⟨gap, g, htail⟩
    · exact ⟨.one t, by rw [htail, List.append_nil]; rfl, hx⟩
    · exact ⟨.more t gap g, by rw [htail]; rfl, hx⟩
  · rintro ⟨g, rfl, rfl⟩
    -- Behind its first token a group ends or goes on with another group.
    have htail : g.tailText = [] ∨ ∃ (gap : Option Blank) (h : MarkerGroup),
        g.tailText = MarkerGroup.gapText gap ++ h.text := by
      cases g with
      | one t => exact Or.inl rfl
      | more t gap h => exact Or.inr ⟨gap, h, rfl⟩
    refine ⟨⟨g.first.captures, g.tailText⟩, ⟨g.first, g.text_eq, rfl⟩, ⟨[], []⟩,
      ⟨⟨[], []⟩, mem_successes_otherTokens.mpr ⟨rfl, htail⟩, ⟨[], []⟩, ⟨rfl, rfl⟩, rfl⟩, ?_⟩
    rw [Success.followedBy, List.append_nil]

/-- The preferred match at a place is that of a group, when there is one. -/
theorem head?_successes_markerPattern (cs : List Char) :
    (isMarkerGroup cs = false ∧ (markerPattern.successes cs).head? = none)
    ∨ ∃ g : MarkerGroup, g.text = cs
      ∧ (markerPattern.successes cs).head? = some ⟨g.first.captures, []⟩ := by
  cases hhead : (markerPattern.successes cs).head? with
  | none =>
    refine Or.inl ⟨?_, rfl⟩
    by_contra hgroup
    obtain ⟨g, hg⟩ := isMarkerGroup_iff.mp (Bool.not_eq_false _ ▸ hgroup)
    have hmem := mem_successes_markerPattern.mpr ⟨g, hg, rfl⟩
    rw [List.head?_eq_none_iff.mp hhead] at hmem
    cases hmem
  -- Whichever success comes first, it is that of a group with this text.
  | some x =>
    obtain ⟨g, hg, rfl⟩ := mem_successes_markerPattern.mp (List.mem_of_mem_head? hhead)
    exact Or.inr ⟨g, hg, rfl⟩

/-- **Leftmost match.** The leftmost match starts where the longest group does. -/
theorem search?_markerPattern (line : List Char) :
    (splitMarkerGroup line = none ∧ markerPattern.search? line = none)
    ∨ ∃ (before : List Char) (g : MarkerGroup), splitMarkerGroup line = some (before, g.text)
      ∧ markerPattern.search? line = some (before, ⟨g.first.captures, []⟩) := by
  induction line with
  | nil =>
    rcases head?_successes_markerPattern [] with ⟨-, hnone⟩ | ⟨g, hg, -⟩
    · exact Or.inl ⟨rfl, by rw [search?, hnone]; rfl⟩
    · obtain ⟨cs, hcs⟩ := g.text_eq_cons
      rw [hg] at hcs
      cases hcs
  | cons c cs ih =>
    rw [splitMarkerGroup, search?]
    rcases head?_successes_markerPattern (c :: cs) with ⟨hgroup, hnone⟩ | ⟨g, hg, hsome⟩
    · -- No group starts here: both go on with the rest of the line.
      rw [if_neg (by simp [hgroup]), hnone]
      rcases ih with ⟨hsplit, hsearch⟩ | ⟨before, g, hsplit, hsearch⟩
      · exact Or.inl ⟨by rw [hsplit]; rfl, by rw [hsearch]; rfl⟩
      · exact Or.inr ⟨c :: before, g, by rw [hsplit]; rfl, by rw [hsearch]; rfl⟩
    · refine Or.inr ⟨[], g, ?_, by rw [hsome]⟩
      rw [if_pos (hg ▸ isMarkerGroup_text g), hg]

end Pattern

/-- The two groups of the pattern hold the numbers of the token. -/
theorem capture?_captures (t : Token) (rest : List Char) :
    Success.capture? ⟨t.captures, rest⟩ 1 = some t.first
    ∧ Success.capture? ⟨t.captures, rest⟩ 2 = t.second := by
  obtain ⟨first, second, -, -⟩ := t
  cases second <;> exact ⟨rfl, rfl⟩

/-- Stripping a marker is what the pattern says. -/
theorem stripMarker_eq_stripPattern (line : List Char) : stripMarker line = stripPattern line := by
  rcases Pattern.search?_markerPattern line with ⟨hsplit, hsearch⟩ | ⟨before, g, hsplit, hsearch⟩
  · rw [stripMarker, stripPattern, hsplit, hsearch]
  · obtain ⟨hfirst, hsecond⟩ := capture?_captures g.first []
    rw [stripMarker, stripPattern, hsplit, hsearch]
    simp only [groupLines?_text, hfirst, hsecond, Option.bind_some]
    cases readWord? g.first.first <;> rfl

/-! ### The longest group -/

/-- The last template line that a token names: its second number, when this is a word, and else the
    first. -/
def Token.lastLine (t : Token) : Nat :=
  match t.second with
  | none => t.startLine
  | some ds => if IsWordNumeral ds then numeralValue ds else t.startLine

/-- What is left of a line and the template lines that its markers name, told by the longest group at its
    end. -/
inductive Strips (line : List Char) : List Char → Option (Nat × Nat) → Prop where
  /-- No group ends the line. -/
  | unmarked (hline : ∀ g : MarkerGroup, ¬ g.text <:+ line) : Strips line line none
  /-- The first number of the group is no word. -/
  | unnamed (g : MarkerGroup) (hg : IsLongestGroup g line) (hfirst : ¬ IsWordNumeral g.first.first) :
    Strips line line none
  /-- The group goes, and one blank in front of it if there is any. -/
  | marked (content : List Char) (gap : Option Blank) (g : MarkerGroup) (hg : IsLongestGroup g line)
    (hfirst : IsWordNumeral g.first.first)
    (hline : line = content ++ (MarkerGroup.gapText gap ++ g.text))
    (hgap : gap = none → ∀ c ∈ content.getLast?, isBlank c = false) :
    Strips line content (some (g.first.startLine, g.first.lastLine))

/-- The longest group at the end of a line is the one that is split off. -/
theorem splitMarkerGroup_of_isLongestGroup {before : List Char} {g : MarkerGroup}
    (hg : IsLongestGroup g (before ++ g.text)) :
    splitMarkerGroup (before ++ g.text) = some (before, g.text) := by
  refine splitMarkerGroup_append (isMarkerGroup_text g) fun s hs hne => ?_
  by_contra hgroup
  obtain ⟨h, hh⟩ := isMarkerGroup_iff.mp (Bool.not_eq_false _ ▸ hgroup)
  -- A longer suffix that is a group would be at the end of the line, too.
  have hsuffix : h.text <:+ before ++ g.text := by
    rw [hh]
    exact (List.suffix_append_inj_of_length_eq rfl).mpr ⟨hs, rfl⟩
  have hlength := (hg.longest h hsuffix).length_le
  rw [hh, List.length_append] at hlength
  exact hne (List.eq_nil_of_length_eq_zero (by omega))

/-- One blank in front of the group goes with it, if there is one. -/
theorem dropLastBlank_append_gapText {content : List Char} {gap : Option Blank}
    (hgap : gap = none → ∀ c ∈ content.getLast?, isBlank c = false) :
    dropLastBlank (content ++ MarkerGroup.gapText gap) = content := by
  cases gap with
  | some b => simp [MarkerGroup.gapText, dropLastBlank, b.property]
  | none =>
    rw [MarkerGroup.gapText, List.append_nil, dropLastBlank]
    cases hlast : content.getLast? with
    | none => rfl
    | some c => simp [hgap rfl c hlast]

/-- A group names lines as soon as its first number is a word; a second one that is not counts as none. -/
theorem groupLines?_of_isWordNumeral {g : MarkerGroup} (hg : IsWordNumeral g.first.first) :
    groupLines? g.text = some (g.first.startLine, g.first.lastLine) := by
  rw [groupLines?_text]
  generalize g.first = t at hg ⊢
  obtain ⟨first, second, hfirst, hsecond⟩ := t
  rw [readWord?_of_isWordNumeral hfirst.1 hg]
  cases second with
  | none => rfl
  | some es =>
    have hne := (hsecond es rfl).1
    by_cases hes : IsWordNumeral es
    · simp [readWord?_of_isWordNumeral hne hes, hes, Token.startLine, Token.lastLine]
    · -- The second number cannot be read, and the first one stands for both.
      have hnone : readWord? es = none := by
        rw [← Option.not_isSome_iff_eq_none, isSome_readWord?_iff hne]
        exact hes
      simp [hnone, hes, Token.startLine, Token.lastLine]

/-- Stripping does what the rules say. -/
theorem stripMarker_of_strips {line content : List Char} {lines? : Option (Nat × Nat)}
    (h : Strips line content lines?) : stripMarker line = (content, lines?) := by
  cases h with
  | unmarked hline =>
    refine stripMarker_of_not_endsInToken ?_
    rintro ⟨t, ht⟩
    exact hline (.one t) ht
  | unnamed g hg hfirst =>
    obtain ⟨before, rfl⟩ := hg.isSuffix
    exact stripMarker_of_not_isWordNumeral (splitMarkerGroup_of_isLongestGroup hg) hfirst
  | marked content gap g hg hfirst hline hgap =>
    rw [← List.append_assoc] at hline
    rw [hline] at hg ⊢
    rw [stripMarker, splitMarkerGroup_of_isLongestGroup hg]
    simp only [groupLines?_of_isWordNumeral hfirst, dropLastBlank_append_gapText hgap]

/-- A text ends in one blank that can be taken off, or in none. -/
theorem exists_gapText (cs : List Char) :
    ∃ (content : List Char) (gap : Option Blank), cs = content ++ MarkerGroup.gapText gap
      ∧ (gap = none → ∀ c ∈ content.getLast?, isBlank c = false) := by
  rcases List.eq_nil_or_concat' cs with rfl | ⟨ds, c, rfl⟩
  · exact ⟨[], none, rfl, by simp⟩
  · by_cases hc : isBlank c = true
    · exact ⟨ds, some ⟨c, hc⟩, rfl, by simp⟩
    · exact ⟨ds ++ [c], none, (List.append_nil _).symm, by simpa using hc⟩

/-- There is always an answer: a line ends in no group, or in a longest one. -/
theorem exists_strips (line : List Char) : ∃ content lines?, Strips line content lines? := by
  by_cases htoken : EndsInToken line
  · -- A line that ends in a token ends in a longest group, which names lines or does not.
    obtain ⟨_, g, -, hg⟩ := exists_longestGroup htoken
    by_cases hfirst : IsWordNumeral g.first.first
    · obtain ⟨before, hline⟩ := hg.isSuffix
      obtain ⟨content, gap, rfl, hgap⟩ := exists_gapText before
      rw [List.append_assoc] at hline
      exact ⟨_, _, .marked content gap g hg hfirst hline.symm hgap⟩
    · exact ⟨_, _, .unnamed g hg hfirst⟩
  · exact ⟨_, _, .unmarked fun g hg => htoken (g.endsInToken.of_suffix hg)⟩

/-- **Longest markers.** The leftmost match of the pattern, the most being taken at each turn, is the
    longest group at the end of the line.  A line without such a group stays as it is, and so does one
    where the first number of the group is no word; any other line loses the group and one blank in front
    of it, and the first token says where the line came from.  What is left is always a beginning of the
    line. -/
theorem stripMarker_takes_longest (line : List Char) :
    (∀ content lines?, stripMarker line = (content, lines?) ↔ Strips line content lines?)
    ∧ stripMarker line = stripPattern line
    ∧ ∃ removed, (stripMarker line).1 ++ removed = line := by
  refine ⟨fun content lines? => ⟨fun h => ?_, stripMarker_of_strips⟩,
    stripMarker_eq_stripPattern line, stripMarker_isPrefix line⟩
  obtain ⟨content', lines?', hstrips⟩ := exists_strips line
  obtain ⟨rfl, rfl⟩ := Prod.mk.inj ((stripMarker_of_strips hstrips).symm.trans h)
  exact hstrips

/-- One of two blanks goes, a second number beyond the words is not there, and digits of another script
    do no harm behind the first token. -/
example : stripMarker (['a', ' ', ' ', '#', '7', ':'] ++ List.replicate 20 '9' ++ ['#', '٣'])
    = (['a', ' '], some (7, 7)) := by
  decide

end ChartTrace
