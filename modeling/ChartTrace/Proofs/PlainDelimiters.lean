import ChartTrace.Proofs.ActionMarkers

namespace ChartTrace

/-!
# Closing delimiters in plain text

Outside an action a closing delimiter is plain text, the end of inline JSON for instance.  The scan
counts it all the same, against the actions that its line opens.

* `insideAction`: on which side of an action a text ends, when a delimiter counts only on the side
  where it means something; `insideAction_eq_foldl`: the last delimiter decides;
* `IsApart`, `insertClosing`: a place without braces next to it, and a closing delimiter put there;
* `braceBalance_insertClosing`: the line of the place closes one action more than before;
* `exists_lines`: all other lines are as before;
* `lineMarkers_cons_eq_iff`: markers are the same if and only if the scan makes the same of that line;
* `templateMarkers_insertClosing`: which is to say that the line does not end inside an action, where
  delimiters alternate.
-/

/-! ### Sides of an action -/

/-- The delimiter that leads to the other side of an action. -/
def Delimiter.leaving (inside : Bool) : Delimiter := if inside then closing else opening

/-- Whether a text that starts on a given side of an action ends inside of one. -/
def insideAction : Bool → List Char → Bool
  | inside, a :: b :: cs =>
    if a = (Delimiter.leaving inside).char ∧ b = (Delimiter.leaving inside).char then
      insideAction (!inside) cs
    else insideAction inside (b :: cs)
  | inside, _ => inside

/-- Whether a text is inside an action behind a delimiter. -/
def Delimiter.opens : Delimiter → Bool
  | opening => true
  | closing => false

/-- A character that begins no leaving delimiter changes no side. -/
theorem insideAction_cons_of_ne {inside : Bool} {a : Char} (h : a ≠ (Delimiter.leaving inside).char)
    (cs : List Char) : insideAction inside (a :: cs) = insideAction inside cs := by
  cases cs with
  | nil => rfl
  | cons b cs => rw [insideAction, if_neg (fun hab => h hab.1)]

/-- A delimiter that is on the wrong side changes nothing, so the last one decides. -/
theorem insideAction_eq_foldl (inside : Bool) (cs : List Char) :
    insideAction inside cs = (delimiters cs).foldl (fun _ d => d.opens) inside := by
  fun_induction delimiters cs generalizing inside with
  | case1 a b cs h ih =>
    obtain ⟨rfl, rfl⟩ := h
    rw [List.foldl_cons, ← ih]
    cases inside with
    | false => rw [insideAction, if_pos (by decide)]; rfl
    | true =>
      -- Inside an action an opening is passed over.
      have hne : openBrace ≠ (Delimiter.leaving true).char := by decide
      rw [insideAction_cons_of_ne hne, insideAction_cons_of_ne hne]
      rfl
  | case2 a b cs _ h ih =>
    obtain ⟨rfl, rfl⟩ := h
    rw [List.foldl_cons, ← ih]
    cases inside with
    | false =>
      -- Outside of actions a closing is.
      have hne : closeBrace ≠ (Delimiter.leaving false).char := by decide
      rw [insideAction_cons_of_ne hne, insideAction_cons_of_ne hne]
      rfl
    | true => rw [insideAction, if_pos (by decide)]; rfl
  | case3 a b cs hopen hclose ih =>
    have hab : ¬ (a = (Delimiter.leaving inside).char ∧ b = (Delimiter.leaving inside).char) := by
      cases inside <;> assumption
    rw [insideAction, if_neg hab, ih]
  | case4 cs h =>
    rcases cs with _ | ⟨a, _ | ⟨b, cs⟩⟩
    · rfl
    · rfl
    · exact (h a b cs rfl).elim

/-! ### Places without braces -/

/-- Whether a character may be part of a delimiter. -/
def isBrace (c : Char) : Bool := c == openBrace || c == closeBrace

/-- The place between two texts has no brace next to it. -/
structure IsApart (before after : List Char) : Prop where
  before_last : ∀ c ∈ before.getLast?, isBrace c = false
  after_head : ∀ c ∈ after.head?, isBrace c = false

/-- Two characters are looked at: the one in front of the place and the one behind it. -/
theorem isApart_iff {before after : List Char} :
    IsApart before after ↔
      before.getLast?.any isBrace = false ∧ after.head?.any isBrace = false := by
  rw [Option.any_eq_false, Option.any_eq_false]
  exact ⟨fun h => ⟨h.before_last, h.after_head⟩, fun h => ⟨h.1, h.2⟩⟩

instance (before after : List Char) : Decidable (IsApart before after) :=
  decidable_of_iff _ isApart_iff.symm

/-- What closes an action. -/
def closingText : List Char := [closeBrace, closeBrace]

/-- The text with a closing delimiter between its two parts. -/
def insertClosing (before after : List Char) : List Char := before ++ (closingText ++ after)

theorem ne_brace_of_isBrace {c : Char} (h : isBrace c = false) : c ≠ openBrace ∧ c ≠ closeBrace := by
  simpa [isBrace] using h

/-- Delimiters do not reach across a place that no brace follows. -/
theorem delimiters_append_of_head {cs ds : List Char} (h : ∀ c ∈ ds.head?, isBrace c = false) :
    delimiters (cs ++ ds) = delimiters cs ++ delimiters ds := by
  cases ds with
  | nil => simp [delimiters]
  | cons c ds =>
    obtain ⟨hopen, hclose⟩ := ne_brace_of_isBrace (h c rfl)
    have hskip : delimiters (c :: ds) = delimiters ds := delimiters_append_cons hopen hclose [] ds
    rw [delimiters_append_cons hopen hclose, hskip]

/-- Nor across one that no brace precedes. -/
theorem delimiters_append_of_last {cs ds : List Char} (h : ∀ c ∈ cs.getLast?, isBrace c = false) :
    delimiters (cs ++ ds) = delimiters cs ++ delimiters ds := by
  rcases List.eq_nil_or_concat' cs with rfl | ⟨bs, c, rfl⟩
  · rfl
  · obtain ⟨hopen, hclose⟩ := ne_brace_of_isBrace (h c (by simp))
    rw [List.append_assoc, List.singleton_append, delimiters_append_cons hopen hclose,
      delimiters_append_cons hopen hclose]
    simp [delimiters]

/-- The delimiters of a text are those of its parts, with the new one between them. -/
theorem delimiters_insertClosing {before after : List Char} (h : IsApart before after) :
    delimiters (insertClosing before after)
      = delimiters before ++ .closing :: delimiters after := by
  rw [insertClosing, delimiters_append_of_last h.before_last, delimiters_append_of_head h.after_head]
  rfl

/-- The inserted closing lowers the balance by one. -/
theorem braceBalance_insertClosing {before after : List Char} (h : IsApart before after) :
    braceBalance (insertClosing before after) = braceBalance (before ++ after) - 1 := by
  rw [braceBalance_eq_count, braceBalance_eq_count, delimiters_insertClosing h,
    delimiters_append_of_last h.before_last]
  simp
  omega

/-- A closing delimiter outside an action leaves every place behind it on its side. -/
theorem insideAction_insertClosing {before after : List Char} (h : IsApart before after)
    (houtside : insideAction false before = false) :
    insideAction false (insertClosing before after) = insideAction false (before ++ after) := by
  rw [insideAction_eq_foldl] at houtside
  rw [insideAction_eq_foldl, insideAction_eq_foldl, delimiters_insertClosing h,
    delimiters_append_of_last h.before_last, List.foldl_append, List.foldl_append, houtside]
  rfl

/-! ### The lines around a place -/

/-- How many lines end in a text. -/
def endedLines (cs : List Char) : Nat := (splitLines cs).length - 1

/-- The line at the cut is counted on both sides, unless the cut parts a CR LF. -/
theorem length_splitLines_append (before after : List Char) (h : ¬ PartsLineEnd before after) :
    (splitLines (before ++ after)).length + 1
      = (splitLines before).length + (splitLines after).length := by
  obtain ⟨a, as, hafter⟩ := splitLines_eq_cons after
  obtain ⟨ks, k, hbefore, hlines⟩ := splitLines_cut h hafter
  rw [hlines, hbefore, hafter]
  simp
  omega

theorem closingText_append_head (cs : List Char) : (closingText ++ cs).head? ≠ some '\n' := by
  show some closeBrace ≠ some '\n'
  decide

theorem onOneLine_closingText : OnOneLine closingText := by decide

/-- A closing delimiter within a CRLF makes two line ends of it. -/
theorem length_splitLines_of_partsLineEnd {before after : List Char}
    (h : PartsLineEnd before after) :
    (splitLines (insertClosing before after)).length
      = (splitLines (before ++ after)).length + 1 := by
  obtain ⟨cs, rfl⟩ := List.getLast?_eq_some_iff.mp h.1
  obtain ⟨ds, rfl⟩ := List.head?_eq_some_iff.mp h.2
  -- With the closing in it the CR LF is two line ends, around a line of its own.
  have hlf : splitLines ('\n' :: ds) = ⟨[], ['\n']⟩ :: splitLines ds := rfl
  have hclosing := splitLines_append onOneLine_closingText hlf
  have hcr : splitLines (['\r'] ++ (closingText ++ '\n' :: ds))
      = ⟨[], ['\r']⟩ :: splitLines (closingText ++ '\n' :: ds) :=
    splitLines_lineEnd (by decide) (fun _ => closingText_append_head _)
  have hcrlf : splitLines (['\r', '\n'] ++ ds) = ⟨[], ['\r', '\n']⟩ :: splitLines ds := rfl
  have hinsert := length_splitLines_append cs (['\r'] ++ (closingText ++ '\n' :: ds))
    (by simp [PartsLineEnd])
  have hsource := length_splitLines_append cs (['\r', '\n'] ++ ds) (by simp [PartsLineEnd])
  rw [hcr, hclosing, List.length_cons, List.length_cons] at hinsert
  rw [hcrlf, List.length_cons] at hsource
  rw [insertClosing, List.append_assoc, List.append_assoc]
  show _ = (splitLines (cs ++ (['\r', '\n'] ++ ds))).length + 1
  omega

/-- The place is apart from the braces of its own line. -/
theorem IsApart.onLine {before after : List Char} (h : IsApart before after) {ks as : List Line}
    {k : List Char} {a : Line} (hbefore : splitLines before = ks ++ [⟨k, []⟩])
    (hafter : splitLines after = a :: as) : IsApart k a.content := by
  have hlast : before = joinLines ks ++ k := by
    rw [← joinLines_splitLines before, hbefore, joinLines_append]
    simp
  have hhead : after = a.content ++ (a.terminator ++ joinLines as) := by
    rw [← joinLines_splitLines after, hafter, joinLines_cons, List.append_assoc]
  -- The character next to the place is also the last one, or the first one, of its line.
  constructor
  · intro c hc
    refine h.before_last c ?_
    rw [hlast, List.getLast?_append, hc]
    rfl
  · intro c hc
    refine h.after_head c ?_
    rw [hhead, List.head?_append, hc]
    rfl

/-! ### What the scan makes of a line -/

/-- A line goes over to the other side of an action, as far as the scan can tell. -/
def Crosses (pending : Option Nat) (balance : Int) : Prop :=
  if pending.isSome then balance < 0 else 0 < balance

/-- One closing delimiter more changes whether a line goes over: outside an action the line opens
    just one, or inside it closes none. -/
def IsTipped (pending : Option Nat) (balance : Int) : Prop :=
  balance = if pending.isSome then 0 else 1

/-- A balance lower by one crosses just as before, unless it stands right at the edge. -/
theorem crosses_sub_one_iff (pending : Option Nat) (balance : Int) :
    (Crosses pending (balance - 1) ↔ Crosses pending balance) ↔ ¬ IsTipped pending balance := by
  cases pending with
  | none => simp only [Crosses, IsTipped, Option.isSome_none, Bool.false_eq_true, if_false]; omega
  | some start => simp only [Crosses, IsTipped, Option.isSome_some, if_true]; omega

/-- What the scan makes of a line depends on nothing else. -/
theorem scanStep_of_crosses_iff {pending : Option Nat} {b b' : Int}
    (h : Crosses pending b ↔ Crosses pending b') (number : Nat) :
    scanStep pending number b = scanStep pending number b' := by
  cases pending with
  | none =>
    have hb : b > 0 ↔ b' > 0 := h
    simp only [scanStep, hb]
  | some start =>
    have hb : b < 0 ↔ b' < 0 := h
    simp only [scanStep, hb]

/-- The marker that the scan puts on a line is there, be it the last line or not. -/
theorem head?_lineMarkers {pending : Option Nat} {number : Nat} {l : Line} {m : Marker}
    (h : (scanStep pending number (braceBalance l.content)).2 = some m) (ls : List Line) :
    (lineMarkers pending number (l :: ls)).head? = some (some m) := by
  cases ls with
  | cons k ls => rw [lineMarkers_cons_cons, h]; rfl
  | nil =>
    rw [lineMarkers_singleton, lastMarker_eq]
    -- A marker is written, so that no action is open and the last line keeps it.
    cases hopen : (scanStep pending number (braceBalance l.content)).1 with
    | none => rw [h]; rfl
    | some start =>
      rw [scanStep_snd_of_open hopen] at h
      cases h

/-- A line that leaves an action open has no marker that ends with it. -/
theorem stopLine_ne_of_open {pending : Option Nat} {number start : Nat} {l : Line}
    (h : (scanStep pending number (braceBalance l.content)).1 = some start) {ls : List Line}
    {m : Marker} (hm : (lineMarkers pending number (l :: ls)).head? = some (some m)) :
    m.stopLine ≠ number := by
  cases ls with
  | nil =>
    -- On the last line an open action ends at the line behind it.
    rw [lineMarkers_singleton, lastMarker_eq, h] at hm
    obtain rfl : Marker.span start (number + 1) = m := by simpa using hm
    exact Nat.succ_ne_self number
  | cons k ls =>
    rw [lineMarkers_cons_cons, scanStep_snd_of_open h] at hm
    cases hm

/-- A marker that ends with its line shows that the line goes over from the inside, or stays
    outside. -/
theorem exists_stopLine_iff (pending : Option Nat) (number : Nat) (l : Line) (ls : List Line) :
    (∃ m, (lineMarkers pending number (l :: ls)).head? = some (some m) ∧ m.stopLine = number)
      ↔ (Crosses pending (braceBalance l.content) ↔ pending.isSome = true) := by
  -- The marker ends here in the two cases where the line leaves no action open.
  rcases scanStep_cases pending number (braceBalance l.content) with
    ⟨rfl, hb, h⟩ | ⟨rfl, hb, h⟩ | ⟨start, rfl, hb, h⟩ | ⟨start, rfl, hb, h⟩
  · have hopen : (scanStep none number (braceBalance l.content)).1 = some number := by rw [h]
    simp only [Crosses, Option.isSome_none, Bool.false_eq_true, if_false, hb, iff_false, not_true,
      not_exists, not_and]
    exact fun m hm => stopLine_ne_of_open hopen hm
  · have hmarker : (scanStep none number (braceBalance l.content)).2 = some (.line number) := by
      rw [h]
    simp only [Crosses, Option.isSome_none, Bool.false_eq_true, if_false, iff_false]
    exact iff_of_true ⟨_, head?_lineMarkers hmarker ls, rfl⟩ (Int.not_lt.mpr hb)
  · have hmarker : (scanStep (some start) number (braceBalance l.content)).2
        = some (.span start number) := by rw [h]
    simp only [Crosses, Option.isSome_some, if_true, iff_true]
    exact iff_of_true ⟨_, head?_lineMarkers hmarker ls, rfl⟩ hb
  · have hopen : (scanStep (some start) number (braceBalance l.content)).1 = some start := by rw [h]
    simp only [Crosses, Option.isSome_some, if_true, iff_true]
    refine iff_of_false ?_ (Int.not_lt.mpr hb)
    rintro ⟨m, hm, hstop⟩
    exact stopLine_ne_of_open hopen hm hstop

/-- The markers from a line on tell whether the line goes over. -/
theorem lineMarkers_cons_eq_iff (pending : Option Nat) (number : Nat) (l k : Line) (ls : List Line) :
    lineMarkers pending number (l :: ls) = lineMarkers pending number (k :: ls)
      ↔ (Crosses pending (braceBalance l.content) ↔ Crosses pending (braceBalance k.content)) := by
  constructor
  · intro h
    -- Whether the marker of a line ends there tells how the line crosses.
    have hl := exists_stopLine_iff pending number l ls
    have hk := exists_stopLine_iff pending number k ls
    rw [h] at hl
    have hboth := hl.symm.trans hk
    cases pending with
    | none => simpa [not_iff_not] using hboth
    | some start => simpa using hboth
  · intro h
    have hstep := scanStep_of_crosses_iff h number
    cases ls with
    | nil => rw [lineMarkers_singleton, lineMarkers_singleton, lastMarker, lastMarker, hstep]
    | cons j ls => rw [lineMarkers_cons_cons, lineMarkers_cons_cons, hstep]

/-- Every line has its place in the scan, with a marker or without. -/
theorem length_scanMarkers (ls : List Line) (pending : Option Nat) (number : Nat) :
    (scanMarkers pending number ls).length = ls.length := by
  induction ls generalizing pending number with
  | nil => rfl
  | cons l ls ih => rw [scanMarkers, List.length_cons, List.length_cons, ih]

/-! ### Templates -/

/-- Where delimiters alternate, a line is tipped if and only if it ends inside an action. -/
theorem isTipped_atLine {source : List Char} (hsource : IsWellDelimited source) {i : Nat} {l : Line}
    (hl : (splitLines source)[i]? = some l) :
    IsTipped (openAction none 1 ((splitLines source).take i)) (braceBalance l.content)
      ↔ insideAt source (i + 1) = true := by
  have hi := (List.getElem?_eq_some_iff.mp hl).1
  rw [openAction_take hsource (Nat.le_of_lt hi), braceBalance_atLine hsource hl, IsTipped, openAt]
  cases insideAt source i <;> cases insideAt source (i + 1) <;> simp

section

variable {before after : List Char} (happart : IsApart before after)
include happart

/-- The lines of the text with and without the closing delimiter differ in the line of the place,
    which closes one action more. -/
theorem exists_lines (hparts : ¬ PartsLineEnd before after) :
    ∃ ks l l' as, ks.length = endedLines before ∧ splitLines (before ++ after) = ks ++ l :: as
      ∧ splitLines (insertClosing before after) = ks ++ l' :: as
      ∧ braceBalance l'.content = braceBalance l.content - 1 := by
  obtain ⟨a, as, hafter⟩ := splitLines_eq_cons after
  obtain ⟨ks, k, hbefore, hsource⟩ := splitLines_cut hparts hafter
  obtain ⟨ks', k', hbefore', hinsert⟩ := splitLines_cut
    (fun h => closingText_append_head _ h.2) (splitLines_append onOneLine_closingText hafter)
  -- The two cuts find the same lines before the place.
  obtain ⟨rfl, hlast⟩ := List.append_inj' (hbefore.symm.trans hbefore') rfl
  obtain rfl : k = k' := by simpa using hlast
  refine ⟨ks, _, _, as, by simp [endedLines, hbefore], hsource, hinsert, ?_⟩
  exact braceBalance_insertClosing (happart.onLine hbefore hafter)

/-- The markers stay if and only if the place is not within a CRLF and its line is not tipped. -/
theorem templateMarkers_insertClosing_eq_iff :
    templateMarkers (insertClosing before after) = templateMarkers (before ++ after)
      ↔ ¬ PartsLineEnd before after
        ∧ ∀ l, (splitLines (before ++ after))[endedLines before]? = some l →
          ¬ IsTipped (openAction none 1 ((splitLines (before ++ after)).take (endedLines before)))
            (braceBalance l.content) := by
  by_cases hparts : PartsLineEnd before after
  · -- There is a line more than before.
    have hlength := length_splitLines_of_partsLineEnd hparts
    refine iff_of_false (fun h => ?_) (fun h => h.1 hparts)
    have heq := congrArg List.length h
    rw [templateMarkers, templateMarkers, length_lineMarkers, length_lineMarkers] at heq
    omega
  · obtain ⟨ks, l, l', as, hended, hsource, hinsert, hbalance⟩ := exists_lines happart hparts
    rw [templateMarkers, templateMarkers, hinsert, hsource, ← hended, lineMarkers_append,
      lineMarkers_append, List.append_cancel_left_eq, lineMarkers_cons_eq_iff, hbalance,
      crosses_sub_one_iff]
    simp [hparts]

/-- A line that ends inside an action gets the marker of one that ends outside. -/
theorem getElem?_templateMarkers_insertClosing (hsource : IsWellDelimited (before ++ after))
    (hparts : ¬ PartsLineEnd before after)
    (hinside : insideAt (before ++ after) (endedLines before + 1) = true) :
    (templateMarkers (insertClosing before after))[endedLines before]?
      = some (some (.ofLines (lastOutside (before ++ after) (endedLines before) + 1)
          (endedLines before + 1))) := by
  obtain ⟨ks, l, l', as, hended, hlines, hinsert, hbalance⟩ := exists_lines happart hparts
  rw [← hended] at hinside ⊢
  have hl : (splitLines (before ++ after))[ks.length]? = some l := by simp [hlines]
  have hopen : openAction none 1 ks = openAt (before ++ after) ks.length := by
    have htake := openAction_take hsource (Nat.le_of_lt (List.getElem?_eq_some_iff.mp hl).1)
    rwa [hlines, List.take_left' rfl] at htake
  -- The closing delimiter takes back the change of side that the line makes.
  have hstep : scanStep (openAction none 1 ks) (1 + ks.length) (braceBalance l'.content)
      = (none, some (.ofLines (lastOutside (before ++ after) ks.length + 1) (ks.length + 1))) := by
    have hback : braceBalance l'.content
        = (false.toNat : Int) - (insideAt (before ++ after) ks.length).toNat := by
      rw [hbalance, braceBalance_atLine hsource hl, hinside, Bool.toNat_true, Bool.toNat_false]
      omega
    rw [hopen, hback, scanStep_openAt]
    rfl
  rw [templateMarkers, hinsert, lineMarkers_append,
    List.getElem?_append_right (by rw [length_scanMarkers]), length_scanMarkers, Nat.sub_self,
    ← List.head?_eq_getElem?]
  exact head?_lineMarkers (by rw [hstep]) as

/-- **Plain delimiters count.** A closing delimiter that is put outside an action, away from other
    braces, is plain text: every place behind it stays on its side.  The markers stay as well if and
    only if the place is not within a CRLF and its line, as the scan finds it, does not open just one
    action from the outside and does not keep one open from the inside.  Where delimiters alternate
    this is to say that the line ends outside an action; a line that ends inside gets a marker within
    the action. -/
theorem templateMarkers_insertClosing (houtside : insideAction false before = false) :
    (∀ cs, cs <+: after →
      insideAction false (insertClosing before cs) = insideAction false (before ++ cs))
    ∧ (templateMarkers (insertClosing before after) = templateMarkers (before ++ after)
      ↔ ¬ PartsLineEnd before after
        ∧ ∀ l, (splitLines (before ++ after))[endedLines before]? = some l →
          ¬ IsTipped (openAction none 1 ((splitLines (before ++ after)).take (endedLines before)))
            (braceBalance l.content))
    ∧ (IsWellDelimited (before ++ after) → ¬ PartsLineEnd before after →
      (templateMarkers (insertClosing before after) = templateMarkers (before ++ after)
        ↔ insideAt (before ++ after) (endedLines before + 1) = false)
      ∧ (insideAt (before ++ after) (endedLines before + 1) = true →
        (templateMarkers (insertClosing before after))[endedLines before]?
          = some (some (.ofLines (lastOutside (before ++ after) (endedLines before) + 1)
              (endedLines before + 1))))) := by
  refine ⟨fun cs hcs => ?_, templateMarkers_insertClosing_eq_iff happart, fun hsource hparts => ?_⟩
  · -- A beginning of the rest begins with the same character.
    refine insideAction_insertClosing ⟨happart.before_last, fun c hc => ?_⟩ houtside
    obtain ⟨ds, rfl⟩ := hcs
    exact happart.after_head c (by rw [List.head?_append, hc]; rfl)
  · refine ⟨?_, getElem?_templateMarkers_insertClosing happart hsource hparts⟩
    obtain ⟨ks, l, -, as, hended, hlines, -⟩ := exists_lines happart hparts
    -- The line that is scanned is the one that holds the place.
    have hl : (splitLines (before ++ after))[endedLines before]? = some l := by
      simp [hlines, ← hended]
    rw [templateMarkers_insertClosing_eq_iff happart, hl]
    simp [hparts, isTipped_atLine hsource hl]

end

/-- An action over two lines, and a blank. -/
def closedAction : List Char := [openBrace, openBrace, '\n', closeBrace, closeBrace, ' ']

/-- A blank, and an action over two lines. -/
def openedAction : List Char := [' ', openBrace, openBrace, '\n', closeBrace, closeBrace]

/-- Between two actions on one line: the marker of the first one is put where the second is open. -/
theorem templateMarkers_insertClosing_betweenActions :
    IsApart closedAction openedAction ∧ insideAction false closedAction = false
    ∧ (openedAction.take 3 <+: openedAction
      ∧ insideAction false (insertClosing closedAction (openedAction.take 3))
        = insideAction false (closedAction ++ openedAction.take 3))
    ∧ IsWellDelimited (closedAction ++ openedAction) ∧ ¬ PartsLineEnd closedAction openedAction
    ∧ insideAt (closedAction ++ openedAction) 2 = true
    ∧ (templateMarkers (insertClosing closedAction openedAction))[1]? = some (some (.span 1 2))
    ∧ templateMarkers (insertClosing closedAction openedAction)
      ≠ templateMarkers (closedAction ++ openedAction) := by
  have happart : IsApart closedAction openedAction := by decide
  have houtside : insideAction false closedAction = false := by decide
  have hinit : openedAction.take 3 <+: openedAction := List.take_prefix 3 openedAction
  have hsource : IsWellDelimited (closedAction ++ openedAction) := by decide
  have hparts : ¬ PartsLineEnd closedAction openedAction := by simp [PartsLineEnd, closedAction]
  have hinside : insideAt (closedAction ++ openedAction) 2 = true := by decide
  obtain ⟨hsides, -, hlines⟩ := templateMarkers_insertClosing happart houtside
  obtain ⟨hsame, hmarker⟩ := hlines hsource hparts
  refine ⟨happart, houtside, ⟨hinit, hsides _ hinit⟩, hsource, hparts, hinside,
    hmarker hinside, fun h => ?_⟩
  exact absurd (hsame.mp h) (by rw [show endedLines closedAction = 1 by decide, hinside]; decide)

/-- Plain text in front of an action over two lines: with the closing delimiter both lines get a marker
    of their own, the first of them inside the action. -/
theorem plainClosing_moves_markers :
    IsApart ['a'] openedAction ∧ insideAction false ['a'] = false
    ∧ templateMarkers (['a'] ++ openedAction) = [none, some (.span 1 2)]
    ∧ templateMarkers (insertClosing ['a'] openedAction) = [some (.line 1), some (.line 2)]
    ∧ insideAction false (insertClosing ['a'] (openedAction.take 3)) = true := by
  refine ⟨?_, ?_, ?_, ?_, ?_⟩ <;> decide

end ChartTrace
