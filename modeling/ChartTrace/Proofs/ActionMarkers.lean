import ChartTrace.Proofs.MarkerRanges
import Mathlib.Data.Nat.Find

namespace ChartTrace

/-!
# Markers and actions

The scan counts the delimiters of each line and never follows an action through the text.  On a text
whose delimiters alternate it still finds every line that ends outside an action:

* `delimiters`, `insideAfter?`: the delimiters of a text from left to right, and on which side of an
  action they lead; `IsWellDelimited`: no action opens inside another, and none closes that is not
  open;
* `countDoubled_char`, `braceBalance_of_insideAfter?`: the two counts of a line tell on which side it
  ends from the side on which it starts;
* `scanMarkers`, `lineMarkers_concat`: the markers of the scan alone, to which the end of the text
  adds that of an open action;
* `scanStep_atLine`: one line keeps the pending action the one that starts behind the last line that
  ends outside;
* `templateMarkers_of_isWellDelimited`: so a line has a marker if it ends outside an action, which
  names the lines since the last such line.
-/

/-! ### Delimiters -/

/-- What starts or ends an action. -/
inductive Delimiter where
  | opening
  | closing
deriving DecidableEq, Repr

/-- The character that a delimiter doubles. -/
def Delimiter.char : Delimiter → Char
  | opening => openBrace
  | closing => closeBrace

/-- The delimiters of a text, read from the left and without overlap. -/
def delimiters : List Char → List Delimiter
  | a :: b :: cs =>
    if a = openBrace ∧ b = openBrace then .opening :: delimiters cs
    else if a = closeBrace ∧ b = closeBrace then .closing :: delimiters cs
    else delimiters (b :: cs)
  | _ => []

/-- Another character begins no doubled one. -/
theorem countDoubled_cons_of_ne {a c : Char} (h : a ≠ c) (cs : List Char) :
    countDoubled c (a :: cs) = countDoubled c cs := by
  cases cs with
  | nil => rfl
  | cons b cs => rw [countDoubled, if_neg (fun hab => h hab.1)]

/-- Counting one delimiter alone finds as many as reading both at once: the two never overlap. -/
theorem countDoubled_char (d : Delimiter) (cs : List Char) :
    countDoubled d.char cs = (delimiters cs).count d := by
  fun_induction delimiters cs with
  | case1 a b cs h ih =>
    obtain ⟨rfl, rfl⟩ := h
    cases d with
    | opening => simpa [countDoubled, Delimiter.char] using ih
    | closing =>
      have hne : openBrace ≠ closeBrace := by decide
      simpa [Delimiter.char, countDoubled_cons_of_ne hne] using ih
  | case2 a b cs _ h ih =>
    obtain ⟨rfl, rfl⟩ := h
    cases d with
    | opening =>
      have hne : closeBrace ≠ openBrace := by decide
      simpa [Delimiter.char, countDoubled_cons_of_ne hne] using ih
    | closing => simpa [countDoubled, Delimiter.char] using ih
  -- No delimiter begins here, neither the one that is counted nor the other.
  | case3 a b cs hopen hclose ih =>
    have hab : ¬ (a = d.char ∧ b = d.char) := by cases d <;> assumption
    rw [countDoubled, if_neg hab, ih]
  | case4 cs h =>
    match cs, h with
    | [], _ => rfl
    | [_], _ => rfl
    | a :: b :: cs, h => exact (h a b cs rfl).elim

/-- The balance of a line is that of its delimiters. -/
theorem braceBalance_eq_count (line : List Char) :
    braceBalance line
      = ((delimiters line).count .opening : Int) - (delimiters line).count .closing := by
  have hopening : countDoubled openBrace line = _ := countDoubled_char .opening line
  have hclosing : countDoubled closeBrace line = _ := countDoubled_char .closing line
  rw [braceBalance, hopening, hclosing]

/-- A character that is no brace parts the delimiters before it from those behind. -/
theorem delimiters_append_cons {c : Char} (hopen : c ≠ openBrace) (hclose : c ≠ closeBrace)
    (cs ds : List Char) : delimiters (cs ++ c :: ds) = delimiters cs ++ delimiters ds := by
  -- A character that is no brace stops a delimiter in front of it and begins none itself.
  have hseparate : ∀ a, delimiters (a :: c :: ds) = delimiters (c :: ds) := fun a => by
    rw [delimiters, if_neg (fun h => hopen h.2), if_neg (fun h => hclose h.2)]
  have hskip : delimiters (c :: ds) = delimiters ds := by
    cases ds with
    | nil => rfl
    | cons d ds => rw [delimiters, if_neg (fun h => hopen h.1), if_neg (fun h => hclose h.1)]
  fun_induction delimiters cs with
  | case1 a b cs h ih =>
    rw [List.cons_append, List.cons_append, delimiters, if_pos h, ih, List.cons_append]
  | case2 a b cs hno h ih =>
    rw [List.cons_append, List.cons_append, delimiters, if_neg hno, if_pos h, ih, List.cons_append]
  | case3 a b cs hno hno' ih =>
    rw [List.cons_append, List.cons_append, delimiters, if_neg hno, if_neg hno',
      ← List.cons_append, ih]
  | case4 cs h =>
    match cs, h with
    | [], _ => exact hskip
    | [a], _ => exact (hseparate a).trans hskip
    | a :: b :: cs, h => exact (h a b cs rfl).elim

/-- No brace ends a line. -/
theorem ne_brace_of_isTerminator {c : Char} (h : isTerminator c = true) :
    c ≠ openBrace ∧ c ≠ closeBrace := by
  constructor <;> rintro rfl <;> exact absurd h (by decide)

/-- No delimiter reaches over the end of a line. -/
theorem delimiters_joinLines {ls : List Line}
    (hchars : ∀ l ∈ ls, ∀ c ∈ l.terminator, isTerminator c = true)
    (hends : ∀ l ∈ ls.dropLast, l.terminator ≠ []) :
    delimiters (joinLines ls) = ls.flatMap fun l => delimiters l.content := by
  have hend : ∀ (t ds : List Char), (∀ c ∈ t, isTerminator c = true) →
      delimiters (t ++ ds) = delimiters ds := by
    intro t ds ht
    induction t with
    | nil => rfl
    | cons c t ih =>
      obtain ⟨hopen, hclose⟩ := ne_brace_of_isTerminator (ht c (by simp))
      have hpart := delimiters_append_cons hopen hclose [] (t ++ ds)
      rw [List.cons_append]
      exact hpart.trans (ih fun d hd => ht d (List.mem_cons_of_mem c hd))
  induction ls with
  | nil => rfl
  | cons l ls ih =>
    obtain ⟨hl, hrest⟩ := List.forall_mem_cons.mp hchars
    cases hterminator : l.terminator with
    | nil =>
      -- Only the last line has no terminator.
      cases ls with
      | nil => simp [hterminator]
      | cons k ls => exact (hends l (by simp) hterminator).elim
    | cons c t =>
      rw [hterminator] at hl
      obtain ⟨hopen, hclose⟩ := ne_brace_of_isTerminator (hl c (by simp))
      have hls : ∀ k ∈ ls.dropLast, k.terminator ≠ [] := by
        intro k hk
        cases ls with
        | nil => simp at hk
        | cons j ls => exact hends k (List.mem_cons_of_mem l hk)
      rw [joinLines_cons, hterminator, List.append_assoc, List.cons_append,
        delimiters_append_cons hopen hclose, hend t _ fun d hd => hl d (List.mem_cons_of_mem c hd),
        ih hrest hls, List.flatMap_cons]

/-! ### Inside and outside -/

/-- Whether a text is inside an action behind some delimiters, from the side on which it is before
    them.  Missing when an action opens inside another, or a delimiter closes none. -/
def insideAfter? : Bool → List Delimiter → Option Bool
  | inside, [] => some inside
  | false, .opening :: ds => insideAfter? true ds
  | true, .closing :: ds => insideAfter? false ds
  | _, _ :: _ => none

/-- Every action of the text is closed before the next one opens; the last one may stay open. -/
def IsWellDelimited (source : List Char) : Prop :=
  (insideAfter? false (delimiters source)).isSome

instance (source : List Char) : Decidable (IsWellDelimited source) :=
  inferInstanceAs (Decidable (_ = true))

/-- Delimiters are followed one part after the other. -/
theorem insideAfter?_append (inside : Bool) (ds es : List Delimiter) :
    insideAfter? inside (ds ++ es) = (insideAfter? inside ds).bind fun s => insideAfter? s es := by
  fun_induction insideAfter? inside ds with
  | case1 inside => rfl
  | case2 ds ih => exact ih
  | case3 ds ih => exact ih
  | case4 inside d ds hopen hclose =>
    cases inside <;> cases d
    · exact (hopen rfl rfl).elim
    · rfl
    · rfl
    · exact (hclose rfl rfl).elim

/-- Where delimiters alternate, their balance is the change of side. -/
theorem count_of_insideAfter? {inside inside' : Bool} {ds : List Delimiter}
    (h : insideAfter? inside ds = some inside') :
    (ds.count .opening : Int) - ds.count .closing = (inside'.toNat : Int) - inside.toNat := by
  -- Along the way openings and closings alternate, so that they differ by the two sides at most.
  fun_induction insideAfter? inside ds with
  | case1 inside =>
    cases h
    simp
  | case2 ds ih =>
    have hrest := ih h
    simp at hrest ⊢
    omega
  | case3 ds ih =>
    have hrest := ih h
    simp at hrest ⊢
    omega
  | case4 => cases h

/-- So the balance of a line tells whether it enters or leaves an action. -/
theorem braceBalance_of_insideAfter? {inside inside' : Bool} {line : List Char}
    (h : insideAfter? inside (delimiters line) = some inside') :
    braceBalance line = (inside'.toNat : Int) - inside.toNat := by
  rw [braceBalance_eq_count, count_of_insideAfter? h]

/-! ### The scan, line by line -/

/-- The markers that the scan puts on lines, without that of an action which stays open. -/
def scanMarkers : Option Nat → Nat → List Line → List (Option Marker)
  | _, _, [] => []
  | pending, number, l :: ls =>
    let s := scanStep pending number (braceBalance l.content)
    s.2 :: scanMarkers s.1 (number + 1) ls

/-- The action that is open behind a line follows from that in front of it by one step. -/
theorem openAction_concat (ls : List Line) (l : Line) (pending : Option Nat) (number : Nat) :
    openAction pending number (ls ++ [l])
      = (scanStep (openAction pending number ls) (number + ls.length)
          (braceBalance l.content)).1 := by
  induction ls generalizing pending number with
  | nil => rfl
  | cons k ls ih =>
    rw [List.cons_append, openAction, ih, openAction, List.length_cons, Nat.add_right_comm,
      Nat.add_assoc]

/-- The marker of a line is that of one step from the action open in front of it. -/
theorem getElem?_scanMarkers {ls : List Line} {i : Nat} {l : Line} (hl : ls[i]? = some l)
    (pending : Option Nat) (number : Nat) :
    (scanMarkers pending number ls)[i]?
      = some (scanStep (openAction pending number (ls.take i)) (number + i)
          (braceBalance l.content)).2 := by
  induction ls generalizing pending number i with
  | nil => simp at hl
  | cons k ls ih =>
    cases i with
    | zero =>
      obtain rfl : k = l := by simpa using hl
      rfl
    | succ i =>
      rw [List.getElem?_cons_succ] at hl
      rw [scanMarkers, List.getElem?_cons_succ, ih hl, List.take_succ_cons, openAction,
        Nat.add_right_comm, Nat.add_assoc]

/-- A further line adds its own marker. -/
theorem scanMarkers_concat (ls : List Line) (l : Line) (pending : Option Nat) (number : Nat) :
    scanMarkers pending number (ls ++ [l])
      = scanMarkers pending number ls
        ++ [(scanStep (openAction pending number ls) (number + ls.length)
            (braceBalance l.content)).2] := by
  induction ls generalizing pending number with
  | nil => rfl
  | cons k ls ih =>
    rw [List.cons_append, scanMarkers, ih, scanMarkers, openAction, List.length_cons,
      List.cons_append, Nat.add_right_comm, Nat.add_assoc]

/-- The lines before a given one have the markers of the scan, and those from it on follow with the
    action that is open there. -/
theorem lineMarkers_append (ks : List Line) (l : Line) (ls : List Line) (pending : Option Nat)
    (number : Nat) :
    lineMarkers pending number (ks ++ l :: ls)
      = scanMarkers pending number ks
        ++ lineMarkers (openAction pending number ks) (number + ks.length) (l :: ls) := by
  induction ks generalizing pending number with
  | nil => rfl
  | cons k ks ih =>
    -- As the line `l` follows, `k` is not the last one.
    obtain ⟨j, js, hjs⟩ : ∃ j js, ks ++ l :: ls = j :: js := by
      cases ks <;> exact ⟨_, _, rfl⟩
    rw [List.cons_append, hjs, lineMarkers_cons_cons, ← hjs, ih, scanMarkers, openAction,
      List.length_cons, List.cons_append, Nat.add_right_comm, Nat.add_assoc]

/-- The lines before the last have the markers of the scan. -/
theorem lineMarkers_concat (ls : List Line) (l : Line) (pending : Option Nat) (number : Nat) :
    lineMarkers pending number (ls ++ [l])
      = scanMarkers pending number ls
        ++ [lastMarker (openAction pending number ls) (number + ls.length) l] := by
  rw [lineMarkers_append, lineMarkers_singleton]

/-! ### Templates -/

/-- Whether the text is inside an action at the end of its line `i`; it is outside before the first
    line. -/
def insideAt (source : List Char) (i : Nat) : Bool :=
  insideAfter? false (delimiters (joinLines ((splitLines source).take i))) = some true

/-- The last line up to line `i` that ends outside an action, or 0. -/
def lastOutside (source : List Char) (i : Nat) : Nat :=
  Nat.findGreatest (fun k => insideAt source k = false) i

/-- The marker that names the lines from `first` to `last`. -/
def Marker.ofLines (first last : Nat) : Marker :=
  if first = last then .line first else .span first last

theorem insideAt_zero (source : List Char) : insideAt source 0 = false := rfl

/-- Outside of actions that is the line itself. -/
theorem lastOutside_of_outside {source : List Char} {i : Nat} (h : insideAt source i = false) :
    lastOutside source i = i := by
  cases i with
  | zero => rfl
  | succ i => exact Nat.findGreatest_eq h

/-- A line that ends in an action has it from the line before. -/
theorem lastOutside_succ_of_inside {source : List Char} {i : Nat}
    (h : insideAt source (i + 1) = true) :
    lastOutside source (i + 1) = lastOutside source i := by
  rw [lastOutside, Nat.findGreatest_of_not (by simp [h])]
  rfl

/-- Inside of an action it lies further up. -/
theorem lastOutside_lt_of_inside {source : List Char} {i : Nat} (h : insideAt source i = true) :
    lastOutside source i < i := by
  cases i with
  | zero => exact absurd h (by simp [insideAt_zero])
  | succ i =>
    rw [lastOutside_succ_of_inside h]
    exact Nat.lt_succ_of_le (Nat.findGreatest_le i)

/-- The action that is open at the end of line `i` starts behind the last line that ends outside. -/
def openAt (source : List Char) (i : Nat) : Option Nat :=
  if insideAt source i then some (lastOutside source i + 1) else none

/-- What the scan makes of a line that leads from the side at the end of line `i` to a given side. -/
theorem scanStep_openAt (source : List Char) (i : Nat) (inside : Bool) :
    scanStep (openAt source i) (1 + i) ((inside.toNat : Int) - (insideAt source i).toNat)
      = if inside then (some (lastOutside source i + 1), none)
        else (none, some (.ofLines (lastOutside source i + 1) (i + 1))) := by
  rw [openAt, Nat.add_comm 1 i]
  -- An action that starts on this line has nothing open in front of it.
  cases hbefore : insideAt source i with
  | false =>
    have hlast := lastOutside_of_outside hbefore
    cases inside <;> simp [scanStep, hlast, Marker.ofLines]
  | true =>
    have hne : lastOutside source i ≠ i := Nat.ne_of_lt (lastOutside_lt_of_inside hbefore)
    cases inside <;> simp [scanStep, hne, Marker.ofLines]

section

variable {source : List Char} (hsource : IsWellDelimited source)
include hsource

/-- The side at the end of a line of a well-delimited text is known. -/
theorem insideAfter?_take (i : Nat) :
    insideAfter? false (((splitLines source).take i).flatMap fun l => delimiters l.content)
      = some (insideAt source i) := by
  have hlines := areLines_splitLines source
  have hchars := hlines.isTerminator
  have hends : ∀ l ∈ (splitLines source).dropLast, l.terminator ≠ [] :=
    fun l hl => hlines.terminator_ne_nil hl
  have hwhole := delimiters_joinLines hchars hends
  rw [joinLines_splitLines] at hwhole
  have htake : delimiters (joinLines ((splitLines source).take i)) = _ :=
    delimiters_joinLines (fun l hl => hchars l (List.mem_of_mem_take hl))
      (fun l hl => hends l ((dropLast_sublist (List.take_sublist i _)).subset hl))
  -- The delimiters behind the line can be followed only if those up to it can.
  have hdefined : (insideAfter? false
      (((splitLines source).take i).flatMap fun l => delimiters l.content)).isSome := by
    rw [IsWellDelimited, hwhole, ← List.take_append_drop i (splitLines source),
      List.flatMap_append, insideAfter?_append] at hsource
    exact Option.isSome_of_isSome_bind hsource
  obtain ⟨inside, hinside⟩ := Option.isSome_iff_exists.mp hdefined
  rw [hinside, insideAt, htake, hinside]
  cases inside <;> rfl

/-- In a well delimited template the balance of a line is the change of sides across it. -/
theorem braceBalance_atLine {i : Nat} {l : Line} (hl : (splitLines source)[i]? = some l) :
    braceBalance l.content
      = ((insideAt source (i + 1)).toNat : Int) - (insideAt source i).toNat := by
  have hnext := insideAfter?_take hsource (i + 1)
  rw [List.take_add_one, hl, Option.toList_some, List.flatMap_append, insideAfter?_append,
    insideAfter?_take hsource i, Option.bind_some, List.flatMap_singleton] at hnext
  exact braceBalance_of_insideAfter? hnext

/-- Step lemma: from the action that is open at the end of a line the scan finds that of the next
    line, and the marker of that line when it ends outside. -/
theorem scanStep_atLine {i : Nat} {l : Line} (hl : (splitLines source)[i]? = some l) :
    scanStep (openAt source i) (1 + i) (braceBalance l.content)
      = (openAt source (i + 1),
        if insideAt source (i + 1) then none
        else some (.ofLines (lastOutside source i + 1) (i + 1))) := by
  rw [braceBalance_atLine hsource hl, scanStep_openAt, openAt]
  cases hafter : insideAt source (i + 1) with
  | false => rfl
  | true => rw [lastOutside_succ_of_inside hafter]; rfl

/-- Run lemma: the pending action of the scan is the one that is open in the text. -/
theorem openAction_take {i : Nat} (hi : i ≤ (splitLines source).length) :
    openAction none 1 ((splitLines source).take i) = openAt source i := by
  induction i with
  | zero => rfl
  | succ i ih =>
    obtain ⟨l, hl⟩ : ∃ l, (splitLines source)[i]? = some l := ⟨_, List.getElem?_eq_getElem hi⟩
    have hlength : ((splitLines source).take i).length = i := by
      rw [List.length_take]
      omega
    rw [List.take_add_one, hl, Option.toList_some, openAction_concat, ih (by omega), hlength,
      scanStep_atLine hsource hl]

/-- A line has a marker exactly when it ends outside of actions; the marker begins behind the last line
    that did so. -/
theorem getElem?_scanMarkers_atLine {i : Nat} (hi : i < (splitLines source).length) :
    (scanMarkers none 1 (splitLines source))[i]?
      = some (if insideAt source (i + 1) then none
          else some (.ofLines (lastOutside source i + 1) (i + 1))) := by
  have hl := List.getElem?_eq_getElem hi
  rw [getElem?_scanMarkers hl, openAction_take hsource (Nat.le_of_lt hi),
    scanStep_atLine hsource hl]

/-- The side at the end of the template is that at the end of its last line. -/
theorem insideAfter?_delimiters :
    insideAfter? false (delimiters source) = some (insideAt source (splitLines source).length) := by
  obtain ⟨inside, hinside⟩ := Option.isSome_iff_exists.mp hsource
  rw [insideAt, List.take_length, joinLines_splitLines, hinside]
  cases inside <;> rfl

/-- The end of a text adds the marker of an action that is open there, in the place of none. -/
theorem templateMarkers_eq :
    templateMarkers source
      = if insideAt source (splitLines source).length then
          (scanMarkers none 1 (splitLines source)).dropLast
            ++ [some (.span (lastOutside source ((splitLines source).length - 1) + 1)
                ((splitLines source).length + 1))]
        else scanMarkers none 1 (splitLines source) := by
  -- Only the last line may have another marker than in the scan.
  obtain ⟨ks, l, hks⟩ := splitLines_eq_concat source
  have hlength : (splitLines source).length = ks.length + 1 := by simp [hks]
  have hl : (splitLines source)[ks.length]? = some l := by simp [hks]
  have hopen := openAction_take hsource (show ks.length ≤ (splitLines source).length by omega)
  have hstep := scanStep_atLine hsource hl
  rw [hks, List.take_left' rfl] at hopen
  rw [templateMarkers, hlength, Nat.add_sub_cancel, hks, lineMarkers_concat, scanMarkers_concat,
    lastMarker_eq, hopen, hstep, List.dropLast_concat, openAt]
  cases hend : insideAt source (ks.length + 1) with
  | false => rfl
  | true =>
    rw [lastOutside_succ_of_inside hend, Nat.add_comm 1 ks.length]
    rfl

/-- **Markers outside of actions.** In a text whose actions are closed before the next ones open, the
    scan puts a marker on a line if and only if the line ends outside an action.  The marker names
    the lines from the one behind the last line before it that ends outside (or the first line) up to
    the line itself.  When the text ends inside an action, the last line gets a marker all the same,
    which reaches to the line after it. -/
theorem templateMarkers_of_isWellDelimited :
    (∀ i < (splitLines source).length,
      ((∃ m, (scanMarkers none 1 (splitLines source))[i]? = some (some m))
        ↔ insideAt source (i + 1) = false)
      ∧ ∀ m, (scanMarkers none 1 (splitLines source))[i]? = some (some m) →
          m = .ofLines (lastOutside source i + 1) (i + 1))
    ∧ (insideAfter? false (delimiters source) = some false →
        templateMarkers source = scanMarkers none 1 (splitLines source))
    ∧ (insideAfter? false (delimiters source) = some true →
        templateMarkers source
          = (scanMarkers none 1 (splitLines source)).dropLast
            ++ [some (.span (lastOutside source ((splitLines source).length - 1) + 1)
                ((splitLines source).length + 1))]) := by
  have hmarkers := templateMarkers_eq hsource
  rw [insideAfter?_delimiters hsource]
  refine ⟨fun i hi => ?_, fun hend => ?_, fun hend => ?_⟩
  · rw [getElem?_scanMarkers_atLine hsource hi]
    cases insideAt source (i + 1) with
    | false => simp
    | true => simp
  · rw [hmarkers, Option.some.inj hend]
    rfl
  · rw [hmarkers, Option.some.inj hend]
    rfl

end

/-- A plain line, an action that is closed on the line where the next one opens, and one that stays
    open. -/
def reopeningTemplate : List Char :=
  ['a', '\n', openBrace, openBrace, '\n', closeBrace, closeBrace, openBrace, openBrace, '\n',
    closeBrace, closeBrace, '\n', openBrace, openBrace]

/-- An action that closes on a line where another one opens goes on for the scan, and the last one never
    closes. -/
theorem templateMarkers_of_isWellDelimited_reopeningTemplate :
    IsWellDelimited reopeningTemplate
    ∧ (insideAt reopeningTemplate 3 = true
      ∧ ¬ ∃ m, (scanMarkers none 1 (splitLines reopeningTemplate))[2]? = some (some m))
    ∧ (insideAt reopeningTemplate 4 = false
      ∧ (scanMarkers none 1 (splitLines reopeningTemplate))[3]? = some (some (.span 2 4)))
    ∧ insideAfter? false (delimiters reopeningTemplate) = some true
    ∧ templateMarkers reopeningTemplate
      = [some (.line 1), none, none, some (.span 2 4), some (.span 5 6)] := by
  have hsource : IsWellDelimited reopeningTemplate := by decide
  have hinside : insideAt reopeningTemplate 3 = true := by decide
  have houtside : insideAt reopeningTemplate 4 = false := by decide
  have hend : insideAfter? false (delimiters reopeningTemplate) = some true := by decide
  obtain ⟨hlines, -, hlast⟩ := templateMarkers_of_isWellDelimited hsource
  obtain ⟨hclosed, -⟩ := hlines 2 (by decide)
  obtain ⟨hreopened, hnamed⟩ := hlines 3 (by decide)
  obtain ⟨m, hm⟩ := hreopened.mpr houtside
  refine ⟨hsource, ⟨hinside, fun h => ?_⟩, ⟨houtside, ?_⟩, hend, ?_⟩
  · rw [hclosed.mp h] at hinside
    exact Bool.noConfusion hinside
  · rw [hm, hnamed m hm]
    decide
  · rw [hlast hend]
    decide

end ChartTrace
