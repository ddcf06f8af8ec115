import ChartTrace.Proofs.PlainDelimiters
import Mathlib.Algebra.BigOperators.Group.List.Basic
import Mathlib.Algebra.Ring.Nat
import Mathlib.Data.List.SplitBy

namespace ChartTrace

/-!
# Runs of braces

The delimiters of a line are the pairs within its runs of braces, whatever stands between the runs:

* `runsOf`, `pairsInRuns`: the maximal runs of a character, and how many pairs they hold;
* `countDoubled_replicate`: one run holds half as many pairs as characters, rounded down;
* `countDoubled_append`: a cut that does not part a run leaves the count;
* `countDoubled_flatten`, `countDoubled_eq_pairsInRuns`: so the count of a text is that of its runs;
* `JoinsBraces`, `braceBalance_append`: the balances of two texts add up, unless a brace meets its like;
* `braceBalance_append_markerText`: so a marker neither opens nor closes an action;
* `braceBalance_runs`: the balance by runs, by delimiters, of two texts and of a text with its marker.
-/

/-- The maximal runs of a character in a text. -/
def runsOf (c : Char) (cs : List Char) : List (List Char) :=
  (cs.splitBy fun a b => a == b).filter fun run => run.head? = some c

/-- The pairs that the maximal runs of a character hold. -/
def pairsInRuns (c : Char) (cs : List Char) : Nat :=
  ((runsOf c cs).map fun run => run.length / 2).sum

/-! ### One run -/

/-- In a run of one character every two of them are a pair, and an odd one is left. -/
theorem countDoubled_replicate (c : Char) (n : Nat) :
    countDoubled c (List.replicate n c) = n / 2 := by
  induction n using Nat.twoStepInduction with
  | zero => rfl
  | one => rfl
  | more n ih _ =>
    rw [List.replicate_succ, List.replicate_succ, countDoubled, if_pos ⟨rfl, rfl⟩, ih]
    omega

/-- Without the character there is no pair. -/
theorem countDoubled_of_not_mem {c : Char} {cs : List Char} (h : c ∉ cs) : countDoubled c cs = 0 := by
  induction cs with
  | nil => rfl
  | cons a cs ih =>
    have ha : a ≠ c := fun heq => h (heq ▸ List.mem_cons_self)
    rw [countDoubled_cons_of_ne ha, ih (List.not_mem_of_not_mem_cons h)]

/-- The pairs of a run of any character. -/
theorem countDoubled_run (c : Char) {run : List Char} (hrun : run.IsChain fun a b => (a == b) = true) :
    countDoubled c run = if run.head? = some c then run.length / 2 else 0 := by
  cases run with
  | nil => rfl
  | cons a cs =>
    -- A run is a repetition of its first character.
    have heq : a :: cs = List.replicate (cs.length + 1) a := by
      have hchain : (a :: cs).IsChain (· = ·) := hrun.imp fun _ _ => beq_iff_eq.mp
      exact List.isChain_eq_iff_eq_replicate.mp hchain a rfl
    by_cases ha : a = c
    · subst ha
      have hcount := countDoubled_replicate a (cs.length + 1)
      rw [← heq] at hcount
      rw [hcount, List.head?_cons, if_pos rfl, List.length_cons]
    · have hc : c ∉ a :: cs := by
        rw [heq]
        exact fun hmem => ha (List.eq_of_mem_replicate hmem).symm
      rw [countDoubled_of_not_mem hc]
      simp [ha]

/-! ### Runs side by side -/

/-- A cut between two texts parts a run only when the same character is on both sides of it. -/
theorem countDoubled_append {c : Char} {cs ds : List Char}
    (h : ¬ (cs.getLast? = some c ∧ ds.head? = some c)) :
    countDoubled c (cs ++ ds) = countDoubled c cs + countDoubled c ds := by
  fun_induction countDoubled c cs with
  -- A pair is taken, and the cut lies behind it.
  | case1 a b cs hab ih =>
    have hcut : ¬ (cs.getLast? = some c ∧ ds.head? = some c) := by
      rintro ⟨hlast, hhead⟩
      refine h ⟨?_, hhead⟩
      rw [List.getLast?_cons, List.getLast?_cons, hlast]
      rfl
    rw [List.cons_append, List.cons_append, countDoubled, if_pos hab, ih hcut]
    omega
  | case2 a b cs hab ih =>
    rw [List.getLast?_cons_cons] at h
    rw [List.cons_append, List.cons_append, countDoubled, if_neg hab]
    exact ih h
  | case3 cs hcs =>
    rcases cs with _ | ⟨a, _ | ⟨b, cs⟩⟩
    · simp
    · cases ds with
      | nil => rfl
      | cons d ds =>
        -- Nor does the last character of `cs` make a pair with the first of `ds`.
        have had : ¬ (a = c ∧ d = c) := by simpa using h
        rw [List.singleton_append, countDoubled, if_neg had, Nat.zero_add]
    · exact (hcs a b cs rfl).elim

/-- Texts that do not start with the character that the one before ends in. -/
theorem countDoubled_flatten (c : Char) {runs : List (List Char)} (hne : [] ∉ runs)
    (hruns : runs.IsChain fun r s => ∃ hr hs, (r.getLast hr == s.head hs) = false) :
    countDoubled c runs.flatten = (runs.map (countDoubled c)).sum := by
  induction runs with
  | nil => rfl
  | cons r runs ih =>
    rw [List.flatten_cons, List.map_cons, List.sum_cons, countDoubled_append,
      ih (List.not_mem_of_not_mem_cons hne) hruns.tail]
    rintro ⟨hlast, hhead⟩
    -- The next run begins with another character, or the two would be one run.
    cases runs with
    | nil => cases hhead
    | cons s runs =>
      obtain ⟨hr, hs, hneq⟩ := (List.isChain_cons_cons.mp hruns).1
      rw [List.flatten_cons, List.head?_append_of_ne_nil _ hs] at hhead
      have hboth : r.getLast hr = s.head hs := by
        rw [List.getLast_of_getLast?_eq_some hlast, List.head_of_head?_eq_some hhead]
      simp [hboth] at hneq

/-- **Runs.** Reading pairs from the left finds those of each maximal run. -/
theorem countDoubled_eq_pairsInRuns (c : Char) (cs : List Char) :
    countDoubled c cs = pairsInRuns c cs := by
  have hflatten := countDoubled_flatten c (List.nil_notMem_splitBy _ cs)
    (List.isChain_getLast_head_splitBy (fun a b => a == b) cs)
  rw [List.flatten_splitBy] at hflatten
  have hpairs : ((cs.splitBy fun a b => a == b).map (countDoubled c))
      = (cs.splitBy fun a b => a == b).map
          fun run => if run.head? = some c then run.length / 2 else 0 :=
    List.map_congr_left fun run hrun => countDoubled_run c (List.isChain_of_mem_splitBy hrun)
  rw [hflatten, hpairs, pairsInRuns, runsOf, List.sum_map_ite]
  simp

/-! ### Lines side by side -/

/-- Two texts meet within a run of braces. -/
def JoinsBraces (cs ds : List Char) : Prop :=
  ∃ c, isBrace c = true ∧ cs.getLast? = some c ∧ ds.head? = some c

/-- Balances add up unless a pair of braces is made at the cut. -/
theorem braceBalance_append {cs ds : List Char} (h : ¬ JoinsBraces cs ds) :
    braceBalance (cs ++ ds) = braceBalance cs + braceBalance ds := by
  have hopen : ¬ (cs.getLast? = some openBrace ∧ ds.head? = some openBrace) :=
    fun hjoin => h ⟨openBrace, rfl, hjoin⟩
  have hclose : ¬ (cs.getLast? = some closeBrace ∧ ds.head? = some closeBrace) :=
    fun hjoin => h ⟨closeBrace, rfl, hjoin⟩
  rw [braceBalance, countDoubled_append hopen, countDoubled_append hclose, braceBalance,
    braceBalance]
  push_cast
  omega

/-- No digit is a brace. -/
theorem isBrace_of_isAsciiDigit {c : Char} (hc : isAsciiDigit c = true) : isBrace c = false := by
  by_contra hbrace
  simp only [isBrace, Bool.not_eq_false, Bool.or_eq_true, beq_iff_eq] at hbrace
  rcases hbrace with rfl | rfl
  · exact absurd hc (by decide)
  · exact absurd hc (by decide)

/-- No character of a marker is a brace. -/
theorem isBrace_of_mem_markerText {m : Option Marker} {c : Char} (hc : c ∈ markerText m) :
    isBrace c = false := by
  have hdigit : ∀ {n : Nat}, c ∈ decimal n → isBrace c = false :=
    fun hmem => isBrace_of_isAsciiDigit (isAsciiDigit_of_mem_decimal hmem)
  cases m with
  | none => cases hc
  | some m =>
    cases m with
    | line n =>
      simp only [markerText, Marker.text, List.mem_cons] at hc
      rcases hc with rfl | rfl | hc
      · decide
      · decide
      · exact hdigit hc
    | span first last =>
      simp only [markerText, Marker.text, List.mem_cons, List.mem_append] at hc
      rcases hc with rfl | rfl | hc | rfl | hc
      · decide
      · decide
      · exact hdigit hc
      · decide
      · exact hdigit hc

/-- So a marker does not count. -/
theorem braceBalance_markerText (m : Option Marker) : braceBalance (markerText m) = 0 := by
  have hnone : ∀ c, isBrace c = true → c ∉ markerText m := by
    intro c hc hmem
    rw [isBrace_of_mem_markerText hmem] at hc
    cases hc
  rw [braceBalance, countDoubled_of_not_mem (hnone openBrace rfl),
    countDoubled_of_not_mem (hnone closeBrace rfl)]
  rfl

/-- A marker neither opens nor closes an action: it has no braces and parts none of the line. -/
theorem braceBalance_append_markerText (line : List Char) (m : Option Marker) :
    braceBalance (line ++ markerText m) = braceBalance line := by
  have hseam : ¬ JoinsBraces line (markerText m) := by
    rintro ⟨c, hbrace, -, hhead⟩
    rw [isBrace_of_mem_markerText (List.mem_of_mem_head? hhead)] at hbrace
    cases hbrace
  rw [braceBalance_append hseam, braceBalance_markerText, Int.add_zero]

/-- **Balance by runs.** The balance of a line is the number of pairs in its runs of opening braces less
    that in its runs of closing ones.  So it is what reading both delimiters in one go finds; the balances
    of two texts add up, unless they meet within a run of braces; and a marker changes nothing. -/
theorem braceBalance_runs (line : List Char) :
    braceBalance line = (pairsInRuns openBrace line : Int) - pairsInRuns closeBrace line
    ∧ braceBalance line
      = ((delimiters line).count .opening : Int) - (delimiters line).count .closing
    ∧ (∀ rest, ¬ JoinsBraces line rest →
        braceBalance (line ++ rest) = braceBalance line + braceBalance rest)
    ∧ ∀ m : Option Marker, braceBalance (line ++ markerText m) = braceBalance line := by
  refine ⟨?_, braceBalance_eq_count line, fun rest h => braceBalance_append h,
    braceBalance_append_markerText line⟩
  rw [braceBalance, countDoubled_eq_pairsInRuns, countDoubled_eq_pairsInRuns]

/-- A run of three opening braces, and behind it one of a single closing brace.  Where the cut parts a run
    the balances do not add up. -/
theorem braceBalance_runs_oddRuns :
    ¬ JoinsBraces [openBrace, openBrace, openBrace] [closeBrace, openBrace, openBrace]
    ∧ braceBalance ([openBrace, openBrace, openBrace] ++ [closeBrace, openBrace, openBrace]) = 1 + 1
    ∧ JoinsBraces [openBrace] [openBrace]
    ∧ braceBalance ([openBrace] ++ [openBrace])
      ≠ braceBalance [openBrace] + braceBalance [openBrace] := by
  have hapart : ¬ JoinsBraces [openBrace, openBrace, openBrace] [closeBrace, openBrace, openBrace] := by
    rintro ⟨c, -, hlast, hhead⟩
    exact absurd (Option.some.inj (hlast.trans hhead.symm) : openBrace = closeBrace) (by decide)
  exact ⟨hapart, (braceBalance_runs _).2.2.1 _ hapart, ⟨openBrace, rfl, rfl, rfl⟩, by decide⟩

end ChartTrace
