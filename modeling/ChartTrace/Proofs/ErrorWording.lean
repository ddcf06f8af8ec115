import ChartTrace.Proofs.ErrorLines
import ChartTrace.Proofs.MarkerGroups
import Mathlib.Data.List.Infix

namespace ChartTrace

/-!
# The wording of YAML errors

An error of the YAML reader is worded with up to two places: that of the problem and that of what was
being read.  `Error.toMarked` carries the first one apart and cuts the wording at its last ` at line `.
What is left depends on which of the places the wording shows, and so on the places themselves.

* `beforeLast_append`: a text is cut in front of its last occurrence of another;
* `Error.text_eq`: the message, the place and the activity that a wording consists of;
* `Error.problem_of_shown`, `Error.problem_of_hides`, `Error.problem_of_origin`: what is left of them;
* `Error.problem_independent_iff`: which errors have the same problem at all places.
-/

/-! ### The last occurrence of a text -/

/-- The search finds a text that stands anywhere in another. -/
theorem occursIn_eq_true_iff {part cs : List Char} : occursIn part cs = true ↔ part <:+: cs := by
  induction cs with
  | nil => simp [occursIn]
  | cons c cs ih => rw [occursIn, Bool.or_eq_true, List.isPrefixOf_iff_prefix, ih, List.infix_cons_iff]

theorem occursIn_eq_false_iff {part cs : List Char} :
    occursIn part cs = false ↔ ¬ part <:+: cs := by
  rw [← occursIn_eq_true_iff, Bool.not_eq_true]

/-- A character that a text does not have ends what of the text can stand there. -/
theorem isPrefixOf_append_cons {part : List Char} {c : Char} (hc : c ∉ part) (cs ds : List Char) :
    part.isPrefixOf (cs ++ c :: ds) = part.isPrefixOf cs := by
  induction part generalizing cs with
  | nil => simp
  | cons d part ih =>
    obtain ⟨hd, hpart⟩ := not_or.mp (mt List.mem_cons.mpr hc)
    cases cs with
    | nil => simp [List.isPrefixOf, Ne.symm hd]
    | cons e cs => simp [List.isPrefixOf, ih hpart]

/-- No occurrence reaches over a character that the text does not have. -/
theorem occursIn_append_cons {part : List Char} {c : Char} (hc : c ∉ part) (cs ds : List Char) :
    occursIn part (cs ++ c :: ds) = (occursIn part cs || occursIn part ds) := by
  induction cs with
  | nil =>
    rw [List.nil_append, occursIn, occursIn, ← List.nil_append (c :: ds), isPrefixOf_append_cons hc]
    cases part <;> rfl
  | cons e cs ih =>
    have hstart := isPrefixOf_append_cons hc (e :: cs) ds
    rw [List.cons_append] at hstart ⊢
    rw [occursIn, occursIn, ih, hstart, Bool.or_assoc]

/-- Where a text does not occur, nothing is cut. -/
theorem beforeLast_of_not_occursIn {part cs : List Char} (h : occursIn part cs = false) :
    beforeLast part cs = cs := by
  cases cs with
  | nil => rfl
  | cons c cs =>
    obtain ⟨hstart, hcs⟩ := Bool.or_eq_false_iff.mp h
    simp [beforeLast, hstart, hcs]

/-- A text is cut in front of an occurrence that no other one follows. -/
theorem beforeLast_append {c : Char} {part ds : List Char}
    (h : occursIn (c :: part) (part ++ ds) = false) (cs : List Char) :
    beforeLast (c :: part) (cs ++ (c :: part ++ ds)) = cs := by
  induction cs with
  | nil =>
    have hstart : (c :: part).isPrefixOf (c :: (part ++ ds)) = true :=
      List.isPrefixOf_iff_prefix.mpr (List.prefix_append (c :: part) ds)
    rw [List.nil_append, List.cons_append, beforeLast, h, hstart]
    rfl
  | cons d cs ih =>
    -- The occurrence lies further on, so that this character is kept.
    have hoccurs : occursIn (c :: part) (cs ++ (c :: part ++ ds)) = true := by
      rw [occursIn_eq_true_iff, ← List.append_assoc]
      exact List.infix_append cs (c :: part) ds
    rw [List.cons_append, beforeLast, if_pos hoccurs, ih]

/-- Where a text occurs, something is cut. -/
theorem length_beforeLast_lt {part cs : List Char} (hne : part ≠ []) (h : occursIn part cs = true) :
    (beforeLast part cs).length < cs.length := by
  induction cs with
  | nil =>
    rw [occursIn, List.isEmpty_iff] at h
    exact absurd h hne
  | cons c cs ih =>
    rw [beforeLast]
    by_cases hcs : occursIn part cs = true
    · rw [if_pos hcs]
      exact Nat.succ_lt_succ (ih hcs)
    · -- The last occurrence starts here, and the cut leaves nothing.
      have hstart : part.isPrefixOf (c :: cs) = true := by
        rw [occursIn, Bool.or_eq_true] at h
        exact h.resolve_right hcs
      rw [if_neg hcs, if_pos hstart]
      exact Nat.succ_pos _

namespace Yaml

/-! ### Places in words -/

/-- What a place in words starts with. -/
def placeLead : List Char := [' ', 'a', 't', ' ', 'l', 'i', 'n', 'e', ' ']

/-- The lead as it is written in the wording, and as a list that can be compared by evaluation. -/
theorem toList_placeLead : " at line ".toList = placeLead := String.toList_ofList

theorem placeLead_ne_nil : placeLead ≠ [] := List.cons_ne_nil _ _

/-- The lead has an `a`, which most of what a wording is put together from has not. -/
theorem not_occursIn_of_not_mem {cs : List Char} (h : 'a' ∉ cs) : occursIn placeLead cs = false := by
  rw [occursIn_eq_false_iff]
  exact fun hlead => h (hlead.subset (by decide))

/-- Digits are no letters. -/
theorem not_mem_decimal (n : Nat) : 'a' ∉ decimal n := by
  intro h
  exact absurd (isAsciiDigit_of_mem_decimal h) (by decide)

/-- What follows the lead of a place in words. -/
def placeRest (line column : Nat) : List Char :=
  decimal (line + 1) ++ " column ".toList ++ decimal (column + 1)

/-- A place in words is its lead and two numbers. -/
theorem toList_placeText (line column : Nat) :
    (placeText line column).toList = placeLead ++ placeRest line column := by
  simp [placeText, placeRest, decimalText, toList_placeLead]

/-- Behind the lead of a place no other place starts, up to a comma. -/
theorem not_occursIn_placeRest (line column : Nat) :
    occursIn placeLead (placeLead.tail ++ placeRest line column) = false := by
  have hrest : 'a' ∉ placeLead.tail.tail ++ placeRest line column := by
    simp [placeLead, placeRest, not_mem_decimal]
  -- The tail of the lead starts with the only other `a`, and is not a lead itself.
  show (placeLead.isPrefixOf (placeLead.tail ++ placeRest line column)
    || occursIn placeLead (placeLead.tail.tail ++ placeRest line column)) = false
  rw [not_occursIn_of_not_mem hrest]
  rfl

/-- A text ends in a place, or goes on behind a comma without one. -/
inductive EndsPlaces : List Char → Prop where
  | nil : EndsPlaces []
  | comma {cs : List Char} (h : occursIn placeLead cs = false) : EndsPlaces (',' :: cs)

/-- What ends places adds none, since a lead has no comma to reach over. -/
theorem not_occursIn_append {cs rest : List Char} (hcs : occursIn placeLead cs = false)
    (hrest : EndsPlaces rest) : occursIn placeLead (cs ++ rest) = false := by
  cases hrest with
  | nil => rwa [List.append_nil]
  | comma h =>
    rw [occursIn_append_cons (by decide), hcs, h]
    rfl

/-- A wording is cut in front of its last place. -/
theorem beforeLast_placeText {rest : List Char} (h : EndsPlaces rest) (cs : List Char)
    (line column : Nat) :
    beforeLast placeLead (cs ++ ((placeText line column).toList ++ rest)) = cs := by
  have hlast := not_occursIn_append (not_occursIn_placeRest line column) h
  rw [List.append_assoc] at hlast
  rw [toList_placeText, List.append_assoc]
  exact beforeLast_append hlast cs

/-- What a byte offset in words shares with a place in words. -/
def offsetLead : List Char := [' ', 'a', 't', ' ']

/-- No problem names a place, not even together with the lead of an offset. -/
theorem not_occursIn_problem (p : Problem) :
    occursIn placeLead (p.message.toList ++ offsetLead) = false := by
  -- Each literal is read as a list of characters first: to decode its bytes is far slower.
  cases p <;>
    exact (congrArg (fun cs => occursIn placeLead (cs ++ offsetLead)) String.toList_ofList).trans
      (by decide)

/-- What was being read is never worded with a place. -/
theorem not_occursIn_activity (a : Activity) :
    occursIn placeLead (' ' :: a.message.toList) = false := by
  cases a <;>
    exact (congrArg (fun cs => occursIn placeLead (' ' :: cs)) String.toList_ofList).trans (by decide)

/-! ### Errors apart from their places -/

/-- What was being read when an error was found, and where it starts. -/
def Error.activity? : Error → Option (Activity × Position)
  | .cut (.fault f) => f.activity
  | _ => none

/-- The bytes before a character that cannot be read. -/
def Error.offset : Error → Nat
  | .cut (.fault f) => f.offset
  | _ => 0

/-- The error with all its places moved to one. -/
def Error.placedAt (q : Position) : Error → Error
  | .cut (.fault f) =>
    .cut (.fault { f with position := q, activity := f.activity.map fun a => (a.1, q) })
  | .cut (.unknownAnchor _) => .cut (.unknownAnchor q)
  | .value problem _ path => .value problem q path
  | .tooDeep _ => .tooDeep q
  | e => e

/-- Two errors differ in nothing but their places. -/
def Error.DifferInPlaces (e e' : Error) : Prop := e.placedAt .origin = e'.placedAt .origin

section

variable (e : Error) (q : Position)

/-- Moving an error keeps whether it has a place. -/
@[simp] theorem Error.position?_placedAt : (e.placedAt q).position? = e.position?.map fun _ => q := by
  rcases e with (f | p) | _ | _ | _ | _ <;> rfl

/-- Moving an error keeps its message, the path in it included. -/
@[simp] theorem Error.message_placedAt : (e.placedAt q).message = e.message := by
  rcases e with (f | p) | ⟨_, _, _ | _⟩ | _ | _ | _ <;> rfl

@[simp] theorem Error.activity?_placedAt :
    (e.placedAt q).activity? = e.activity?.map fun a => (a.1, q) := by
  rcases e with (f | p) | _ | _ | _ | _ <;> rfl

@[simp] theorem Error.offset_placedAt : (e.placedAt q).offset = e.offset := by
  rcases e with (f | p) | _ | _ | _ | _ <;> rfl

@[simp] theorem Error.placedAt_placedAt (r : Position) : (e.placedAt q).placedAt r = e.placedAt r := by
  rcases e with (⟨problem, position, _ | _, offset⟩ | p) | _ | _ | _ | _ <;> rfl

end

/-! ### The parts of a wording -/

/-- The place of a problem in words. -/
def placeWords (offset : Nat) (p : Position) : String :=
  if p.isOrigin && offset != 0 then " at position " ++ decimalText offset else p.text

@[simp] theorem placeWords_zero (p : Position) : placeWords 0 p = p.text := by simp [placeWords]

/-- The beginning of the text is not worded. -/
theorem Position.text_of_isOrigin {p : Position} (h : p.isOrigin = true) : p.text = "" := by
  rw [Position.text, h]
  rfl

/-- What was being read, in words; a place in words comes with it unless it is the beginning of the
    text or the place of the problem. -/
def activityWords (p : Position) : Option (Activity × Position) → String
  | none => ""
  | some (a, q) =>
    ", " ++ a.message ++ if q.line = p.line ∧ q.column = p.column then "" else q.text

/-- A wording is the message, the place of the problem and what was being read, in this order. -/
theorem Error.text_eq {e : Error} {p : Position} (hp : e.position? = some p) :
    e.text = e.message ++ placeWords e.offset p ++ activityWords p e.activity? := by
  have hplain : placeWords 0 p ++ activityWords p none = p.text := by simp [activityWords]
  rcases e with (f | _) | ⟨_, _, _ | _⟩ | _ | _ | _ <;> cases hp
  · rfl
  -- Errors other than faults have neither an activity nor an offset.
  all_goals
    show _ = _ ++ placeWords 0 p ++ activityWords p none
    rw [String.append_assoc, hplain]
    rfl

/-- The problem of an error with a place is its wording up to the last lead. -/
theorem Error.problem_toMarked {e : Error} {p : Position} (hp : e.position? = some p) :
    e.toMarked.problem = String.ofList (beforeLast placeLead e.text.toList) := by
  rw [toMarked, hp, toList_placeLead]

/-- A place of what was being read stands in the wording beside the place of the problem. -/
def Position.IsShownBeside (q p : Position) : Prop :=
  q.isOrigin = false ∧ ¬ (q.line = p.line ∧ q.column = p.column)

/-- What was being read, with its place. -/
theorem activityWords_of_shown {p q : Position} (h : q.IsShownBeside p) (a : Activity) :
    activityWords p (some (a, q)) = ", " ++ a.message ++ placeText q.line q.column := by
  simp [activityWords, if_neg h.2, Position.text, h.1]

/-- The wording names no place of what was being read. -/
def Error.HidesActivity (e : Error) (p : Position) : Prop :=
  ∀ a q, e.activity? = some (a, q) → ¬ q.IsShownBeside p

/-- What was being read, without its place. -/
theorem Error.activityWords_of_hides {e : Error} {p : Position} (h : e.HidesActivity p) :
    activityWords p e.activity? = ((e.activity?.map fun a => ", " ++ a.1.message).getD "") := by
  cases hact : e.activity? with
  | none => rfl
  | some a =>
    obtain ⟨a, q⟩ := a
    -- The place is left out for one of two reasons.
    have hwords : (if q.line = p.line ∧ q.column = p.column then "" else q.text) = "" := by
      by_cases hplace : q.line = p.line ∧ q.column = p.column
      · rw [if_pos hplace]
      · have horigin : q.isOrigin = true := by
          simpa [Position.IsShownBeside, hplace] using h a q hact
        rw [if_neg hplace, Position.text_of_isOrigin horigin]
    simp [activityWords, hwords]

/-- Then nothing behind the place of the problem names another one. -/
theorem Error.endsPlaces_activityWords {e : Error} {p : Position} (h : e.HidesActivity p) :
    EndsPlaces (activityWords p e.activity?).toList := by
  rw [Error.activityWords_of_hides h]
  cases e.activity? with
  | none => exact .nil
  | some a =>
    have hlist : (", " ++ a.1.message).toList = ',' :: ' ' :: a.1.message.toList := by simp
    rw [Option.map_some, Option.getD_some, hlist]
    exact .comma (not_occursIn_activity a.1)

/-! ### What is left of a wording -/

/-- A place at the end of a wording is cut, and with it what follows behind a comma. -/
theorem ofList_beforeLast_placeText (s : String) (line column : Nat) {rest : String}
    (h : EndsPlaces rest.toList) :
    String.ofList (beforeLast placeLead (s ++ placeText line column ++ rest).toList) = s := by
  rw [String.toList_append, String.toList_append, List.append_assoc, beforeLast_placeText h,
    String.ofList_toList]

/-- The place of what was being read comes last, so that it is cut and the place of the problem stays. -/
theorem Error.problem_of_shown {e : Error} {p q : Position} {a : Activity}
    (hp : e.position? = some p) (hact : e.activity? = some (a, q)) (hshown : q.IsShownBeside p) :
    e.toMarked.problem = e.message ++ placeWords e.offset p ++ ", " ++ a.message := by
  have htext : e.text = (e.message ++ placeWords e.offset p ++ ", " ++ a.message)
      ++ placeText q.line q.column ++ "" := by
    rw [Error.text_eq hp, hact, activityWords_of_shown hshown]
    simp only [String.append_assoc, String.append_empty]
  rw [Error.problem_toMarked hp, htext]
  exact ofList_beforeLast_placeText _ _ _ .nil

/-- The place of the problem comes last, so that all behind the message is cut. -/
theorem Error.problem_of_hides {e : Error} {p : Position} (hp : e.position? = some p)
    (hhides : e.HidesActivity p) (horigin : p.isOrigin = false) : e.toMarked.problem = e.message := by
  have hplace : placeWords e.offset p = placeText p.line p.column := by
    simp [placeWords, Position.text, horigin]
  rw [Error.problem_toMarked hp, Error.text_eq hp, hplace]
  exact ofList_beforeLast_placeText _ _ _ (Error.endsPlaces_activityWords hhides)

/-- Only an error that has neither an activity nor an offset can quote a place in its message. -/
theorem Error.plain_or_clear (e : Error) :
    (e.activity? = none ∧ e.offset = 0) ∨
      occursIn placeLead (e.message.toList ++ offsetLead) = false := by
  rcases e with (f | _) | _ | _ | _ | _
  · exact .inr (not_occursIn_problem f.problem)
  all_goals exact .inl ⟨rfl, rfl⟩

/-- What has no place together with the lead of an offset has none by itself. -/
theorem not_occursIn_message {message : List Char}
    (h : occursIn placeLead (message ++ offsetLead) = false) : occursIn placeLead message = false := by
  rw [occursIn_eq_false_iff] at h ⊢
  exact fun hmessage => h (hmessage.trans (List.prefix_append _ _).isInfix)

/-- An offset in words is no place in words. -/
theorem not_occursIn_placeWords {message : List Char} {p : Position} (offset : Nat)
    (h : occursIn placeLead (message ++ offsetLead) = false) (horigin : p.isOrigin = true) :
    occursIn placeLead (message ++ (placeWords offset p).toList) = false := by
  by_cases hoffset : offset = 0
  · rw [hoffset, placeWords_zero, Position.text_of_isOrigin horigin, String.toList_empty,
      List.append_nil]
    exact not_occursIn_message h
  · have hlead : " at position ".toList = offsetLead ++ 'p' :: ['o', 's', 'i', 't', 'i', 'o', 'n', ' '] :=
      String.toList_ofList
    -- Up to its `p` the offset shares its lead with a place, and no lead reaches over that letter.
    have hwords : message ++ (placeWords offset p).toList =
        (message ++ offsetLead) ++ 'p' :: (['o', 's', 'i', 't', 'i', 'o', 'n', ' '] ++ decimal offset) := by
      simp [placeWords, horigin, hoffset, hlead, decimalText]
    have hrest : 'a' ∉ ['o', 's', 'i', 't', 'i', 'o', 'n', ' '] ++ decimal offset := by
      simp [not_mem_decimal]
    rw [hwords, occursIn_append_cons (by decide), h, not_occursIn_of_not_mem hrest]
    rfl

/-- At the beginning of the text no place is cut but one that the message quotes. -/
theorem Error.problem_of_origin {e : Error} {p : Position} (hp : e.position? = some p)
    (hhides : e.HidesActivity p) (horigin : p.isOrigin = true) :
    e.toMarked.problem = String.ofList (beforeLast placeLead e.message.toList)
      ++ placeWords e.offset p ++ activityWords p e.activity? := by
  rw [Error.problem_toMarked hp, Error.text_eq hp]
  -- Either nothing follows the message, or the message is one of the problems, which quote no place.
  rcases e.plain_or_clear with ⟨hact, hoffset⟩ | hclear
  · simp [hact, hoffset, activityWords, Position.text_of_isOrigin horigin]
  · have hmessage := not_occursIn_message hclear
    have htext := not_occursIn_append (not_occursIn_placeWords e.offset hclear horigin)
      (Error.endsPlaces_activityWords hhides)
    rw [beforeLast_of_not_occursIn hmessage, String.ofList_toList, String.toList_append,
      String.toList_append, beforeLast_of_not_occursIn htext, ← String.toList_append,
      ← String.toList_append, String.ofList_toList]

/-! ### Wordings that do not depend on places -/

section

variable {e e' : Error}

/-- An error that has been moved. -/
theorem Error.differInPlaces_placedAt (e : Error) (q : Position) : e.DifferInPlaces (e.placedAt q) := by
  simp [DifferInPlaces]

/-- Errors that differ in places only have one message. -/
theorem Error.DifferInPlaces.message_eq (h : e.DifferInPlaces e') : e'.message = e.message := by
  simpa using congrArg Error.message h.symm

/-- They have one offset. -/
theorem Error.DifferInPlaces.offset_eq (h : e.DifferInPlaces e') : e'.offset = e.offset := by
  simpa using congrArg Error.offset h.symm

/-- Nothing was being read for both of them or for none. -/
theorem Error.DifferInPlaces.activity?_eq_none (h : e.DifferInPlaces e') (hact : e.activity? = none) :
    e'.activity? = none := by
  simpa [hact] using congrArg Error.activity? h.symm

/-- Both have a place or none has. -/
theorem Error.DifferInPlaces.exists_position? {p : Position} (h : e.DifferInPlaces e')
    (hp : e.position? = some p) : ∃ p', e'.position? = some p' := by
  have horigin := congrArg Error.position? h.symm
  rw [position?_placedAt, position?_placedAt, hp, Option.map_some, Option.map_eq_some_iff] at horigin
  obtain ⟨p', hp', -⟩ := horigin
  exact ⟨p', hp'⟩

end

/-- Where nothing was being read, no place of it is shown. -/
theorem Error.hidesActivity_of_none {e : Error} (hact : e.activity? = none) (p : Position) :
    e.HidesActivity p := by
  intro a q ha
  rw [hact] at ha
  cases ha

/-- Moved to one place, the place of what was being read is that of the problem, and is left out. -/
theorem Error.hidesActivity_placedAt (e : Error) (q : Position) : (e.placedAt q).HidesActivity q := by
  intro a r ha hshown
  rw [activity?_placedAt, Option.map_eq_some_iff] at ha
  obtain ⟨b, -, hb⟩ := ha
  cases hb
  exact hshown.2 ⟨rfl, rfl⟩

/-- An error without activity, offset and quoted place keeps its message wherever it is. -/
theorem Error.problem_of_plain {e : Error} {p : Position} (hp : e.position? = some p)
    (hact : e.activity? = none) (hoffset : e.offset = 0)
    (hmessage : occursIn placeLead e.message.toList = false) : e.toMarked.problem = e.message := by
  have hhides := Error.hidesActivity_of_none hact p
  cases horigin : p.isOrigin with
  | false => exact Error.problem_of_hides hp hhides horigin
  | true =>
    rw [Error.problem_of_origin hp hhides horigin, beforeLast_of_not_occursIn hmessage]
    simp [hact, hoffset, activityWords, Position.text_of_isOrigin horigin]

/-- At the beginning of the text only an offset is worded. -/
theorem placeWords_origin_eq_empty {offset : Nat} (h : placeWords offset .origin = "") : offset = 0 := by
  by_contra hoffset
  have hwords : placeWords offset .origin = " at position " ++ decimalText offset := by
    simp [placeWords, hoffset, Position.origin, Position.isOrigin]
  rw [hwords, String.append_eq_empty_iff] at h
  exact absurd h.1 (by decide)

/-- What was being read always leaves some words. -/
theorem activityWords_eq_empty {p : Position} {act : Option (Activity × Position)}
    (h : activityWords p act = "") : act = none := by
  cases act with
  | none => rfl
  | some a =>
    rw [activityWords, String.append_eq_empty_iff, String.append_eq_empty_iff] at h
    exact absurd h.1.1 (by decide)

/-- At the beginning of the text a wording is longer than the message by the offset and the activity,
    and shorter by a quoted place. -/
theorem Error.plain_of_problem_eq_message {e : Error} {p : Position} (hp : e.position? = some p)
    (h : (e.placedAt .origin).toMarked.problem = e.message) :
    e.activity? = none ∧ e.offset = 0 ∧ occursIn placeLead e.message.toList = false := by
  have hposition : (e.placedAt .origin).position? = some .origin := by simp [hp]
  rw [Error.problem_of_origin hposition (e.hidesActivity_placedAt _) rfl, message_placedAt,
    offset_placedAt, activity?_placedAt] at h
  rcases e.plain_or_clear with ⟨hact, hoffset⟩ | hclear
  · -- Nothing comes behind the message, so a quoted place would make the wording shorter.
    refine ⟨hact, hoffset, ?_⟩
    by_contra hquoted
    rw [hact, hoffset] at h
    have hlength := length_beforeLast_lt placeLead_ne_nil ((Bool.not_eq_false _).mp hquoted)
    have hcut : beforeLast placeLead e.message.toList = e.message.toList := by
      simpa [activityWords, Position.text_of_isOrigin (p := .origin) rfl] using
        congrArg String.toList h
    exact absurd (congrArg List.length hcut) (Nat.ne_of_lt hlength)
  · -- The message stays whole, so nothing may come behind it.
    have hmessage := not_occursIn_message hclear
    rw [beforeLast_of_not_occursIn hmessage, String.ofList_toList, String.append_assoc] at h
    have hwords := congrArg String.toList h
    rw [String.toList_append, List.append_right_eq_self, String.toList_eq_nil_iff,
      String.append_eq_empty_iff] at hwords
    have hact := activityWords_eq_empty hwords.2
    rw [Option.map_eq_none_iff] at hact
    exact ⟨hact, placeWords_origin_eq_empty hwords.1, hmessage⟩

/-- An error has the same problem at all places if nothing comes behind its message but its place, and
    if the message quotes no place.  Two places are enough to tell: the beginning of the text and any
    other. -/
theorem Error.problem_independent_iff {e : Error} {p : Position} (hp : e.position? = some p) :
    (∀ e', e.DifferInPlaces e' → e'.toMarked.problem = e.toMarked.problem) ↔
      e.activity? = none ∧ e.offset = 0 ∧ occursIn placeLead e.message.toList = false := by
  constructor
  · intro h
    -- Moved to one place, an error shows that place alone on the second line, and none at the beginning.
    have hfirst := h _ (e.differInPlaces_placedAt .origin)
    have hsecond := h _ (e.differInPlaces_placedAt ⟨0, 1, 0⟩)
    have hposition : (e.placedAt ⟨0, 1, 0⟩).position? = some ⟨0, 1, 0⟩ := by simp [hp]
    rw [Error.problem_of_hides hposition (e.hidesActivity_placedAt _) rfl, message_placedAt] at hsecond
    exact Error.plain_of_problem_eq_message hp (hfirst.trans hsecond.symm)
  · rintro ⟨hact, hoffset, hmessage⟩ e' h
    obtain ⟨p', hp'⟩ := h.exists_position? hp
    rw [Error.problem_of_plain hp hact hoffset hmessage,
      Error.problem_of_plain hp' (h.activity?_eq_none hact) (h.offset_eq.trans hoffset)
        (by rwa [h.message_eq]), h.message_eq]

end Yaml

/-- Moving an error to the template changes its marks only. -/
theorem problem_report_relocate {e : MarkedError} {t : ShiftTable} {r : Relocated}
    (h : relocate e t = some r) : r.report.problem = e.problem := by
  obtain ⟨problem, problemMark, context, contextMark⟩ := e
  -- The cases are those of `relocate`; whether the mark moves decides which kind of report there is.
  cases problemMark with
  | none =>
    cases h
    rfl
  | some m =>
    obtain ⟨moved, -, h⟩ := Option.bind_eq_some_iff.mp h
    cases moved with
    | none =>
      cases h
      rfl
    | some m' =>
      cases contextMark with
      | none =>
        cases h
        rfl
      | some c =>
        obtain ⟨contextMark, -, h⟩ := Option.bind_eq_some_iff.mp h
        cases h
        rfl

namespace Yaml

/-- The problem of an error with a place is its wording up to the last place in it.  Where what was being
    read has a place of its own, that place alone is cut and the place of the problem stays; elsewhere
    the message stays without what was being read, or at the beginning of the text with it, but without
    what follows a quoted place.  So the problem is the same at all places exactly for an error with
    nothing that was being read, no offset and no place in its message.  Reporting the error on the
    template does not change its problem. -/
theorem Error.problem_cut_at_last_place {e : Error} {p : Position} (hp : e.position? = some p) :
    (∀ a q, e.activity? = some (a, q) → q.IsShownBeside p →
      e.toMarked.problem = e.message ++ placeWords e.offset p ++ ", " ++ a.message
      ∧ e.text = e.toMarked.problem ++ placeText q.line q.column)
    ∧ (e.HidesActivity p →
      e.toMarked.problem =
        if p.isOrigin then
          String.ofList (beforeLast placeLead e.message.toList) ++ placeWords e.offset p
            ++ activityWords p e.activity?
        else e.message)
    ∧ ((∀ e', e.DifferInPlaces e' → e'.toMarked.problem = e.toMarked.problem) ↔
      e.activity? = none ∧ e.offset = 0 ∧ occursIn placeLead e.message.toList = false)
    ∧ ∀ t : ShiftTable, p.line + 1 < wordLimit →
      ∃ r, relocate e.toMarked t = some r ∧ r.report.problem = e.toMarked.problem := by
  refine ⟨?_, ?_, Error.problem_independent_iff hp, ?_⟩
  · intro a q hact hshown
    have hproblem := Error.problem_of_shown hp hact hshown
    refine ⟨hproblem, ?_⟩
    rw [hproblem, Error.text_eq hp, hact, activityWords_of_shown hshown]
    simp only [String.append_assoc]
  · intro hhides
    cases horigin : p.isOrigin with
    | false => exact Error.problem_of_hides hp hhides horigin
    | true => exact Error.problem_of_origin hp hhides horigin
  · -- An error that is moved keeps its problem, and so does one that stays.
    intro t hline
    obtain ⟨hmark, hcontext⟩ := problemMark_toMarked hp
    obtain ⟨r, hr, -⟩ := report_relocate t hmark hline hcontext
    exact ⟨r, hr, problem_report_relocate hr⟩

/-- The fault of a text with a single document. -/
def faultOf? (text : List Char) : Option Fault :=
  match readDocument text with
  | .error (.cut (.fault f)) => some f
  | _ => none

/-- The fault is found by evaluation, and gives the error it belongs to. -/
theorem readDocument_of_faultOf? {text : List Char} {f : Fault} (h : faultOf? text = some f) :
    readDocument text = .error (.cut (.fault f)) := by
  unfold faultOf? at h
  split at h
  next f' hread =>
    cases h
    exact hread
  next => cases h

/-- A flow sequence that is not closed, on the second line. -/
def openFlowSequence : List Char := ['#', '\n', '[', '"', 'a', '"']

/-- The fault at the end of the flow sequence. -/
def openFlowFault : Fault where
  problem := .noFlowSequenceSeparator
  position := ⟨6, 2, 0⟩
  activity := some (.flowSequence, ⟨2, 1, 0⟩)

/-- The place of the problem stays in the wording that is reported on any template. -/
theorem Error.problem_cut_openFlowSequence :
    ∃ e, readDocument openFlowSequence = .error e ∧ e.position? = some ⟨6, 2, 0⟩
      ∧ e.activity? = some (.flowSequence, ⟨2, 1, 0⟩)
      ∧ Position.IsShownBeside ⟨2, 1, 0⟩ ⟨6, 2, 0⟩
      ∧ e.toMarked.problem =
        Problem.noFlowSequenceSeparator.message ++ placeText 2 0 ++ ", " ++ Activity.flowSequence.message
      ∧ (¬ ∀ e', e.DifferInPlaces e' → e'.toMarked.problem = e.toMarked.problem)
      ∧ ∀ t, ∃ r, relocate e.toMarked t = some r ∧ r.report.problem = e.toMarked.problem := by
  have hread : readDocument openFlowSequence = .error (.cut (.fault openFlowFault)) :=
    readDocument_of_faultOf? (by decide +kernel)
  have hshown : Position.IsShownBeside ⟨2, 1, 0⟩ ⟨6, 2, 0⟩ := ⟨rfl, by decide⟩
  obtain ⟨hproblem, -, hindependent, hreport⟩ :=
    Error.problem_cut_at_last_place (e := .cut (.fault openFlowFault)) (p := ⟨6, 2, 0⟩) rfl
  refine ⟨_, hread, rfl, rfl, hshown, (hproblem _ _ rfl hshown).1, ?_, fun t => hreport t (by decide)⟩
  intro h
  cases (hindependent.mp h).1

/-- The fault of a text that starts with a character of no token. -/
def noTokenFault : Fault where
  problem := .noToken
  position := .origin
  activity := some (.nextToken, .origin)

/-- A comment line in front of a text moves its error, and what was being read is then cut from the
    problem. -/
theorem Error.commentLine_cuts_activity :
    ∃ e e', readDocument ['@'] = .error e ∧ readDocument ['#', '\n', '@'] = .error e'
      ∧ e.DifferInPlaces e'
      ∧ e.toMarked.problem = Problem.noToken.message ++ (", " ++ Activity.nextToken.message)
      ∧ e'.toMarked.problem = Problem.noToken.message
      ∧ e'.toMarked.problem ≠ e.toMarked.problem := by
  have hfirst : readDocument ['@'] = .error (.cut (.fault noTokenFault)) :=
    readDocument_of_faultOf? (by decide +kernel)
  have hsecond : readDocument ['#', '\n', '@'] =
      .error ((Error.cut (.fault noTokenFault)).placedAt ⟨2, 1, 0⟩) :=
    readDocument_of_faultOf? (by decide +kernel)
  have hwhole : (Error.cut (.fault noTokenFault)).toMarked.problem =
      Problem.noToken.message ++ (", " ++ Activity.nextToken.message) := by
    have hhides := (Error.cut (.fault noTokenFault)).hidesActivity_placedAt .origin
    have hclear := not_occursIn_message (not_occursIn_problem .noToken)
    refine (Error.problem_of_origin rfl hhides rfl).trans ?_
    show String.ofList (beforeLast placeLead Problem.noToken.message.toList) ++ ""
      ++ (", " ++ Activity.nextToken.message ++ "") = _
    rw [beforeLast_of_not_occursIn hclear, String.ofList_toList, String.append_empty,
      String.append_empty]
  have hcut : ((Error.cut (.fault noTokenFault)).placedAt ⟨2, 1, 0⟩).toMarked.problem =
      Problem.noToken.message :=
    Error.problem_of_hides rfl (Error.hidesActivity_placedAt _ _) rfl
  refine ⟨_, _, hfirst, hsecond, Error.differInPlaces_placedAt _ _, hwhole, hcut, ?_⟩
  rw [hwhole, hcut]
  intro h
  have hlength := congrArg String.length h
  simp at hlength

end Yaml

end ChartTrace
