import ChartTrace.Proofs.OffsetWords
import ChartTrace.Proofs.TextRanges

namespace ChartTrace

/-!
# Points without a position

A point is given by any two words, and a text has a position for some of them only.  For the others
the error says what is wrong: there is no such line by far, no such line by one, or no such column.

* `slice?`, `positionOfWords?`, `Location.ofRangeWords?`: the way from a point to its position with
  each index, each slice and each sum checked;
* `Pointer.IsBeyond`, `Pointer.IsMissing`, `Pointer.IsTooWide`: what can be wrong with a point;
* `positionOf_cases`: the answer in each case, with the error that goes with it;
* `positionOfWords?_eq`: no check fails;
* `ofRange_total`: each error has its one cause, and a location lies in the text.
-/

/-! ### Parts of a text by bytes -/

/-- A byte offset that lies between two characters of the text or at one of its ends. -/
def IsBoundary (text : List Char) (offset : Nat) : Prop :=
  ∃ before after, text = before ++ after ∧ byteLength before = offset

/-- The text in front of a byte offset and behind it, when it is a boundary. -/
def splitBytes? : List Char → Nat → Option (List Char × List Char)
  | cs, 0 => some ([], cs)
  | [], _ + 1 => none
  | c :: cs, n + 1 =>
    if n + 1 < c.utf8Size then none
    else (splitBytes? cs (n + 1 - c.utf8Size)).map fun p => (c :: p.1, p.2)

/-- The text between two byte offsets, when both are boundaries and in order. -/
def slice? (text : List Char) (start stop : Nat) : Option (List Char) := do
  let (_, rest) ← splitBytes? text start
  let (cs, _) ← splitBytes? rest (← subWord? stop start)
  return cs

/-- A text is split at the bytes of a part in front of it. -/
theorem splitBytes?_append (before after : List Char) :
    splitBytes? (before ++ after) (byteLength before) = some (before, after) := by
  induction before with
  | nil => simp [splitBytes?]
  | cons c before ih =>
    obtain ⟨n, hn⟩ : ∃ n, c.utf8Size + byteLength before = n + 1 :=
      ⟨_, (Nat.sub_add_cancel (Nat.add_pos_left c.utf8Size_pos _)).symm⟩
    have hrest : n + 1 - c.utf8Size = byteLength before := by omega
    rw [List.cons_append, byteLength_cons, hn, splitBytes?, if_neg (by omega), hrest, ih]
    rfl

/-- So the bytes of a part in the middle give that part. -/
theorem slice?_append (before cs after : List Char) :
    slice? (before ++ (cs ++ after)) (byteLength before) (byteLength before + byteLength cs)
      = some cs := by
  rw [slice?, splitBytes?_append, subWord?_of_le (Nat.le_add_right _ _), Nat.add_sub_cancel_left]
  simp [splitBytes?_append]

/-! ### Positions with checks -/

/-- How many lines lie in front of the line of the point.  Line 0 counts as line 1. -/
def Pointer.preceding (p : Pointer) : Nat := p.line - 1

/-- The bytes of a line with its terminator, when their number is a word. -/
def Line.bytes? (l : Line) : Option Nat := addWord? (byteLength l.content) (byteLength l.terminator)

/-- The bytes of some lines, when no sum on the way leaves the words. -/
def lineBytes? (ls : List Line) : Option Nat :=
  ls.foldlM (fun sum l => l.bytes?.bind (addWord? sum)) 0

/-- The first lines, when there are as many. -/
def takeLines? (ls : List Line) (n : Nat) : Option (List Line) :=
  if n ≤ ls.length then some (ls.take n) else none

/-- The byte offset of a point, with checked indices, slices and sums. -/
def positionOfWords? (p : Pointer) (text : List Char) : Option (Except LocationError Nat) :=
  let lines := splitLines text
  if p.preceding > lines.length then some (.error (.lineTooBig p.line))
  else do
    let before ← lineBytes? (← takeLines? lines p.preceding)
    if before = byteLength text then return .error (.missingLine p.line)
    else
      let line ← lines[p.preceding]?
      let stop ← addWord? (← addWord? before (byteLength line.content)) (byteLength line.terminator)
      let full ← slice? text before stop
      if p.column > full.length then return .error (.offsetTooBig p.line p.column)
      else return .ok (← addWord? before (byteLength (full.take p.column)))

/-- The location of a range, with checked indices, slices and sums. -/
def Location.ofRangeWords? (r : Range) (text : List Char) :
    Option (Except LocationError Location) := do
  match ← positionOfWords? r.start text with
  | .error e => return .error e
  | .ok start =>
    match ← positionOfWords? r.stop text with
    | .error e => return .error e
    | .ok stop => return .ok ⟨start, stop - start⟩

/-! ### What can be wrong with a point -/

/-- There is nothing on the last line: the text is empty, or it ends in a terminator. -/
def EndsInEmptyLine (text : List Char) : Prop := (splitLines text).getLast? = some ⟨[], []⟩

instance (text : List Char) : Decidable (EndsInEmptyLine text) :=
  inferInstanceAs (Decidable (_ = _))

namespace Pointer

/-- The line lies beyond the one after the last. -/
def IsBeyond (p : Pointer) (text : List Char) : Prop := (splitLines text).length < p.preceding

/-- The line is the one after the last, or an empty last line. -/
def IsMissing (p : Pointer) (text : List Char) : Prop :=
  p.preceding = (splitLines text).length
  ∨ p.preceding + 1 = (splitLines text).length ∧ EndsInEmptyLine text

/-- The line has fewer characters, those of its terminator included. -/
def IsTooWide (p : Pointer) (text : List Char) : Prop :=
  ∃ l ∈ (splitLines text)[p.preceding]?, l.text.length < p.column

instance (p : Pointer) (text : List Char) : Decidable (p.IsBeyond text) :=
  inferInstanceAs (Decidable (_ < _))

instance (p : Pointer) (text : List Char) : Decidable (p.IsMissing text) :=
  inferInstanceAs (Decidable (_ ∨ _))

instance (p : Pointer) (text : List Char) : Decidable (p.IsTooWide text) :=
  inferInstanceAs (Decidable (∃ l ∈ (splitLines text)[p.preceding]?, l.text.length < p.column))

end Pointer

/-- With a line of the text in front of it, a point is missing when that line is an empty last one. -/
theorem isMissing_iff_of_lines {text : List Char} {before after : List Line} {l : Line}
    (hls : splitLines text = before ++ l :: after) {p : Pointer} (hp : p.preceding = before.length) :
    p.IsMissing text ↔ l.text = [] := by
  have hlength : (splitLines text).length = before.length + (after.length + 1) := by
    rw [hls, List.length_append, List.length_cons]
  rw [Pointer.IsMissing, EndsInEmptyLine, hp]
  constructor
  · -- The first case is out, as there is a line at this number.
    rintro (hend | ⟨hlast, hempty⟩)
    · omega
    · obtain rfl : after = [] := List.eq_nil_of_length_eq_zero (by omega)
      rw [hls, List.getLast?_concat, Option.some.injEq] at hempty
      rw [hempty]
      rfl
  · intro hl
    obtain ⟨rfl, rfl⟩ := after_eq_nil_of_text hls hl
    right
    rw [hls, List.getLast?_concat]
    exact ⟨by rw [List.length_append]; rfl, rfl⟩

/-- A number below the count of lines cuts the lines of the text at one of them. -/
theorem exists_lines_of_lt {text : List Char} {n : Nat} (h : n < (splitLines text).length) :
    ∃ before l after, splitLines text = before ++ l :: after ∧ n = before.length := by
  refine ⟨(splitLines text).take n, (splitLines text)[n], (splitLines text).drop (n + 1), ?_, ?_⟩
  · rw [← List.drop_eq_getElem_cons h, List.take_append_drop]
  · rw [List.length_take]
    omega

/-- The answer behind the last line: the lines in front of it are all of the text. -/
theorem positionOf_of_end {p : Pointer} {text : List Char}
    (hp : p.preceding = (splitLines text).length) :
    positionOf p text = .error (.missingLine p.line) := by
  have hp' : p.line - 1 = (splitLines text).length := hp
  simp only [positionOf, hp', List.take_length, joinLines_splitLines]
  rw [if_neg (Nat.lt_irrefl _), if_pos trivial]

/-! ### Each error and its cause -/

section

variable (p : Pointer) (text : List Char)

/-- A point is beyond the text, or missing, or too wide for its line, or it has a position, and never
    two of these. -/
theorem positionOf_cases :
    (p.IsBeyond text ∧ ¬ p.IsMissing text ∧ positionOf p text = .error (.lineTooBig p.line))
    ∨ (¬ p.IsBeyond text ∧ p.IsMissing text ∧ positionOf p text = .error (.missingLine p.line))
    ∨ (¬ p.IsBeyond text ∧ ¬ p.IsMissing text ∧ p.IsTooWide text
        ∧ positionOf p text = .error (.offsetTooBig p.line p.column))
    ∨ (¬ p.IsBeyond text ∧ ¬ p.IsMissing text ∧ ¬ p.IsTooWide text
        ∧ ∃ before after, text = before ++ after
          ∧ positionOf p text = .ok (byteLength before)) := by
  -- The point is on a line, right behind the last line, or beyond that.
  rcases Nat.lt_trichotomy p.preceding (splitLines text).length with hlt | hend | hgt
  · obtain ⟨before, l, after, hls, hp⟩ := exists_lines_of_lt hlt
    have hbeyond : ¬ p.IsBeyond text := Nat.not_lt.mpr (Nat.le_of_lt hlt)
    have hmissing := isMissing_iff_of_lines hls hp
    have hline : (splitLines text)[p.preceding]? = some l := by
      rw [hls, hp]
      simp
    have hwide : p.IsTooWide text ↔ l.text.length < p.column := by
      rw [Pointer.IsTooWide, hline]
      simp
    rw [positionOf_of_lines hls hp, hmissing, hwide]
    by_cases hl : l.text = []
    · exact Or.inr (Or.inl ⟨hbeyond, hl, if_pos hl⟩)
    · rw [if_neg hl]
      by_cases hcolumn : l.text.length < p.column
      · exact Or.inr (Or.inr (Or.inl ⟨hbeyond, hl, hcolumn, if_pos hcolumn⟩))
      · refine Or.inr (Or.inr (Or.inr ⟨hbeyond, hl, hcolumn, ?_⟩))
        -- The position cuts the text within the line, at the column.
        refine ⟨joinLines before ++ l.text.take p.column, l.text.drop p.column ++ joinLines after,
          ?_, ?_⟩
        · rw [List.append_assoc, ← List.append_assoc (l.text.take _), List.take_append_drop, Line.text,
            ← joinLines_cons, ← joinLines_append, ← hls, joinLines_splitLines]
        · rw [if_neg hcolumn, byteLength_append]
  · have hbeyond : ¬ p.IsBeyond text := Nat.not_lt.mpr (Nat.le_of_eq hend)
    exact Or.inr (Or.inl ⟨hbeyond, Or.inl hend, positionOf_of_end hend⟩)
  · have hmissing : ¬ p.IsMissing text := by
      rintro (hend | ⟨hlast, -⟩) <;> omega
    exact Or.inl ⟨hgt, hmissing, if_pos hgt⟩

end

section

variable {r : Range} {text : List Char}

/-- The error of the start comes first. -/
theorem ofRange_eq_error_iff {e : LocationError} :
    Location.ofRange r text = .error e
      ↔ positionOf r.start text = .error e
        ∨ (∃ start, positionOf r.start text = .ok start) ∧ positionOf r.stop text = .error e := by
  rw [Location.ofRange]
  cases positionOf r.start text with
  | error d => simp [bind, Except.bind]
  | ok start =>
    cases positionOf r.stop text with
    | error d => simp [bind, Except.bind]
    | ok stop => simp [bind, Except.bind, pure, Except.pure]

/-- A location is found exactly when both points have a position; a stop before the start gives length
    zero. -/
theorem ofRange_eq_ok_iff {l : Location} :
    Location.ofRange r text = .ok l
      ↔ ∃ start stop, positionOf r.start text = .ok start ∧ positionOf r.stop text = .ok stop
        ∧ l = ⟨start, stop - start⟩ := by
  rw [Location.ofRange]
  cases positionOf r.start text with
  | error d => simp [bind, Except.bind]
  | ok start =>
    cases positionOf r.stop text with
    | error d => simp [bind, Except.bind]
    | ok stop => simp [bind, Except.bind, pure, Except.pure, eq_comm]

end

/-- A position is that of a character or the end, within the text. -/
theorem isBoundary_positionOf {p : Pointer} {text : List Char} {offset : Nat}
    (h : positionOf p text = .ok offset) : IsBoundary text offset ∧ offset ≤ byteLength text := by
  rcases positionOf_cases p text with ⟨-, -, he⟩ | ⟨-, -, he⟩ | ⟨-, -, -, he⟩ | ⟨-, -, -, hok⟩
  · cases h.symm.trans he
  · cases h.symm.trans he
  · cases h.symm.trans he
  · obtain ⟨before, after, rfl, hoffset⟩ := hok
    obtain rfl : byteLength before = offset := Except.ok.inj (hoffset.symm.trans h)
    refine ⟨⟨before, after, rfl, rfl⟩, ?_⟩
    rw [byteLength_append]
    exact Nat.le_add_right _ _

/-! ### No check fails -/

/-- Adding up the sizes of lines is safe where the sum of all of them is a word. -/
theorem foldlM_bytes? {ls : List Line} {sum : Nat}
    (h : sum + byteLength (joinLines ls) < wordLimit) :
    ls.foldlM (fun sum l => l.bytes?.bind (addWord? sum)) sum
      = some (sum + byteLength (joinLines ls)) := by
  induction ls generalizing sum with
  | nil => rfl
  | cons l ls ih =>
    rw [joinLines_cons, byteLength_append, byteLength_append] at h ⊢
    have hline : l.bytes? = some (byteLength l.content + byteLength l.terminator) :=
      addWord?_of_lt (by omega)
    rw [List.foldlM_cons, hline, Option.bind_some, addWord?_of_lt (by omega)]
    simp only [Option.bind_eq_bind, Option.bind_some]
    rw [ih (by omega), Nat.add_assoc]

/-- So the checked sum of lines is their size. -/
theorem lineBytes?_of_lt {ls : List Line} (h : byteLength (joinLines ls) < wordLimit) :
    lineBytes? ls = some (byteLength (joinLines ls)) := by
  rw [lineBytes?, foldlM_bytes? (by omega), Nat.zero_add]

section

variable {text : List Char} (htext : byteLength text < wordLimit) {p : Pointer}
include htext

/-- On a line of the text all sums are parts of the length of the text. -/
theorem positionOfWords?_of_lines {before after : List Line} {l : Line}
    (hls : splitLines text = before ++ l :: after) (hp : p.preceding = before.length) :
    positionOfWords? p text = some (positionOf p text) := by
  -- Every sum on the way is the size of a part of the text, which is a word as a whole.
  have hsize := byteLength_of_lines hls
  have hline : byteLength l.text = byteLength l.content + byteLength l.terminator := by
    rw [Line.text, byteLength_append]
  have hcolumn := byteLength_take_le l.text p.column
  have hsum : lineBytes? before = some (byteLength (joinLines before)) :=
    lineBytes?_of_lt (by omega)
  have hcontent : addWord? (byteLength (joinLines before)) (byteLength l.content)
      = some (byteLength (joinLines before) + byteLength l.content) := addWord?_of_lt (by omega)
  have hstop : addWord? (byteLength (joinLines before) + byteLength l.content)
      (byteLength l.terminator) = some (byteLength (joinLines before) + byteLength l.text) := by
    rw [addWord?_of_lt (by omega), hline, Nat.add_assoc]
  have hoffset : addWord? (byteLength (joinLines before)) (byteLength (l.text.take p.column))
      = some (byteLength (joinLines before) + byteLength (l.text.take p.column)) :=
    addWord?_of_lt (by omega)
  have hslice : slice? text (byteLength (joinLines before))
      (byteLength (joinLines before) + byteLength l.text) = some l.text := by
    conv_lhs => rw [← joinLines_splitLines text, hls, joinLines_append, joinLines_cons]
    exact slice?_append (joinLines before) l.text (joinLines after)
  have htake : takeLines? (before ++ l :: after) before.length = some before := by
    simp [takeLines?]
  have hget : (before ++ l :: after)[before.length]? = some l := by simp
  have hbeyond : ¬ before.length > (before ++ l :: after).length := by
    rw [List.length_append]
    omega
  rw [positionOf_of_lines hls hp, positionOfWords?, hls, hp]
  simp only [hbeyond, if_false, htake, hget, hsum, hcontent, hstop, hslice, hoffset,
    Option.bind_eq_bind, Option.bind_some, byteLength_joinLines_eq_iff hls]
  split
  · rfl
  · split <;> rfl

/-- **No check fails.** The index of the line is the one that could lie outside, and it is not used
    then: the bytes in front of the line after the last are all bytes of the text. -/
theorem positionOfWords?_eq (p : Pointer) : positionOfWords? p text = some (positionOf p text) := by
  rcases Nat.lt_trichotomy p.preceding (splitLines text).length with hlt | hend | hgt
  · obtain ⟨before, l, after, hls, hp⟩ := exists_lines_of_lt hlt
    exact positionOfWords?_of_lines htext hls hp
  · -- Behind the last line all lines are in front, and the position is the end of the text.
    have htake : takeLines? (splitLines text) (splitLines text).length = some (splitLines text) := by
      simp [takeLines?]
    have hsum : lineBytes? (splitLines text) = some (byteLength text) := by
      rw [lineBytes?_of_lt (by rwa [joinLines_splitLines]), joinLines_splitLines]
    rw [positionOf_of_end hend, positionOfWords?, hend, if_neg (Nat.lt_irrefl _), htake]
    simp only [Option.bind_eq_bind, Option.bind_some, hsum]
    exact if_pos trivial
  · have hbeyond : p.line - 1 > (splitLines text).length := hgt
    rw [positionOfWords?, positionOf, if_pos hgt, if_pos hbeyond]

/-- A range is located with checks as without them. -/
theorem ofRangeWords?_eq (r : Range) :
    Location.ofRangeWords? r text = some (Location.ofRange r text) := by
  rw [Location.ofRangeWords?, Location.ofRange, positionOfWords?_eq htext, positionOfWords?_eq htext]
  cases positionOf r.start text with
  | error e => rfl
  | ok start =>
    cases positionOf r.stop text with
    | error e => rfl
    | ok stop => rfl

end

/-- **Errors of points.** In every text a point is beyond the lines, or it is missing, or it is too wide
    for its line, or it has a position, and the answer says which.  The location of a range has the
    error of its start, or else that of its stop, or else it goes from the one position to the other:
    between boundaries of the text, and so to a range again.  No index, slice or sum on the way can
    fail when the length of the text is a word. -/
theorem ofRange_total {text : List Char} (htext : byteLength text < wordLimit) :
    (∀ r, Location.ofRangeWords? r text = some (Location.ofRange r text))
    ∧ (∀ p : Pointer,
      (positionOf p text = .error (.lineTooBig p.line) ↔ p.IsBeyond text)
      ∧ (positionOf p text = .error (.missingLine p.line) ↔ p.IsMissing text)
      ∧ (positionOf p text = .error (.offsetTooBig p.line p.column)
        ↔ ¬ p.IsBeyond text ∧ ¬ p.IsMissing text ∧ p.IsTooWide text)
      ∧ ((∃ offset, positionOf p text = .ok offset)
        ↔ ¬ p.IsBeyond text ∧ ¬ p.IsMissing text ∧ ¬ p.IsTooWide text))
    ∧ (∀ r e, Location.ofRange r text = .error e
      ↔ positionOf r.start text = .error e
        ∨ (∃ start, positionOf r.start text = .ok start) ∧ positionOf r.stop text = .error e)
    ∧ ∀ r l, Location.ofRange r text = .ok l →
      (∃ start stop, positionOf r.start text = .ok start ∧ positionOf r.stop text = .ok stop
        ∧ l = ⟨start, stop - start⟩)
      ∧ IsBoundary text l.position ∧ IsBoundary text (l.position + l.length)
      ∧ l.position + l.length ≤ byteLength text ∧ ∃ r', l.toRange text = .ok r' := by
  refine ⟨ofRangeWords?_eq htext, fun p => ?_, fun r e => ofRange_eq_error_iff, fun r l hl => ?_⟩
  · rcases positionOf_cases p text with ⟨hb, hm, h⟩ | ⟨hb, hm, h⟩ | ⟨hb, hm, hw, h⟩
      | ⟨hb, hm, hw, before, after, -, h⟩
    · simp [hb, hm, h]
    · simp [hb, hm, h]
    · simp [hb, hm, hw, h]
    · simp [hb, hm, hw, h]
  · obtain ⟨start, stop, hstart, hstop, rfl⟩ := ofRange_eq_ok_iff.mp hl
    obtain ⟨hstartBoundary, hstartLe⟩ := isBoundary_positionOf hstart
    obtain ⟨hstopBoundary, hstopLe⟩ := isBoundary_positionOf hstop
    -- The location ends where the range does, or where it starts when the range is the wrong way.
    have hend : start + (stop - start) = start ∨ start + (stop - start) = stop := by omega
    have hle : start + (stop - start) ≤ byteLength text := by omega
    refine ⟨⟨start, stop, hstart, hstop, rfl⟩, hstartBoundary, ?_, hle, ?_⟩
    · rcases hend with hend | hend
      · rwa [hend]
      · rwa [hend]
    · exact ⟨_, toRange_eq_ok hle htext⟩

/-- A character of two bytes, CRLF, and an empty last line. -/
def closedLine : List Char := ['é', '\r', '\n']

/-- Each kind of answer, with line 0 read as line 1 and a range the wrong way. -/
theorem ofRange_total_closedLine :
    byteLength closedLine < wordLimit
    ∧ Location.ofRangeWords? ⟨⟨0, 3⟩, ⟨1, 1⟩⟩ closedLine = some (.ok ⟨4, 0⟩)
    ∧ positionOf ⟨4, 0⟩ closedLine = .error (.lineTooBig 4)
    ∧ positionOf ⟨3, 0⟩ closedLine = .error (.missingLine 3)
    ∧ positionOf ⟨2, 0⟩ closedLine = .error (.missingLine 2)
    ∧ positionOf ⟨1, 4⟩ closedLine = .error (.offsetTooBig 1 4)
    ∧ (∃ offset, positionOf ⟨1, 3⟩ closedLine = .ok offset)
    ∧ Location.ofRange ⟨⟨1, 4⟩, ⟨4, 0⟩⟩ closedLine = .error (.offsetTooBig 1 4)
    ∧ Location.ofRange ⟨⟨0, 3⟩, ⟨1, 1⟩⟩ closedLine = .ok ⟨4, 0⟩
    ∧ IsBoundary closedLine 4 ∧ 4 + 0 ≤ byteLength closedLine
    ∧ ∃ r, Location.toRange ⟨4, 0⟩ closedLine = .ok r := by
  have hsize : byteLength closedLine < wordLimit := by decide
  have hlocation : Location.ofRange ⟨⟨0, 3⟩, ⟨1, 1⟩⟩ closedLine = .ok ⟨4, 0⟩ := by decide
  obtain ⟨hchecks, hpoints, herrors, hlocations⟩ := ofRange_total hsize
  obtain ⟨-, hboundary, -, hle, hrange⟩ := hlocations _ _ hlocation
  have hwide : positionOf ⟨1, 4⟩ closedLine = .error (.offsetTooBig 1 4) :=
    (hpoints ⟨1, 4⟩).2.2.1.mpr (by decide)
  exact ⟨hsize, (hchecks _).trans (congrArg some hlocation), (hpoints ⟨4, 0⟩).1.mpr (by decide),
    (hpoints ⟨3, 0⟩).2.1.mpr (by decide), (hpoints ⟨2, 0⟩).2.1.mpr (by decide), hwide,
    (hpoints ⟨1, 3⟩).2.2.2.mpr (by decide), (herrors _ _).mpr (Or.inl hwide), hlocation, hboundary,
    hle, hrange⟩

end ChartTrace
