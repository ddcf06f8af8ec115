import ChartTrace.Proofs.TextPoints
import ChartTrace.Proofs.Utf8Codec

namespace ChartTrace

/-!
# Byte offsets and points of a text

A place in a text is given by a byte offset or by a line and a column, and each can be computed from
the other.  Not every offset is that of a point: `IsPlace` leaves out offsets within a character,
between the CR and the LF of one line end, and on an empty last line.  Of the points only those on an
empty last line have no offset.

* `lineOffset`: the offset of a column of a line, given by the lines before it;
* `positionOf_of_lines`: the position of a point on a line, or what is wrong with it;
* `pointerIn_lineOffset`, `positionOf_lineOffset`: the two computations on such an offset;
* `exists_line_of_isPlace`, `Pointer.IsOn.exists_line`: every such offset and every such point is of
  this form;
* `toRange_ofRange_inverse`: hence locations and ranges determine each other.
-/

/-- A byte offset between two characters of the text that a point can name: it does not part CR and
    LF, and it is not behind all of the text when that is empty or ends in a terminator. -/
def IsPlace (text : List Char) (offset : Nat) : Prop :=
  ∃ before after, text = before ++ after ∧ byteLength before = offset
    ∧ ¬ PartsLineEnd before after
    ∧ ¬ (after = [] ∧ ∀ c ∈ before.getLast?, isTerminator c = true)

/-- A point of the text that is not on an empty last line. -/
structure Pointer.IsOn (p : Pointer) (text : List Char) : Prop extends p.IsIn text where
  not_emptyLast : p.line = (splitLines text).length →
    ∀ l ∈ (splitLines text).getLast?, l.content ≠ []

/-! ### Offsets given by lines -/

/-- The byte offset of a column of the line `l` that comes after the lines `before`. -/
def lineOffset (before : List Line) (l : Line) (column : Nat) : Nat :=
  byteLength (joinLines before) + byteLength (l.content.take column)

/-- A beginning of a text has at most its bytes. -/
theorem byteLength_take_le (cs : List Char) (n : Nat) : byteLength (cs.take n) ≤ byteLength cs := by
  have h := byteLength_append (cs.take n) (cs.drop n)
  rw [List.take_append_drop] at h
  omega

/-- Every character has at least one byte. -/
theorem byteLength_pos {cs : List Char} (h : cs ≠ []) : 0 < byteLength cs := by
  obtain ⟨c, cs, rfl⟩ := List.exists_cons_of_ne_nil h
  have := c.utf8Size_pos
  rw [byteLength_cons]
  omega

section

variable {text : List Char} {before after : List Line} {l : Line}
  (hls : splitLines text = before ++ l :: after)
include hls

/-- The size of the text is that of the lines before, of the line, and of the lines after. -/
theorem byteLength_of_lines :
    byteLength text
      = byteLength (joinLines before) + (byteLength l.text + byteLength (joinLines after)) := by
  rw [← joinLines_splitLines text, hls, joinLines_append, joinLines_cons, byteLength_append,
    byteLength_append, Line.text]

/-- Nothing but an empty last line is without any text. -/
theorem after_eq_nil_of_text (hl : l.text = []) : after = [] ∧ l = ⟨[], []⟩ := by
  obtain ⟨content, terminator⟩ := l
  obtain ⟨rfl, rfl⟩ : content = [] ∧ terminator = [] := List.append_eq_nil_iff.mp hl
  refine ⟨?_, rfl⟩
  by_contra hafter
  have hlines := areLines_splitLines text
  rw [hls] at hlines
  -- Lines that are followed by others have a terminator.
  refine hlines.terminator_ne_nil (l := ⟨[], []⟩) ?_ rfl
  rw [List.dropLast_append_of_ne_nil (by simp), List.dropLast_cons_of_ne_nil hafter]
  simp

/-- The bytes in front of a line are all of the text exactly when the line is an empty last one. -/
theorem byteLength_joinLines_eq_iff :
    byteLength (joinLines before) = byteLength text ↔ l.text = [] := by
  rw [byteLength_of_lines hls]
  constructor
  · -- The lines in front are all of the text only where the line adds nothing.
    intro hall
    by_contra hl
    have := byteLength_pos hl
    omega
  · intro hl
    rw [(after_eq_nil_of_text hls hl).1, hl]
    rfl

/-- **The answer on a line of the text.** -/
theorem positionOf_of_lines {p : Pointer} (hp : p.line - 1 = before.length) :
    positionOf p text
      = if l.text = [] then .error (.missingLine p.line)
        else if p.column > l.text.length then .error (.offsetTooBig p.line p.column)
        else .ok (byteLength (joinLines before) + byteLength (l.text.take p.column)) := by
  have hline : joinLines [l] = l.text := by simp [Line.text]
  simp only [positionOf, hp]
  rw [hls]
  simp only [List.length_append, List.length_cons, List.take_left, List.drop_left,
    List.take_succ_cons, List.take_zero, hline, byteLength_joinLines_eq_iff hls]
  exact if_neg (by omega)

end

/-- In front of the bytes of a number of characters just these characters start. -/
theorem charsStarting_byteLength_take {cs : List Char} {n : Nat} (h : n ≤ cs.length) :
    charsStarting cs (byteLength (cs.take n)) = n := by
  induction cs generalizing n with
  | nil =>
    obtain rfl : n = 0 := by simpa using h
    rfl
  | cons c cs ih =>
    cases n with
    | zero => rfl
    | succ n =>
      have hpos := c.utf8Size_pos
      rw [List.take_succ_cons, byteLength_cons, charsStarting, if_neg (by omega),
        Nat.add_sub_cancel_left, ih (by simpa using h)]

/-- The point of such an offset.  The induction is on the lines before: each of them ends in a
    terminator and in front of the offset, so the search goes on behind it. -/
theorem pointerIn_lineOffset {before after : List Line} {l : Line} {column : Nat}
    (hls : AreLines (before ++ l :: after)) (hcolumn : column ≤ l.content.length)
    (start number : Nat) :
    pointerIn (start + lineOffset before l column) start number (before ++ l :: after)
      = ⟨number + before.length, column⟩ := by
  induction before generalizing start number with
  -- The line is the first one: its end is behind the column, or it has none.
  | nil =>
    have hwithin := byteLength_take_le l.content column
    have hhere : (start + lineOffset [] l column < start + byteLength l.text
        || l.terminator.isEmpty) = true := by
      by_cases hend : l.terminator = []
      · simp [hend]
      · have hpos := byteLength_pos hend
        simp only [lineOffset, joinLines_nil, byteLength_nil, Line.text, byteLength_append,
          Bool.or_eq_true, decide_eq_true_eq]
        omega
    rw [List.nil_append, pointerIn, if_pos hhere, lineOffset, joinLines_nil, byteLength_nil,
      Nat.zero_add, Nat.add_sub_cancel_left, charsStarting_byteLength_take hcolumn]
    rfl
  -- A line in front is passed, since it is ended and the offset is not before its end.
  | cons k before ih =>
    have hmore : before ++ l :: after ≠ [] := by simp
    obtain ⟨j, js, hjs⟩ := List.exists_cons_of_ne_nil hmore
    rw [List.cons_append, hjs] at hls
    have hend : k.terminator.isEmpty = false := by
      simpa using hls.terminator_ne_nil (l := k) (by simp)
    have hoffset : start + lineOffset (k :: before) l column
        = start + byteLength k.text + lineOffset before l column := by
      simp only [lineOffset, joinLines_cons, Line.text, byteLength_append]
      omega
    have hpassed : ¬ (start + lineOffset (k :: before) l column < start + byteLength k.text
        || k.terminator.isEmpty) = true := by
      rw [hoffset, hend]
      simp
    rw [List.cons_append, pointerIn, if_neg hpassed, hoffset, ih (hjs ▸ hls.2.2.2), List.length_cons]
    congr 1
    omega

/-- So the column of a line is found from its offset in the text. -/
theorem pointerAt_lineOffset {text : List Char} {before after : List Line} {l : Line} {column : Nat}
    (hls : splitLines text = before ++ l :: after) (hcolumn : column ≤ l.content.length) :
    pointerAt text (lineOffset before l column) = ⟨before.length + 1, column⟩ := by
  have hlines := areLines_splitLines text
  rw [hls] at hlines
  have hpoint := pointerIn_lineOffset hlines hcolumn 0 1
  rw [Nat.zero_add, Nat.add_comm 1] at hpoint
  rw [pointerAt, hls]
  exact hpoint

/-- The offset of a point on a line that is not empty and last. -/
theorem positionOf_lineOffset {text : List Char} {before after : List Line} {l : Line}
    {column : Nat} (hls : splitLines text = before ++ l :: after)
    (hcolumn : column ≤ l.content.length) (hl : l.text ≠ []) :
    positionOf ⟨before.length + 1, column⟩ text = .ok (lineOffset before l column) := by
  have htoobig : ¬ column > l.text.length := by
    rw [Line.text, List.length_append]
    omega
  have htake : l.text.take column = l.content.take column := by
    rw [Line.text, List.take_append_of_le_length hcolumn]
  rw [positionOf_of_lines hls (Nat.add_sub_cancel _ _), if_neg hl, if_neg htoobig, htake, lineOffset]

/-! ### Places and points on lines -/

/-- A text that ends with a line end ends in a terminator. -/
theorem isTerminator_of_getLast?_joinLines {ls : List Line}
    (hls : ∀ l ∈ ls, l.terminator ∈ lineEnds) :
    ∀ c ∈ (joinLines ls).getLast?, isTerminator c = true := by
  intro c hc
  rcases List.eq_nil_or_concat' ls with rfl | ⟨ks, k, rfl⟩
  · simp at hc
  · have hk := hls k (by simp)
    rw [joinLines_append, joinLines_cons, joinLines_nil, List.append_nil, ← List.append_assoc,
      List.getLast?_append_of_ne_nil _ (ne_nil_of_mem_lineEnds hk)] at hc
    exact isTerminator_of_mem_lineEnds hk c (List.mem_of_getLast? hc)

/-- Every place is the offset of a column of some line. -/
theorem exists_line_of_isPlace {text : List Char} {offset : Nat} (h : IsPlace text offset) :
    ∃ before l after column, splitLines text = before ++ l :: after ∧ column ≤ l.content.length
      ∧ l.text ≠ [] ∧ offset = lineOffset before l column := by
  obtain ⟨before, after, rfl, rfl, hcut, hlast⟩ := h
  obtain ⟨first, rest, hafter⟩ := splitLines_eq_cons after
  -- The cut falls on the line that ends `before` and begins `after`.
  obtain ⟨init, last, hbefore, hlines⟩ := splitLines_cut hcut hafter
  have hbytes : before = joinLines init ++ last := by
    rw [← joinLines_splitLines before, hbefore, joinLines_append]
    simp
  refine ⟨init, _, rest, last.length, hlines, ?_, ?_, ?_⟩
  · rw [List.length_append]
    exact Nat.le_add_right _ _
  · -- A line without any text is the last one, and nothing stands on it.
    intro hempty
    simp only [Line.text, List.append_eq_nil_iff] at hempty
    obtain ⟨⟨rfl, hcontent⟩, hterminator⟩ := hempty
    have hfirst : first.text = [] := by rw [Line.text, hcontent, hterminator]; rfl
    have hrest : rest = [] :=
      (after_eq_nil_of_text (show splitLines after = [] ++ first :: rest from hafter) hfirst).1
    apply hlast
    constructor
    · rw [← joinLines_splitLines after, hafter, hrest]
      simp [hcontent, hterminator]
    · have hends := (areLines_splitLines before).lineEnd
      rw [hbefore, List.dropLast_concat] at hends
      rw [hbytes, List.append_nil]
      exact isTerminator_of_getLast?_joinLines hends
  · rw [lineOffset, List.take_left, ← byteLength_append, ← hbytes]

/-- Every point that is not on an empty last line is a column of a line with some text. -/
theorem Pointer.IsOn.exists_line {p : Pointer} {text : List Char} (h : p.IsOn text) :
    ∃ before l after, splitLines text = before ++ l :: after ∧ p.line = before.length + 1
      ∧ p.column ≤ l.content.length ∧ l.text ≠ [] := by
  obtain ⟨⟨hpos, hle, hcolumn⟩, hlast⟩ := h
  have hlt : p.line - 1 < (splitLines text).length := by omega
  have hsplit := List.take_append_drop (p.line - 1) (splitLines text)
  rw [List.drop_eq_getElem_cons hlt] at hsplit
  have hget : (splitLines text)[p.line - 1]? = some (splitLines text)[p.line - 1] :=
    List.getElem?_eq_getElem hlt
  generalize (splitLines text)[p.line - 1] = l at hsplit hget
  refine ⟨_, l, _, hsplit.symm, ?_, hcolumn l hget, ?_⟩
  · rw [List.length_take]
    omega
  · intro hempty
    simp only [Line.text, List.append_eq_nil_iff] at hempty
    -- Only the last line has no terminator.
    have hend : p.line = (splitLines text).length := by
      by_contra hne
      have hmem : l ∈ (splitLines text).dropLast := by
        rw [List.mem_iff_getElem?]
        refine ⟨p.line - 1, ?_⟩
        rw [List.getElem?_dropLast, if_pos (by omega), hget]
      exact (areLines_splitLines text).terminator_ne_nil hmem hempty.2
    refine hlast hend l ?_ hempty.1
    rw [List.getLast?_eq_getElem?, ← hend]
    exact hget

/-! ### Back and forth -/

/-- From a place to its point and back. -/
theorem positionOf_pointerAt {text : List Char} {offset : Nat} (h : IsPlace text offset) :
    positionOf (pointerAt text offset) text = .ok offset := by
  obtain ⟨before, l, after, column, hls, hcolumn, hl, rfl⟩ := exists_line_of_isPlace h
  rw [pointerAt_lineOffset hls hcolumn]
  exact positionOf_lineOffset hls hcolumn hl

/-- From a point on a line to its place and back. -/
theorem pointerAt_positionOf {text : List Char} {p : Pointer} (h : p.IsOn text) :
    ∃ offset, positionOf p text = .ok offset ∧ offset ≤ byteLength text
      ∧ pointerAt text offset = p := by
  obtain ⟨before, l, after, hls, hline, hcolumn, hl⟩ := h.exists_line
  obtain ⟨line, column⟩ := p
  obtain rfl : line = before.length + 1 := hline
  refine ⟨lineOffset before l column, positionOf_lineOffset hls hcolumn hl, ?_,
    pointerAt_lineOffset hls hcolumn⟩
  have hwithin := byteLength_take_le l.content column
  rw [byteLength_of_lines hls, Line.text, byteLength_append, lineOffset]
  omega

/-- A place is within the text. -/
theorem IsPlace.le {text : List Char} {offset : Nat} (h : IsPlace text offset) :
    offset ≤ byteLength text := by
  obtain ⟨before, after, rfl, rfl, -, -⟩ := h
  rw [byteLength_append]
  exact Nat.le_add_right _ _

/-- A range is located by its two points. -/
theorem ofRange_eq_ok {r : Range} {text : List Char} {start stop : Nat}
    (hstart : positionOf r.start text = .ok start) (hstop : positionOf r.stop text = .ok stop) :
    Location.ofRange r text = .ok ⟨start, stop - start⟩ := by
  rw [Location.ofRange, hstart, hstop]
  rfl

/-- **Locations and ranges.** A location between two places of a text has a range, and the range has
    this location.  A range between two points of the text in order, neither of them on an empty last
    line, has a location, and the location has this range. -/
theorem toRange_ofRange_inverse {source : List Char} (hsource : byteLength source < wordLimit) :
    (∀ p q, p ≤ q → IsPlace source p → IsPlace source q →
      ∃ r, Location.toRange ⟨p, q - p⟩ source = .ok r
        ∧ Location.ofRange r source = .ok ⟨p, q - p⟩)
    ∧ ∀ r : Range, r.start ≤ r.stop → r.start.IsOn source → r.stop.IsOn source →
      ∃ l, Location.ofRange r source = .ok l ∧ l.toRange source = .ok r := by
  constructor
  · intro p q hpq hp hq
    have hend : p + (q - p) = q := Nat.add_sub_cancel' hpq
    have hrange := toRange_eq_ok (l := ⟨p, q - p⟩) (hend.symm ▸ hq.le) hsource
    simp only [hend] at hrange
    exact ⟨_, hrange, ofRange_eq_ok (positionOf_pointerAt hp) (positionOf_pointerAt hq)⟩
  · intro r hle hstart hstop
    obtain ⟨p, hp, -, hpoint⟩ := pointerAt_positionOf hstart
    obtain ⟨q, hq, hq', hpoint'⟩ := pointerAt_positionOf hstop
    have hpq : p ≤ q := by
      by_contra hlt
      -- Offsets in the wrong order would have their points in this order too, so the points would be
      -- one, and one point has one offset.
      have hback : r.stop ≤ r.start := by
        rw [← hpoint, ← hpoint']
        exact pointerAt_mono source (by omega)
      rw [Pointer.le_antisymm hle hback, hq] at hp
      cases hp
      omega
    have hend : p + (q - p) = q := Nat.add_sub_cancel' hpq
    have hrange := toRange_eq_ok (l := ⟨p, q - p⟩) (hend.symm ▸ hq') hsource
    simp only [hend, hpoint, hpoint'] at hrange
    exact ⟨_, ofRange_eq_ok hp hq, hrange⟩

/-- Lines that end in CRLF and in U+2028, a character of two bytes, and an empty line. -/
def mixedLines : List Char := ['é', 'a', '\r', '\n', '\u2028', 'b']

/-- From the end of the first line to the end of the text, and back. -/
theorem toRange_ofRange_inverse_mixedLines :
    byteLength mixedLines < wordLimit ∧ 3 ≤ 9 ∧ IsPlace mixedLines 3 ∧ IsPlace mixedLines 9
    ∧ Location.toRange ⟨3, 6⟩ mixedLines = .ok ⟨⟨1, 2⟩, ⟨3, 1⟩⟩
    ∧ Location.ofRange ⟨⟨1, 2⟩, ⟨3, 1⟩⟩ mixedLines = .ok ⟨3, 6⟩
    ∧ (⟨1, 1⟩ : Pointer) ≤ ⟨2, 0⟩ ∧ Pointer.IsOn ⟨1, 1⟩ mixedLines ∧ Pointer.IsOn ⟨2, 0⟩ mixedLines
    ∧ Location.ofRange ⟨⟨1, 1⟩, ⟨2, 0⟩⟩ mixedLines = .ok ⟨2, 3⟩
    ∧ Location.toRange ⟨2, 3⟩ mixedLines = .ok ⟨⟨1, 1⟩, ⟨2, 0⟩⟩ := by
  have hsize : byteLength mixedLines < wordLimit := by decide
  have hstart : IsPlace mixedLines 3 :=
    ⟨['é', 'a'], ['\r', '\n', '\u2028', 'b'], rfl, rfl, by simp [PartsLineEnd], by simp⟩
  have hstop : IsPlace mixedLines 9 :=
    ⟨mixedLines, [], rfl, rfl, by simp [PartsLineEnd], by simp [mixedLines, isTerminator]⟩
  have hfirst : Pointer.IsOn ⟨1, 1⟩ mixedLines := by
    refine ⟨⟨by decide, by decide, fun l hl => ?_⟩, by decide⟩
    obtain rfl : ⟨['é', 'a'], ['\r', '\n']⟩ = l := Option.some.inj hl
    decide
  have hsecond : Pointer.IsOn ⟨2, 0⟩ mixedLines :=
    ⟨⟨by decide, by decide, by simp⟩, by decide⟩
  obtain ⟨hoffsets, hpoints⟩ := toRange_ofRange_inverse hsize
  obtain ⟨r, hr, hback⟩ := hoffsets 3 9 (by decide) hstart hstop
  obtain ⟨l, hl, hback'⟩ := hpoints ⟨⟨1, 1⟩, ⟨2, 0⟩⟩ (by decide) hfirst hsecond
  obtain rfl : ⟨⟨1, 2⟩, ⟨3, 1⟩⟩ = r := Except.ok.inj hr
  obtain rfl : ⟨2, 3⟩ = l := Except.ok.inj hl
  exact ⟨hsize, by decide, hstart, hstop, hr, hback, by decide, hfirst, hsecond, hl, hback'⟩

end ChartTrace
