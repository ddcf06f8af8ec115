import ChartTrace.Proofs.CleanedLines
import ChartTrace.Proofs.PointErrors
import ChartTrace.Proofs.Utf8Codec
import ChartTrace.Report.Evaluation

namespace ChartTrace

/-!
# Where rendered lines came from

A report gives the template lines of each rendered line by number, by line and column, and by bytes.
All three are about the same whole lines.

* `linesText`, `Location.textIn?`: the text of some lines, and the text at a location;
* `filter_lineOrigins`: the records of a rendered line, at most one of them;
* `ofRange_of_lines`: the bytes of whole lines;
* `toOption_ofRange_of_isNoLine`: the end of a line that is not there has no location;
* `lineOrigins_whole_lines`: so a record names the lines of the marker, and their text.
-/

/-- The text from the start of one line to the end of another, without the terminator of the latter. -/
def linesText (text : List Char) (first last : Nat) : List Char :=
  joinLines (openLast (((splitLines text).take last).drop (first - 1)))

/-- The text at a location, when the location lies between boundaries of the text. -/
def Location.textIn? (l : Location) (text : List Char) : Option (List Char) :=
  l.end?.bind (slice? text l.position)

/-! ### The records of a line -/

section

variable {p : Processed} {template : List Char}

/-- The record of a line bears its number. -/
theorem line_of_lineOrigin? {n : Nat} {content : List Char} {o : LineOrigin}
    (h : lineOrigin? p template n content = some o) : o.line = n := by
  obtain ⟨e, -, rfl⟩ := Option.map_eq_some_iff.mp h
  rfl

/-- The records of lines that are numbered from `start` on. -/
theorem filter_filterMap_lineOrigin? (ls : List Line) (start i : Nat) :
    ((ls.zipIdx start).filterMap fun (l, n) => lineOrigin? p template n l.content).filter
        (fun o => o.line == start + i)
      = (ls[i]?.bind fun l => lineOrigin? p template (start + i) l.content).toList := by
  induction ls generalizing start i with
  | nil => rfl
  | cons l ls ih =>
    have hcons : (((l :: ls).zipIdx start).filterMap
        fun (l, n) => lineOrigin? p template n l.content)
          = (lineOrigin? p template start l.content).toList
            ++ (ls.zipIdx (start + 1)).filterMap
              fun (l, n) => lineOrigin? p template n l.content := by
      rw [List.zipIdx_cons, List.filterMap_cons]
      dsimp only
      cases lineOrigin? p template start l.content <;> rfl
    rw [hcons, List.filter_append]
    cases i with
    | zero =>
      -- All later lines have greater numbers.
      have hrest : ((ls.zipIdx (start + 1)).filterMap
          fun (l, n) => lineOrigin? p template n l.content).filter (fun o => o.line == start + 0)
            = [] := by
        rw [List.filter_eq_nil_iff]
        intro o ho
        obtain ⟨⟨k, n⟩, hk, ho⟩ := List.mem_filterMap.mp ho
        have := line_of_lineOrigin? ho
        have := (List.mem_zipIdx hk).1
        simp only [beq_iff_eq]
        omega
      rw [hrest, List.append_nil, List.getElem?_cons_zero, Option.bind_some, Nat.add_zero,
        List.filter_eq_self]
      intro o ho
      rw [line_of_lineOrigin? (Option.mem_toList.mp ho), beq_self_eq_true]
    | succ i =>
      have hfirst : (lineOrigin? p template start l.content).toList.filter
          (fun o => o.line == start + (i + 1)) = [] := by
        rw [List.filter_eq_nil_iff]
        intro o ho
        have := line_of_lineOrigin? (Option.mem_toList.mp ho)
        simp only [beq_iff_eq]
        omega
      have hnumber : start + (i + 1) = start + 1 + i := by omega
      rw [hfirst, List.nil_append, hnumber, List.getElem?_cons_succ, ih]

/-- The records of a rendered line. -/
theorem filter_lineOrigins (i : Nat) :
    (lineOrigins p template).filter (fun o => o.line == i + 1)
      = ((splitLines p.source)[i]?.bind fun l => lineOrigin? p template (i + 1) l.content).toList := by
  rw [Nat.add_comm]
  exact filter_filterMap_lineOrigin? (splitLines p.source) 1 i

/-- Only lines with an entry have records. -/
theorem filter_lineOrigins_of_none {n : Nat} (h : p.shifts.entry? n = none) :
    (lineOrigins p template).filter (fun o => o.line == n) = [] := by
  rw [List.filter_eq_nil_iff]
  intro o ho
  obtain ⟨⟨l, k⟩, -, ho⟩ := List.mem_filterMap.mp ho
  obtain ⟨e, he, rfl⟩ := Option.map_eq_some_iff.mp ho
  rw [beq_iff_eq]
  rintro rfl
  cases h.symm.trans he

/-- The record of a line with an entry: from the start of the first template line to the end of the
    last one. -/
theorem lineOrigin?_of_entry {n a b : Nat} {content : List Char}
    (h : p.shifts.entry? n = some ⟨n, a, b⟩) :
    lineOrigin? p template n content
      = some ⟨n, ⟨⟨a, 0⟩, ⟨b, p.shifts.lineSize b⟩⟩,
        (Location.ofRange ⟨⟨a, 0⟩, ⟨b, p.shifts.lineSize b⟩⟩ template).toOption⟩ := by
  simp only [lineOrigin?, Processed.templateRange, ShiftTable.shiftRange, h, Option.map_some]

end

/-- The size that is kept for a line is the number of its characters. -/
theorem lineSize_withTemplate (t : ShiftTable) {template : List Char} {n : Nat} {l : Line}
    (hl : (splitLines template)[n]? = some l) :
    (t.withTemplate template).lineSize (n + 1) = l.content.length := by
  simp [ShiftTable.lineSize, ShiftTable.withTemplate, hl]

/-! ### The bytes of whole lines -/

/-- Some lines in the midst of others. -/
theorem exists_span {α : Type} {xs : List α} {a b : Nat} (ha : 1 ≤ a) (hab : a ≤ b)
    (hb : b ≤ xs.length) :
    ∃ before spanned x after, xs = before ++ (spanned ++ x :: after) ∧ a = before.length + 1
      ∧ b = before.length + spanned.length + 1 := by
  have hlt : b - 1 < xs.length := by omega
  refine ⟨xs.take (a - 1), (xs.take (b - 1)).drop (a - 1), xs[b - 1], xs.drop b, ?_, ?_, ?_⟩
  · -- The front, the lines from `a` to before `b`, the line `b`, and the rest.
    have hfirst : xs.take (a - 1) = (xs.take (b - 1)).take (a - 1) := by
      rw [List.take_take, Nat.min_eq_left (by omega)]
    rw [← List.append_assoc, hfirst, List.take_append_drop]
    have hdrop := List.drop_eq_getElem_cons hlt
    rw [Nat.sub_add_cancel (by omega)] at hdrop
    rw [← hdrop, List.take_append_drop]
  · rw [List.length_take]
    omega
  · rw [List.length_take, List.length_drop, List.length_take]
    omega

section

variable {text : List Char} {before spanned after : List Line} {l : Line}
  (hls : splitLines text = before ++ (spanned ++ l :: after))
include hls

/-- The text of whole lines leaves out the last terminator. -/
theorem linesText_eq :
    linesText text (before.length + 1) (before.length + spanned.length + 1)
      = joinLines spanned ++ l.content := by
  have htake : (splitLines text).take (before.length + spanned.length + 1)
      = before ++ (spanned ++ [l]) := by
    have hsplit : splitLines text = (before ++ (spanned ++ [l])) ++ after := by
      rw [hls]
      simp
    rw [hsplit, List.take_left' (by simp; omega)]
  rw [linesText, htake, Nat.add_sub_cancel, List.drop_left, openLast_concat, joinLines_append]
  simp

/-- **The bytes of whole lines.** They start with the first line, and end with the content of the last
    one. -/
theorem ofRange_of_lines (hl : l.text ≠ []) :
    Location.ofRange ⟨⟨before.length + 1, 0⟩,
        ⟨before.length + spanned.length + 1, l.content.length⟩⟩ text
      = .ok ⟨byteLength (joinLines before), byteLength (joinLines spanned ++ l.content)⟩ := by
  have hstart : positionOf ⟨before.length + 1, 0⟩ text = .ok (byteLength (joinLines before)) := by
    cases spanned with
    | nil =>
      have hposition := positionOf_lineOffset hls (Nat.zero_le _) hl
      simpa [lineOffset] using hposition
    | cons k spanned =>
      -- A line in front of another one has its terminator at least.
      have hk : k.text ≠ [] := by
        intro hempty
        have hlast := (after_eq_nil_of_text hls hempty).1
        simp at hlast
      have hposition := positionOf_lineOffset hls (Nat.zero_le _) hk
      simpa [lineOffset] using hposition
  have hstop : positionOf ⟨before.length + spanned.length + 1, l.content.length⟩ text
      = .ok (byteLength (joinLines (before ++ spanned)) + byteLength l.content) := by
    rw [← List.append_assoc] at hls
    have hposition := positionOf_lineOffset hls (Nat.le_refl _) hl
    simpa [lineOffset] using hposition
  rw [ofRange_eq_ok hstart hstop, joinLines_append, byteLength_append, byteLength_append]
  congr 2
  omega

/-- The text at these bytes is that of the lines. -/
theorem textIn?_of_lines (htext : byteLength text < wordLimit) :
    Location.textIn?
        ⟨byteLength (joinLines before), byteLength (joinLines spanned ++ l.content)⟩ text
      = some (joinLines spanned ++ l.content) := by
  -- The text around the lines, cut in front of the first and behind the last content.
  have hparts : text = joinLines before
      ++ (joinLines spanned ++ l.content ++ (l.terminator ++ joinLines after)) := by
    rw [← joinLines_splitLines text, hls, joinLines_append, joinLines_append, joinLines_cons]
    simp
  have hend : Location.end?
      ⟨byteLength (joinLines before), byteLength (joinLines spanned ++ l.content)⟩
        = some (byteLength (joinLines before) + byteLength (joinLines spanned ++ l.content)) := by
    apply addWord?_of_lt
    rw [hparts, byteLength_append, byteLength_append (_ ++ _)] at htext
    dsimp only
    omega
  rw [Location.textIn?, hend, Option.bind_some]
  conv_lhs => rw [hparts]
  exact slice?_append _ _ _

end

/-- The line lies behind the text, or it is an empty last line. -/
def IsNoLine (text : List Char) (n : Nat) : Prop :=
  (splitLines text).length < n ∨ n = (splitLines text).length ∧ EndsInEmptyLine text

instance (text : List Char) (n : Nat) : Decidable (IsNoLine text n) :=
  inferInstanceAs (Decidable (_ ∨ _))

/-- A line without any text is an empty last one. -/
theorem isNoLine_of_lines {text : List Char} {before after : List Line} {l : Line}
    (hls : splitLines text = before ++ l :: after) (hl : l.text = []) :
    IsNoLine text (before.length + 1) := by
  obtain ⟨rfl, rfl⟩ := after_eq_nil_of_text hls hl
  right
  rw [EndsInEmptyLine, hls, List.getLast?_concat, List.length_append]
  exact ⟨rfl, rfl⟩

/-- A range that ends on such a line has no location. -/
theorem toOption_ofRange_of_isNoLine {r : Range} {text : List Char}
    (h : IsNoLine text r.stop.line) : (Location.ofRange r text).toOption = none := by
  -- A text has a line, so that the number of its last one can be lowered by one.
  have hlines : 0 < (splitLines text).length := by
    obtain ⟨l, ls, hls⟩ := splitLines_eq_cons text
    rw [hls]
    exact Nat.succ_pos _
  have hno : r.stop.IsBeyond text ∨ r.stop.IsMissing text := by
    rw [IsNoLine] at h
    rw [Pointer.IsBeyond, Pointer.IsMissing, Pointer.preceding]
    rcases h with h | ⟨h, hempty⟩
    · omega
    · exact Or.inr (Or.inr ⟨by omega, hempty⟩)
  cases hr : Location.ofRange r text with
  | error e => rfl
  | ok l =>
    obtain ⟨start, stop, -, hstop, -⟩ := ofRange_eq_ok_iff.mp hr
    rcases positionOf_cases r.stop text with ⟨-, -, h⟩ | ⟨-, -, h⟩ | ⟨-, -, -, h⟩ | ⟨hb, hm, -, -⟩
    · cases hstop.symm.trans h
    · cases hstop.symm.trans h
    · cases hstop.symm.trans h
    · exact absurd hno (not_or.mpr ⟨hb, hm⟩)

/-! ### Reports -/

/-- What is returned holds the cleaned text and the table that goes with it, with or without a tree. -/
theorem finishProcessing_eq_ok {annotated template : List Char} {outcome : Outcome} {p : Processed}
    (h : finishProcessing annotated template outcome = .ok p) :
    p.source = (clean outcome.template.toList).source
    ∧ p.shifts = (clean outcome.template.toList).shifts.withTemplate template := by
  rw [finishProcessing] at h
  split at h
  all_goals
    obtain ⟨ast, -, h⟩ := except_bind_eq_ok_iff.mp h
    obtain rfl : ⟨(clean outcome.template.toList).source,
        (clean outcome.template.toList).shifts.withTemplate template, ast⟩ = p := Except.ok.inj h
    simp only [and_self]

/-- A number with an entry is that of a line of the cleaned text. -/
theorem exists_line_of_entry?_clean {rendered : List Char} {n : Nat} {e : ShiftEntry}
    (h : (clean rendered).shifts.entry? n = some e) :
    ∃ i l, n = i + 1 ∧ (splitLines (clean rendered).source)[i]? = some l := by
  cases n with
  | zero => cases (entry?_clean_zero rendered).symm.trans h
  | succ i =>
    rw [entry?_clean, Option.bind_eq_some_iff] at h
    obtain ⟨l, hl, -⟩ := h
    exact ⟨i, _, rfl, getElem?_splitLines_clean hl⟩

/-- **Origins.** A rendered line has one record when the table has an entry for it, and no record
    otherwise.  The range of the record goes from the start of the first line of the entry to the end
    of the content of the last one, and the template has exactly the text of these lines at its
    location.  There is no location when the template has no such last line. -/
theorem lineOrigins_whole_lines {annotated template : List Char} {outcome : Outcome} {p : Processed}
    (hp : finishProcessing annotated template outcome = .ok p)
    (htemplate : byteLength template < wordLimit) (k : Nat) :
    (p.shifts.entry? k = none → (lineOrigins p template).filter (fun o => o.line == k) = [])
    ∧ ∀ a b, p.shifts.entry? k = some ⟨k, a, b⟩ →
      ∃ o, (lineOrigins p template).filter (fun o => o.line == k) = [o]
        ∧ (1 ≤ a → a ≤ b → ¬ IsNoLine template b →
          ∃ l, (splitLines template)[b - 1]? = some l
            ∧ o.range = ⟨⟨a, 0⟩, ⟨b, l.content.length⟩⟩
            ∧ ∃ location, o.location = some location
              ∧ location.textIn? template = some (linesText template a b))
        ∧ (IsNoLine template b → o.location = none) := by
  obtain ⟨hsource, hshifts⟩ := finishProcessing_eq_ok hp
  refine ⟨filter_lineOrigins_of_none, fun a b he => ?_⟩
  have hclean : (clean outcome.template.toList).shifts.entry? k = some ⟨k, a, b⟩ := by
    rw [hshifts] at he
    exact he
  obtain ⟨i, k', rfl, hk'⟩ := exists_line_of_entry?_clean hclean
  rw [← hsource] at hk'
  rw [filter_lineOrigins, hk', Option.bind_some, lineOrigin?_of_entry he]
  refine ⟨_, rfl, fun ha hab hb => ?_, fun hb => toOption_ofRange_of_isNoLine hb⟩
  have hlines : b ≤ (splitLines template).length := Nat.not_lt.mp fun h => hb (Or.inl h)
  obtain ⟨before, spanned, l, after, hls, rfl, rfl⟩ := exists_span ha hab hlines
  have hline : (splitLines template)[before.length + spanned.length + 1 - 1]? = some l := by
    rw [hls]
    simp
  -- The last line has a text, or it would be none.
  have hl : l.text ≠ [] := by
    intro hempty
    apply hb
    have hno := isNoLine_of_lines (hls.trans (List.append_assoc _ _ _).symm) hempty
    rwa [List.length_append] at hno
  have hsize := lineSize_withTemplate (clean outcome.template.toList).shifts hline
  rw [Nat.add_sub_cancel, ← hshifts] at hsize
  simp only [hsize, ofRange_of_lines hls hl]
  refine ⟨l, hline, rfl, _, rfl, ?_⟩
  rw [linesText_eq hls]
  exact textIn?_of_lines hls htemplate

/-- A character of two bytes, CRLF, an action over two lines, and an empty last line. -/
def foldedAction : List Char :=
  ['é', '\r', '\n', '\x7b', '\x7b', '\n', ' ', 'x', ' ', '\x7d', '\x7d', '\n']

/-- A line from each of its lines, one from nowhere, and one from behind it. -/
def renderedAction : List Char :=
  ['a', ' ', '#', '1', '\n', 'b', '\n', 'c', ' ', '#', '3', ':', '2', '\n', 'd', ' ', '#', '4', '\n',
    'e', ' ', '#', '9']

/-- What processing makes of it. -/
def processedAction : Processed :=
  ⟨(clean renderedAction).source, (clean renderedAction).shifts.withTemplate foldedAction, none⟩

/-- One line has no marker, one comes from two template lines, one from the empty line at the end, and
    one from behind it. -/
theorem lineOrigins_whole_lines_foldedAction :
    finishProcessing [] foldedAction ⟨String.ofList renderedAction, none⟩ = .ok processedAction
    ∧ byteLength foldedAction < wordLimit
    ∧ (processedAction.shifts.entry? 2 = none
      ∧ (lineOrigins processedAction foldedAction).filter (fun o => o.line == 2) = [])
    ∧ (processedAction.shifts.entry? 3 = some ⟨3, 2, 3⟩ ∧ ¬ IsNoLine foldedAction 3
      ∧ ∃ o, (lineOrigins processedAction foldedAction).filter (fun o => o.line == 3) = [o]
        ∧ o.range = ⟨⟨2, 0⟩, ⟨3, 5⟩⟩
        ∧ ∃ location, o.location = some location
          ∧ location.textIn? foldedAction
            = some ['\x7b', '\x7b', '\n', ' ', 'x', ' ', '\x7d', '\x7d'])
    ∧ (processedAction.shifts.entry? 4 = some ⟨4, 4, 4⟩ ∧ IsNoLine foldedAction 4
      ∧ ∃ o, (lineOrigins processedAction foldedAction).filter (fun o => o.line == 4) = [o]
        ∧ o.location = none)
    ∧ (processedAction.shifts.entry? 5 = some ⟨5, 9, 9⟩ ∧ IsNoLine foldedAction 9
      ∧ ∃ o, (lineOrigins processedAction foldedAction).filter (fun o => o.line == 5) = [o]
        ∧ o.location = none) := by
  have hp : finishProcessing [] foldedAction ⟨String.ofList renderedAction, none⟩
      = .ok processedAction := by
    simp only [finishProcessing, processedAction, String.toList_ofList]
    rfl
  have hsize : byteLength foldedAction < wordLimit := by decide
  have hnone : processedAction.shifts.entry? 2 = none := by decide
  have haction : processedAction.shifts.entry? 3 = some ⟨3, 2, 3⟩ := by decide
  have hempty : processedAction.shifts.entry? 4 = some ⟨4, 4, 4⟩ := by decide
  have hbehind : processedAction.shifts.entry? 5 = some ⟨5, 9, 9⟩ := by decide
  have hline : ¬ IsNoLine foldedAction 3 := by decide
  have hempty' : IsNoLine foldedAction 4 := by decide
  have hbehind' : IsNoLine foldedAction 9 := by decide
  obtain ⟨o, ho, hwhole, -⟩ := (lineOrigins_whole_lines hp hsize 3).2 2 3 haction
  obtain ⟨l, hl, hrange, htext⟩ := hwhole (by decide) (by decide) hline
  obtain rfl : ⟨[' ', 'x', ' ', '\x7d', '\x7d'], ['\n']⟩ = l := Option.some.inj hl
  obtain ⟨o', ho', -, hempty''⟩ := (lineOrigins_whole_lines hp hsize 4).2 4 4 hempty
  obtain ⟨o'', ho'', -, hbehind''⟩ := (lineOrigins_whole_lines hp hsize 5).2 9 9 hbehind
  exact ⟨hp, hsize, ⟨hnone, (lineOrigins_whole_lines hp hsize 2).1 hnone⟩,
    ⟨haction, hline, o, ho, hrange, htext⟩, ⟨hempty, hempty', o', ho', hempty'' hempty'⟩,
    hbehind, hbehind', o'', ho'', hbehind'' hbehind'⟩

end ChartTrace
