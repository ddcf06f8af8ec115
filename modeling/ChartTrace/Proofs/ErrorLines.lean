import ChartTrace.Processing
import ChartTrace.Proofs.CleanedLines
import ChartTrace.Proofs.YamlErrors

namespace ChartTrace

/-!
# Lines of YAML errors

An error in a rendered text is reported on the template by the marker of its line.  The line is the one
of the YAML reader, which counts U+0085 as a line break where `splitLines` does not.

* `Yaml.Cursor.Reaches.append`: a cursor in the text that can be read is a cursor in the whole text;
* `Yaml.line_of_places`: the line of a place is that of its byte offset, or the next one at the end;
* `markedLines?`: the template lines that the marker of a line names;
* `readDocuments_errorLine`: the line that an error is attributed to by its mark.
-/

namespace Yaml

/-! ### Places of the whole text -/

/-- There are no more line ends in front of an offset than characters. -/
theorem lineAt_le_length (text : List Char) (offset : Nat) : lineAt text offset ≤ text.length := by
  fun_induction lineAt text offset with
  | case1 => exact Nat.le_refl 0
  | case2 => exact Nat.zero_le _
  | case3 cs offset h ih => simp only [List.length_cons]; omega
  | case4 => exact Nat.zero_le _
  | case5 c cs offset hcrlf h ih =>
    have hbreak := Bool.toNat_le (isBreak c)
    simp only [List.length_cons]
    omega

/-- A cursor that moves in the beginning of a text moves in the whole text likewise, unless the
    beginning ends within a line break. -/
theorem Cursor.Reaches.append {text : List Char} {c : Cursor} {q : Position}
    (h : Reaches ⟨text, q⟩ c) (more : List Char) :
    Reaches ⟨text ++ more, q⟩ ⟨c.rest ++ more, c.position⟩
    ∨ c.rest = [] ∧ ∃ (before : Cursor) (ds : List Char), Reaches ⟨text ++ more, q⟩ before
        ∧ before.rest = '\r' :: '\n' :: ds ∧ c.position = before.position.nextLine 1 := by
  induction h with
  | refl => exact Or.inl .refl
  | @skip c d ds _ hrest hd ih =>
    rcases ih with hwhole | ⟨hnil, -⟩
    · left
      rw [hrest] at hwhole
      have hskip := hwhole.next hd
      simpa [Cursor.skip, hrest] using hskip
    · rw [hrest] at hnil
      cases hnil
  | @skipBreak c _ hbreak ih =>
    rcases ih with hwhole | ⟨hnil, -⟩
    · rcases Cursor.skipBreak_cases hbreak with ⟨cs, hrest, hskip⟩ | ⟨d, cs, hrest, hd, hcrlf, hskip⟩
      · left
        rw [hrest] at hwhole
        rw [hskip]
        exact hwhole.crlf
      · rw [hrest] at hwhole
        rw [hskip]
        -- A CR at the end of the readable part may be half of a CR LF of the whole text.
        by_cases hparted : d = '\r' ∧ cs = [] ∧ ∃ ds, more = '\n' :: ds
        · obtain ⟨rfl, rfl, ds, rfl⟩ := hparted
          exact Or.inr ⟨rfl, _, ds, hwhole, rfl, rfl⟩
        · left
          refine hwhole.nextLine hd fun es hd hes => ?_
          cases cs with
          | nil => exact hparted ⟨hd, rfl, es, hes⟩
          | cons e cs =>
            obtain ⟨rfl, -⟩ := List.cons.inj hes
            exact hcrlf cs hd rfl
    · rw [hnil] at hbreak
      cases hbreak

/-- The line of a place in the beginning of a text is the line of its byte offset in the whole text,
    or the next one where the beginning ends. -/
theorem line_of_places {text : List Char} {q : Position} (more : List Char)
    (h : Cursor.Places ⟨text, .origin⟩ q) :
    ∃ extra, q.line = lineAt (text ++ more) (byteLength ((text ++ more).take q.index)) + extra
      ∧ (extra = 0 ∨ extra = 1 ∧ q.index = text.length) := by
  obtain ⟨c, hc, hq⟩ := h
  -- A cursor with nothing left stands behind the whole text.
  have hend : c.rest = [] → c.position.index = text.length := by
    intro hnil
    obtain ⟨before, htext, hindex, -⟩ := hc.exists_before
    rw [hindex, htext, hnil, List.append_nil]
  rcases hc.append more with hwhole | ⟨hnil, start, ds, hstart, hrest, hposition⟩
  · obtain ⟨before, htext, hindex, hline⟩ := hwhole.exists_before
    have hhere : lineAt (text ++ more) (byteLength ((text ++ more).take c.position.index))
        = c.position.line := by
      have hbefore : (text ++ more).take c.position.index = before := by
        rw [htext]
        exact List.take_left' hindex.symm
      rw [hbefore]
      simpa using hline 0
    rcases hq with rfl | ⟨hnil, -, rfl⟩
    · exact ⟨0, hhere.symm, Or.inl rfl⟩
    · exact ⟨1, by rw [hhere], Or.inr ⟨rfl, hend hnil⟩⟩
  · -- The beginning ends between CR and LF, which the whole text does not count as a line break.
    obtain ⟨before, htext, hindex, hline⟩ := hstart.exists_before
    rcases hq with rfl | ⟨-, hcolumn, -⟩
    · refine ⟨1, ?_, Or.inr ⟨rfl, hend hnil⟩⟩
      have hbefore : (text ++ more).take c.position.index = before ++ ['\r'] := by
        rw [hposition, htext, hrest]
        show (before ++ '\r' :: '\n' :: ds).take (start.position.index + 1) = before ++ ['\r']
        rw [hindex, List.take_length_add_append]
        rfl
      rw [hbefore, byteLength_append, show byteLength ['\r'] = 1 from rfl, hline 1, hrest, hposition]
      rfl
    · rw [hposition] at hcolumn
      exact (hcolumn rfl).elim

/-- What the reader looks at is a beginning of the text. -/
theorem exists_append_readableText (text : List Char) :
    ∃ more, text = (readableText text).1 ++ more := by
  unfold readableText
  dsimp only
  split
  · exact ⟨[], (List.append_nil text).symm⟩
  · exact ⟨_, (List.take_append_drop _ text).symm⟩

end Yaml

/-! ### Attribution -/

/-- The template lines that the marker of a shown line names; the lines are counted from 1. -/
def markedLines? (rendered : List Char) (number : Nat) : Option (Nat × Nat) :=
  (shownLines rendered)[number - 1]?.bind fun l => (stripMarker l.content).2

/-- A mark is moved to the first of the template lines that the marker of its line names, column zero;
    without such a marker it stays. -/
theorem moveMark_clean (rendered template : List Char) (m : Mark) :
    ((clean rendered).shifts.withTemplate template).moveMark m
      = match markedLines? rendered (m.line + 1) with
        | some (a, b) => ⟨min a b - 1, 0⟩
        | none => m := by
  -- The table has an entry for a line exactly when its marker names lines, and files the lesser one
  -- first.
  have hentry : ShiftTable.entry? ((clean rendered).shifts.withTemplate template) (m.line + 1)
      = (markedLines? rendered (m.line + 1)).map fun lines =>
          ⟨m.line + 1, min lines.1 lines.2, max lines.1 lines.2⟩ := by
    show (clean rendered).shifts.entry? (m.line + 1) = _
    rw [entry?_clean, markedLines?, Nat.add_sub_cancel, Option.map_bind]
    rfl
  rw [ShiftTable.moveMark, hentry]
  cases markedLines? rendered (m.line + 1) with
  | none => rfl
  | some lines => rfl

/-- An error without a context is reported where the table moves its mark. -/
theorem report_relocate {e : MarkedError} {m : Mark} (t : ShiftTable) (hm : e.problemMark = some m)
    (hline : m.line + 1 < wordLimit) (hcontext : e.contextMark = none) :
    ∃ r, relocate e t = some r ∧ r.report.problemMark = some (t.moveMark m) := by
  cases hentry : t.entry? (m.line + 1) with
  | some entry =>
    refine ⟨_, relocate_of_entry hm hline hentry (by simp [hcontext]), ?_⟩
    simp [Relocated.report, ShiftTable.moveMark, hentry]
  -- No entry: the error is reported as it is.
  | none =>
    have hshift := shiftMark?_of_lt t hline
    rw [hentry, Option.map_none] at hshift
    refine ⟨.unchanged e, by simp [relocate, hm, hshift], ?_⟩
    simp [Relocated.report, ShiftTable.moveMark, hentry, hm]

/-- The mark of an error is its position, and it has no context mark. -/
theorem problemMark_toMarked {e : Yaml.Error} {q : Yaml.Position} (hq : e.position? = some q) :
    e.toMarked.problemMark = some ⟨q.line, q.column⟩ ∧ e.toMarked.contextMark = none := by
  unfold Yaml.Error.toMarked
  rw [hq]
  exact ⟨rfl, rfl⟩

/-- Where the error of a text is marked. -/
def Yaml.errorPlace? (text : List Char) : Option Yaml.Position :=
  match Yaml.readDocuments text with
  | .error e => e.position?
  | .ok _ => none

/-- An error that has a place is an error of the reader. -/
theorem Yaml.exists_of_errorPlace? {text : List Char} {q : Yaml.Position}
    (h : Yaml.errorPlace? text = some q) :
    ∃ e, Yaml.readDocuments text = .error e ∧ e.position? = some q := by
  unfold Yaml.errorPlace? at h
  split at h
  · next e he => exact ⟨e, he, h⟩
  · cases h

/-- **Attribution.** In a rendered text without its markers, the line of a byte offset for the YAML
    reader is its line and one more for every U+0085 before it.  An error is therefore reported by the
    marker of the line that is as many lines below the one that the mark of the error is on, or of the
    line after that where the mark is at the end of what can be read.  Where that line has no marker the
    error stays at its mark.  The mark is all that counts here: the error for a character that may not
    stand in YAML is marked at the beginning of the text, and where the character stands is said by its
    `Fault.offset` alone. -/
theorem readDocuments_errorLine (rendered template : List Char) (ast : Option Tree) :
    (∀ offset, Yaml.lineAt (clean rendered).source offset + 1
      = (pointerAt (clean rendered).source offset).line
        + Yaml.nextLinesAt (clean rendered).source offset)
    ∧ ∀ e q, Yaml.readDocuments (clean rendered).source = .error e → e.position? = some q →
        (clean rendered).source.length + 2 < wordLimit →
        ∃ r offset extra,
          Processed.readDocuments
              ⟨(clean rendered).source, (clean rendered).shifts.withTemplate template, ast⟩
            = some (.error r)
          ∧ offset = byteLength ((clean rendered).source.take q.index)
          ∧ q.line + 1 = (pointerAt (clean rendered).source offset).line
              + Yaml.nextLinesAt (clean rendered).source offset + extra
          ∧ (extra = 0
            ∨ extra = 1 ∧ q.index = (Yaml.readableText (clean rendered).source).1.length)
          ∧ r.report.problemMark = some (match markedLines? rendered (q.line + 1) with
            | some (a, b) => ⟨min a b - 1, 0⟩
            | none => ⟨q.line, q.column⟩) := by
  refine ⟨fun offset => Yaml.lineAt_add_one _ offset, fun e q he hq hlength => ?_⟩
  obtain ⟨more, hmore⟩ := Yaml.exists_append_readableText (clean rendered).source
  have hplaces : Yaml.Error.IsPlaced ⟨(Yaml.readableText (clean rendered).source).1, .origin⟩ e :=
    (Yaml.ensures_readDocuments (clean rendered).source).of_error he
  obtain ⟨extra, hline, hextra⟩ := Yaml.line_of_places more (hplaces q hq)
  rw [← hmore] at hline
  -- Its line number is a word, as a text has no more line ends than characters.
  have hbound : q.line + 1 < wordLimit := by
    have hle := Yaml.lineAt_le_length (clean rendered).source
      (byteLength ((clean rendered).source.take q.index))
    omega
  obtain ⟨hmark, hcontext⟩ := problemMark_toMarked hq
  obtain ⟨r, hr, hreport⟩ := report_relocate ((clean rendered).shifts.withTemplate template) hmark
    hbound hcontext
  rw [moveMark_clean] at hreport
  refine ⟨r, _, extra, ?_, rfl, ?_, hextra, hreport⟩
  · simp [Processed.readDocuments, he, hr]
  · rw [← Yaml.lineAt_add_one, hline]
    omega

/-- A flow sequence that is not closed, with U+0085 in its first line. -/
def openSequence : List Char :=
  ['[', '"', '\u0085', '"', ',', ' ', '#', '4', '\r', '\n', '"', 'b', '"', ' ', '#', '5']

/-- The end of the text is on the second line; one U+0085 and the end itself count as lines too, so that
    the error is attributed to a fourth line, which has no marker. -/
theorem readDocuments_errorLine_openSequence :
    (clean openSequence).source.length + 2 < wordLimit
    ∧ (pointerAt (clean openSequence).source 11).line = 2
    ∧ Yaml.nextLinesAt (clean openSequence).source 11 = 1
    ∧ ∃ e r extra, Yaml.readDocuments (clean openSequence).source = .error e
      ∧ e.position? = some ⟨10, 3, 0⟩
      ∧ Processed.readDocuments
          ⟨(clean openSequence).source, (clean openSequence).shifts.withTemplate [], none⟩
        = some (.error r)
      ∧ 3 + 1 = 2 + 1 + extra
      ∧ r.report.problemMark = some ⟨3, 0⟩ := by
  have hlength : (clean openSequence).source.length + 2 < wordLimit := by decide +kernel
  have hpointer : (pointerAt (clean openSequence).source 11).line = 2 := by decide +kernel
  have hnext : Yaml.nextLinesAt (clean openSequence).source 11 = 1 := by decide +kernel
  have hoffset : byteLength ((clean openSequence).source.take 10) = 11 := by decide +kernel
  have hplace : Yaml.errorPlace? (clean openSequence).source = some ⟨10, 3, 0⟩ := by decide +kernel
  obtain ⟨e, he, hq⟩ := Yaml.exists_of_errorPlace? hplace
  obtain ⟨r, offset, extra, hread, rfl, hline, -, hreport⟩ :=
    (readDocuments_errorLine openSequence [] none).2 e ⟨10, 3, 0⟩ he hq hlength
  rw [hoffset, hpointer, hnext] at hline
  exact ⟨hlength, hpointer, hnext, e, r, extra, he, hq, hread, hline, hreport⟩

/-- A text whose second line is no YAML, with U+0085 in its first line. -/
def nextLineText : List Char :=
  ['"', 'a', '"', ':', ' ', '"', '\u0085', '"', ' ', '#', '1', '\n',
   '"', 'b', '"', ':', ' ', '"', 'c', '"', ':', ' ', 'd', ' ', '#', '2', '\n', 'z', ' ', '#', '3']

/-- The error is marked on a line whose marker names line 2 of the template, and it is reported on
    line 3. -/
theorem errorLine_nextLineText :
    ∃ e q r, Yaml.readDocuments (clean nextLineText).source = .error e ∧ e.position? = some q
      ∧ (pointerAt (clean nextLineText).source
          (byteLength ((clean nextLineText).source.take q.index))).line = 2
      ∧ markedLines? nextLineText 2 = some (2, 2)
      ∧ Processed.readDocuments
          ⟨(clean nextLineText).source, (clean nextLineText).shifts.withTemplate [], none⟩
        = some (.error r)
      ∧ r.report.problemMark = some ⟨3 - 1, 0⟩ := by
  have hplace : Yaml.errorPlace? (clean nextLineText).source = some ⟨17, 2, 8⟩ := by decide +kernel
  obtain ⟨e, he, hq⟩ := Yaml.exists_of_errorPlace? hplace
  obtain ⟨hmark, hcontext⟩ := problemMark_toMarked hq
  obtain ⟨r, hr, hreport⟩ := report_relocate ((clean nextLineText).shifts.withTemplate []) hmark
    (by decide) hcontext
  refine ⟨e, ⟨17, 2, 8⟩, r, he, hq, by decide +kernel, by decide +kernel, ?_, ?_⟩
  · simp [Processed.readDocuments, he, hr]
  · exact hreport

end ChartTrace
