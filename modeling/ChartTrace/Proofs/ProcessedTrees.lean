import ChartTrace.Processing
import ChartTrace.Proofs.AnnotatedBytes
import ChartTrace.Proofs.RequestFormat
import ChartTrace.Proofs.TextPoints
import ChartTrace.Proofs.TreeLocations

namespace ChartTrace

/-!
# Syntax trees of processed templates

Whatever a process prints, the tree of a processed template stays within the template:

* `Runner.fitsSigned_of_evaluate`: the tree that is read back holds signed numbers only;
* `Processor.process_cases`: processing fails without any sum, or moves such a tree to the template;
* `Processor.byteLength_annotate_lt`: a template that is sent at all has fewer bytes than four bytes
  count;
* `Processor.process_tree_within`: the locations and ranges of the moved tree.
-/

open AnnotationOffsets (ofTemplate)

/-! ### The outcome -/

/-- The tree of an outcome is one of the printed message. -/
theorem ast_of_interpretOutput {name : String} {output : ProcessOutput} {outcome : Outcome}
    (h : interpretOutput name output = .ok outcome) :
    ∃ m : Option Wire.Tree, outcome.ast = m.bind Tree.ofMessage? := by
  rw [interpretOutput] at h
  -- Only an output that is not empty, can be decoded and names no error becomes an outcome.
  split at h
  · cases h
  · split at h
    · cases h
    · next response _ =>
      split at h
      · cases h
        exact ⟨response.ast, rfl⟩
      · cases h

/-- What a successful evaluation has sent and what it has read. -/
theorem Runner.evaluate_eq_ok {runner : Runner} {request : Request} {outcome : Outcome}
    (h : runner.evaluate request = .ok outcome) :
    ∃ bytes output, request.encode = .ok bytes ∧ runner.run bytes = .ok output
      ∧ interpretOutput runner.name output = .ok outcome := by
  rw [Runner.evaluate] at h
  split at h
  · cases h
  · next bytes hencode =>
    cases hrun : runner.run bytes with
    | error e =>
      rw [hrun] at h
      cases h
    | ok output =>
      rw [hrun] at h
      exact ⟨bytes, output, hencode, hrun, h⟩

/-- So the trees of an evaluation hold signed numbers only. -/
theorem Runner.fitsSigned_of_evaluate {runner : Runner} {request : Request} {outcome : Outcome}
    (h : runner.evaluate request = .ok outcome) {t : Tree} (ht : outcome.ast = some t) :
    ∀ l ∈ t.locations, l.FitsSigned := by
  obtain ⟨-, output, -, -, houtput⟩ := Runner.evaluate_eq_ok h
  obtain ⟨m, hm⟩ := ast_of_interpretOutput houtput
  rw [hm] at ht
  obtain ⟨message, -, hmessage⟩ := Option.bind_eq_some_iff.mp ht
  exact Tree.fitsSigned_of_ofMessage? hmessage

/-! ### The moved tree -/

/-- A tree of signed numbers is moved without an overflow. -/
theorem locateTree_of_fitsSigned {source : List Char} {t : Tree}
    (h : ∀ l ∈ t.locations, l.FitsSigned) :
    locateTree (annotate source) source t
      = .ok (t.mapLocations (ofTemplate source).toSourceLocation) := by
  have hends : (t.locations.all fun l => l.end?.isSome) = true :=
    List.all_eq_true.mpr fun l hl => by rw [(h l hl).end?_eq_some]; rfl
  rw [locateTree, if_pos hends]
  rfl

/-- What becomes of a rendering: its text without markers, the template lines of its lines, and the tree
    moved to the template. -/
def Outcome.onTemplate (outcome : Outcome) (source : List Char) : Processed :=
  let cleaned := clean outcome.template.toList
  ⟨cleaned.source, cleaned.shifts.withTemplate source,
    outcome.ast.map (Tree.mapLocations (ofTemplate source).toSourceLocation)⟩

/-- Sums of signed numbers are words, so nothing stops the tree on its way to the template. -/
theorem finishProcessing_of_fitsSigned {source : List Char} {outcome : Outcome}
    (h : ∀ t, outcome.ast = some t → ∀ l ∈ t.locations, l.FitsSigned) :
    finishProcessing (annotate source) source outcome = .ok (outcome.onTemplate source) := by
  rw [finishProcessing, Outcome.onTemplate]
  cases hast : outcome.ast with
  | none => rfl
  | some t =>
    simp only [locateTree_of_fitsSigned (h t hast)]
    rfl

namespace Processor

variable (runner : Runner) (path : String) (source : List Char) (files : FileMap)

/-- What is missing is said without any sum; otherwise the annotated template is sent. -/
theorem prepare_cases (evaluate : Request → Id (Except EvaluationError Outcome)) :
    (∃ e, (enabled evaluate).prepare path source files = .error e ∧ e ≠ .overflow)
    ∨ (enabled evaluate).prepare path source files
      = .ok (evaluate, ⟨path, String.ofList (annotate source), files⟩) := by
  rw [prepare]
  -- It is refused for a file that is missing or blank, never for an overflow.
  split
  · exact Or.inl ⟨_, rfl, by simp⟩
  · split
    · exact Or.inl ⟨_, rfl, by simp⟩
    · exact Or.inr rfl

/-- Processing fails before there is an outcome, or ends with the tree of one moved to the
    template. -/
theorem process_cases :
    (∃ e, (enabled runner.evaluate).process path source files = .error e ∧ e ≠ .overflow)
    ∨ ∃ outcome p, runner.evaluate ⟨path, String.ofList (annotate source), files⟩ = .ok outcome
      ∧ (enabled runner.evaluate).process path source files = .ok p
      ∧ p.ast = outcome.ast.map (Tree.mapLocations (ofTemplate source).toSourceLocation) := by
  rcases prepare_cases path source files runner.evaluate with ⟨e, hprepare, he⟩ | hprepare
  · refine Or.inl ⟨e, ?_, he⟩
    rw [process, hprepare]
    rfl
  · cases heval : runner.evaluate ⟨path, String.ofList (annotate source), files⟩ with
    | error e =>
      refine Or.inl ⟨.evaluation path e, ?_, by simp⟩
      simp only [process, hprepare, heval, bind]
      rfl
    | ok outcome =>
      -- The only overflow could come from the tree, and its numbers are signed.
      have hfits : ∀ t, outcome.ast = some t → ∀ l ∈ t.locations, l.FitsSigned :=
        fun t ht => Runner.fitsSigned_of_evaluate heval ht
      refine Or.inr ⟨outcome, outcome.onTemplate source, rfl, ?_, rfl⟩
      simp only [process, hprepare, heval, bind]
      exact finishProcessing_of_fitsSigned hfits

/-- A template that went through the evaluator is small enough for all its offsets to be words. -/
theorem byteLength_annotate_lt {runner : Runner} {path : String} {source : List Char}
    {files : FileMap}
    {outcome : Outcome}
    (h : runner.evaluate ⟨path, String.ofList (annotate source), files⟩ = .ok outcome) :
    byteLength (annotate source) < wordLimit := by
  obtain ⟨bytes, -, hencode, -, -⟩ := Runner.evaluate_eq_ok h
  -- The request gives the length of the template in four bytes.
  have hlength : FitsCount (String.ofList (annotate source)) :=
    (Request.encode_eq_ok_iff.mp hencode).1.content
  have hbytes : (utf8 (String.ofList (annotate source))).length = byteLength (annotate source) :=
    length_textBytes (annotate source)
  rw [FitsCount, hbytes] at hlength
  exact lt_trans hlength (by decide)

/-- **Trees within templates.** No sum on the way of a syntax tree leaves the words: not the ends of
    the locations that were read, not the starts and lengths of lines, not the moved offsets.  Every
    location of the moved tree lies within the template, and every node has a range of points of
    it. -/
theorem process_tree_within :
    (enabled runner.evaluate).process path source files ≠ .error .overflow
    ∧ ∀ p t, (enabled runner.evaluate).process path source files = .ok p → p.ast = some t →
      (∃ outcome parsed,
        runner.evaluate ⟨path, String.ofList (annotate source), files⟩ = .ok outcome
        ∧ outcome.ast = some parsed
        ∧ t = parsed.mapLocations (ofTemplate source).toSourceLocation
        ∧ ∀ l ∈ parsed.locations, l.end? = some (l.position + l.length)
          ∧ (ofTemplate source).toSourceLocation? l = some ((ofTemplate source).toSourceLocation l))
      ∧ byteLength source ≤ byteLength (annotate source)
      ∧ byteLength (annotate source) < wordLimit
      ∧ (∀ e ∈ (ofTemplate source).lines,
          e.annotatedStart + e.contentLength + e.markerLength ≤ byteLength (annotate source)
          ∧ e.sourceStart + e.contentLength ≤ byteLength source)
      ∧ (∀ l ∈ t.locations, l.position + l.length ≤ byteLength source)
      ∧ ∀ n ∈ t.descendants, ∃ r, n.location.toRange source = .ok r
        ∧ r.start ≤ r.stop ∧ r.start.IsIn source ∧ r.stop.IsIn source := by
  rcases process_cases runner path source files with ⟨e, he, hne⟩ | ⟨outcome, q, heval, hq, hast⟩
  · rw [he]
    exact ⟨fun h => hne (by injection h), fun p t hp => by cases hp⟩
  · rw [hq]
    refine ⟨by simp, fun p t hp ht => ?_⟩
    cases hp
    rw [hast] at ht
    obtain ⟨parsed, hparsed, rfl⟩ := Option.map_eq_some_iff.mp ht
    have hsmall := byteLength_annotate_lt heval
    have hsource := byteLength_le_annotate source
    -- A moved location ends where the table sends the end of the read one, whatever that was.
    have hwithin : ∀ l ∈ (parsed.mapLocations (ofTemplate source).toSourceLocation).locations,
        l.position + l.length ≤ byteLength source := by
      intro l hl
      rw [Tree.locations_mapLocations] at hl
      obtain ⟨k, -, rfl⟩ := List.mem_map.mp hl
      rw [AnnotationOffsets.end_toSourceLocation]
      exact AnnotationOffsets.toSource_le _ _
    refine ⟨⟨outcome, parsed, heval, hparsed, rfl, fun l hl => ?_⟩, hsource, hsmall, ?_, hwithin,
      ?_⟩
    · have hfits := Runner.fitsSigned_of_evaluate heval hparsed l hl
      exact ⟨hfits.end?_eq_some, AnnotationOffsets.toSourceLocation?_annotate source hfits.end_lt⟩
    · intro e he
      exact AnnotationOffsets.sums_le_of_mem_lines he
    · intro n hn
      exact toRange_of_le (hwithin _ (Tree.location_mem_of_mem_descendants hn)) (by omega)

/-- Prints a tree whose root starts at -1 and whose only node, a dot, starts at 3, both as long as a
    signed number can say.  It ends with an error all the same. -/
def overlongRunner : Runner where
  name := "engine"
  run := fun _ => .ok ⟨[18, 52, 34, 50,
    8, 12, 16, 255, 255, 255, 255, 255, 255, 255, 255, 255, 1, 24, 255, 255, 255, 255, 255, 255,
    255, 255, 127, 34, 25, 10, 7, 68, 111, 116, 78, 111, 100, 101, 18, 14,
    8, 6, 16, 3, 24, 255, 255, 255, 255, 255, 255, 255, 255, 127], some 1⟩

/-- The dot starts on the marker of the first line, so it covers the terminator and the second
    line. -/
theorem process_tree_within_overlong :
    ∃ p t n,
      (enabled overlongRunner.evaluate).process "t" ['a', '\n', 'b'] (.ofList [("values.yaml", "a")]) = .ok p
      ∧ p.ast = some t ∧ n ∈ t.descendants ∧ t.locations = [⟨0, 3⟩, ⟨1, 2⟩]
      ∧ (∀ l ∈ t.locations, l.position + l.length ≤ byteLength ['a', '\n', 'b'])
      ∧ ∃ r, n.location.toRange ['a', '\n', 'b'] = .ok r ∧ r.start ≤ r.stop
        ∧ r.start.IsIn ['a', '\n', 'b'] ∧ r.stop.IsIn ['a', '\n', 'b'] := by
  have hrun : ((((enabled overlongRunner.evaluate).process "t" ['a', '\n', 'b']
      (.ofList [("values.yaml", "a")])).toOption.bind Processed.ast).map fun t =>
        (t.locations, t.descendants.length)) = some ([⟨0, 3⟩, ⟨1, 2⟩], 1) := by decide
  obtain ⟨t, ht, hfacts⟩ := Option.map_eq_some_iff.mp hrun
  obtain ⟨hlocations, hlength⟩ := Prod.mk.inj hfacts
  obtain ⟨n, hn⟩ := List.exists_mem_of_length_pos (hlength ▸ Nat.one_pos)
  obtain ⟨p, hp, hast⟩ := Option.bind_eq_some_iff.mp ht
  have hok : (enabled overlongRunner.evaluate).process "t" ['a', '\n', 'b'] (.ofList [("values.yaml", "a")])
      = .ok p := by
    cases h : (enabled overlongRunner.evaluate).process "t" ['a', '\n', 'b']
      (.ofList [("values.yaml", "a")]) with
    | error e => rw [h] at hp; cases hp
    | ok q => rw [h] at hp; cases hp; rfl
  obtain ⟨-, -, -, -, hwithin, hranges⟩ := (process_tree_within overlongRunner "t" ['a', '\n', 'b']
    (.ofList [("values.yaml", "a")])).2 p t hok hast
  exact ⟨p, t, n, hok, hast, hn, hlocations, hwithin, hranges n hn⟩

end Processor

end ChartTrace
