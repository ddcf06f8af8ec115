import ChartTrace.Proofs.ErrorWording
import ChartTrace.Proofs.ProcessedTrees
import Mathlib.Order.WellFounded

namespace ChartTrace

/-!
# The failure boundary of processing

What processing needs is looked for in a fixed order.  The first thing that is missing decides the error,
whether a process is fed at all, and how the failure is logged.

* `Attempt`, `Attempt.run`, `Attempt.runOrSkip`: a template, its chart files and what there is to render with,
  and what comes of it, with a journal;
* `Need`, `Attempt.Lacks`, `Attempt.FailsFirst`: what is needed, the error for each need that is not met, and
  which need fails first;
* `Attempt.run_of_failsFirst`, `Attempt.run_of_completes`: the run in either case, and
  `Attempt.completes_or_failsFirst`: there is no other;
* `Attempt.runOrSkip_eq`, `Attempt.FailsFirst.isQuiet_iff`: what skipping adds to it;
* `Attempt.run_failure_boundary`: the whole boundary.
-/

/-- What a processor renders with: a process that prints something for each input, or nothing. -/
inductive Engine where
  | process (name : String) (output : Bytes → ProcessOutput)
  | disabled
  | unavailable (reason : String)

/-- Runs a process that prints `output` for what it is fed. -/
def Runner.printing (name : String) (output : Bytes → ProcessOutput) : Runner :=
  ⟨name, fun bytes => .ok (output bytes)⟩

/-- The processor over an engine, with a journal. -/
def Engine.processor : Engine → Processor Recorded
  | process name output => .enabled (Runner.printing name output).recording.evaluate
  | disabled => .disabled
  | unavailable reason => .unavailable reason

/-- An attempt to process a template. -/
structure Attempt where
  engine : Engine
  path : String
  source : List Char
  /-- The chart files, one after the other; the last one of a name counts. -/
  given : List (String × String)

/-- What an attempt needs. -/
inductive Need where
  | evaluator
  | valuesFile
  /-- No chart file is blank. -/
  | contents
  /-- Four bytes count each string, and the files. -/
  | size
  /-- The process prints something. -/
  | output
  /-- What it prints is a response. -/
  | response
  /-- The response is a rendering. -/
  | rendering

/-- The place of a need in the order in which they are looked for. -/
def Need.rank : Need → Nat
  | evaluator => 0
  | valuesFile => 1
  | contents => 2
  | size => 3
  | output => 4
  | response => 5
  | rendering => 6

/-- The blank file with the least name, byte by byte. -/
structure FileMap.IsLeastBlank (files : FileMap) (f : String × String) : Prop where
  mem : f ∈ files
  blank : allBlank f.2.toList = true
  least : ∀ g ∈ files, allBlank g.2.toList = true → g = f ∨ utf8 f.1 < utf8 g.1

namespace Attempt

/-- The map of the chart files. -/
def files (a : Attempt) : FileMap := .ofList a.given

/-- The annotated template and the chart files. -/
def request (a : Attempt) : Request := ⟨a.path, String.ofList (annotate a.source), a.files⟩

/-- What processing returns, and the journal of it. -/
def run (a : Attempt) : Except ProcessingError Processed × Journal :=
  (a.engine.processor.process a.path a.source a.files).run .empty

/-- What processing returns when failures are skipped, and the journal of it. -/
def runOrSkip (a : Attempt) : Option Processed × Journal :=
  (a.engine.processor.processLogged Journal.addRecord a.path a.source a.files).run .empty

/-- The needs that are not met, and what is reported for each. -/
inductive Lacks (a : Attempt) : Need → ProcessingError → Prop
  | disabled (h : a.engine = .disabled) : Lacks a .evaluator (.uninitialized a.path)
  | unavailable {reason : String} (h : a.engine = .unavailable reason) :
    Lacks a .evaluator (.evaluatorUnavailable a.path reason)
  | valuesFile (h : ∀ f ∈ a.files, f.1 ≠ "values.yaml" ∧ f.1 ≠ "values.yml") :
    Lacks a .valuesFile (.missingValuesFile a.path)
  | contents {f : String × String} (h : a.files.IsLeastBlank f) :
    Lacks a .contents (.emptyDependency a.path f.1)
  | size {problem : RequestError} (hsize : ¬ a.request.Fits) (h : a.request.encode = .error problem) :
    Lacks a .size (.evaluation a.path (.io problem.message))
  | output {name : String} {output : Bytes → ProcessOutput} (hengine : a.engine = .process name output)
    (h : (output a.request.bytes).stdout = []) :
    Lacks a .output (.evaluation a.path (.process
      (silentFailure name (output a.request.bytes).exitCode)))
  | response {name : String} {output : Bytes → ProcessOutput} {problem : Wire.DecodeError}
    (hengine : a.engine = .process name output)
    (h : Wire.responseLayout.decode (output a.request.bytes).stdout = .error problem) :
    Lacks a .response (.evaluation a.path (.undecodable problem))
  | rendering {name : String} {output : Bytes → ProcessOutput} {response : Wire.Response}
    (hengine : a.engine = .process name output)
    (h : Wire.responseLayout.decode (output a.request.bytes).stdout = .ok response)
    (herror : response.error ≠ "") :
    Lacks a .rendering (.evaluation a.path (.render response.error))

/-- Nothing is reported for the need. -/
def Meets (a : Attempt) (need : Need) : Prop := ∀ e, ¬ a.Lacks need e

/-- All needs that are looked for before this one are met. -/
def MeetsBefore (a : Attempt) (need : Need) : Prop := ∀ k : Need, k.rank < need.rank → a.Meets k

/-- The first need that is not met, and what is reported for it. -/
structure FailsFirst (a : Attempt) (need : Need) (e : ProcessingError) : Prop where
  lacks : a.Lacks need e
  earlier : a.MeetsBefore need

/-- All needs are met, and the process answers with the response. -/
structure Completes (a : Attempt) (response : Wire.Response) : Prop where
  valuesFile : ∃ f ∈ a.files, f.1 = "values.yaml" ∨ f.1 = "values.yml"
  contents : ∀ f ∈ a.files, allBlank f.2.toList = false
  size : a.request.Fits
  answer : ∃ name output, a.engine = .process name output ∧ (output a.request.bytes).stdout ≠ []
    ∧ Wire.responseLayout.decode (output a.request.bytes).stdout = .ok response
  rendering : response.error = ""

/-- The evaluator says that a named template is missing. -/
def MissesTemplate (a : Attempt) (e : ProcessingError) : Prop :=
  ∃ error, e = .evaluation a.path error
    ∧ Processor.missingTemplateSign.toList <:+: error.message.toList

end Attempt

/-- The outcome that a response stands for. -/
def Outcome.ofResponse (r : Wire.Response) : Outcome := ⟨r.template, r.ast.bind Tree.ofMessage?⟩

/-! ### Blank files -/

namespace FileMap

variable {files : FileMap}

/-- No two files have one name, so that one blank file comes first by its bytes. -/
theorem IsLeastBlank.unique {f g : String × String} (hf : files.IsLeastBlank f)
    (hg : files.IsLeastBlank g) : f = g := by
  rcases hf.least g hg.mem hg.blank with heq | hlt
  · exact heq.symm
  · rcases hg.least f hf.mem hf.blank with heq | hgt
    · exact heq
    · exact absurd hgt (List.lt_asymm hlt)

/-- The blank file that is found first has the least name, since a map is sorted by name. -/
theorem isLeastBlank_of_find? {f : String × String}
    (h : files.toList.find? (fun g => allBlank g.2.toList) = some f) : files.IsLeastBlank f := by
  obtain ⟨hblank, init, rest, heq, hinit⟩ := List.find?_eq_some_iff_append.mp h
  have hsorted := files.sorted
  rw [heq] at hsorted
  refine ⟨List.mem_of_find?_eq_some h, hblank, fun g hg hgblank => ?_⟩
  replace hg : g ∈ files.toList := hg
  rw [heq] at hg
  rcases List.mem_append.mp hg with hg | hg
  · -- All files before it show something.
    have hshows := hinit g hg
    rw [hgblank] at hshows
    cases hshows
  · rcases List.mem_cons.mp hg with rfl | hg
    · exact Or.inl rfl
    · have hlater := (List.pairwise_cons.mp (List.pairwise_append.mp hsorted).2.1).1 g hg
      exact Or.inr (utf8_lt_utf8 hlater)

/-- **Blank files.** The file that is reported is the blank one with the least name. -/
theorem firstBlankFile?_eq_some_iff {name : String} :
    firstBlankFile? files = some name ↔ ∃ f, files.IsLeastBlank f ∧ f.1 = name := by
  unfold firstBlankFile?
  rw [Option.map_eq_some_iff]
  constructor
  · rintro ⟨f, hf, hname⟩
    exact ⟨f, isLeastBlank_of_find? hf, hname⟩
  · rintro ⟨f, hf, hname⟩
    have hfound : (files.toList.find? (fun g => allBlank g.2.toList)).isSome = true :=
      List.find?_isSome.mpr ⟨f, hf.mem, hf.blank⟩
    obtain ⟨g, hg⟩ := Option.isSome_iff_exists.mp hfound
    exact ⟨g, hg, by rw [(isLeastBlank_of_find? hg).unique hf, hname]⟩

/-- No file is reported when all files show something. -/
theorem firstBlankFile?_eq_none_iff :
    firstBlankFile? files = none ↔ ∀ f ∈ files, allBlank f.2.toList = false := by
  rw [firstBlankFile?, Option.map_eq_none_iff, List.find?_eq_none]
  constructor
  · exact fun h f hf => Bool.eq_false_iff.mpr (h f hf)
  · exact fun h f hf => Bool.eq_false_iff.mp (h f hf)

/-- A file map contains the names of its files. -/
theorem contains_eq_true_iff {name : String} : files.contains name = true ↔ ∃ f ∈ files, f.1 = name := by
  rw [FileMap.contains, Option.isSome_iff_exists]
  constructor
  · rintro ⟨f, hf⟩
    exact ⟨f, SortedList.of_find?_eq_some hf⟩
  · rintro ⟨f, hf, rfl⟩
    exact ⟨f, SortedList.find?_of_mem hf⟩

/-- There are two names that a file of values can have. -/
theorem holdsValuesFile_iff :
    (files.contains "values.yaml" || files.contains "values.yml") = true
      ↔ ∃ f ∈ files, f.1 = "values.yaml" ∨ f.1 = "values.yml" := by
  rw [Bool.or_eq_true, contains_eq_true_iff, contains_eq_true_iff]
  constructor
  · rintro (⟨f, hf, hname⟩ | ⟨f, hf, hname⟩)
    · exact ⟨f, hf, Or.inl hname⟩
    · exact ⟨f, hf, Or.inr hname⟩
  · rintro ⟨f, hf, hname | hname⟩
    · exact Or.inl ⟨f, hf, hname⟩
    · exact Or.inr ⟨f, hf, hname⟩

end FileMap

/-! ### What a process prints -/

section

variable {name : String} {output : ProcessOutput}

/-- A process that prints nothing has failed, whatever its exit code. -/
theorem interpretOutput_of_silent (h : output.stdout = []) :
    interpretOutput name output = .error (.process (silentFailure name output.exitCode)) := by
  simp [interpretOutput, h]

/-- What is printed must be a response. -/
theorem interpretOutput_of_undecodable {problem : Wire.DecodeError} (hprints : output.stdout ≠ [])
    (h : Wire.responseLayout.decode output.stdout = .error problem) :
    interpretOutput name output = .error (.undecodable problem) := by
  simp [interpretOutput, hprints, h]

/-- A response that carries an error is one, also if it carries a text. -/
theorem interpretOutput_of_error {response : Wire.Response} (hprints : output.stdout ≠ [])
    (h : Wire.responseLayout.decode output.stdout = .ok response) (herror : response.error ≠ "") :
    interpretOutput name output = .error (.render response.error) := by
  simp [interpretOutput, hprints, h, herror]

/-- A response without an error is the outcome. -/
theorem interpretOutput_of_rendering {response : Wire.Response} (hprints : output.stdout ≠ [])
    (h : Wire.responseLayout.decode output.stdout = .ok response) (herror : response.error = "") :
    interpretOutput name output = .ok (.ofResponse response) := by
  simp [interpretOutput, hprints, h, herror, Outcome.ofResponse]

end

/-! ### Runs -/

namespace Attempt

variable {a : Attempt}

/-- What the first need asks for: a process to evaluate with. -/
theorem Meets.engine (h : a.Meets .evaluator) : ∃ name output, a.engine = .process name output := by
  cases hengine : a.engine with
  | process name output => exact ⟨name, output, rfl⟩
  | disabled => exact absurd (Lacks.disabled hengine) (h _)
  | unavailable reason => exact absurd (Lacks.unavailable hengine) (h _)

/-- The second need, as it is tested for. -/
theorem Meets.valuesFile (h : a.Meets .valuesFile) :
    (a.files.contains "values.yaml" || a.files.contains "values.yml") = true := by
  by_contra hnone
  refine h _ (Lacks.valuesFile fun f hf => ?_)
  rw [FileMap.holdsValuesFile_iff] at hnone
  exact ⟨fun hname => hnone ⟨f, hf, Or.inl hname⟩, fun hname => hnone ⟨f, hf, Or.inr hname⟩⟩

/-- The third need, as it is tested for. -/
theorem Meets.contents (h : a.Meets .contents) : firstBlankFile? a.files = none := by
  rw [Option.eq_none_iff_forall_ne_some]
  intro name hname
  obtain ⟨f, hf, rfl⟩ := FileMap.firstBlankFile?_eq_some_iff.mp hname
  exact h _ (Lacks.contents hf)

/-- The fourth need: the request can be encoded, and there is one way to do it. -/
theorem Meets.size (h : a.Meets .size) : a.request.encode = .ok a.request.bytes := by
  cases hencode : a.request.encode with
  | ok bytes => rw [(Request.encode_eq_ok_iff.mp hencode).2]
  | error problem =>
    refine absurd (Lacks.size ?_ hencode) (h _)
    intro hfits
    rw [Request.encode_eq_ok_iff.mpr ⟨hfits, rfl⟩] at hencode
    cases hencode

/-- What is missing before there is a request is reported, and nothing is done outside. -/
theorem run_of_prepare {e : ProcessingError}
    (h : a.engine.processor.prepare a.path a.source a.files = .error e) :
    a.run = (.error e, .empty) := by
  unfold run Processor.process
  rw [h]
  rfl

/-- What processing returns once the evaluator has answered. -/
def conclude (a : Attempt) : Except EvaluationError Outcome → Except ProcessingError Processed
  | .error e => .error (.evaluation a.path e)
  | .ok outcome => finishProcessing (annotate a.source) a.source outcome

/-- With a process, a values file and no blank file, there is a request, and its evaluation decides. -/
theorem run_of_evaluate {name : String} {output : Bytes → ProcessOutput}
    (hengine : a.engine = .process name output)
    (hvalues : (a.files.contains "values.yaml" || a.files.contains "values.yml") = true)
    (hblank : firstBlankFile? a.files = none) {result : Except EvaluationError Outcome} {j : Journal}
    (h : ((Runner.printing name output).recording.evaluate a.request).run .empty = (result, j)) :
    a.run = (a.conclude result, j) := by
  have hprepare : a.engine.processor.prepare a.path a.source a.files
      = .ok ((Runner.printing name output).recording.evaluate, a.request) := by
    simp [hengine, Engine.processor, Processor.prepare, hvalues, hblank, request]
  -- All that comes before the evaluation is in `prepare`, which succeeds.
  unfold run Processor.process
  rw [hprepare]
  dsimp only
  rw [StateT.run_bind, h]
  cases result with
  | error e => rfl
  | ok outcome => rfl

/-- A request that cannot be written feeds nothing to the process. -/
theorem evaluate_of_encode_error {runner : Runner} {request : Request} {problem : RequestError}
    (h : request.encode = .error problem) (j : Journal) :
    (runner.recording.evaluate request).run j = (.error (.io problem.message), j) := by
  unfold Runner.evaluate
  rw [h]
  rfl

/-- Any other one feeds it once, and that is written down. -/
theorem evaluate_of_encode_ok {name : String} {output : Bytes → ProcessOutput} {request : Request}
    {bytes : Bytes} (h : request.encode = .ok bytes) (j : Journal) :
    ((Runner.printing name output).recording.evaluate request).run j
      = (interpretOutput name (output bytes), { j with requests := j.requests ++ [bytes] }) := by
  unfold Runner.evaluate
  rw [h]
  rfl

/-- **The request.** Once all is there, the process is fed the bytes of the request, and what it prints decides
    the rest. -/
theorem run_of_ready {name : String} {output : Bytes → ProcessOutput}
    (hengine : a.engine = .process name output)
    (hready : a.MeetsBefore .output) :
    a.run = (a.conclude (interpretOutput name (output a.request.bytes)), ⟨[a.request.bytes], []⟩) := by
  have hvalues := (hready .valuesFile (by decide)).valuesFile
  have hblank := (hready .contents (by decide)).contents
  have hencode := (hready .size (by decide)).size
  exact run_of_evaluate hengine hvalues hblank (evaluate_of_encode_ok hencode .empty)

/-- The error of an evaluation is reported for the path of the attempt, after the request has been sent. -/
theorem run_of_evaluation_error {name : String} {output : Bytes → ProcessOutput}
    (hengine : a.engine = .process name output)
    (hready : a.MeetsBefore .output) {e : EvaluationError}
    (h : interpretOutput name (output a.request.bytes) = .error e) :
    a.run = (.error (.evaluation a.path e), ⟨[a.request.bytes], []⟩) := by
  rw [run_of_ready hengine hready, h]
  rfl

/-- The journal of an attempt that fails at a need: the process is fed when all before `Need.output` is there. -/
def journalUpTo (a : Attempt) (need : Need) : Journal :=
  if need.rank < Need.output.rank then .empty else ⟨[a.request.bytes], []⟩

/-- **Failure.** The first need that is not met decides the error, and whether the process was fed. -/
theorem run_of_failsFirst {need : Need} {e : ProcessingError}
    (h : a.FailsFirst need e) : a.run = (.error e, a.journalUpTo need) := by
  obtain ⟨hlacks, hearlier⟩ := h
  -- What is reported does not exclude an earlier failure; that all earlier needs are met does.
  cases hlacks with
  | disabled hengine => exact run_of_prepare (by rw [hengine]; rfl)
  | unavailable hengine => exact run_of_prepare (by rw [hengine]; rfl)
  | valuesFile hnone =>
    obtain ⟨name, output, hengine⟩ := (hearlier .evaluator (by decide)).engine
    have hvalues : (a.files.contains "values.yaml" || a.files.contains "values.yml") = false := by
      rw [← Bool.not_eq_true, FileMap.holdsValuesFile_iff]
      rintro ⟨f, hf, hname | hname⟩
      · exact (hnone f hf).1 hname
      · exact (hnone f hf).2 hname
    apply run_of_prepare
    simp [hengine, Engine.processor, Processor.prepare, hvalues]
  | @contents f hleast =>
    obtain ⟨name, output, hengine⟩ := (hearlier .evaluator (by decide)).engine
    have hvalues := (hearlier .valuesFile (by decide)).valuesFile
    have hblank := FileMap.firstBlankFile?_eq_some_iff.mpr ⟨f, hleast, rfl⟩
    apply run_of_prepare
    simp [hengine, Engine.processor, Processor.prepare, hvalues, hblank]
  | size hsize hencode =>
    obtain ⟨name, output, hengine⟩ := (hearlier .evaluator (by decide)).engine
    have hvalues := (hearlier .valuesFile (by decide)).valuesFile
    have hblank := (hearlier .contents (by decide)).contents
    exact run_of_evaluate hengine hvalues hblank (evaluate_of_encode_error hencode .empty)
  | output hengine hsilent =>
    exact run_of_evaluation_error hengine hearlier (interpretOutput_of_silent hsilent)
  | response hengine hproblem =>
    have hprints : _ ≠ [] := fun h => hearlier .output (by decide) _ (.output hengine h)
    exact run_of_evaluation_error hengine (fun k hk => hearlier k (Nat.lt_trans hk (by decide)))
      (interpretOutput_of_undecodable hprints hproblem)
  | rendering hengine hresponse herror =>
    have hprints : _ ≠ [] := fun h => hearlier .output (by decide) _ (.output hengine h)
    exact run_of_evaluation_error hengine (fun k hk => hearlier k (Nat.lt_trans hk (by decide)))
      (interpretOutput_of_error hprints hresponse herror)

/-- Whatever the process answered, its tree can be moved to the template. -/
theorem conclude_ofResponse (response : Wire.Response) :
    a.conclude (.ok (.ofResponse response)) = .ok ((Outcome.ofResponse response).onTemplate a.source) := by
  apply finishProcessing_of_fitsSigned
  intro t ht
  -- The tree was read from a message, and the places in one are small enough.
  obtain ⟨message, -, hmessage⟩ := Option.bind_eq_some_iff.mp ht
  exact Tree.fitsSigned_of_ofMessage? hmessage

/-- Needs that are all met make a complete attempt. -/
theorem exists_completes (h : ∀ need, a.Meets need) :
    ∃ response, a.Completes response := by
  obtain ⟨name, output, hengine⟩ := (h .evaluator).engine
  have hprints : (output a.request.bytes).stdout ≠ [] := fun hsilent => h .output _ (.output hengine hsilent)
  -- What the process prints is a response, or the need for one would not be met.
  cases hdecode : Wire.responseLayout.decode (output a.request.bytes).stdout with
  | error problem => exact absurd (Lacks.response hengine hdecode) (h .response _)
  | ok response =>
    refine ⟨response, ?_, ?_, ?_, ⟨name, output, hengine, hprints, hdecode⟩, ?_⟩
    · exact FileMap.holdsValuesFile_iff.mp (h .valuesFile).valuesFile
    · exact FileMap.firstBlankFile?_eq_none_iff.mp (h .contents).contents
    · exact (Request.encode_eq_ok_iff.mp (h .size).size).1
    · by_contra herror
      exact h .rendering _ (.rendering hengine hdecode herror)

/-- Nothing is reported for a complete attempt. -/
theorem Completes.meets {response : Wire.Response} (h : a.Completes response) (need : Need) :
    a.Meets need := by
  obtain ⟨name, output, hengine, hprints, hdecode⟩ := h.answer
  intro e hlacks
  cases hlacks with
  | disabled hother => simp [hengine] at hother
  | unavailable hother => simp [hengine] at hother
  | valuesFile hnone =>
    obtain ⟨f, hf, hname | hname⟩ := h.valuesFile
    · exact (hnone f hf).1 hname
    · exact (hnone f hf).2 hname
  | contents hleast =>
    have hblank := hleast.blank
    rw [h.contents _ hleast.mem] at hblank
    cases hblank
  | size hsize => exact hsize h.size
  | output hother hsilent =>
    -- The attempt has one process only, here and below.
    obtain ⟨rfl, rfl⟩ := Engine.process.inj (hengine.symm.trans hother)
    exact hprints hsilent
  | response hother hproblem =>
    obtain ⟨rfl, rfl⟩ := Engine.process.inj (hengine.symm.trans hother)
    rw [hdecode] at hproblem
    cases hproblem
  | rendering hother hresponse herror =>
    obtain ⟨rfl, rfl⟩ := Engine.process.inj (hengine.symm.trans hother)
    rw [hdecode] at hresponse
    cases hresponse
    exact herror h.rendering

/-- **Success.** A complete attempt returns what the response makes of the template. -/
theorem run_of_completes {response : Wire.Response} (h : a.Completes response) :
    a.run = (.ok ((Outcome.ofResponse response).onTemplate a.source), ⟨[a.request.bytes], []⟩) := by
  obtain ⟨name, output, hengine, hprints, hdecode⟩ := h.answer
  rw [run_of_ready hengine (fun k _ => h.meets k),
    interpretOutput_of_rendering hprints hdecode h.rendering, conclude_ofResponse]

/-- An attempt is complete, or there is a first need that it does not meet. -/
theorem completes_or_failsFirst (a : Attempt) :
    (∃ response, a.Completes response) ∨ ∃ need e, a.FailsFirst need e := by
  by_cases hall : ∀ need, a.Meets need
  · exact Or.inl (exists_completes hall)
  · obtain ⟨need, hneed⟩ := not_forall.mp hall
    -- Of the needs that are not met, one is looked for first.
    obtain ⟨first, hfirst, hmin⟩ := (measure Need.rank).wf.has_min { k | ¬ a.Meets k } ⟨need, hneed⟩
    obtain ⟨e, he⟩ := not_forall.mp hfirst
    refine Or.inr ⟨first, e, not_not.mp he, fun k hk => ?_⟩
    by_contra hk'
    exact hmin k hk' hk

end Attempt

/-! ### Skipping failures -/

/-- A failure is no cause for a warning when there is no evaluator, or a named template is missing. -/
def ProcessingError.IsQuiet : ProcessingError → Prop
  | .uninitialized _ | .evaluatorUnavailable _ _ => True
  | .evaluation _ error => Processor.missingTemplateSign.toList <:+: error.message.toList
  | _ => False

/-- An error that is expected to occur in use is recorded for debugging only. -/
theorem Processor.level_skipRecord {path : String} {e : ProcessingError} (h : e.IsQuiet) :
    (skipRecord path e).level = .debug := by
  cases e with
  | evaluation p error =>
    have hmentions := occursIn_eq_true_iff.mpr h
    simp [skipRecord, ProcessingError.details?, hmentions]
  | uninitialized p => rfl
  | evaluatorUnavailable p reason => rfl
  -- None of these is quiet.
  | missingValuesFile | emptyDependency | noChart | unreadableDependency | overflow => exact h.elim

/-- All others are warnings that carry the whole message. -/
theorem Processor.skipRecord_eq_warn {path : String} {e : ProcessingError} (h : ¬ e.IsQuiet) :
    skipRecord path e = ⟨.warn, e.message⟩ := by
  cases e with
  | evaluation p error =>
    have hmentions := occursIn_eq_false_iff.mpr h
    simp [skipRecord, ProcessingError.details?, hmentions]
  | uninitialized p => exact absurd trivial h
  | evaluatorUnavailable p reason => exact absurd trivial h
  | missingValuesFile | emptyDependency | noChart | unreadableDependency | overflow => rfl

namespace Attempt

variable {a : Attempt}

/-- The failures that are no cause for a warning, by what the attempt lacks. -/
theorem FailsFirst.isQuiet_iff {need : Need} {e : ProcessingError} (h : a.FailsFirst need e) :
    e.IsQuiet ↔ ¬ a.Meets .evaluator ∨ a.MissesTemplate e := by
  have hevaluator : 0 < need.rank → a.Meets .evaluator := h.earlier .evaluator
  cases h.lacks with
  | disabled hengine => exact iff_of_true trivial (Or.inl fun hmeets => hmeets _ (.disabled hengine))
  | unavailable hengine => exact iff_of_true trivial (Or.inl fun hmeets => hmeets _ (.unavailable hengine))
  | valuesFile | contents | size | output | response | rendering =>
    -- There is an evaluator, so the error itself decides.
    simp [ProcessingError.IsQuiet, MissesTemplate, hevaluator (by decide)]

/-- **Skipping.** A failure is written to the log, and nothing else changes. -/
theorem runOrSkip_eq (a : Attempt) :
    a.runOrSkip = match a.run with
      | (.ok p, j) => (some p, j)
      | (.error e, j) => (none, { j with log := j.log ++ [Processor.skipRecord a.path e] }) := by
  unfold runOrSkip Processor.processLogged Processor.processOrSkip run
  rw [StateT.run_bind, StateT.run_bind]
  rcases (a.engine.processor.process a.path a.source a.files).run .empty with ⟨_ | p, j⟩
  · rfl
  · rfl

/-! ### The boundary -/

/-- An attempt succeeds exactly when all needs are met. -/
theorem run_eq_ok_iff {p : Processed} :
    a.run.1 = .ok p
      ↔ ∃ response, a.Completes response ∧ p = (Outcome.ofResponse response).onTemplate a.source := by
  constructor
  · intro h
    rcases a.completes_or_failsFirst with ⟨response, hcompletes⟩ | ⟨need, e, hfails⟩
    · rw [run_of_completes hcompletes] at h
      cases h
      exact ⟨response, hcompletes, rfl⟩
    · rw [run_of_failsFirst hfails] at h
      cases h
  · rintro ⟨response, hcompletes, rfl⟩
    rw [run_of_completes hcompletes]

/-- It fails with the error of the first need that is not met. -/
theorem run_eq_error_iff {e : ProcessingError} : a.run.1 = .error e ↔ ∃ need, a.FailsFirst need e := by
  constructor
  · intro h
    rcases a.completes_or_failsFirst with ⟨response, hcompletes⟩ | ⟨need, e', hfails⟩
    · rw [run_of_completes hcompletes] at h
      cases h
    · rw [run_of_failsFirst hfails] at h
      cases h
      exact ⟨need, hfails⟩
  · rintro ⟨need, hfails⟩
    rw [run_of_failsFirst hfails]

/-- **Feeding.** The process is fed once when all before its output is there, and not at all otherwise. -/
theorem journal_run (a : Attempt) :
    (a.MeetsBefore .output → a.run.2 = ⟨[a.request.bytes], []⟩)
    ∧ (¬ a.MeetsBefore .output → a.run.2 = .empty) := by
  constructor
  · intro hready
    obtain ⟨name, output, hengine⟩ := (hready .evaluator (by decide)).engine
    rw [run_of_ready hengine hready]
  · intro hnot
    rcases a.completes_or_failsFirst with ⟨response, hcompletes⟩ | ⟨need, e, hfails⟩
    · exact absurd (fun k _ => hcompletes.meets k) hnot
    · -- Whatever fails first is looked for before the process prints anything.
      have hrank : need.rank < Need.output.rank := by
        by_contra hge
        exact hnot fun k hk => hfails.earlier k (Nat.lt_of_lt_of_le hk (Nat.not_lt.mp hge))
      rw [run_of_failsFirst hfails]
      exact if_pos hrank

/-- Skipping a failure changes no success. -/
theorem runOrSkip_eq_some_iff {p : Processed} : a.runOrSkip.1 = some p ↔ a.run.1 = .ok p := by
  rw [runOrSkip_eq]
  rcases a.run with ⟨_ | q, j⟩ <;> simp

/-- Skipping sends no further request. -/
theorem requests_runOrSkip (a : Attempt) : a.runOrSkip.2.requests = a.run.2.requests := by
  rw [runOrSkip_eq]
  rcases a.run with ⟨_ | q, j⟩ <;> rfl

/-- An attempt itself records nothing. -/
theorem log_run (a : Attempt) : a.run.2.log = [] := by
  by_cases hready : a.MeetsBefore .output
  · rw [a.journal_run.1 hready]
  · rw [a.journal_run.2 hready]
    rfl

/-- A success is not recorded. -/
theorem log_runOrSkip_of_ok {p : Processed} (h : a.run.1 = .ok p) : a.runOrSkip.2.log = [] := by
  have hlog := a.log_run
  rw [runOrSkip_eq]
  rcases hrun : a.run with ⟨_ | q, j⟩
  · rw [hrun] at h
    cases h
  · rw [hrun] at hlog
    exact hlog

/-- A failure is recorded once. -/
theorem log_runOrSkip_of_error {e : ProcessingError} (h : a.run.1 = .error e) :
    a.runOrSkip.2.log = [Processor.skipRecord a.path e] := by
  have hlog := a.log_run
  rw [runOrSkip_eq]
  rcases hrun : a.run with ⟨e' | q, j⟩
  · rw [hrun] at h hlog
    cases h
    show j.log ++ _ = _
    rw [show j.log = [] from hlog, List.nil_append]
  · rw [hrun] at h
    cases h

/-- **The failure boundary.** Let there be any engine, template and chart files, and let the process print
    anything for what it is fed.

    Processing returns something if and only if there is an evaluator and a values file, no file is blank, four
    bytes count all strings and the files, and the process prints a response without an error; the exit code
    has no part in it.  Otherwise it returns what is reported for the first of these needs that is not met.  The
    process is fed if and only if all before its output is there, once, and with the bytes of the request.

    Skipping returns the same, and feeds the same.  It logs nothing when there is a result and one record
    otherwise: the error as a warning, or something less serious when there is no evaluator or the evaluator
    misses a named template. -/
theorem run_failure_boundary (a : Attempt) :
    (∀ p, a.run.1 = .ok p
      ↔ ∃ response, a.Completes response ∧ p = (Outcome.ofResponse response).onTemplate a.source)
    ∧ (∀ e, a.run.1 = .error e ↔ ∃ need, a.FailsFirst need e)
    ∧ (a.MeetsBefore .output →
      a.request.encode = .ok a.request.bytes ∧ a.run.2.requests = [a.request.bytes])
    ∧ (¬ a.MeetsBefore .output → a.run.2.requests = [])
    ∧ (∀ p, a.runOrSkip.1 = some p ↔ a.run.1 = .ok p)
    ∧ a.runOrSkip.2.requests = a.run.2.requests
    ∧ a.run.2.log = []
    ∧ (∀ p, a.run.1 = .ok p → a.runOrSkip.2.log = [])
    ∧ ∀ e, a.run.1 = .error e → ∃ record, a.runOrSkip.2.log = [record]
      ∧ (¬ a.Meets .evaluator ∨ a.MissesTemplate e → record.level = .debug)
      ∧ (¬ (¬ a.Meets .evaluator ∨ a.MissesTemplate e) → record = ⟨.warn, e.message⟩) := by
  refine ⟨fun p => run_eq_ok_iff, fun e => run_eq_error_iff, fun hready => ?_, fun hnot => ?_,
    fun p => runOrSkip_eq_some_iff, a.requests_runOrSkip, a.log_run, fun p => log_runOrSkip_of_ok,
    fun e he => ?_⟩
  · exact ⟨(hready .size (by decide)).size, by rw [a.journal_run.1 hready]⟩
  · rw [a.journal_run.2 hnot]
    rfl
  · obtain ⟨need, hfails⟩ := run_eq_error_iff.mp he
    rw [← hfails.isQuiet_iff]
    exact ⟨_, log_runOrSkip_of_error he, Processor.level_skipRecord, Processor.skipRecord_eq_warn⟩

/-- An answer of a process that ends with an error is an answer. -/
example : (Attempt.runOrSkip ⟨.process "engine" fun _ => ⟨[10, 4, 97, 32, 35, 49], some 1⟩, "t", ['a'],
    [("values.yaml", "b")]⟩).1.map Processed.source = some ['a'] := by decide +kernel

end Attempt

end ChartTrace
