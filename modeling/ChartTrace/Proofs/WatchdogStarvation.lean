import ChartTrace.Evaluator.Launch
import ChartTrace.Proofs.SharedRuns
import Mathlib.Algebra.BigOperators.Group.List.Basic

namespace ChartTrace

/-!
# Starvation of watchdogs

A call that reads the output of a process is ended by its watchdog when its time is over, provided that
a worker gets to the watchdog.  Workers that follow error outputs do not come back while the processes
live.  So there have to be more workers than calls under way.

* `IsHeld`, `le_inFlight_of_isHeld`: if no worker comes back, there are as many calls under way as
  workers;
* `exists_ended`: otherwise workers and clocks alone can end a process whose time is over;
* `IsJammed`, `IsLost`, `IsLost.leads`: workers that follow processes that hang never come back, and a
  call that needs one of them reads forever;
* `reachable_lost`: as many calls as workers can bring that about;
* `watchdog_starves_iff`: when watchdogs starve.
-/

open scoped List

namespace SharedRuns

variable {limit size : Nat} {s s' : SharedRuns} {g g' : Generation RunJob}

/-- The worker follows the error output of a process that is still there. -/
def IsHeld (s : SharedRuns) (w : Worker RunJob) : Prop :=
  ∃ run r, w = .busy (.drain run) ∧ s.runs[run]? = some r ∧ r.isAlive = true

/-- Every worker follows the error output of a process that hangs. -/
def IsJammed (s : SharedRuns) : Prop :=
  ∃ g, s.pool.running = some g ∧ ∀ w ∈ g.workers, ∃ run r,
    w = .busy (.drain run) ∧ s.runs[run]? = some r ∧ r.IsHung

/-- The call reads an output that is still open after its time is over. -/
def IsOverdueRead (s : SharedRuns) (run : Nat) : Prop :=
  ∃ r, s.runs[run]? = some r ∧ r.stage = .reading ∧ r.outputOpen = true ∧ r.isOverdue = true

/-- The job waits for a worker. -/
def IsQueued (s : SharedRuns) (job : RunJob) : Prop :=
  ∃ g, s.pool.running = some g ∧ job ∈ g.queue

/-- The call reads although its time is over, its watchdog waits for a worker, and no worker comes
    back. -/
def IsStarved (s : SharedRuns) (run : Nat) : Prop :=
  s.IsOverdueRead run ∧ s.IsQueued (.watchdog run) ∧ s.IsJammed

/-- The process of the run is not there any more. -/
def IsEnded (s : SharedRuns) (run : Nat) : Prop :=
  ∃ r, s.runs[run]? = some r ∧ r.isAlive = false

/-! ### As many calls as workers -/

/-- The runs of different jobs that follow error outputs are different. -/
theorem nodup_runs_of_isHeld (h : IsOrderly size s g) (hheld : ∀ w ∈ g.workers, s.IsHeld w) :
    (g.busyJobs.map RunJob.run).Nodup := by
  have hnodup : g.busyJobs.Nodup := (List.nodup_append.mp h.nodup).1
  refine hnodup.map_on (fun job hjob job' hjob' hrun => ?_)
  obtain ⟨run, -, hw, -⟩ := hheld _ (Generation.mem_busyJobs.mp hjob)
  obtain ⟨run', -, hw', -⟩ := hheld _ (Generation.mem_busyJobs.mp hjob')
  cases hw
  cases hw'
  exact congrArg RunJob.drain hrun

/-- If every worker follows a process that is still there, each of these processes belongs to a call
    of its own that has not returned. -/
theorem le_inFlight_of_isHeld (h : IsOrderly size s g) (hheld : ∀ w ∈ g.workers, s.IsHeld w) :
    max size 1 ≤ s.inFlight := by
  have hbusy : g.busyJobs.length = g.workers.length := by
    refine List.filterMap_length_eq_length.mpr (fun w hw => ?_)
    obtain ⟨run, -, rfl, -⟩ := hheld w hw
    rfl
  -- Each worker holds a job of a call that is under way, and no two of them one of the same call.
  have hsubset : g.busyJobs.map RunJob.run ⊆ s.runs.findIdxs (·.stage != .returned) := by
    intro run hrun
    obtain ⟨job, hjob, rfl⟩ := List.mem_map.mp hrun
    obtain ⟨run, r, hw, hr, halive⟩ := hheld _ (Generation.mem_busyJobs.mp hjob)
    cases hw
    obtain ⟨hlt, hget⟩ := List.getElem?_eq_some_iff.mp hr
    refine List.mem_findIdxs_iff_exists_getElem_pos.mpr ⟨hlt, ?_⟩
    have hnot : r.stage ≠ .returned := by
      intro hreturned
      have hdead := (h.isSound_of_getElem? hr).dead_of_returned hreturned
      rw [halive] at hdead
      cases hdead
    show (s.runs[run].stage != .returned) = true
    rw [hget]
    exact bne_iff_ne.mpr hnot
  calc max size 1 = (g.busyJobs.map RunJob.run).length := by
        rw [List.length_map, hbusy, h.length_workers]
    _ ≤ (s.runs.findIdxs (·.stage != .returned)).length :=
        (List.subperm_of_subset (nodup_runs_of_isHeld h hheld) hsubset).length_le
    _ = s.inFlight := List.length_findIdxs

/-- Workers that drain a hung process are held. -/
theorem IsJammed.isHeld (hjam : s.IsJammed) (hrunning : s.pool.running = some g) :
    ∀ w ∈ g.workers, s.IsHeld w := by
  obtain ⟨g₁, hg₁, hall⟩ := hjam
  obtain rfl : g = g₁ := Option.some.inj (hrunning.symm.trans hg₁)
  intro w hw
  obtain ⟨run, r, hbusy, hr, hhung⟩ := hall w hw
  exact ⟨run, r, hbusy, hr, hhung.2⟩

end SharedRuns

/-! ### More workers than calls -/

/-- Whether a worker or a clock makes the step. -/
def SharedStep.isUpkeep : SharedStep → Bool
  | .take _ | .finish _ | .event _ .expire => true
  | _ => false

namespace SharedRuns

variable {limit size : Nat} {s s' : SharedRuns} {g g' : Generation RunJob}

/-- Workers and clocks make no call return. -/
theorem inFlight_of_isUpkeep {a : SharedStep} (hup : a.isUpkeep = true) (hs : s.step? a = some s') :
    s'.inFlight = s.inFlight := by
  -- A run is replaced by one that has come as far.
  have hset : ∀ run r r', s.runs[run]? = some r → r'.stage = r.stage →
      s'.runs = s.runs.set run r' → s'.inFlight = s.inFlight := by
    intro run r r' hr hstage hruns
    obtain ⟨others, hbefore, hafter⟩ := perm_set hr
    unfold inFlight
    rw [hruns, (hafter r').countP_eq, hbefore.countP_eq, List.countP_cons, List.countP_cons, hstage]
  cases a with
  | call hangs => cases hup
  | queue run => cases hup
  | event run event =>
    obtain ⟨r, r', hr, hr', rfl⟩ := step?_event hs
    cases event with
    | expire =>
      cases hr'
      exact hset run r { r with isOverdue := true } hr rfl rfl
    | closeOutput => cases hup
    | closeErrors => cases hup
    | exit => cases hup
    | proceed => cases hup
  | take worker =>
    obtain ⟨g, g', -, -, rfl⟩ := step?_take hs
    rfl
  | finish worker =>
    obtain ⟨g, job, r, r', g', -, -, hr, hr', -, hruns, -⟩ := step?_finish hs
    exact hset job.run r r' hr (ProcessRun.becomes_of_complete? hr').2 hruns

/-- What workers and clocks keep: the order, the number of calls under way, and that the time of a run
    is over. -/
structure Upkeeps (size run : Nat) (s : SharedRuns) : Prop where
  orderly : ∃ g, IsOrderly size s g
  inFlight_lt : s.inFlight < max size 1
  isOverdue : s.IsOverdue run

/-- Run lemma: steps of upkeep keep all three. -/
theorem Upkeeps.leads {run : Nat} (h : Upkeeps size run s)
    (hleads : Leads SharedStep.isUpkeep s s') : Upkeeps size run s' := by
  induction hleads with
  | refl => exact h
  | tail _ hs ih =>
    obtain ⟨a, hup, hs⟩ := hs
    obtain ⟨g, hg⟩ := ih.orderly
    exact ⟨hg.step hs, by rw [inFlight_of_isUpkeep hup hs]; exact ih.inFlight_lt,
      ih.isOverdue.step hs⟩

/-- A worker whose job can end is idle afterwards. -/
theorem step?_finish_of_complete? (h : IsOrderly size s g) {i : Nat} {job : RunJob}
    (hworker : g.workers[i]? = some (.busy job)) {r r' : ProcessRun}
    (hr : s.runs[job.run]? = some r) (hcomplete : job.complete? r = some r') :
    ∃ s', s.step? (.finish i) = some s' ∧ s'.runs = s.runs.set job.run r'
      ∧ s'.pool.running = some { g with workers := g.workers.set i .idle } := by
  refine ⟨⟨{ s.pool with
      running := some { g with workers := g.workers.set i .idle }
      finished := job :: s.pool.finished }, s.runs.set job.run r'⟩, ?_, rfl, rfl⟩
  simp [step?, h.running, hworker, Worker.job?, hr, hcomplete, WorkerPool.step?,
    WorkerPool.generation?, Generation.finish?, WorkerPool.withGeneration, withRun]

/-- A watchdog that a worker is at ends the process, once the time is over. -/
theorem exists_ended_of_busy (h : IsOrderly size s g) {i run : Nat}
    (hworker : g.workers[i]? = some (.busy (.watchdog run))) (hoverdue : s.IsOverdue run) :
    ∃ s', Leads SharedStep.isUpkeep s s' ∧ s'.IsEnded run := by
  obtain ⟨r, hr, hover⟩ := hoverdue
  obtain ⟨r', hwatch, hdead⟩ := ProcessRun.watch?_of_isOverdue (h.isSound_of_getElem? hr) hover
  obtain ⟨s', hs, hruns, -⟩ := step?_finish_of_complete? h hworker hr hwatch
  have hlt := (List.getElem?_eq_some_iff.mp hr).1
  refine ⟨s', .single ⟨.finish i, rfl, hs⟩, r', ?_, hdead⟩
  rw [hruns]
  exact List.getElem?_set_self hlt

/-- A worker that does not follow a process that is still there can become idle. -/
theorem exists_idle (h : IsOrderly size s g) {i : Nat} {w : Worker RunJob}
    (hw : g.workers[i]? = some w) (hfree : ¬ s.IsHeld w) :
    ∃ s' workers, Leads SharedStep.isUpkeep s s'
      ∧ s'.pool.running = some { g with workers := workers } ∧ workers[i]? = some .idle := by
  have hlt := (List.getElem?_eq_some_iff.mp hw).1
  have hidle : (g.workers.set i Worker.idle)[i]? = some .idle := List.getElem?_set_self hlt
  have hmem := List.mem_of_getElem? hw
  cases w with
  | idle => exact ⟨s, g.workers, .refl, h.running, hw⟩
  | dead => exact absurd (h.isAlive _ hmem) (by simp [Worker.isAlive])
  | gone => exact absurd (h.isAlive _ hmem) (by simp [Worker.isAlive])
  | busy job =>
    have hjob : job ∈ g.jobs := List.mem_append_left _ (Generation.mem_busyJobs.mpr hmem)
    obtain ⟨r, hr, -⟩ := h.queued job hjob
    cases job with
    | drain run =>
      -- The process is gone, and with it its error output.
      have hdead : r.isAlive = false := by
        by_contra halive
        exact hfree ⟨run, r, rfl, hr, by simpa using halive⟩
      have hclosed := ((h.isSound_of_getElem? hr).closed_of_dead hdead).2
      have hdrain : (RunJob.drain run).complete? r = some r := by
        simp [RunJob.complete?, ProcessRun.drain?, hclosed]
      obtain ⟨s', hs, -, hrunning⟩ := step?_finish_of_complete? h hw hr hdrain
      exact ⟨s', _, .single ⟨.finish i, rfl, hs⟩, hrunning, hidle⟩
    | watchdog run =>
      -- The time of its run is over at some point.
      have hrun : s.runs[run]? = some r := hr
      have hexpire : s.step? (.event run .expire) = some (s.withRun run { r with isOverdue := true }) := by
        simp [step?, hrun, ProcessRun.step?]
      obtain ⟨g₁, h₁⟩ := h.step hexpire
      obtain rfl : g = g₁ := Option.some.inj (h.running.symm.trans h₁.running)
      have hr₁ : (s.withRun run { r with isOverdue := true }).runs[run]?
          = some { r with isOverdue := true } :=
        List.getElem?_set_self (List.getElem?_eq_some_iff.mp hrun).1
      obtain ⟨r', hwatch, -⟩ :=
        ProcessRun.watch?_of_isOverdue (h₁.isSound_of_getElem? hr₁) rfl
      obtain ⟨s', hs, -, hrunning⟩ := step?_finish_of_complete? h₁ hw hr₁ hwatch
      exact ⟨s', _, .head ⟨_, rfl, hexpire⟩ (.single ⟨.finish i, rfl, hs⟩), hrunning, hidle⟩

/-- With more workers than calls under way, some worker gets to the oldest job. -/
theorem exists_served {run : Nat} (h : Upkeeps size run s) (hrunning : s.pool.running = some g)
    {job : RunJob} {rest : List RunJob} (hqueue : g.queue = job :: rest) :
    ∃ s' g', ∃ i : Nat, Leads SharedStep.isUpkeep s s' ∧ s'.pool.running = some g' ∧ g'.queue = rest
      ∧ g'.workers[i]? = some (Worker.busy job) := by
  obtain ⟨g₁, hg⟩ := h.orderly
  obtain rfl : g = g₁ := Option.some.inj (hrunning.symm.trans hg.running)
  -- There are more workers than calls, so that one of them is free.
  obtain ⟨w, hw, hfree⟩ : ∃ w ∈ g.workers, ¬ s.IsHeld w := by
    by_contra hnone
    have hheld : ∀ w ∈ g.workers, s.IsHeld w := by
      intro w hw
      by_contra hfree
      exact hnone ⟨w, hw, hfree⟩
    have hle := le_inFlight_of_isHeld hg hheld
    have hlt := h.inFlight_lt
    omega
  obtain ⟨i, hi⟩ := List.mem_iff_getElem?.mp hw
  obtain ⟨s₁, workers, hleads, hrunning₁, hidle⟩ := exists_idle hg hi hfree
  have hlt := (List.getElem?_eq_some_iff.mp hidle).1
  have htake : s₁.step? (.take i)
      = some { s₁ with pool := { s₁.pool with running := some ⟨rest, workers.set i (.busy job)⟩ } } := by
    simp [step?, WorkerPool.step?, WorkerPool.generation?, hrunning₁, Generation.take?, hidle,
      hqueue, WorkerPool.withGeneration]
  exact ⟨_, _, i, hleads.tail ⟨_, rfl, htake⟩, rfl, rfl, List.getElem?_set_self hlt⟩

/-- A watchdog in the queue gets its turn. -/
theorem exists_ended_of_mem_queue {run : Nat} {before after : List RunJob} (h : Upkeeps size run s)
    (hrunning : s.pool.running = some g) (hqueue : g.queue = before ++ .watchdog run :: after) :
    ∃ s', Leads SharedStep.isUpkeep s s' ∧ s'.IsEnded run := by
  induction before generalizing s g with
  | nil =>
    -- The watchdog is at the head of the queue: it is taken and ends the process.
    obtain ⟨s₁, g₁, i, hleads, hrunning₁, -, hbusy⟩ := exists_served h hrunning hqueue
    have h₁ := h.leads hleads
    obtain ⟨g₂, hg₂⟩ := h₁.orderly
    obtain rfl : g₁ = g₂ := Option.some.inj (hrunning₁.symm.trans hg₂.running)
    obtain ⟨s₂, hleads₂, hended⟩ := exists_ended_of_busy hg₂ hbusy h₁.isOverdue
    exact ⟨s₂, hleads.trans hleads₂, hended⟩
  -- The jobs in front are served first, by induction on their number.
  | cons job before ih =>
    obtain ⟨s₁, g₁, i, hleads, hrunning₁, hqueue₁, -⟩ := exists_served h hrunning hqueue
    obtain ⟨s₂, hleads₂, hended⟩ := ih (h.leads hleads) hrunning₁ hqueue₁
    exact ⟨s₂, hleads.trans hleads₂, hended⟩

/-- With more workers than calls under way, workers and clocks alone can end a process whose output is
    still read after its time is over. -/
theorem exists_ended {run : Nat} (h : IsOrderly size s g) (hflight : s.inFlight < max size 1)
    (hread : s.IsOverdueRead run) : ∃ s', Leads SharedStep.isUpkeep s s' ∧ s'.IsEnded run := by
  obtain ⟨r, hr, hreading, hopen, hover⟩ := hread
  have halive := (h.isSound_of_getElem? hr).isAlive_of_outputOpen hopen
  rcases List.mem_append.mp (h.watched run r hr hreading halive) with hbusy | hqueue
  · obtain ⟨i, hi⟩ := List.mem_iff_getElem?.mp (Generation.mem_busyJobs.mp hbusy)
    exact exists_ended_of_busy h hi ⟨r, hr, hover⟩
  · obtain ⟨before, after, hqueue⟩ := List.append_of_mem hqueue
    exact exists_ended_of_mem_queue ⟨⟨g, h⟩, hflight, r, hr, hover⟩ h.running hqueue

/-! ### Workers that never come back -/

/-- Step lemma: while all workers follow processes that hang, they go on doing so, no job leaves the
    queue, and processes that hang keep their calls reading. -/
theorem step_of_isJammed (h : IsOrderly size s g) (hjam : s.IsJammed) {a : SharedStep}
    (hs : s.step? a = some s') :
    (∃ g', s'.pool.running = some g' ∧ g'.workers = g.workers ∧ g.queue ⊆ g'.queue)
    ∧ ∀ (run : Nat) (r : ProcessRun), s.runs[run]? = some r →
      ∃ r', s'.runs[run]? = some r' ∧ r.HangsOn r' := by
  obtain ⟨g₁, hg₁, hall⟩ := hjam
  obtain rfl : g = g₁ := Option.some.inj (h.running.symm.trans hg₁)
  have hrefl : ∀ r : ProcessRun, r.HangsOn r := fun r hhung => ⟨hhung, id⟩
  cases a with
  | call hangs =>
    cases hs
    refine ⟨⟨g, h.running, rfl, List.Subset.refl _⟩, fun run r hr => ⟨r, ?_, hrefl r⟩⟩
    rw [List.getElem?_append_left (List.getElem?_eq_some_iff.mp hr).1, hr]
  | queue run₁ =>
    obtain ⟨r₁, job, stage, hr₁, hqueues, ⟨pool, hpool, rfl⟩ | ⟨hpool, -⟩⟩ := step?_queue hs
    · rw [h.submit? job, Option.some.injEq] at hpool
      subst hpool
      have hkeeps : r₁.HangsOn { r₁ with stage := stage } := by
        intro hhung
        refine ⟨hhung, fun hreading => ?_⟩
        rw [hreading] at hqueues
        cases hqueues
      exact ⟨⟨_, rfl, rfl, List.subset_append_left _ _⟩,
        fun run r hr => exists_run_of_set hrefl hr₁ rfl hkeeps hr⟩
    · rw [h.submit? job] at hpool
      cases hpool
  | event run₁ event =>
    obtain ⟨r₁, r₁', hr₁, hr₁', rfl⟩ := step?_event hs
    have hkeeps : r₁.HangsOn r₁' := by
      intro hhung
      obtain ⟨hhung', hstage⟩ :=
        ProcessRun.isHung_of_step? (h.isSound_of_getElem? hr₁) hhung hr₁'
      exact ⟨hhung', fun hreading => hstage.trans hreading⟩
    exact ⟨⟨g, h.running, rfl, List.Subset.refl _⟩,
      fun run r hr => exists_run_of_set hrefl hr₁ rfl hkeeps hr⟩
  | take worker =>
    obtain ⟨g₂, g', hg₂, htake, -⟩ := step?_take hs
    obtain rfl : g = g₂ := Option.some.inj (h.running.symm.trans hg₂)
    obtain ⟨-, hidle, -⟩ := Generation.take?_eq_some htake
    obtain ⟨run, r, hbusy, -⟩ := hall _ (List.mem_of_getElem? hidle)
    cases hbusy
  | finish worker =>
    obtain ⟨g₂, job, r, r', g', hg₂, hworker, hr, hr', -⟩ := step?_finish hs
    obtain rfl : g = g₂ := Option.some.inj (h.running.symm.trans hg₂)
    obtain ⟨run, r₁, hbusy, hr₁, hhung⟩ := hall _ (List.mem_of_getElem? hworker)
    cases hbusy
    obtain rfl : r = r₁ := Option.some.inj (hr.symm.trans hr₁)
    -- The error output is open as long as the process hangs.
    have hopen := ((h.isSound_of_getElem? hr).open_of_isHung hhung).2
    simp [RunJob.complete?, ProcessRun.drain?, hopen] at hr'

/-- Step lemma: workers that follow processes that hang do so forever. -/
theorem IsJammed.step (h : IsOrderly size s g) (hjam : s.IsJammed) {a : SharedStep}
    (hs : s.step? a = some s') : s'.IsJammed := by
  obtain ⟨⟨g', hrunning, hworkers, -⟩, hruns⟩ := step_of_isJammed h hjam hs
  obtain ⟨g₁, hg₁, hall⟩ := hjam
  obtain rfl : g = g₁ := Option.some.inj (h.running.symm.trans hg₁)
  refine ⟨g', hrunning, fun w hw => ?_⟩
  rw [hworkers] at hw
  obtain ⟨run, r, hbusy, hr, hhung⟩ := hall w hw
  obtain ⟨r', hr', hkeeps⟩ := hruns run r hr
  exact ⟨run, r', hbusy, hr', (hkeeps hhung).1⟩

/-- The call is starved, and its own process hangs. -/
structure IsLost (size run : Nat) (s : SharedRuns) : Prop where
  orderly : ∃ g, IsOrderly size s g
  isStarved : s.IsStarved run
  isHung : ∃ r, s.runs[run]? = some r ∧ r.IsHung

/-- Step lemma: nothing helps a call that is lost. -/
theorem IsLost.step {run : Nat} (h : IsLost size run s) {a : SharedStep}
    (hs : s.step? a = some s') : IsLost size run s' := by
  obtain ⟨g, hg⟩ := h.orderly
  obtain ⟨r, hr, hhung⟩ := h.isHung
  obtain ⟨⟨r₁, hr₁, hreading, -, hover⟩, ⟨g₁, hg₁, hqueued⟩, hjam⟩ := h.isStarved
  obtain rfl : r = r₁ := Option.some.inj (hr.symm.trans hr₁)
  obtain rfl : g = g₁ := Option.some.inj (hg.running.symm.trans hg₁)
  obtain ⟨⟨g', hrunning, -, hqueue⟩, hruns⟩ := step_of_isJammed hg hjam hs
  obtain ⟨r', hr', hkeeps⟩ := hruns run r hr
  obtain ⟨hhung', hreading'⟩ := hkeeps hhung
  obtain ⟨g₂, hg₂⟩ := hg.step hs
  -- A process that hangs keeps its pipes open, so that the call goes on reading.
  have hread : s'.IsOverdueRead run := by
    obtain ⟨r₂, hr₂, hover'⟩ := IsOverdue.step ⟨r, hr, hover⟩ hs
    obtain rfl : r' = r₂ := Option.some.inj (hr'.symm.trans hr₂)
    exact ⟨r', hr', hreading' hreading, ((hg₂.isSound_of_getElem? hr').open_of_isHung hhung').1, hover'⟩
  exact ⟨⟨g₂, hg₂⟩, ⟨hread, ⟨g', hrunning, hqueue hqueued⟩, hjam.step hg hs⟩, r', hr', hhung'⟩

/-- Run lemma: a call that is lost stays so whatever happens. -/
theorem IsLost.leads {run : Nat} (h : IsLost size run s) {allowed : SharedStep → Bool}
    (hleads : Leads allowed s s') : IsLost size run s' := by
  induction hleads with
  | refl => exact h
  | tail _ hs ih =>
    obtain ⟨a, -, hs⟩ := hs
    exact ih.step hs

/-! ### As many calls as workers can be lost -/

/-- The first `m` workers of a pool follow the error outputs of processes that hang. -/
def held (size m : Nat) : SharedRuns :=
  ⟨{ WorkerPool.ofSize size with
      running := some ⟨[], (List.range m).map (fun run => .busy (.drain run))
        ++ List.replicate (max size 1 - m) .idle⟩ },
    List.replicate m { ProcessRun.spawn true with stage := .drained }⟩

/-- Calls under way are among all calls. -/
theorem inFlight_le_length (s : SharedRuns) : s.inFlight ≤ s.runs.length := List.countP_le_length

/-- One more call takes one more worker. -/
theorem reachable_held (hlimit : max size 1 ≤ limit) {m : Nat} (hm : m ≤ max size 1) :
    Reachable limit size (held size m) := by
  induction m with
  | zero => exact .initial
  | succ m ih =>
    obtain ⟨k, hk⟩ : ∃ k, max size 1 = m + (k + 1) := ⟨max size 1 - m - 1, by omega⟩
    have hidle : max size 1 - m = k + 1 := by omega
    have hidle' : max size 1 - (m + 1) = k := by omega
    let workers : List (Worker RunJob) :=
      (List.range m).map (fun run => .busy (.drain run)) ++ List.replicate (k + 1) .idle
    let drained : ProcessRun := { ProcessRun.spawn true with stage := .drained }
    let pool (g : Generation RunJob) : WorkerPool RunJob := { WorkerPool.ofSize size with running := some g }
    have hcall : (held size m).step? (.call true)
        = some ⟨pool ⟨[], workers⟩, List.replicate m drained ++ [.spawn true]⟩ := by
      simp [step?, held, hidle, workers, pool, drained]
    have hconnected : Generation.isConnected ⟨[], workers⟩ = true := by
      simp [Generation.isConnected, workers, List.replicate_succ, Worker.isAlive]
    have hqueue : step? ⟨pool ⟨[], workers⟩, List.replicate m drained ++ [.spawn true]⟩ (.queue m)
        = some ⟨pool ⟨[.drain m], workers⟩, List.replicate m drained ++ [drained]⟩ := by
      simp [step?, RunStage.queues?, ProcessRun.spawn, WorkerPool.submit?, Generation.submit?,
        hconnected, withRun, pool, drained]
    have htake : step? ⟨pool ⟨[.drain m], workers⟩, List.replicate m drained ++ [drained]⟩ (.take m)
        = some (held size (m + 1)) := by
      simp [step?, WorkerPool.step?, WorkerPool.generation?, Generation.take?, workers, pool,
        WorkerPool.withGeneration, held, hidle', List.replicate_succ, List.range_succ,
        ← List.replicate_succ', drained]
    -- Every call so far may be under way.
    have hfits : ∀ s : SharedRuns, s.runs.length = m + 1 → s.inFlight ≤ limit := by
      intro s hlength
      have hle := s.inFlight_le_length
      omega
    exact .step (.step (.step (ih (by omega)) hcall (hfits _ (by simp)))
      hqueue (hfits _ (by simp))) htake (hfits _ (by simp [held]))

/-- In this state every worker drains a process that hangs. -/
theorem isJammed_held (size : Nat) : (held size (max size 1)).IsJammed := by
  refine ⟨_, rfl, fun w hw => ?_⟩
  simp only [Nat.sub_self, List.replicate_zero, List.append_nil, List.mem_map, List.mem_range] at hw
  obtain ⟨run, hrun, rfl⟩ := hw
  refine ⟨run, { ProcessRun.spawn true with stage := .drained }, rfl, ?_, rfl, rfl⟩
  show (List.replicate (max size 1) { ProcessRun.spawn true with stage := .drained })[run]? = _
  rw [List.getElem?_replicate, if_pos hrun]

/-- A call that queues its watchdog behind workers that never come back is lost when its time is
    over. -/
theorem exists_lost (h : IsOrderly size s g) (hjam : s.IsJammed) {run : Nat} {r : ProcessRun}
    (hr : s.runs[run]? = some r) (hhung : r.IsHung) (hstage : r.stage = .drained) :
    ∃ s₁ s₂, s.step? (.queue run) = some s₁ ∧ s₁.step? (.event run .expire) = some s₂
      ∧ s₁.runs.length = s.runs.length ∧ s₂.runs.length = s.runs.length ∧ IsLost size run s₂ := by
  have hlt := (List.getElem?_eq_some_iff.mp hr).1
  -- The call queues its watchdog, and the deadline passes while no worker takes it.
  let s₁ : SharedRuns :=
    { s.withRun run { r with stage := .reading } with
      pool := { s.pool with running := some { g with queue := g.queue ++ [.watchdog run] } } }
  have hqueue : s.step? (.queue run) = some s₁ := by
    simp [step?, hr, hstage, RunStage.queues?, h.submit?, s₁]
  have hr₁ : s₁.runs[run]? = some { r with stage := .reading } := List.getElem?_set_self hlt
  have hexpire : s₁.step? (.event run .expire)
      = some (s₁.withRun run { r with stage := .reading, isOverdue := true }) := by
    simp [step?, hr₁, ProcessRun.step?]
  have hlength : s₁.runs.length = s.runs.length := List.length_set
  refine ⟨s₁, _, hqueue, hexpire, hlength, by rw [← hlength]; exact List.length_set, ?_⟩
  obtain ⟨g₁, h₁⟩ := h.step hqueue
  have hr₂ : (s₁.withRun run { r with stage := .reading, isOverdue := true }).runs[run]?
      = some { r with stage := .reading, isOverdue := true } :=
    List.getElem?_set_self (by rw [hlength]; exact hlt)
  have hopen := ((h.isSound_of_getElem? hr).open_of_isHung hhung).1
  exact ⟨h₁.step hexpire,
    ⟨⟨_, hr₂, rfl, hopen, rfl⟩, ⟨_, rfl, List.mem_append_right _ (List.mem_singleton_self _)⟩,
      (hjam.step h hqueue).step h₁ hexpire⟩, _, hr₂, hhung⟩

/-- As many calls as workers can lose one of them. -/
theorem reachable_lost (hlimit : max size 1 ≤ limit) :
    ∃ s, Reachable limit size s ∧ IsLost size 0 s := by
  have hheld := reachable_held hlimit (Nat.le_refl (max size 1))
  obtain ⟨g, hg⟩ := hheld.isOrderly
  have hlength : (held size (max size 1)).runs.length = max size 1 := List.length_replicate
  have hpos : 0 < max size 1 := by omega
  have hrun : (held size (max size 1)).runs[0]?
      = some { ProcessRun.spawn true with stage := .drained } := by
    show (List.replicate (max size 1) { ProcessRun.spawn true with stage := .drained })[0]? = _
    rw [List.getElem?_replicate, if_pos hpos]
  obtain ⟨s₁, s₂, hqueue, hexpire, hlength₁, hlength₂, hlost⟩ :=
    exists_lost hg (isJammed_held size) hrun ⟨rfl, rfl⟩ rfl
  have hle₁ := s₁.inFlight_le_length
  have hle₂ := s₂.inFlight_le_length
  exact ⟨s₂, .step (.step hheld hqueue (by omega)) hexpire (by omega), hlost⟩

/-! ### When watchdogs starve -/

/-- A watchdog can starve exactly when as many calls may be under way as there are workers. -/
theorem exists_isStarved_iff (limit size : Nat) :
    (∃ s run, Reachable limit size s ∧ s.IsStarved run) ↔ max size 1 ≤ limit := by
  constructor
  · rintro ⟨s, run, hs, -, -, hjam⟩
    obtain ⟨g, hg⟩ := hs.isOrderly
    exact Nat.le_trans (le_inFlight_of_isHeld hg (hjam.isHeld hg.running)) hs.inFlight_le
  · intro hlimit
    obtain ⟨s, hs, hlost⟩ := reachable_lost hlimit
    exact ⟨s, 0, hs, hlost.isStarved⟩

end SharedRuns

/-- A program that does not close its output, run by the only caller, is stopped in time when there is
    a worker for its watchdog. -/
theorem runner_eq_timedOut_iff {tree : FileTree} {path : Path} {program : Program}
    (hprogram : tree.program path = .ok program) (hopen : program.opensOutput = true) {time : Nat}
    (htime : time ≤ program.delay) (size : Nat) (input : Bytes) :
    (tree.runner (WorkerPool.ofSize size : WorkerPool Unit).start time path).run input
        = .error (.process (.timedOut (programName path)))
      ↔ 1 < max size 1 := by
  have hstopped : program.isStopped time (max size 1) = decide (1 < max size 1) := by
    simp [Program.isStopped, hopen, htime]
  have hrun : (tree.runner (WorkerPool.ofSize size : WorkerPool Unit).start time path).run input
      = program.run (programName path) time (max size 1) input := by
    simp [FileTree.runner, hprogram, WorkerPool.start, WorkerPool.ofSize, WorkerPool.isRunning]
  rw [hrun, Program.run, hstopped]
  by_cases hsize : 1 < max size 1
  · simp [hsize]
  · simp [hsize]

open SharedRuns in
/-- **Starvation.** Let calls share a pool of `max size 1` workers, at most `limit` of them under way
    at a time.  A call can be starved, its time being over, its watchdog waiting, and all workers
    following processes that hang, exactly when that many calls can be under way as there are workers.
    Then one can be starved for good, whatever happens.  With more workers than calls, workers and
    clocks alone can end every process whose output is read after its time.
    So a program that keeps its output open and runs too long is stopped, for the only caller, exactly
    when one call under way cannot be starved. -/
theorem watchdog_starves_iff (limit size : Nat) :
    ((∃ s run, Reachable limit size s ∧ s.IsStarved run) ↔ max size 1 ≤ limit)
    ∧ (max size 1 ≤ limit → ∃ s run, Reachable limit size s
        ∧ ∀ s', s.Leads (fun _ => true) s' → s'.IsStarved run)
    ∧ (limit < max size 1 → ∀ s run, Reachable limit size s → s.IsOverdueRead run →
        ∃ s', s.Leads SharedStep.isUpkeep s' ∧ s'.IsEnded run)
    ∧ ∀ (tree : FileTree) (path : Path) (program : Program) (time : Nat) (input : Bytes),
        tree.program path = .ok program → program.opensOutput = true → time ≤ program.delay →
        ((tree.runner (WorkerPool.ofSize size : WorkerPool Unit).start time path).run input
            = .error (.process (.timedOut (programName path)))
          ↔ ¬ ∃ s run, Reachable 1 size s ∧ s.IsStarved run) := by
  refine ⟨exists_isStarved_iff limit size, fun hlimit => ?_, fun hlimit s run hs hread => ?_, ?_⟩
  · obtain ⟨s, hs, hlost⟩ := reachable_lost hlimit
    exact ⟨s, 0, hs, fun s' hleads => (hlost.leads hleads).isStarved⟩
  · obtain ⟨g, hg⟩ := hs.isOrderly
    have hle := hs.inFlight_le
    exact exists_ended hg (by omega) hread
  · -- One call alone starves where there is one worker only.
    intro tree path program time input hprogram hopen htime
    rw [runner_eq_timedOut_iff hprogram hopen htime, exists_isStarved_iff]
    omega

/-- One call whose process hangs, until its time is over. -/
def loneCall : List SharedStep :=
  [.call true, .queue 0, .take 0, .queue 0, .event 0 .expire]

/-- What comes of `loneCall` in a pool that has `others` for workers besides the first. -/
def afterLoneCall (others : List (Worker RunJob)) : SharedRuns :=
  ⟨{ WorkerPool.ofSize (others.length + 1) with
      running := some ⟨[.watchdog 0], .busy (.drain 0) :: others⟩ },
    [⟨.reading, true, true, true, true, true⟩]⟩

open SharedRuns in
/-- In a pool of two workers two calls can be starved.  A lone call cannot, and the process that it
    reads from can be ended. -/
theorem watchdog_starves_iff_defaultSize :
    (∃ s run, Reachable 2 WorkerPool.defaultSize s ∧ s.IsStarved run)
    ∧ followWithin? 1 loneCall (.initial WorkerPool.defaultSize) = some (afterLoneCall [.idle])
    ∧ (afterLoneCall [.idle]).IsOverdueRead 0
    ∧ ∃ s, (afterLoneCall [.idle]).Leads SharedStep.isUpkeep s ∧ s.IsEnded 0 := by
  obtain ⟨hstarves, -⟩ := watchdog_starves_iff 2 WorkerPool.defaultSize
  obtain ⟨-, -, hends, -⟩ := watchdog_starves_iff 1 WorkerPool.defaultSize
  have hfollow : followWithin? 1 loneCall (.initial WorkerPool.defaultSize)
      = some (afterLoneCall [.idle]) := rfl
  have hread : (afterLoneCall [.idle]).IsOverdueRead 0 := ⟨_, rfl, rfl, rfl, rfl⟩
  exact ⟨hstarves.mpr (by decide), hfollow, hread,
    hends (by decide) _ 0 (Reachable.initial.followWithin hfollow) hread⟩

open SharedRuns in
/-- In a pool of one worker a lone call is starved: the worker follows the error output, and nobody is
    left for the watchdog. -/
theorem loneCall_starves :
    followWithin? 1 loneCall (.initial 1) = some (afterLoneCall [])
    ∧ Reachable 1 1 (afterLoneCall []) ∧ (afterLoneCall []).IsStarved 0 := by
  have hfollow : followWithin? 1 loneCall (.initial 1) = some (afterLoneCall []) := rfl
  refine ⟨hfollow, Reachable.initial.followWithin hfollow, ⟨_, rfl, rfl, rfl, rfl⟩,
    ⟨_, rfl, List.mem_singleton_self _⟩, _, rfl, fun w hw => ?_⟩
  rw [List.mem_singleton.mp hw]
  exact ⟨0, _, rfl, rfl, rfl, rfl⟩

end ChartTrace
