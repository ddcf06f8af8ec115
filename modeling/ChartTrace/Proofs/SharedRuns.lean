import ChartTrace.Evaluator.Supervision
import ChartTrace.Proofs.PoolSteps
import Mathlib.Data.List.Nodup

namespace ChartTrace

/-!
# Order among runs that share a pool

What every order of steps keeps true of runs and of the pool that they share.

* `ProcessRun.IsSound`: what is true of a run at any time; `ProcessRun.Becomes`: how it changes;
* `Generation.jobs`: the jobs that wait or are being run;
* `step?_queue`, `step?_event`, `step?_take`, `step?_finish`: what a step of the runs can do;
* `SharedRuns.IsOrderly`: all workers are there, no job is there twice, and the watchdog of a call that
  reads is there as long as its process is;
* `SharedRuns.Reachable`, `Reachable.isOrderly`: the states that calls can come to when only so many of
  them are under way at a time, and the order among them.
-/

open scoped List

/-! ### One run -/

/-- The jobs that a call has queued when it has come this far. -/
def RunStage.queued (run : Nat) : RunStage → List RunJob
  | spawned => []
  | drained => [.drain run]
  | reading | waiting | returned => [.drain run, .watchdog run]

/-- The job that a call queues next is its own and was not queued before. -/
theorem RunStage.queued_of_queues? {run : Nat} {stage stage' : RunStage} {job : RunJob}
    (h : stage.queues? run = some (job, stage')) :
    job.run = run ∧ job ∉ stage.queued run ∧ stage'.queued run = stage.queued run ++ [job] := by
  cases stage <;> cases h <;> simp [queued, RunJob.run]

/-- A call that has returned has queued all its jobs. -/
theorem RunStage.queued_subset_returned (run : Nat) (stage : RunStage) :
    stage.queued run ⊆ returned.queued run := by
  cases stage <;> simp [queued]

namespace ProcessRun

/-- The process hangs, and nobody has killed it. -/
def IsHung (r : ProcessRun) : Prop := r.hangs = true ∧ r.isAlive = true

/-- A process that hangs still does, and its call still reads if it did. -/
def HangsOn (r r' : ProcessRun) : Prop :=
  r.IsHung → r'.IsHung ∧ (r.stage = .reading → r'.stage = .reading)

/-- What is true of a run at any time. -/
structure IsSound (r : ProcessRun) : Prop where
  open_of_isHung : r.IsHung → r.outputOpen = true ∧ r.errorsOpen = true
  closed_of_dead : r.isAlive = false → r.outputOpen = false ∧ r.errorsOpen = false
  dead_of_returned : r.stage = .returned → r.isAlive = false
  closed_of_waiting : r.stage = .waiting → r.outputOpen = false

/-- The run goes on from `r` to `r'` without queuing a job. -/
structure Becomes (r r' : ProcessRun) : Prop where
  isSound : r.IsSound → r'.IsSound
  queued_subset : ∀ run, r.stage.queued run ⊆ r'.stage.queued run
  was_reading : r'.stage = .reading → r'.isAlive = true → r.stage = .reading ∧ r.isAlive = true
  isOverdue : r.isOverdue = true → r'.isOverdue = true

variable {r r' : ProcessRun}

/-- A process that has just been spawned is sound, and both of its pipes are open. -/
theorem isSound_spawn (hangs : Bool) : (spawn hangs).IsSound :=
  ⟨fun _ => ⟨rfl, rfl⟩, nofun, nofun, nofun⟩

/-- A process that ends closes its pipes and leaves its call where it is. -/
theorem becomes_ended (r : ProcessRun) : r.Becomes r.ended where
  isSound _ := ⟨(fun h => nomatch h.2), fun _ => ⟨rfl, rfl⟩, fun _ => rfl, fun _ => rfl⟩
  queued_subset _ := List.Subset.refl _
  was_reading := nofun
  isOverdue := id

/-- A call that gives up kills its process and returns. -/
theorem becomes_abort (r : ProcessRun) : r.Becomes r.abort where
  isSound _ := ⟨(fun h => nomatch h.2), fun _ => ⟨rfl, rfl⟩, fun _ => rfl, nofun⟩
  queued_subset run := RunStage.queued_subset_returned run r.stage
  was_reading := nofun
  isOverdue := id

/-- A process that may act does not hang, and its call has not returned. -/
theorem isSound_of_mayAct (hact : r.mayAct = true) (hr : r.IsSound) (output errors : Bool)
    (houtput : output = true → r.outputOpen = true) :
    IsSound { r with outputOpen := output, errorsOpen := errors } := by
  have halive : r.isAlive = true ∧ r.hangs = false := by simpa [mayAct] using hact
  -- A process that acts is alive and does not hang.
  refine ⟨fun hhung => ?_, fun hdead => ?_, hr.dead_of_returned, fun hwaiting => ?_⟩
  · exact absurd hhung.1 (by simp [halive.2])
  · exact absurd hdead (by simp [halive.1])
  · have hclosed := hr.closed_of_waiting hwaiting
    cases output with
    | false => rfl
    | true => exact absurd (houtput rfl) (by simp [hclosed])

/-- An event is one step in the life of a run. -/
theorem becomes_of_step? {event : RunEvent} (h : r.step? event = some r') : r.Becomes r' := by
  cases event with
  | closeOutput =>
    obtain ⟨hact, rfl⟩ : r.mayAct = true ∧ { r with outputOpen := false } = r' := by simpa [step?] using h
    exact ⟨fun hr => isSound_of_mayAct hact hr false r.errorsOpen nofun,
      fun _ => List.Subset.refl _, fun hs ha => ⟨hs, ha⟩, id⟩
  | closeErrors =>
    obtain ⟨hact, rfl⟩ : r.mayAct = true ∧ { r with errorsOpen := false } = r' := by simpa [step?] using h
    exact ⟨fun hr => isSound_of_mayAct hact hr r.outputOpen false id,
      fun _ => List.Subset.refl _, fun hs ha => ⟨hs, ha⟩, id⟩
  | exit =>
    obtain ⟨-, rfl⟩ : r.mayAct = true ∧ r.ended = r' := by simpa [step?] using h
    exact becomes_ended r
  -- The deadline changes neither the process nor the stage of the call.
  | expire =>
    cases h
    exact ⟨fun hr => ⟨hr.1, hr.2, hr.3, hr.4⟩, fun _ => List.Subset.refl _, fun hs ha => ⟨hs, ha⟩,
      fun _ => rfl⟩
  | proceed =>
    rw [step?] at h
    split at h
    · next hreading =>
      -- The output has ended, and the call goes on to wait for the exit status.
      obtain ⟨hclosed, rfl⟩ : r.outputOpen = false ∧ { r with stage := .waiting } = r' := by
        simpa using h
      exact ⟨fun hr => ⟨hr.1, hr.2, nofun, fun _ => hclosed⟩,
        fun run => by simp [hreading, RunStage.queued], nofun, id⟩
    · next hwaiting =>
      split at h
      · next hdead =>
        -- The process is gone, and the call returns.
        cases h
        exact ⟨fun hr => ⟨hr.1, hr.2, fun _ => by simpa using hdead, nofun⟩,
          fun run => by simp [hwaiting, RunStage.queued], nofun, id⟩
      · split at h
        · -- It is overdue and still alive: the call kills it.
          cases h
          exact becomes_abort r
        · cases h
    · cases h

/-- The end of a job is one step in the life of its run. -/
theorem becomes_of_complete? {job : RunJob} (h : job.complete? r = some r') :
    r.Becomes r' ∧ r'.stage = r.stage := by
  have hsame : r.Becomes r := ⟨id, fun _ => List.Subset.refl _, fun hs ha => ⟨hs, ha⟩, id⟩
  cases job with
  -- Draining ends when the pipe is closed and touches nothing.
  | drain run =>
    obtain ⟨-, rfl⟩ : r.errorsOpen = false ∧ r = r' := by simpa [RunJob.complete?, drain?] using h
    exact ⟨hsame, rfl⟩
  -- A watchdog ends when the call has returned, or when it has killed an overdue process.
  | watchdog run =>
    rw [RunJob.complete?, watch?] at h
    split at h
    · cases h
      exact ⟨hsame, rfl⟩
    · split at h
      · cases h
        exact ⟨becomes_ended r, rfl⟩
      · cases h

/-- The watchdog of a run whose time is over can end, and its process is not there then. -/
theorem watch?_of_isOverdue (hr : r.IsSound) (hoverdue : r.isOverdue = true) :
    ∃ r', r.watch? = some r' ∧ r'.isAlive = false := by
  by_cases hreturned : r.stage = .returned
  · exact ⟨r, by rw [watch?, if_pos hreturned], hr.dead_of_returned hreturned⟩
  · exact ⟨r.ended, by rw [watch?, if_neg hreturned, if_pos hoverdue], rfl⟩

/-- A process that hangs outlives every event, and keeps its call where it is. -/
theorem isHung_of_step? {event : RunEvent} (hr : r.IsSound) (hhung : r.IsHung)
    (h : r.step? event = some r') : r'.IsHung ∧ r'.stage = r.stage := by
  obtain ⟨hopen, -⟩ := hr.open_of_isHung hhung
  cases event with
  | closeOutput => simp [step?, mayAct, hhung.1] at h
  | closeErrors => simp [step?, mayAct, hhung.1] at h
  | exit => simp [step?, mayAct, hhung.1] at h
  | expire =>
    cases h
    exact ⟨hhung, rfl⟩
  | proceed =>
    -- The call could only go on if the output had closed.
    rw [step?] at h
    split at h
    · simp [hopen] at h
    · next hwaiting => exact absurd (hr.closed_of_waiting hwaiting) (by simp [hopen])
    · cases h

/-- An output that is open is the output of a process that is still there. -/
theorem IsSound.isAlive_of_outputOpen (hr : r.IsSound) (hopen : r.outputOpen = true) :
    r.isAlive = true := by
  by_contra hdead
  have hclosed := (hr.closed_of_dead (by simpa using hdead)).1
  rw [hopen] at hclosed
  cases hclosed

end ProcessRun

/-! ### The jobs of a generation -/

namespace Generation

variable {α : Type} {g g' : Generation α} {i : Nat}

/-- The jobs that are being run or wait. -/
def jobs (g : Generation α) : List α := g.busyJobs ++ g.queue

/-- A worker that takes a job moves it from the queue to the busy jobs. -/
theorem jobs_take? (h : g.take? i = some g') : g'.jobs ~ g.jobs := by
  obtain ⟨job, hworker, hqueue, hset⟩ := take?_eq_some h
  obtain ⟨others, hbefore, hafter⟩ := busyJobs_set hworker hset
  show g'.busyJobs ++ g'.queue ~ g.busyJobs ++ g.queue
  rw [hqueue]
  calc g'.busyJobs ++ g'.queue
      ~ job :: (others ++ g'.queue) := hafter.append_right g'.queue
    _ ~ others ++ job :: g'.queue := List.perm_middle.symm
    _ ~ g.busyJobs ++ job :: g'.queue := (hbefore.append_right _).symm

/-- A worker that finishes a job lets that one go, and keeps all the others. -/
theorem jobs_finish? {job? : Option α} (h : g.finish? (fun _ => false) i = some (job?, g')) :
    ∃ job, g.workers[i]? = some (.busy job) ∧ g.jobs ~ job :: g'.jobs := by
  obtain ⟨job, hworker, -, hqueue, hset⟩ := finish?_eq_some h
  obtain ⟨others, hbefore, hafter⟩ := busyJobs_set hworker hset
  refine ⟨job, hworker, ?_⟩
  show g.busyJobs ++ g.queue ~ job :: (g'.busyJobs ++ g'.queue)
  rw [hqueue]
  exact (hbefore.append_right g.queue).trans ((hafter.symm.append_right g.queue).cons job)

/-- A job is being run exactly when a worker is busy with it. -/
theorem mem_busyJobs {job : α} : job ∈ g.busyJobs ↔ .busy job ∈ g.workers := by
  unfold busyJobs
  rw [List.mem_filterMap]
  constructor
  · rintro ⟨w, hw, hjob⟩
    cases w with
    | busy job' =>
      cases hjob
      exact hw
    | idle => cases hjob
    | dead => cases hjob
    | gone => cases hjob
  · intro hw
    exact ⟨_, hw, rfl⟩

/-- Workers stay alive where a step gives one of them another state in which it lives. -/
theorem isAlive_set {w : Worker α} (halive : ∀ w ∈ g.workers, w.isAlive = true)
    (hw : w.isAlive = true) (hset : g'.workers = g.workers.set i w) :
    ∀ w ∈ g'.workers, w.isAlive = true := by
  intro v hv
  rw [hset] at hv
  rcases List.mem_or_eq_of_mem_set hv with hv | rfl
  · exact halive v hv
  · exact hw

end Generation

/-! ### What a step can do -/

namespace SharedRuns

variable {s s' : SharedRuns}

/-- A call queues its next job, or gives up where the pool is closed. -/
theorem step?_queue {run : Nat} (h : s.step? (.queue run) = some s') :
    ∃ r job stage, s.runs[run]? = some r ∧ r.stage.queues? run = some (job, stage)
      ∧ ((∃ pool, s.pool.submit? job = some pool
          ∧ s' = { s.withRun run { r with stage := stage } with pool := pool })
        ∨ (s.pool.submit? job = none ∧ s' = s.withRun run r.abort)) := by
  simp only [step?, Option.bind_eq_bind, Option.bind_eq_some_iff] at h
  obtain ⟨r, hr, ⟨job, stage⟩, hqueues, h⟩ := h
  refine ⟨r, job, stage, hr, hqueues, ?_⟩
  dsimp only at h
  split at h
  · next pool hpool =>
    cases h
    exact Or.inl ⟨pool, hpool, rfl⟩
  · next hpool =>
    cases h
    exact Or.inr ⟨hpool, rfl⟩

/-- An event changes one run and leaves the pool as it is. -/
theorem step?_event {run : Nat} {event : RunEvent} (h : s.step? (.event run event) = some s') :
    ∃ r r', s.runs[run]? = some r ∧ r.step? event = some r' ∧ s' = s.withRun run r' := by
  simp only [step?, Option.bind_eq_bind, Option.bind_eq_some_iff, Option.pure_def,
    Option.some.injEq] at h
  obtain ⟨r, hr, r', hr', rfl⟩ := h
  exact ⟨r, r', hr, hr', rfl⟩

/-- Taking a job changes the pool only. -/
theorem step?_take {worker : Nat} (h : s.step? (.take worker) = some s') :
    ∃ g g', s.pool.running = some g ∧ g.take? worker = some g'
      ∧ s' = { s with pool := { s.pool with running := some g' } } := by
  simp only [step?, Option.bind_eq_bind, Option.bind_eq_some_iff, Option.pure_def,
    Option.some.injEq] at h
  obtain ⟨pool, hpool, rfl⟩ := h
  obtain ⟨g, g', hg, htake, rfl⟩ := WorkerPool.step?_take hpool
  exact ⟨g, g', hg, htake, rfl⟩

/-- A worker finishes the job that it is busy with where the run of that job lets it end. -/
theorem step?_finish {worker : Nat} (h : s.step? (.finish worker) = some s') :
    ∃ g job r r' g', s.pool.running = some g ∧ g.workers[worker]? = some (.busy job)
      ∧ s.runs[job.run]? = some r ∧ job.complete? r = some r'
      ∧ g.finish? (fun _ => false) worker = some (some job, g')
      ∧ s'.runs = s.runs.set job.run r' ∧ s'.pool.running = some g' := by
  simp only [step?, Option.bind_eq_bind, Option.bind_eq_some_iff, Option.pure_def,
    Option.some.injEq] at h
  obtain ⟨g, hg, w, hw, job, hjob, r, hr, r', hr', pool, hpool, rfl⟩ := h
  -- The step looks the worker up, and so does the pool: both find the same job.
  obtain ⟨g₁, job?, g', hg₁, hfinish, rfl⟩ := WorkerPool.step?_finish hpool
  obtain rfl : g = g₁ := Option.some.inj (hg.symm.trans hg₁)
  obtain ⟨job₁, hworker, rfl, -⟩ := Generation.finish?_eq_some hfinish
  obtain rfl : w = .busy job₁ := Option.some.inj (hw.symm.trans hworker)
  obtain rfl : job₁ = job := Option.some.inj hjob
  exact ⟨g, job₁, r, r', g', hg, hworker, hr, hr', hfinish, rfl, rfl⟩

end SharedRuns

/-! ### Order -/

/-- The order that all steps keep. -/
structure SharedRuns.IsOrderly (size : Nat) (s : SharedRuns) (g : Generation RunJob) : Prop where
  running : s.pool.running = some g
  length_workers : g.workers.length = max size 1
  isAlive : ∀ w ∈ g.workers, w.isAlive = true
  nodup : g.jobs.Nodup
  isSound : ∀ r ∈ s.runs, r.IsSound
  queued : ∀ job ∈ g.jobs, ∃ r, s.runs[job.run]? = some r ∧ job ∈ r.stage.queued job.run
  watched : ∀ run r, s.runs[run]? = some r → r.stage = .reading → r.isAlive = true →
    RunJob.watchdog run ∈ g.jobs

namespace SharedRuns.IsOrderly

variable {size : Nat} {s s' : SharedRuns} {g g' : Generation RunJob}

/-- At the start all workers are idle and nobody has called. -/
theorem initial (size : Nat) :
    IsOrderly size (.initial size) (.fresh (max size 1)) := by
  have hjobs : (Generation.fresh (max size 1) : Generation RunJob).jobs = [] := by
    rw [Generation.jobs, Generation.busyJobs_fresh]
    rfl
  refine ⟨rfl, by simp [Generation.fresh], ?_, by simp [hjobs], ?_, by simp [hjobs], ?_⟩
  · intro w hw
    rw [List.eq_of_mem_replicate hw]
    rfl
  · intro r hr
    cases hr
  · intro run r hr
    cases hr

/-- Each run of an orderly state is sound. -/
theorem isSound_of_getElem? (h : IsOrderly size s g) {run : Nat} {r : ProcessRun}
    (hr : s.runs[run]? = some r) : r.IsSound :=
  h.isSound r (List.mem_of_getElem? hr)

/-- A pool that was started accepts every job. -/
theorem submit? (h : IsOrderly size s g) (job : RunJob) :
    s.pool.submit? job
      = some { s.pool with running := some { g with queue := g.queue ++ [job] } } := by
  have hpos : 0 < g.workers.length := by rw [h.length_workers]; omega
  have hconnected : g.isConnected = true :=
    List.any_eq_true.mpr ⟨_, List.getElem_mem hpos, h.isAlive _ (List.getElem_mem hpos)⟩
  simp [WorkerPool.submit?, Generation.submit?, h.running, hconnected]

/-- A further call keeps order: it has queued nothing and does not read yet. -/
theorem call (h : IsOrderly size s g) (hangs : Bool) :
    IsOrderly size { s with runs := s.runs ++ [.spawn hangs] } g := by
  refine ⟨h.running, h.length_workers, h.isAlive, h.nodup, ?_, ?_, ?_⟩
  · intro r hr
    rcases List.mem_append.mp hr with hr | hr
    · exact h.isSound r hr
    · rw [List.mem_singleton.mp hr]
      exact ProcessRun.isSound_spawn hangs
  · intro job hjob
    obtain ⟨r, hr, hmem⟩ := h.queued job hjob
    have hlt := (List.getElem?_eq_some_iff.mp hr).1
    exact ⟨r, by rw [List.getElem?_append_left hlt, hr], hmem⟩
  · intro run r hr hreading
    by_cases hlt : run < s.runs.length
    · rw [List.getElem?_append_left hlt] at hr
      exact h.watched run r hr hreading
    · -- The new call does not read yet.
      rw [List.getElem?_append_right (Nat.not_lt.mp hlt)] at hr
      have hspawn := List.mem_singleton.mp (List.mem_of_getElem? hr)
      rw [hspawn] at hreading
      cases hreading

/-- One run goes on while the jobs stay as they are, save for one that may be over. -/
theorem becomes (h : IsOrderly size s g) {run : Nat} {r r' : ProcessRun}
    (hr : s.runs[run]? = some r) (hbecomes : r.Becomes r') (hruns : s'.runs = s.runs.set run r')
    (hrunning : s'.pool.running = some g') (hlength : g'.workers.length = g.workers.length)
    (halive : ∀ w ∈ g'.workers, w.isAlive = true) (hnodup : g'.jobs.Nodup)
    (hjobs : g'.jobs ⊆ g.jobs)
    (hwatched : ∀ run', RunJob.watchdog run' ∈ g.jobs → RunJob.watchdog run' ∉ g'.jobs →
      run' = run ∧ r'.isAlive = false) :
    IsOrderly size s' g' := by
  have hlt := (List.getElem?_eq_some_iff.mp hr).1
  refine ⟨hrunning, by rw [hlength, h.length_workers], halive, hnodup, ?_, ?_, ?_⟩
  · intro r₁ hr₁
    rw [hruns] at hr₁
    rcases List.mem_or_eq_of_mem_set hr₁ with hr₁ | rfl
    · exact h.isSound r₁ hr₁
    · exact hbecomes.isSound (h.isSound_of_getElem? hr)
  · intro job hjob
    obtain ⟨r₁, hr₁, hmem⟩ := h.queued job (hjobs hjob)
    by_cases hsame : run = job.run
    · obtain rfl : r = r₁ := by rw [hsame, hr₁] at hr; exact (Option.some.inj hr).symm
      refine ⟨r', ?_, hbecomes.queued_subset _ hmem⟩
      rw [hruns, ← hsame, List.getElem?_set_self hlt]
    · exact ⟨r₁, by rw [hruns, List.getElem?_set_ne hsame, hr₁], hmem⟩
  · intro run₁ r₁ hr₁ hreading halive₁
    have hbefore : RunJob.watchdog run₁ ∈ g.jobs := by
      by_cases hsame : run = run₁
      · subst hsame
        rw [hruns, List.getElem?_set_self hlt, Option.some.injEq] at hr₁
        subst hr₁
        obtain ⟨hreading', halive'⟩ := hbecomes.was_reading hreading halive₁
        exact h.watched run r hr hreading' halive'
      · rw [hruns, List.getElem?_set_ne hsame] at hr₁
        exact h.watched run₁ r₁ hr₁ hreading halive₁
    by_contra hgone
    -- A watchdog that is over has left no process behind.
    obtain ⟨rfl, hdead⟩ := hwatched run₁ hbefore hgone
    rw [hruns, List.getElem?_set_self hlt, Option.some.injEq] at hr₁
    subst hr₁
    rw [hdead] at halive₁
    cases halive₁

/-- A call that queues a job keeps order, as the job is a new one. -/
theorem queue (h : IsOrderly size s g) {run : Nat} {r : ProcessRun} {job : RunJob}
    {stage : RunStage} (hr : s.runs[run]? = some r)
    (hqueues : r.stage.queues? run = some (job, stage)) :
    IsOrderly size
      { s.withRun run { r with stage := stage } with
        pool := { s.pool with running := some { g with queue := g.queue ++ [job] } } }
      { g with queue := g.queue ++ [job] } := by
  have hlt := (List.getElem?_eq_some_iff.mp hr).1
  obtain ⟨hrun, hfresh, hstage⟩ := RunStage.queued_of_queues? hqueues
  have hjobs : ({ g with queue := g.queue ++ [job] } : Generation RunJob).jobs = g.jobs ++ [job] :=
    (List.append_assoc g.busyJobs g.queue [job]).symm
  -- Whatever is among the jobs has been queued by its call, and this job has not.
  have hnew : job ∉ g.jobs := by
    intro hmem
    obtain ⟨r₁, hr₁, hqueued⟩ := h.queued job hmem
    rw [hrun, hr, Option.some.injEq] at hr₁
    subst hr₁
    exact hfresh (hrun ▸ hqueued)
  refine ⟨rfl, h.length_workers, h.isAlive, ?_, ?_, ?_, ?_⟩
  · rw [hjobs]
    exact (List.nodup_append_comm.mp (List.nodup_cons.mpr ⟨hnew, h.nodup⟩))
  · -- A call that has just queued a job neither waits nor has returned.
    intro r₁ hr₁
    rcases List.mem_or_eq_of_mem_set hr₁ with hr₁ | rfl
    · exact h.isSound r₁ hr₁
    · have hsound := h.isSound_of_getElem? hr
      have hstages : stage ≠ .returned ∧ stage ≠ .waiting := by
        cases hstage : r.stage <;> rw [hstage] at hqueues <;> cases hqueues <;> simp
      exact ⟨hsound.1, hsound.2, fun h => absurd h hstages.1, fun h => absurd h hstages.2⟩
  · -- Jobs of the call were queued before or are the new one.  Those of other calls were there.
    intro job₁ hjob₁
    show ∃ r₁, (s.runs.set run { r with stage := stage })[job₁.run]? = some r₁ ∧ _
    by_cases hsame : run = job₁.run
    · refine ⟨{ r with stage := stage }, by rw [← hsame, List.getElem?_set_self hlt], ?_⟩
      rw [← hsame]
      show job₁ ∈ stage.queued run
      rw [hstage]
      rw [hjobs] at hjob₁
      rcases List.mem_append.mp hjob₁ with hold | hjob₁
      · obtain ⟨r₁, hr₁, hqueued⟩ := h.queued job₁ hold
        rw [← hsame, hr, Option.some.injEq] at hr₁
        subst hr₁
        exact List.mem_append_left _ (hsame ▸ hqueued)
      · exact List.mem_append_right _ hjob₁
    · rw [hjobs] at hjob₁
      rcases List.mem_append.mp hjob₁ with hold | hjob₁
      · obtain ⟨r₁, hr₁, hqueued⟩ := h.queued job₁ hold
        exact ⟨r₁, by rw [List.getElem?_set_ne hsame, hr₁], hqueued⟩
      · rw [List.mem_singleton.mp hjob₁, hrun] at hsame
        exact absurd rfl hsame
  · intro run₁ r₁ hr₁ hreading halive₁
    rw [hjobs]
    change (s.runs.set run { r with stage := stage })[run₁]? = some r₁ at hr₁
    by_cases hsame : run = run₁
    · subst hsame
      rw [List.getElem?_set_self hlt, Option.some.injEq] at hr₁
      subst hr₁
      -- Only the watchdog takes a call to the stage where it reads.
      obtain rfl : stage = .reading := hreading
      have hjob : job = .watchdog run := by
        cases hstage : r.stage <;> rw [hstage] at hqueues <;> cases hqueues
        rfl
      rw [hjob]
      exact List.mem_append_right _ (List.mem_singleton_self _)
    · rw [List.getElem?_set_ne hsame] at hr₁
      exact List.mem_append_left _ (h.watched run₁ r₁ hr₁ hreading halive₁)

/-- Step lemma: order is kept. -/
theorem step (h : IsOrderly size s g) {a : SharedStep} (hs : s.step? a = some s') :
    ∃ g', IsOrderly size s' g' := by
  cases a with
  | call hangs =>
    cases hs
    exact ⟨g, h.call hangs⟩
  | queue run =>
    -- An open pool takes every job, so that a call never gives up here.
    obtain ⟨r, job, stage, hr, hqueues, ⟨pool, hpool, rfl⟩ | ⟨hpool, -⟩⟩ := step?_queue hs
    · rw [h.submit? job, Option.some.injEq] at hpool
      subst hpool
      exact ⟨_, h.queue hr hqueues⟩
    · rw [h.submit? job] at hpool
      cases hpool
  | event run event =>
    obtain ⟨r, r', hr, hr', rfl⟩ := step?_event hs
    exact ⟨g, h.becomes hr (ProcessRun.becomes_of_step? hr') rfl h.running rfl h.isAlive h.nodup
      (List.Subset.refl _) (fun run' hbefore hgone => absurd hbefore hgone)⟩
  | take worker =>
    obtain ⟨g₁, g', hg, htake, rfl⟩ := step?_take hs
    obtain rfl : g = g₁ := Option.some.inj (h.running.symm.trans hg)
    -- Taking permutes the jobs, and nothing else in the order depends on who has them.
    obtain ⟨job, -, -, hset⟩ := Generation.take?_eq_some htake
    have hjobs := Generation.jobs_take? htake
    exact ⟨g', rfl, by rw [hset, List.length_set, h.length_workers],
      Generation.isAlive_set h.isAlive rfl hset, hjobs.nodup_iff.mpr h.nodup, h.isSound,
      fun job hjob => h.queued job (hjobs.mem_iff.mp hjob),
      fun run r hr hreading halive => hjobs.mem_iff.mpr (h.watched run r hr hreading halive)⟩
  | finish worker =>
    obtain ⟨g₁, job, r, r', g', hg, hworker, hr, hr', hfinish, hruns, hrunning⟩ := step?_finish hs
    obtain rfl : g = g₁ := Option.some.inj (h.running.symm.trans hg)
    obtain ⟨-, -, -, -, hset⟩ := Generation.finish?_eq_some hfinish
    obtain ⟨job₁, hworker₁, hjobs⟩ := Generation.jobs_finish? hfinish
    obtain rfl : job₁ = job := by
      rw [hworker] at hworker₁
      cases hworker₁
      rfl
    have hnodup := hjobs.nodup_iff.mp h.nodup
    refine ⟨g', h.becomes hr (ProcessRun.becomes_of_complete? hr').1 hruns hrunning
      (by rw [hset, List.length_set]) (Generation.isAlive_set h.isAlive rfl hset)
      (List.nodup_cons.mp hnodup).2
      (fun job hjob => hjobs.mem_iff.mpr (List.mem_cons_of_mem _ hjob)) ?_⟩
    -- The job that is no longer there is the one that was finished.
    intro run' hbefore hgone
    obtain rfl : job₁ = .watchdog run' := by
      rcases List.mem_cons.mp (hjobs.mem_iff.mp hbefore) with heq | hmem
      · exact heq.symm
      · exact absurd hmem hgone
    refine ⟨rfl, ?_⟩
    -- A watchdog ends only once its process is dead: the call has returned, or it kills the process.
    have hwatch : r.watch? = some r' := hr'
    rw [ProcessRun.watch?] at hwatch
    split at hwatch
    · next hreturned =>
      cases hwatch
      exact (h.isSound_of_getElem? hr).dead_of_returned hreturned
    · split at hwatch
      · cases hwatch
        rfl
      · cases hwatch

end SharedRuns.IsOrderly

/-! ### Runs of the system -/

namespace SharedRuns

/-- The states that calls can come to from a pool of some size, at most `limit` of them under way at
    a time. -/
inductive Reachable (limit size : Nat) : SharedRuns → Prop
  | initial : Reachable limit size (.initial size)
  | step {s s' : SharedRuns} {a : SharedStep} : Reachable limit size s → s.step? a = some s' →
      s'.inFlight ≤ limit → Reachable limit size s'

/-- Allowed steps can lead from the one state to the other. -/
def Leads (allowed : SharedStep → Bool) : SharedRuns → SharedRuns → Prop :=
  Relation.ReflTransGen fun s s' => ∃ a, allowed a = true ∧ s.step? a = some s'

variable {limit size : Nat} {s s' : SharedRuns}

/-- The state after some steps, if they are possible with at most `limit` calls under way. -/
def followWithin? (limit : Nat) : List SharedStep → SharedRuns → Option SharedRuns
  | [], s => some s
  | a :: steps, s => (s.step? a).bind fun s' =>
    if s'.inFlight ≤ limit then followWithin? limit steps s' else none

/-- Steps that keep to the limit lead from reachable states to reachable ones. -/
theorem Reachable.followWithin {steps : List SharedStep} (h : Reachable limit size s)
    (hs : followWithin? limit steps s = some s') : Reachable limit size s' := by
  induction steps generalizing s with
  | nil =>
    cases hs
    exact h
  | cons a steps ih =>
    obtain ⟨s₁, hs₁, hrest⟩ := Option.bind_eq_some_iff.mp hs
    split at hrest
    · next hle => exact ih (h.step hs₁ hle) hrest
    · cases hrest

/-- Run lemma: order holds in every state that can be reached. -/
theorem Reachable.isOrderly (h : Reachable limit size s) : ∃ g, IsOrderly size s g := by
  induction h with
  | initial => exact ⟨_, .initial size⟩
  | step _ hs _ ih =>
    obtain ⟨g, hg⟩ := ih
    exact hg.step hs

/-- No more calls are under way than the limit allows. -/
theorem Reachable.inFlight_le (h : Reachable limit size s) : s.inFlight ≤ limit := by
  cases h with
  | initial => exact Nat.zero_le _
  | step _ _ hle => exact hle

/-- A run whose time is over. -/
def IsOverdue (s : SharedRuns) (run : Nat) : Prop :=
  ∃ r, s.runs[run]? = some r ∧ r.isOverdue = true

/-- Where one run is replaced, every run is related to what stands in its place. -/
theorem exists_run_of_set {R : ProcessRun → ProcessRun → Prop} (hrefl : ∀ r, R r r) {run₁ : Nat}
    {r₁ r₁' : ProcessRun} (hr₁ : s.runs[run₁]? = some r₁) (hruns : s'.runs = s.runs.set run₁ r₁')
    (hrel : R r₁ r₁') {run : Nat} {r : ProcessRun} (hr : s.runs[run]? = some r) :
    ∃ r', s'.runs[run]? = some r' ∧ R r r' := by
  have hlt := (List.getElem?_eq_some_iff.mp hr).1
  -- The run that was changed is related by assumption, the others to themselves.
  by_cases hsame : run₁ = run
  · subst hsame
    obtain rfl : r = r₁ := Option.some.inj (hr.symm.trans hr₁)
    exact ⟨r₁', by rw [hruns, List.getElem?_set_self hlt], hrel⟩
  · exact ⟨r, by rw [hruns, List.getElem?_set_ne hsame, hr], hrefl r⟩

/-- Step lemma: the time of a run stays over. -/
theorem IsOverdue.step {a : SharedStep} {run : Nat} (h : s.IsOverdue run)
    (hs : s.step? a = some s') : s'.IsOverdue run := by
  obtain ⟨r, hr, hover⟩ := h
  have hlt := (List.getElem?_eq_some_iff.mp hr).1
  -- Every step but a call and a taking replaces one run, and none takes a deadline back.
  have hset : ∀ run₁ r₁ r₁', s.runs[run₁]? = some r₁ →
      (r₁.isOverdue = true → r₁'.isOverdue = true) → s'.runs = s.runs.set run₁ r₁' →
      s'.IsOverdue run := by
    intro run₁ r₁ r₁' hr₁ hkeeps hruns
    obtain ⟨r', hr', hover'⟩ := exists_run_of_set
      (R := fun r r' => r.isOverdue = true → r'.isOverdue = true) (fun _ => id) hr₁ hruns hkeeps hr
    exact ⟨r', hr', hover' hover⟩
  cases a with
  | call hangs =>
    cases hs
    exact ⟨r, by rw [List.getElem?_append_left hlt, hr], hover⟩
  | queue run₁ =>
    obtain ⟨r₁, job, stage, hr₁, -, ⟨pool, -, rfl⟩ | ⟨-, rfl⟩⟩ := step?_queue hs
    · exact hset run₁ r₁ { r₁ with stage := stage } hr₁ id rfl
    · exact hset run₁ r₁ r₁.abort hr₁ id rfl
  | event run₁ event =>
    obtain ⟨r₁, r₁', hr₁, hr₁', rfl⟩ := step?_event hs
    exact hset run₁ r₁ r₁' hr₁ (ProcessRun.becomes_of_step? hr₁').isOverdue rfl
  | take worker =>
    obtain ⟨g, g', -, -, rfl⟩ := step?_take hs
    exact ⟨r, hr, hover⟩
  | finish worker =>
    obtain ⟨g, job, r₁, r₁', g', -, -, hr₁, hr₁', -, hruns, -⟩ := step?_finish hs
    exact hset job.run r₁ r₁' hr₁ (ProcessRun.becomes_of_complete? hr₁').1.isOverdue hruns

end SharedRuns

end ChartTrace
