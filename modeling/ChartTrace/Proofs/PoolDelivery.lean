import ChartTrace.Proofs.PoolLedgers
import Mathlib.Algebra.BigOperators.Group.List.Basic
import Mathlib.Algebra.Ring.Nat

namespace ChartTrace

/-!
# Delivery of jobs

A pool is followed through any order of starts, submissions, stops and steps of its workers, by jobs
that return.  No job is lost or begun twice, and a stop returns when the jobs of its generation have
ended.

* `accepted_follow`: the ledgers hold the jobs that were queued;
* `workLeft`, `length_le_workLeft`: workers that are left to themselves come to rest;
* `jobs_of_isAtRest`, `join_of_isAtRest`: and they do not before every job is done and every stop can
  return;
* `pool_delivers`: what the ledgers say at any time.
-/

open scoped List

variable {α : Type}

/-! ### Accepted jobs -/

/-- The job that a step queues. -/
def PoolStep.submitted? : PoolStep α → Option α
  | .submit job => some job
  | _ => none

section

variable {size : Nat} {p p' : WorkerPool α} {h h' : PoolHistory α}

/-- An entry that accepts nothing. -/
theorem accepted_update {ref : GenerationRef} {f : Ledger α → Ledger α}
    (hf : ∀ l, (f l).accepted = l.accepted) :
    (h.update ref f).all.flatMap Ledger.accepted ~ h.all.flatMap Ledger.accepted := by
  cases hl : h.ledgers.get? ref with
  | none => rw [PoolHistory.update, hl]
  | some l =>
    have hsame : (f l).accepted ~ l.accepted ++ [] := by rw [hf, List.append_nil]
    have hcolumn := PoolHistory.flatMap_update hl Ledger.accepted hsame
    rwa [List.append_nil] at hcolumn

/-- No step but handing in a job accepts one; ledgers that are moved keep what they hold. -/
theorem accepted_record (ha : Accounts size p h) {s : PoolStep α} (hsubmit : s.submitted? = none)
    (hs : p.step? (fun _ => false) s = some p') :
    (h.record p s).all.flatMap Ledger.accepted ~ h.all.flatMap Ledger.accepted := by
  cases s with
  | submit job => cases hsubmit
  | start =>
    rw [PoolHistory.record]
    split
    · exact .refl _
    · next hstopped =>
      -- A blank ledger is opened where there was none.
      have hnone : p.running = none := by simpa [WorkerPool.isRunning] using hstopped
      simp [PoolHistory.all, PerGeneration.all, ha.ledger_of_stopped hnone, Ledger.blank]
  | close => exact (h.ledgers.all_close.append_right h.returned).flatMap_right Ledger.accepted
  | take ref i =>
    rw [PoolHistory.record]
    split
    · exact accepted_update fun l => rfl
    · exact .refl _
  | finish ref i =>
    rw [PoolHistory.record]
    split
    · exact accepted_update fun l => rfl
    · exact .refl _
  | leave index i => exact .refl _
  | join index =>
    obtain ⟨g, hg, -⟩ := WorkerPool.step?_join hs
    obtain ⟨l, hl, -⟩ := ha.agree.exists_right hg
    exact ((PoolHistory.all_join hl p).flatMap_right _).symm

/-- Step lemma: the ledgers accept the job that a step queues, and no other. -/
theorem accepted_step (ha : Accounts size p h) {s : PoolStep α}
    (hs : p.step? (fun _ => false) s = some p') :
    (h.record p s).all.flatMap Ledger.accepted
      ~ h.all.flatMap Ledger.accepted ++ s.submitted?.toList := by
  cases hsubmit : s.submitted? with
  | none =>
    rw [Option.toList_none, List.append_nil]
    exact accepted_record ha hsubmit hs
  | some job =>
    obtain rfl : s = .submit job := by cases s <;> cases hsubmit; rfl
    obtain ⟨g, hg, -⟩ := WorkerPool.step?_submit hs
    have hget : p.generations.get? .running = some g := hg
    obtain ⟨l, hl, -⟩ := ha.agree.exists_right hget
    exact PoolHistory.flatMap_update hl Ledger.accepted (.refl _)

/-- Run lemma: the ledgers of a run hold the jobs that its steps queued. -/
theorem accepted_follow (ha : Accounts size p h) (hsize : 0 < size) {steps : List (PoolStep α)}
    (hs : follow? steps (p, h) = some (p', h')) :
    h'.all.flatMap Ledger.accepted
      ~ h.all.flatMap Ledger.accepted ++ steps.filterMap PoolStep.submitted? := by
  induction steps generalizing p h with
  | nil =>
    cases hs
    rw [List.filterMap_nil, List.append_nil]
  | cons s steps ih =>
    obtain ⟨q, hq, hrest⟩ := Option.bind_eq_some_iff.mp hs
    -- The first step queues one job or none.
    have hcons : (s :: steps).filterMap PoolStep.submitted?
        = s.submitted?.toList ++ steps.filterMap PoolStep.submitted? := by
      cases hjob : s.submitted? with
      | none => rw [List.filterMap_cons_none hjob]; rfl
      | some job => rw [List.filterMap_cons_some hjob]; rfl
    rw [hcons, ← List.append_assoc]
    exact (ih (ha.step hsize hq) hrest).trans ((accepted_step ha hq).append_right _)

end

/-! ### Workers come to an end -/

/-- Whether a worker makes the step. -/
def PoolStep.isWork : PoolStep α → Bool
  | .take _ _ | .finish _ _ | .leave _ _ => true
  | _ => false

/-- How many steps the workers of a generation can still make: two for each job that waits, one for
    each that is being run, and one for every worker that may leave. -/
def Generation.workLeft (g : Generation α) : Nat :=
  2 * g.queue.length + g.busyJobs.length + g.workers.countP Worker.isAlive

/-- How many steps the workers of a pool can still make. -/
def WorkerPool.workLeft (p : WorkerPool α) : Nat := (p.generations.all.map Generation.workLeft).sum

/-- No worker of the pool can make a step. -/
def WorkerPool.IsAtRest (p : WorkerPool α) : Prop :=
  ∀ s : PoolStep α, s.isWork = true → p.step? (fun _ => false) s = none

namespace Generation

/-- What a worker contributes to the work that is left. -/
theorem workLeft_set {g g' : Generation α} {i : Nat} {w w' : Worker α}
    (hw : g.workers[i]? = some w) (hset : g'.workers = g.workers.set i w') :
    ∃ others,
      g.workLeft = 2 * g.queue.length + w.job?.toList.length + w.isAlive.toNat + others
      ∧ g'.workLeft = 2 * g'.queue.length + w'.job?.toList.length + w'.isAlive.toNat + others := by
  obtain ⟨jobs, hjobs, hjobs'⟩ := busyJobs_set hw hset
  -- Up to order the other workers are the same before and after.
  obtain ⟨rest, hrest, hrest'⟩ := perm_set hw
  have halive := hrest.countP_eq Worker.isAlive
  have halive' := (hrest' w').countP_eq Worker.isAlive
  have hcount : ∀ v : Worker α, (if v.isAlive = true then 1 else 0) = v.isAlive.toNat :=
    fun v => by cases v <;> rfl
  rw [List.countP_cons, hcount] at halive halive'
  have hlength := hjobs.length_eq
  have hlength' := hjobs'.length_eq
  rw [List.length_append] at hlength hlength'
  refine ⟨jobs.length + rest.countP Worker.isAlive, ?_, ?_⟩
  · rw [workLeft]
    omega
  · rw [workLeft, hset]
    omega

/-- A job that waits counts twice and one that is being run once. -/
theorem workLeft_take? {g g' : Generation α} {i : Nat} (h : g.take? i = some g') :
    g'.workLeft < g.workLeft := by
  obtain ⟨job, hworker, hqueue, hset⟩ := take?_eq_some h
  obtain ⟨others, hbefore, hafter⟩ := workLeft_set hworker hset
  rw [hqueue] at hbefore
  simp [Worker.job?, Worker.isAlive] at hbefore hafter
  omega

/-- A job that has ended counts no more. -/
theorem workLeft_finish? {g g' : Generation α} {i : Nat} {job? : Option α}
    (h : g.finish? (fun _ => false) i = some (job?, g')) : g'.workLeft < g.workLeft := by
  obtain ⟨job, hworker, -, hqueue, hset⟩ := finish?_eq_some h
  obtain ⟨others, hbefore, hafter⟩ := workLeft_set hworker hset
  rw [hqueue] at hafter
  simp [Worker.job?, Worker.isAlive] at hbefore hafter
  omega

/-- A worker that has left counts no more. -/
theorem workLeft_leave? {g g' : Generation α} {i : Nat} (h : g.leave? i = some g') :
    g'.workLeft < g.workLeft := by
  obtain ⟨hworker, hqueue, hqueue', hset⟩ := leave?_eq_some h
  obtain ⟨others, hbefore, hafter⟩ := workLeft_set hworker hset
  rw [hqueue] at hbefore
  rw [hqueue'] at hafter
  simp [Worker.job?, Worker.isAlive] at hbefore hafter
  omega

/-- While a job is not done, some worker can begin one or end one. -/
theorem IsStaffed.exists_step {size : Nat} {g : Generation α} (h : g.IsStaffed size)
    (hsize : 0 < size) (hjobs : g.queue ≠ [] ∨ g.busyJobs ≠ []) (kills : α → Bool) :
    ∃ i, (g.take? i).isSome ∨ (g.finish? kills i).isSome := by
  by_cases hbusy : g.busyJobs = []
  · -- Nobody is at a job, so somebody waits for the oldest one in the queue.
    have hqueue : g.queue ≠ [] := hjobs.resolve_right (fun hne => hne hbusy)
    obtain ⟨job, rest, hjob⟩ := List.exists_cons_of_ne_nil hqueue
    have hpos : 0 < g.workers.length := by rw [h.length_workers]; exact hsize
    have hmem := List.getElem_mem hpos
    have hidle : g.workers[0] = .idle := by
      cases hw : g.workers[0] with
      | idle => rfl
      | busy job =>
        rw [busyJobs, List.filterMap_eq_nil_iff] at hbusy
        have hnone := hbusy _ hmem
        rw [hw] at hnone
        cases hnone
      | dead => exact (h.no_death (hw ▸ hmem)).elim
      | gone => exact (hqueue (h.queue_of_gone (hw ▸ hmem))).elim
    refine ⟨0, Or.inl ?_⟩
    rw [take?, List.getElem?_eq_getElem hpos, hidle, hjob]
    rfl
  · -- Somebody is at a job, and can come back from it.
    obtain ⟨job, hjob⟩ := List.exists_mem_of_ne_nil _ hbusy
    obtain ⟨w, hw, hjob⟩ := List.mem_filterMap.mp hjob
    obtain ⟨i, hi⟩ := List.mem_iff_getElem?.mp hw
    refine ⟨i, Or.inr ?_⟩
    cases w with
    | busy job' =>
      rw [finish?, hi]
      dsimp only
      split <;> rfl
    | idle => cases hjob
    | dead => cases hjob
    | gone => cases hjob

/-- A closed generation without jobs, none of whose workers can leave, has none left. -/
theorem IsStaffed.isOver_of_leave? {size : Nat} {g : Generation α} (h : g.IsStaffed size)
    (hqueue : g.queue = []) (hbusy : g.busyJobs = []) (hleave : ∀ i, g.leave? i = none) :
    g.isOver = true := by
  refine isOver_of_forall (fun w hw => ?_)
  obtain ⟨i, hi⟩ := List.mem_iff_getElem?.mp hw
  cases w with
  | idle =>
    have hstuck := hleave i
    rw [leave?, hi, hqueue] at hstuck
    cases hstuck
  | busy job =>
    rw [busyJobs, List.filterMap_eq_nil_iff] at hbusy
    cases hbusy _ hw
  | dead => exact (h.no_death hw).elim
  | gone => rfl

end Generation

section

variable {size : Nat} {p p' : WorkerPool α} {h h' : PoolHistory α}

/-- Work that one generation has done is work that the pool has done. -/
theorem workLeft_lt {ref : GenerationRef} {g g' : Generation α}
    (hg : p.generations.get? ref = some g) (hp : p'.generations = p.generations.set ref g')
    (hlt : g'.workLeft < g.workLeft) : p'.workLeft < p.workLeft := by
  obtain ⟨others, hall, hset⟩ := PerGeneration.all_set hg
  have hbefore := (hall.map Generation.workLeft).sum_eq
  have hafter := ((hset g').map Generation.workLeft).sum_eq
  rw [List.map_cons, List.sum_cons] at hbefore hafter
  rw [WorkerPool.workLeft, WorkerPool.workLeft, hp, hbefore, hafter]
  omega

/-- Step lemma: a step of a worker leaves less to do. -/
theorem workLeft_step {s : PoolStep α} (hwork : s.isWork = true)
    (hs : p.step? (fun _ => false) s = some p') : p'.workLeft < p.workLeft := by
  cases s with
  | start => cases hwork
  | submit job => cases hwork
  | close => cases hwork
  | join index => cases hwork
  -- A job that is taken counts less than one that waits, and one that is finished not at all.
  | take ref i =>
    obtain ⟨g, g', hg, htake, rfl⟩ := WorkerPool.step?_take hs
    exact workLeft_lt hg (p.generations_withGeneration ref g') (Generation.workLeft_take? htake)
  | finish ref i =>
    obtain ⟨g, job?, g', hg, hfinish, rfl⟩ := WorkerPool.step?_finish hs
    exact workLeft_lt hg (p.generations_withGeneration ref g')
      (Generation.workLeft_finish? hfinish)
  | leave index i =>
    obtain ⟨g, g', hg, hleave, rfl⟩ := WorkerPool.step?_leave hs
    exact workLeft_lt hg (p.generations_withGeneration (.closing index) g')
      (Generation.workLeft_leave? hleave)

/-- Run lemma: workers left to themselves make no more steps than there is work. -/
theorem length_le_workLeft {steps : List (PoolStep α)} (hwork : ∀ s ∈ steps, s.isWork = true)
    (hs : follow? steps (p, h) = some (p', h')) : steps.length ≤ p.workLeft := by
  induction steps generalizing p h with
  | nil => exact Nat.zero_le _
  | cons s steps ih =>
    obtain ⟨hfirst, hrest⟩ := List.forall_mem_cons.mp hwork
    obtain ⟨q, hq, hsteps⟩ := Option.bind_eq_some_iff.mp hs
    have hlt := workLeft_step hfirst hq
    have hle := ih hrest hsteps
    rw [List.length_cons]
    omega

/-- Workers rest only when every job that waited or was being run is done. -/
theorem jobs_of_isAtRest (ha : Accounts size p h) (hsize : 0 < size) (hrest : p.IsAtRest)
    {ref : GenerationRef} {g : Generation α} (hg : p.generations.get? ref = some g) :
    g.queue = [] ∧ g.busyJobs = [] := by
  -- Otherwise some worker could begin a job or end one.
  by_contra hjobs
  rw [not_and_or] at hjobs
  obtain ⟨l, -, hstaffed, -⟩ := ha.agree.exists_right hg
  have hgeneration : p.generation? ref = some g := by rw [p.generation?_eq, hg]
  obtain ⟨i, htake | hfinish⟩ := hstaffed.exists_step hsize hjobs (fun _ => false)
  · obtain ⟨g', htake⟩ := Option.isSome_iff_exists.mp htake
    have hstuck := hrest (.take ref i) rfl
    simp [WorkerPool.step?, hgeneration, htake] at hstuck
  · obtain ⟨⟨job, g'⟩, hfinish⟩ := Option.isSome_iff_exists.mp hfinish
    have hstuck := hrest (.finish ref i) rfl
    simp [WorkerPool.step?, hgeneration, hfinish] at hstuck

/-- So nothing is open in any ledger: not in those of the generations, and not in those of stops that
    have returned. -/
theorem isSettled_of_isAtRest (ha : Accounts size p h) (hsize : 0 < size) (hrest : p.IsAtRest) :
    ∀ l ∈ h.all, l.IsSettled := by
  intro l hl
  rcases List.mem_append.mp hl with hl | hl
  · obtain ⟨ref, href⟩ := PerGeneration.mem_all.mp hl
    obtain ⟨g, hg, -, hmatches⟩ := ha.agree.exists_left href
    obtain ⟨hqueue, hbusy⟩ := jobs_of_isAtRest ha hsize hrest hg
    exact hmatches.isSettled hqueue hbusy
  · exact ha.returned l hl

/-- When the workers rest, every stop can return. -/
theorem join_of_isAtRest (ha : Accounts size p h) (hsize : 0 < size) (hrest : p.IsAtRest)
    {index : Nat} (hindex : index < p.closing.length) :
    (p.step? (fun _ => false) (.join index)).isSome := by
  have hg : p.closing[index]? = some p.closing[index] := List.getElem?_eq_getElem hindex
  have hget : p.generations.get? (.closing index) = some p.closing[index] := hg
  obtain ⟨l, -, hstaffed, -⟩ := ha.agree.exists_right hget
  obtain ⟨hqueue, hbusy⟩ := jobs_of_isAtRest ha hsize hrest hget
  have hover : p.closing[index].isOver = true := by
    refine hstaffed.isOver_of_leave? hqueue hbusy (fun i => ?_)
    have hstuck := hrest (.leave index i) rfl
    cases hleave : p.closing[index].leave? i with
    | none => rfl
    | some g => simp [WorkerPool.step?, hg, hleave] at hstuck
  simp [WorkerPool.step?, WorkerPool.join?, hg, hover]

end

/-! ### Delivery -/

/-- **Delivery.** Let a pool of any size go through any steps of callers and workers.
    The jobs that were queued are those that the generations accepted.  A generation begins its jobs
    in the order in which it accepted them, each once; of those that it began, each has ended or is
    with one of its workers, of which there are `size` and at least one.  When a stop has returned,
    every job that its generation accepted was begun once and has ended.  A job is refused exactly
    when no generation is running, and a start changes nothing while one is.
    Left to themselves, the workers come to rest after as many steps as there is work; then every
    accepted job has ended, and every stop can return. -/
theorem pool_delivers {size : Nat} {steps : List (PoolStep α)} {p : WorkerPool α}
    {h : PoolHistory α} (hrun : follow? steps (.ofSize size, .blank) = some (p, h)) :
    h.all.flatMap Ledger.accepted ~ steps.filterMap PoolStep.submitted?
    ∧ p.finished ~ h.all.flatMap Ledger.ended
    ∧ p.generations.Agree (fun g l => l.accepted = l.begun ++ g.queue
        ∧ l.begun ~ l.ended ++ g.busyJobs ∧ g.busyJobs.length ≤ max size 1) h.ledgers
    ∧ (∀ l ∈ h.returned, l.begun = l.accepted ∧ l.ended ~ l.accepted)
    ∧ (∀ job, p.submit? job = none ↔ p.running = none)
    ∧ (p.running ≠ none → p.start = p)
    ∧ ∀ more q k, (∀ s ∈ more, PoolStep.isWork s = true) → follow? more (p, h) = some (q, k) →
        more.length ≤ p.workLeft
        ∧ (q.IsAtRest →
          (∀ l ∈ k.all, l.begun = l.accepted ∧ l.ended ~ l.accepted)
          ∧ ∀ index < q.closing.length, (q.step? (fun _ => false) (.join index)).isSome) := by
  have hsize : 0 < max size 1 := by omega
  have hinitial : Accounts (max size 1) (.ofSize size : WorkerPool α) .blank := .initial size
  have ha := hinitial.follow hsize hrun
  refine ⟨accepted_follow hinitial hsize hrun, ha.finished, ha.agree.mono fun g l hgl => ?_, ?_,
    ha.submit?_eq_none_iff hsize, ?_, fun more q k hwork hmore => ?_⟩
  · exact ⟨hgl.2.accepted_eq, hgl.2.begun_perm, hgl.1.length_busyJobs_le⟩
  · intro l hl
    exact ⟨(ha.returned l hl).begun_eq, (ha.returned l hl).ended_perm⟩
  · intro hrunning
    have hisRunning : p.isRunning = true := Option.isSome_iff_ne_none.mpr hrunning
    rw [WorkerPool.start, if_pos hisRunning]
  · -- Whatever the workers do by themselves is a run like any other.
    refine ⟨length_le_workLeft hwork hmore, fun hrest => ?_⟩
    have hq := ha.follow hsize hmore
    refine ⟨fun l hl => ?_, fun index hindex => join_of_isAtRest hq hsize hrest hindex⟩
    have hsettled := isSettled_of_isAtRest hq hsize hrest l hl
    exact ⟨hsettled.begun_eq, hsettled.ended_perm⟩

/-- A pool of one worker is stopped while jobs wait, and started again before they are done. -/
def overlappingStop : List (PoolStep Nat) :=
  [.start, .submit 1, .submit 2, .take .running 0, .close, .start, .submit 3, .take .running 0,
    .finish (.closing 0) 0, .take (.closing 0) 0, .finish (.closing 0) 0, .leave 0 0, .join 0]

/-- The stop has returned with both jobs of its generation done; the third job is with the worker of
    the new generation, whose end leaves nothing to do. -/
theorem pool_delivers_overlappingStop :
    ∃ p h, follow? overlappingStop (.ofSize 1, .blank) = some (p, h)
      ∧ p.running = some ⟨[], [.busy 3]⟩
      ∧ h.returned = [⟨[1, 2], [1, 2], [2, 1]⟩]
      ∧ (∀ l ∈ h.returned, l.begun = l.accepted ∧ l.ended ~ l.accepted)
      ∧ p.start = p
      ∧ p.submit? 4 ≠ none
      ∧ ∃ q k, follow? [.finish .running 0] (p, h) = some (q, k)
        ∧ 1 ≤ p.workLeft
        ∧ q.IsAtRest
        ∧ ∀ l ∈ k.all, l.begun = l.accepted ∧ l.ended ~ l.accepted := by
  have hrun : follow? overlappingStop (.ofSize 1, .blank)
      = some (⟨1, some ⟨[], [.busy 3]⟩, [], [2, 1], 0⟩,
          ⟨⟨some ⟨[3], [3], []⟩, []⟩, [⟨[1, 2], [1, 2], [2, 1]⟩]⟩) := rfl
  obtain ⟨-, -, -, hreturned, hrefused, hstart, hwork⟩ := pool_delivers hrun
  refine ⟨_, _, hrun, rfl, rfl, hreturned, hstart (by simp), by simp [hrefused], _, _, rfl, ?_⟩
  obtain ⟨hlength, hrest⟩ := hwork [.finish .running 0] _ _ (by simp [PoolStep.isWork]) rfl
  have hatRest : WorkerPool.IsAtRest (⟨1, some ⟨[], [.idle]⟩, [], [3, 2, 1], 0⟩ : WorkerPool Nat) := by
    intro s hs
    cases s with
    | take ref i => cases ref <;> simp [WorkerPool.step?, WorkerPool.generation?, Generation.take?]
    | finish ref i =>
      cases ref with
      | running =>
        cases i <;> simp [WorkerPool.step?, WorkerPool.generation?, Generation.finish?]
      | closing index => simp [WorkerPool.step?, WorkerPool.generation?]
    | leave index i => simp [WorkerPool.step?]
    | start => cases hs
    | submit job => cases hs
    | close => cases hs
    | join index => cases hs
  exact ⟨hlength, hatRest, (hrest hatRest).1⟩

end ChartTrace
