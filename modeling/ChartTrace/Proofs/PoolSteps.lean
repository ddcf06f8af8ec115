import ChartTrace.Evaluator.Pool
import Mathlib.Data.List.Perm.Basic
import Mathlib.Logic.Relation

namespace ChartTrace

/-!
# Steps of a worker pool

What callers and workers can do to a pool, one step at a time.

* `PerGeneration`: one thing for each generation that a pool has, and its change at one of them;
* `take?_eq_some`, `finish?_eq_some`, `leave?_eq_some`: what a step of a worker can do;
* `IsStaffed`: the workers of a generation are all there; `busyJobs`: the jobs they are at;
* `step?_submit`, `step?_take`, `step?_finish`, `step?_leave`, `step?_join`: what a step of the pool
  can do;
* `reaches_stop`: a stop by the only caller is one of the orders in which these steps can be made.
-/

open scoped List

variable {α β : Type}

/-! ### One thing for each generation -/

/-- A change at one place of a list leaves the others alone. -/
theorem perm_set {l : List β} {i : Nat} {b : β} (h : l[i]? = some b) :
    ∃ others, l ~ b :: others ∧ ∀ b', l.set i b' ~ b' :: others := by
  obtain ⟨hi, rfl⟩ := List.getElem?_eq_some_iff.mp h
  exact ⟨l.eraseIdx i, (List.getElem_cons_eraseIdx_perm hi).symm,
    fun b' => List.set_perm_cons_eraseIdx hi b'⟩

/-- One thing for the running generation of a pool, if any, and one for each generation that is being
    closed. -/
structure PerGeneration (β : Type) where
  running : Option β
  closing : List β

namespace PerGeneration

/-- What belongs to a generation. -/
def get? (s : PerGeneration β) : GenerationRef → Option β
  | .running => s.running
  | .closing index => s.closing[index]?

/-- Replaces what belongs to a generation. -/
def set (s : PerGeneration β) (ref : GenerationRef) (b : β) : PerGeneration β :=
  match ref with
  | .running => { s with running := some b }
  | .closing index => { s with closing := s.closing.set index b }

/-- The running generation becomes the last one that is being closed. -/
def close (s : PerGeneration β) : PerGeneration β := ⟨none, s.closing ++ s.running.toList⟩

/-- A generation that was being closed is gone. -/
def remove (s : PerGeneration β) (index : Nat) : PerGeneration β :=
  { s with closing := s.closing.eraseIdx index }

/-- What belongs to any generation. -/
def all (s : PerGeneration β) : List β := s.running.toList ++ s.closing

/-- A change is seen at its own generation and at no other. -/
theorem get?_set {s : PerGeneration β} {ref : GenerationRef} {b : β} (h : s.get? ref = some b)
    (b' : β) (ref' : GenerationRef) :
    (s.set ref b').get? ref' = if ref' = ref then some b' else s.get? ref' := by
  cases ref with
  | running => cases ref' <;> simp [set, get?]
  | closing index =>
    have hindex : index < s.closing.length := (List.getElem?_eq_some_iff.mp h).1
    cases ref' with
    | running => simp [set, get?]
    | closing index' =>
      simp only [set, get?, List.getElem?_set, GenerationRef.closing.injEq, hindex, if_true]
      simp only [eq_comm]

/-- Whatever there is belongs to some generation. -/
theorem mem_all {s : PerGeneration β} {b : β} : b ∈ s.all ↔ ∃ ref, s.get? ref = some b := by
  constructor
  · intro h
    rcases List.mem_append.mp h with h | h
    · exact ⟨.running, by simpa [get?] using h⟩
    · obtain ⟨index, hindex⟩ := List.mem_iff_getElem?.mp h
      exact ⟨.closing index, hindex⟩
  · rintro ⟨ref, h⟩
    cases ref with
    | running => exact List.mem_append_left _ (by simpa [get?] using h)
    | closing index => exact List.mem_append_right _ (List.mem_of_getElem? h)

/-- A change at one generation leaves the others alone. -/
theorem all_set {s : PerGeneration β} {ref : GenerationRef} {b : β} (h : s.get? ref = some b) :
    ∃ others, s.all ~ b :: others ∧ ∀ b', (s.set ref b').all ~ b' :: others := by
  cases ref with
  | running =>
    have hrunning : s.running = some b := h
    exact ⟨s.closing, by simp [all, hrunning], fun b' => by simp [all, set]⟩
  | closing index =>
    obtain ⟨others, hall, hset⟩ := perm_set h
    exact ⟨s.running.toList ++ others, (hall.append_left _).trans List.perm_middle,
      fun b' => ((hset b').append_left _).trans List.perm_middle⟩

/-- Closing loses nothing and adds nothing. -/
theorem all_close (s : PerGeneration β) : s.close.all ~ s.all := by
  simpa [all, close] using List.perm_append_comm

/-- A generation that is gone takes along what belonged to it, and nothing else. -/
theorem all_remove {s : PerGeneration β} {index : Nat} {b : β}
    (h : s.get? (.closing index) = some b) : s.all ~ b :: (s.remove index).all := by
  obtain ⟨hindex, hb⟩ := List.getElem?_eq_some_iff.mp h
  have hperm := List.getElem_cons_eraseIdx_perm hindex
  rw [hb] at hperm
  exact (hperm.symm.append_left _).trans List.perm_middle

end PerGeneration

/-! ### Steps of workers -/

namespace Generation

/-- The jobs that workers are at. -/
def busyJobs (g : Generation α) : List α := g.workers.filterMap Worker.job?

/-- All workers are there, no job ended one, and none left while jobs waited. -/
structure IsStaffed (size : Nat) (g : Generation α) : Prop where
  length_workers : g.workers.length = size
  no_death : Worker.dead ∉ g.workers
  queue_of_gone : Worker.gone ∈ g.workers → g.queue = []

/-- New workers are all there, and idle. -/
theorem isStaffed_fresh (size : Nat) : (fresh size : Generation α).IsStaffed size :=
  ⟨by simp [fresh], by simp [fresh], by simp [fresh]⟩

/-- New workers have no jobs. -/
theorem busyJobs_fresh (size : Nat) : (fresh size : Generation α).busyJobs = [] := by
  simp [busyJobs, fresh, Worker.job?]

/-- Each worker is at one job at most. -/
theorem IsStaffed.length_busyJobs_le {size : Nat} {g : Generation α} (h : g.IsStaffed size) :
    g.busyJobs.length ≤ size := by
  rw [← h.length_workers]
  exact List.length_filterMap_le _ _

/-- A worker that is replaced hands its job over to what replaces it. -/
theorem busyJobs_set {g g' : Generation α} {i : Nat} {w w' : Worker α}
    (hw : g.workers[i]? = some w) (hset : g'.workers = g.workers.set i w') :
    ∃ others, g.busyJobs ~ w.job?.toList ++ others
      ∧ g'.busyJobs ~ w'.job?.toList ++ others := by
  obtain ⟨others, hall, hreplaced⟩ := perm_set hw
  -- The jobs of some workers, with one of the workers taken apart.
  have hjobs : ∀ v : Worker α,
      (v :: others).filterMap Worker.job? = v.job?.toList ++ others.filterMap Worker.job? := by
    intro v
    cases v <;> rfl
  refine ⟨others.filterMap Worker.job?, ?_, ?_⟩
  · rw [← hjobs]
    exact hall.filterMap _
  · rw [← hjobs, busyJobs, hset]
    exact (hreplaced w').filterMap _

/-- A worker may be replaced by one that is alive, as long as none is gone while jobs wait. -/
theorem IsStaffed.set {size : Nat} {g g' : Generation α} (h : g.IsStaffed size) {i : Nat}
    {w : Worker α} (hset : g'.workers = g.workers.set i w) (halive : w ≠ .dead)
    (hqueue : g.queue = [] → g'.queue = []) (hgone : w = .gone → g'.queue = []) :
    g'.IsStaffed size := by
  refine ⟨by rw [hset, List.length_set, h.length_workers], fun hdead => ?_, fun hleft => ?_⟩
  · rw [hset] at hdead
    rcases List.mem_or_eq_of_mem_set hdead with hdead | hdead
    · exact h.no_death hdead
    · exact halive hdead.symm
  · rw [hset] at hleft
    rcases List.mem_or_eq_of_mem_set hleft with hleft | hleft
    · exact hqueue (h.queue_of_gone hleft)
    · exact hgone hleft.symm

/-- An idle worker takes the job that has waited longest. -/
theorem take?_eq_some {g g' : Generation α} {i : Nat} (h : g.take? i = some g') :
    ∃ job, g.workers[i]? = some .idle ∧ g.queue = job :: g'.queue
      ∧ g'.workers = g.workers.set i (.busy job) := by
  rw [take?] at h
  split at h
  · next job rest hworker hqueue =>
    cases h
    exact ⟨job, hworker, hqueue, rfl⟩
  · cases h

/-- A worker comes back from its job and is idle; jobs that return end no worker. -/
theorem finish?_eq_some {g g' : Generation α} {i : Nat} {job? : Option α}
    (h : g.finish? (fun _ => false) i = some (job?, g')) :
    ∃ job, g.workers[i]? = some (.busy job) ∧ job? = some job ∧ g'.queue = g.queue
      ∧ g'.workers = g.workers.set i .idle := by
  rw [finish?] at h
  split at h
  · next job hworker =>
    cases h
    exact ⟨job, hworker, rfl, rfl, rfl⟩
  · cases h

/-- An idle worker leaves when no job waits. -/
theorem leave?_eq_some {g g' : Generation α} {i : Nat} (h : g.leave? i = some g') :
    g.workers[i]? = some .idle ∧ g.queue = [] ∧ g'.queue = []
      ∧ g'.workers = g.workers.set i .gone := by
  rw [leave?] at h
  split at h
  · next hworker hqueue =>
    cases h
    exact ⟨hworker, hqueue, hqueue, rfl⟩
  · cases h

/-- A closed generation whose workers have all left has no job that waits or is being run. -/
theorem IsStaffed.of_isOver {size : Nat} {g : Generation α} (h : g.IsStaffed size) (hsize : 0 < size)
    (hover : g.isOver = true) : g.queue = [] ∧ g.busyJobs = [] := by
  -- Workers that are not alive are dead or gone, and no worker of this generation is dead.
  have hgone : ∀ w ∈ g.workers, w = .gone := by
    intro w hw
    have halive : w.isAlive = false := by
      simp only [isOver, isConnected, Bool.not_eq_true', List.any_eq_false] at hover
      simpa using hover w hw
    cases w with
    | idle => cases halive
    | busy => cases halive
    | dead => exact (h.no_death hw).elim
    | gone => rfl
  constructor
  · -- There is a worker at all, and it left when the queue was empty.
    have hpos : 0 < g.workers.length := by rw [h.length_workers]; exact hsize
    have hfirst := List.getElem_mem hpos
    exact h.queue_of_gone (hgone _ hfirst ▸ hfirst)
  · rw [busyJobs, List.filterMap_eq_nil_iff]
    intro w hw
    rw [hgone w hw]
    rfl

end Generation

/-! ### What a step of the pool can do -/

namespace WorkerPool

/-- The generations of a pool. -/
def generations (p : WorkerPool α) : PerGeneration (Generation α) := ⟨p.running, p.closing⟩

/-- A generation of the pool, as one thing for each generation. -/
theorem generation?_eq (p : WorkerPool α) (ref : GenerationRef) :
    p.generation? ref = p.generations.get? ref := by
  cases ref <;> rfl

/-- The pool with one generation replaced. -/
theorem generations_withGeneration (p : WorkerPool α) (ref : GenerationRef) (g : Generation α) :
    (p.withGeneration ref g).generations = p.generations.set ref g := by
  cases ref <;> rfl

theorem size_withGeneration (p : WorkerPool α) (ref : GenerationRef) (g : Generation α) :
    (p.withGeneration ref g).size = p.size := by
  cases ref <;> rfl

theorem finished_withGeneration (p : WorkerPool α) (ref : GenerationRef) (g : Generation α) :
    (p.withGeneration ref g).finished = p.finished := by
  cases ref <;> rfl

variable {p p' : WorkerPool α} {kills : α → Bool}

/-- A job can be handed in while a generation is running, and waits behind the others. -/
theorem step?_submit {job : α} (h : p.step? kills (.submit job) = some p') :
    ∃ g, p.running = some g ∧ p' = { p with running := some { g with queue := g.queue ++ [job] } } := by
  simp only [step?, submit?, Generation.submit?, Option.bind_eq_bind, Option.bind_eq_some_iff,
    Option.pure_def, Option.some.injEq] at h
  obtain ⟨g, hg, g', hsubmit, rfl⟩ := h
  split at hsubmit
  · cases hsubmit
    exact ⟨g, hg, rfl⟩
  · cases hsubmit

/-- A worker of any generation begins a job. -/
theorem step?_take {ref : GenerationRef} {i : Nat} (h : p.step? kills (.take ref i) = some p') :
    ∃ g g', p.generations.get? ref = some g ∧ g.take? i = some g' ∧ p' = p.withGeneration ref g' := by
  simp only [step?, Option.bind_eq_bind, Option.bind_eq_some_iff, Option.pure_def,
    Option.some.injEq, generation?_eq] at h
  obtain ⟨g, hg, g', htake, rfl⟩ := h
  exact ⟨g, g', hg, htake, rfl⟩

/-- A worker of any generation ends a job, which is finished unless it ends the worker too. -/
theorem step?_finish {ref : GenerationRef} {i : Nat} (h : p.step? kills (.finish ref i) = some p') :
    ∃ g job? g', p.generations.get? ref = some g ∧ g.finish? kills i = some (job?, g')
      ∧ p' = { p.withGeneration ref g' with finished := job?.toList ++ p.finished } := by
  simp only [step?, Option.bind_eq_bind, Option.bind_eq_some_iff, Option.pure_def,
    Option.some.injEq, generation?_eq] at h
  obtain ⟨g, hg, ⟨job?, g'⟩, hfinish, rfl⟩ := h
  exact ⟨g, job?, g', hg, hfinish, rfl⟩

/-- A worker of a generation that is being closed leaves. -/
theorem step?_leave {index i : Nat} (h : p.step? kills (.leave index i) = some p') :
    ∃ g g', p.generations.get? (.closing index) = some g ∧ g.leave? i = some g'
      ∧ p' = p.withGeneration (.closing index) g' := by
  simp only [step?, Option.bind_eq_bind, Option.bind_eq_some_iff, Option.pure_def,
    Option.some.injEq] at h
  obtain ⟨g, hg, g', hleave, rfl⟩ := h
  exact ⟨g, g', hg, hleave, rfl⟩

/-- A stop returns once its generation is over, and counts the workers that jobs have ended. -/
theorem step?_join {index : Nat} (h : p.step? kills (.join index) = some p') :
    ∃ g, p.generations.get? (.closing index) = some g ∧ g.isOver = true
      ∧ p' = { p with closing := p.closing.eraseIdx index, deaths := p.deaths + g.deaths } := by
  simp only [step?, join?, Option.bind_eq_bind, Option.bind_eq_some_iff, Option.pure_def] at h
  obtain ⟨g, hg, hover⟩ := h
  split at hover
  · next hover' =>
    cases hover
    exact ⟨g, hg, hover', rfl⟩
  · cases hover

end WorkerPool

/-! ### A stop by the only caller -/

theorem Worker.eq_idle_of_isIdle {w : Worker α} (h : w.isIdle = true) : w = .idle := by
  cases w with
  | idle => rfl
  | busy job => cases h
  | dead => cases h
  | gone => cases h

namespace Generation

/-- No worker is at a job. -/
def IsQuiet (g : Generation α) : Prop := ∀ job, Worker.busy job ∉ g.workers

/-- No worker begins a job by being replaced. -/
theorem IsQuiet.set {g g' : Generation α} (h : g.IsQuiet) {i : Nat} {w : Worker α}
    (hset : g'.workers = g.workers.set i w) (hw : w.job? = none) : g'.IsQuiet := by
  intro job hjob
  rw [hset] at hjob
  rcases List.mem_or_eq_of_mem_set hjob with hjob | rfl
  · exact h job hjob
  · cases hw

/-- A generation is over when nobody is alive in it. -/
theorem isOver_of_forall {g : Generation α} (h : ∀ w ∈ g.workers, w.isAlive = false) :
    g.isOver = true := by
  simpa [isOver, isConnected] using h

/-- A worker that has begun a job can end it, and is then idle or dead. -/
theorem finish?_of_take? {g g' : Generation α} {i : Nat} (h : g.take? i = some g')
    (kills : α → Bool) :
    ∃ job? g'', g'.finish? kills i = some (job?, g'') ∧ g''.queue = g'.queue
      ∧ ∃ w : Worker α, w.job? = none ∧ g''.workers = g.workers.set i w := by
  obtain ⟨job, hworker, -, hset⟩ := take?_eq_some h
  have hi := (List.getElem?_eq_some_iff.mp hworker).1
  have hbusy : g'.workers[i]? = some (.busy job) := by rw [hset, List.getElem?_set_self hi]
  rw [finish?, hbusy]
  dsimp only
  -- A job that kills its worker is not counted as finished.
  split
  · exact ⟨none, _, rfl, rfl, .dead, rfl, by rw [hset, List.set_set]⟩
  · exact ⟨some job, _, rfl, rfl, .idle, rfl, by rw [hset, List.set_set]⟩

/-- An idle worker can begin a job whenever one waits. -/
theorem exists_take? {g : Generation α} {i : Nat} (hi : g.workers.findIdx? Worker.isIdle = some i)
    (hqueue : g.queue ≠ []) : ∃ g', g.take? i = some g' := by
  obtain ⟨hlt, hidle, -⟩ := List.findIdx?_eq_some_iff_getElem.mp hi
  obtain ⟨job, rest, hjob⟩ := List.exists_cons_of_ne_nil hqueue
  rw [take?, List.getElem?_eq_getElem hlt, Worker.eq_idle_of_isIdle hidle, hjob]
  exact ⟨_, rfl⟩

/-- Enough rounds leave no job in the queue unless they leave no worker that could take it. -/
theorem settle_spec (kills : α → Bool) {n : Nat} {g : Generation α} (hquiet : g.IsQuiet)
    (hn : g.queue.length ≤ n) (finished : List α) :
    (g.settle kills n finished).2.IsQuiet
    ∧ ((g.settle kills n finished).2.queue = []
      ∨ ∀ w ∈ (g.settle kills n finished).2.workers, w.isIdle = false) := by
  -- Each round takes one job off the queue, so that as many rounds as there are jobs are enough.
  induction n generalizing g finished with
  | zero => exact ⟨hquiet, Or.inl (List.length_eq_zero_iff.mp (Nat.le_zero.mp hn))⟩
  | succ n ih =>
    rw [settle]
    split
    · next hnone => exact ⟨hquiet, Or.inr (List.findIdx?_eq_none_iff.mp hnone)⟩
    · next i hi =>
      split
      · next job? g'' hround =>
        obtain ⟨g', htake, hfinish⟩ := Option.bind_eq_some_iff.mp hround
        obtain ⟨_, _, hfinish', hqueue, w, hw, hset⟩ := finish?_of_take? htake kills
        rw [hfinish] at hfinish'
        cases hfinish'
        obtain ⟨job, -, hjob, -⟩ := take?_eq_some htake
        -- The round leaves no worker at a job, and the queue is one job shorter.
        refine ih (hquiet.set hset hw) ?_ _
        rw [hjob, List.length_cons] at hn
        rw [hqueue]
        omega
      · next hround =>
        -- The round is not possible although a worker is idle: then no job waits.
        refine ⟨hquiet, Or.inl ?_⟩
        by_contra hqueue
        obtain ⟨g', htake⟩ := exists_take? hi hqueue
        obtain ⟨_, _, hfinish, -⟩ := finish?_of_take? htake kills
        rw [htake, Option.bind_some, hfinish] at hround
        cases hround

end Generation

namespace WorkerPool

/-- Steps of callers and workers can lead from the one pool to the other. -/
def Reaches (kills : α → Bool) : WorkerPool α → WorkerPool α → Prop :=
  Relation.ReflTransGen fun p p' => ∃ s, p.step? kills s = some p'

/-- The rounds of a stop are steps of workers. -/
theorem reaches_settle (kills : α → Bool) (n : Nat) {p : WorkerPool α} {g : Generation α} (hp : p.closing = [g]) :
    p.Reaches kills
      { p with
        closing := [(g.settle kills n p.finished).2]
        finished := (g.settle kills n p.finished).1 } := by
  have hsame : p.Reaches kills { p with closing := [g], finished := p.finished } := by
    rw [← hp]
    exact .refl
  induction n generalizing p g with
  | zero => exact hsame
  | succ n ih =>
    rw [Generation.settle]
    split
    · exact hsame
    · next i hi =>
      split
      · next job? g'' hround =>
        obtain ⟨g', htake, hfinish⟩ := Option.bind_eq_some_iff.mp hround
        -- One round is two steps of one worker.
        have hbegin : p.step? kills (.take (.closing 0) i) = some { p with closing := [g'] } := by
          simp [step?, generation?, withGeneration, hp, htake]
        have hend : step? kills { p with closing := [g'] } (.finish (.closing 0) i)
            = some { p with closing := [g''], finished := job?.toList ++ p.finished } := by
          simp [step?, generation?, withGeneration, hfinish]
        have hrounds := ih (p := { p with closing := [g''], finished := job?.toList ++ p.finished })
          rfl .refl
        exact .head ⟨_, hbegin⟩ (.head ⟨_, hend⟩ hrounds)
      · exact hsame

/-- Workers without jobs leave one after the other. -/
theorem reaches_leave (kills : α → Bool) {p : WorkerPool α} {g : Generation α}
    (hp : p.closing = [g]) (hquiet : g.IsQuiet)
    (hqueue : g.queue = [] ∨ ∀ w ∈ g.workers, w.isIdle = false) :
    ∃ g', p.Reaches kills { p with closing := [g'] } ∧ g'.isOver = true ∧ g'.deaths = g.deaths := by
  -- The induction is on the number of idle workers, of which each step takes one.
  induction hn : g.workers.countP Worker.isIdle generalizing p g with
  | zero =>
    refine ⟨g, by rw [← hp]; exact .refl, ?_, rfl⟩
    refine Generation.isOver_of_forall (fun w hw => ?_)
    have hidle := List.countP_eq_zero.mp hn w hw
    cases w with
    | idle => exact (hidle rfl).elim
    | busy job => exact (hquiet job hw).elim
    | dead => rfl
    | gone => rfl
  | succ n ih =>
    obtain ⟨w, hw, hidle⟩ := List.countP_pos_iff.mp (by rw [hn]; omega)
    obtain rfl := Worker.eq_idle_of_isIdle hidle
    obtain ⟨i, hi⟩ := List.mem_iff_getElem?.mp hw
    -- There is an idle worker, so that the queue is empty by assumption.
    have hempty : g.queue = [] := hqueue.resolve_right fun hall => Bool.noConfusion (hall _ hw)
    have hleave : g.leave? i = some { g with workers := g.workers.set i .gone } := by
      rw [Generation.leave?, hi, hempty]
    have hstep : p.step? kills (.leave 0 i)
        = some { p with closing := [{ g with workers := g.workers.set i .gone }] } := by
      simp [step?, withGeneration, hp, hleave]
    obtain ⟨others, hbefore, hafter⟩ := perm_set hi
    have hcount : (g.workers.set i .gone).countP Worker.isIdle = n := by
      rw [(hafter .gone).countP_eq, List.countP_cons]
      rw [hbefore.countP_eq, List.countP_cons] at hn
      simpa [Worker.isIdle] using hn
    obtain ⟨g', hreaches, hover, hdeaths⟩ :=
      ih (p := { p with closing := [{ g with workers := g.workers.set i .gone }] }) rfl
        (hquiet.set rfl rfl) (Or.inl hempty) hcount
    refine ⟨g', .head ⟨_, hstep⟩ hreaches, hover, hdeaths.trans ?_⟩
    -- A worker that leaves is not counted among the dead.
    rw [Generation.deaths, Generation.deaths, ((hafter .gone).filter _).length_eq,
      (hbefore.filter _).length_eq]
    rfl

/-- **One caller.** A stop in a pool that nobody else stops, and whose workers do their work at the
    stop, is one order of closing it, letting workers run, and waiting for them to leave. -/
theorem reaches_stop (kills : α → Bool) {p : WorkerPool α} (hclosing : p.closing = [])
    (hquiet : ∀ g, p.running = some g → g.IsQuiet) : p.Reaches kills (p.stop kills) := by
  rw [stop]
  split
  · exact .refl
  · next g hg =>
    have hclose : p.step? kills .close = some { p with running := none, closing := [g] } := by
      simp [step?, close, hclosing, hg]
    obtain ⟨hsettled, hqueue⟩ :=
      Generation.settle_spec kills (hquiet g hg) (Nat.le_refl g.queue.length) p.finished
    have hsettle := reaches_settle kills g.queue.length
      (p := { p with running := none, closing := [g] }) rfl
    obtain ⟨g', hleave, hover, hdeaths⟩ := reaches_leave kills
      (p := { p with
        running := none
        closing := [(g.settle kills g.queue.length p.finished).2]
        finished := (g.settle kills g.queue.length p.finished).1 }) rfl hsettled hqueue
    -- After these steps the generation is over, and the stop returns.
    have hjoin : step? kills
        { p with
          running := none
          closing := [g']
          finished := (g.settle kills g.queue.length p.finished).1 } (.join 0)
        = some { p with
          running := none
          finished := (g.settle kills g.queue.length p.finished).1
          deaths := p.deaths + (g.settle kills g.queue.length p.finished).2.deaths } := by
      simp [step?, join?, hover, hdeaths, hclosing]
    exact .head ⟨_, hclose⟩ (hsettle.trans (hleave.tail ⟨_, hjoin⟩))

end WorkerPool

end ChartTrace
