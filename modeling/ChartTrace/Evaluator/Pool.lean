import ChartTrace.Diagnostic

namespace ChartTrace

/-!
# Worker pools

A pool runs jobs on a fixed number of workers.  Every start makes a new generation of workers with a queue
of their own; a stop closes the generation and waits until its queue is empty and its workers have left.

* `Generation.take?`, `Generation.finish?`, `Generation.leave?`: the steps of a worker.
* `WorkerPool.step?`: every step that callers and workers can make, in any order.
* `WorkerPool.start`, `WorkerPool.submit?`, `WorkerPool.stop`: the same for a single caller, where workers
  do their work at the stop.

A start that cannot make all of its workers reports that, ends those it has made and leaves the pool as it
was.  No job sees anything of it, so such a start is no step here.
-/

/-- What a worker does. -/
inductive Worker (α : Type) where
  /-- It waits for a job. -/
  | idle
  | busy (job : α)
  /-- A job ended it. -/
  | dead
  /-- It left a closed generation that had no jobs for it. -/
  | gone
deriving DecidableEq, Repr

/-- Whether a worker may take jobs, now or later. -/
def Worker.isAlive : Worker α → Bool
  | idle | busy _ => true
  | dead | gone => false

/-- Whether a worker waits for a job. -/
def Worker.isIdle : Worker α → Bool
  | idle => true
  | _ => false

/-- The job that a worker is at. -/
def Worker.job? : Worker α → Option α
  | busy job => some job
  | _ => none

/-- The workers of one start of a pool, and the jobs that wait for them, the oldest first. -/
structure Generation (α : Type) where
  queue : List α
  workers : List (Worker α)
deriving DecidableEq, Repr

namespace Generation

variable {α : Type}

/-- Workers that have nothing to do yet. -/
def fresh (size : Nat) : Generation α := ⟨[], List.replicate size .idle⟩

/-- Whether a worker is left that can take jobs. -/
def isConnected (g : Generation α) : Bool := g.workers.any Worker.isAlive

/-- Queues a job, if a worker is left. -/
def submit? (g : Generation α) (job : α) : Option (Generation α) :=
  if g.isConnected then some { g with queue := g.queue ++ [job] } else none

/-- A worker that waits takes the oldest job. -/
def take? (g : Generation α) (i : Nat) : Option (Generation α) :=
  match g.workers[i]?, g.queue with
  | some .idle, job :: rest => some ⟨rest, g.workers.set i (.busy job)⟩
  | _, _ => none

/-- A worker ends its job.  Gives the job unless it ended the worker too. -/
def finish? (kills : α → Bool) (g : Generation α) (i : Nat) : Option (Option α × Generation α) :=
  match g.workers[i]? with
  | some (.busy job) =>
    if kills job then some (none, { g with workers := g.workers.set i .dead })
    else some (some job, { g with workers := g.workers.set i .idle })
  | _ => none

/-- A worker of a closed generation leaves when no jobs wait. -/
def leave? (g : Generation α) (i : Nat) : Option (Generation α) :=
  match g.workers[i]?, g.queue with
  | some .idle, [] => some { g with workers := g.workers.set i .gone }
  | _, _ => none

/-- Whether no worker is left. -/
def isOver (g : Generation α) : Bool := !g.isConnected

/-- How many workers were ended by their jobs. -/
def deaths (g : Generation α) : Nat :=
  (g.workers.filter fun w =>
    match w with
    | .dead => true
    | _ => false).length

/-- Runs at most `n` jobs, each on the first worker that waits, and gives those that were finished, the
latest first. -/
def settle (kills : α → Bool) : Nat → Generation α → List α → List α × Generation α
  | 0, g, finished => (finished, g)
  | n + 1, g, finished =>
    match g.workers.findIdx? Worker.isIdle with
    | none => (finished, g)
    | some i =>
      match (g.take? i).bind (·.finish? kills i) with
      | some (job, g) => settle kills n g (job.toList ++ finished)
      | none => (finished, g)

end Generation

/-- A pool of workers. -/
structure WorkerPool (α : Type) where
  /-- How many workers a generation has. -/
  size : Nat
  running : Option (Generation α)
  /-- The generations whose stop has not returned. -/
  closing : List (Generation α)
  /-- The jobs that were finished, the latest first. -/
  finished : List α
  /-- How many dead workers the stops have found. -/
  deaths : Nat
deriving DecidableEq, Repr

/-- The generation that a step is about. -/
inductive GenerationRef where
  | running
  | closing (index : Nat)
deriving DecidableEq, Repr

/-- A step of a pool. -/
inductive PoolStep (α : Type) where
  | start
  | submit (job : α)
  /-- A stop takes the running generation. -/
  | close
  | take (generation : GenerationRef) (worker : Nat)
  | finish (generation : GenerationRef) (worker : Nat)
  | leave (index worker : Nat)
  /-- A stop returns. -/
  | join (index : Nat)
deriving DecidableEq, Repr

namespace WorkerPool

variable {α : Type}

/-- The number of workers of a pool unless another one is wanted. -/
def defaultSize : Nat := 2

/-- A pool that is not running.  It has at least one worker. -/
def ofSize (size : Nat) : WorkerPool α := ⟨max size 1, none, [], [], 0⟩

/-- Whether a pool is running. -/
def isRunning (p : WorkerPool α) : Bool := p.running.isSome

/-- Makes workers, unless the pool is running.  All of them can be made. -/
def start (p : WorkerPool α) : WorkerPool α :=
  if p.isRunning then p else { p with running := some (.fresh p.size) }

/-- Queues a job, if the pool is running. -/
def submit? (p : WorkerPool α) (job : α) : Option (WorkerPool α) := do
  let g ← (← p.running).submit? job
  return { p with running := some g }

/-- Takes the running generation, which gets no more jobs. -/
def close (p : WorkerPool α) : WorkerPool α :=
  { p with running := none, closing := p.closing ++ p.running.toList }

/-- A generation of the pool. -/
def generation? (p : WorkerPool α) : GenerationRef → Option (Generation α)
  | .running => p.running
  | .closing index => p.closing[index]?

/-- Replaces a generation of the pool. -/
def withGeneration (p : WorkerPool α) (ref : GenerationRef) (g : Generation α) : WorkerPool α :=
  match ref with
  | .running => { p with running := some g }
  | .closing index => { p with closing := p.closing.set index g }

/-- A stop returns when no worker of its generation is left. -/
def join? (p : WorkerPool α) (index : Nat) : Option (WorkerPool α) := do
  let g ← p.closing[index]?
  if g.isOver then
    return { p with closing := p.closing.eraseIdx index, deaths := p.deaths + g.deaths }
  else none

/-- The pool after a step, if the step is possible. -/
def step? (kills : α → Bool) (p : WorkerPool α) : PoolStep α → Option (WorkerPool α)
  | .start => some p.start
  | .submit job => p.submit? job
  | .close => some p.close
  | .take ref worker => do return p.withGeneration ref (← (← p.generation? ref).take? worker)
  | .finish ref worker => do
    let (job, g) ← (← p.generation? ref).finish? kills worker
    return { p.withGeneration ref g with finished := job.toList ++ p.finished }
  | .leave index worker => do
    return p.withGeneration (.closing index) (← (← p.closing[index]?).leave? worker)
  | .join index => p.join? index

/-- Closes the pool and waits until the jobs in its queue are done. -/
def stop (kills : α → Bool) (p : WorkerPool α) : WorkerPool α :=
  match p.running with
  | none => p
  | some g =>
    let (finished, g) := g.settle kills g.queue.length p.finished
    { p with running := none, finished := finished, deaths := p.deaths + g.deaths }

/-- What is logged for a dead worker. -/
def deathRecord : LogRecord := ⟨.warn, "Evaluator worker thread panicked"⟩

/-- The log records of the dead workers that the stops have found. -/
def log (p : WorkerPool α) : List LogRecord := List.replicate p.deaths deathRecord

end WorkerPool

end ChartTrace
