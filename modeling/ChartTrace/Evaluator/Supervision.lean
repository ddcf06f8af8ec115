import ChartTrace.Evaluator.Pool

namespace ChartTrace

/-!
# Runs that share a pool

Every call runs a program in a process of its own and gives two jobs to a pool that it shares with other calls.
One follows the error output of the process until it closes, the other ends the process when its time is over.
The call itself reads the output until it closes, and then waits for the end of the process.

Two things are told only by what they keep waiting.  The input is written beside the reading, by a thread of
the call, and the reading is over when both are; and error output that is no UTF-8 is not followed further, as
if it had closed.  What is read, written and logged, and errors of the system while waiting, are left out.

* `ProcessRun.step?`: what happens in a run without the pool.
* `SharedRuns.step?`: every step that callers, processes, workers and clocks can make, in any order.
-/

/-- A job that a run gives to the pool. -/
inductive RunJob where
  /-- Follows the error output of the process. -/
  | drain (run : Nat)
  /-- Ends the process when its time is over. -/
  | watchdog (run : Nat)
deriving DecidableEq, Repr

/-- How far a call has come. -/
inductive RunStage where
  /-- The process is started. -/
  | spawned
  /-- The first job is queued. -/
  | drained
  /-- Both jobs are queued, and the output is read. -/
  | reading
  /-- The output has closed, and the process may still be there. -/
  | waiting
  | returned
deriving DecidableEq, Repr

/-- The job that a call queues next, and how far it has come then. -/
def RunStage.queues? (run : Nat) : RunStage → Option (RunJob × RunStage)
  | spawned => some (.drain run, drained)
  | drained => some (.watchdog run, reading)
  | reading | waiting | returned => none

/-- A call and its process. -/
structure ProcessRun where
  stage : RunStage
  /-- Whether the process neither ends nor closes an output unless it is killed. -/
  hangs : Bool
  isAlive : Bool
  /-- Whether the call has to go on reading: the output is open, or some of the input is not taken. -/
  outputOpen : Bool
  /-- Whether the error output is followed: it is open, and what has come of it is UTF-8. -/
  errorsOpen : Bool
  /-- Whether the time of the run is over. -/
  isOverdue : Bool
deriving DecidableEq, Repr

/-- What can happen in a run without the pool. -/
inductive RunEvent where
  /-- The process closes its output, and has taken or closed its input. -/
  | closeOutput
  /-- The process closes its error output, or writes what is no UTF-8 there. -/
  | closeErrors
  | exit
  /-- The time of the run is over. -/
  | expire
  /-- The call stops reading or returns. -/
  | proceed
deriving DecidableEq, Repr

namespace ProcessRun

/-- A call that has just started its process. -/
def spawn (hangs : Bool) : ProcessRun := ⟨.spawned, hangs, true, true, true, false⟩

/-- A run whose process is no longer there. -/
def ended (r : ProcessRun) : ProcessRun :=
  { r with isAlive := false, outputOpen := false, errorsOpen := false }

/-- A run whose call has killed the process and returned. -/
def abort (r : ProcessRun) : ProcessRun := { r.ended with stage := .returned }

/-- Whether the process may do something on its own. -/
def mayAct (r : ProcessRun) : Bool := r.isAlive && !r.hangs

/-- The run after an event, if it is possible. -/
def step? (r : ProcessRun) : RunEvent → Option ProcessRun
  | .closeOutput => if r.mayAct then some { r with outputOpen := false } else none
  | .closeErrors => if r.mayAct then some { r with errorsOpen := false } else none
  | .exit => if r.mayAct then some r.ended else none
  | .expire => some { r with isOverdue := true }
  | .proceed =>
    match r.stage with
    | .reading => if r.outputOpen then none else some { r with stage := .waiting }
    | .waiting =>
      if !r.isAlive then some { r with stage := .returned }
      else if r.isOverdue then some r.abort
      else none
    | _ => none

/-- The end of the first job, which needs the error output to be closed. -/
def drain? (r : ProcessRun) : Option ProcessRun := if r.errorsOpen then none else some r

/-- The end of the second job: either the call has returned, or the time is over and the process is killed. -/
def watch? (r : ProcessRun) : Option ProcessRun :=
  if r.stage = .returned then some r
  else if r.isOverdue then some r.ended
  else none

end ProcessRun

/-- The run that a job belongs to. -/
def RunJob.run : RunJob → Nat
  | drain run | watchdog run => run

/-- What the end of a job does to its run, if the job can end. -/
def RunJob.complete? : RunJob → ProcessRun → Option ProcessRun
  | drain _, r => r.drain?
  | watchdog _, r => r.watch?

/-- Runs and the pool that they share. -/
structure SharedRuns where
  pool : WorkerPool RunJob
  /-- The runs in the order of their calls. -/
  runs : List ProcessRun
deriving DecidableEq, Repr

/-- A step of runs that share a pool. -/
inductive SharedStep where
  | call (hangs : Bool)
  /-- A call queues its next job. -/
  | queue (run : Nat)
  | event (run : Nat) (event : RunEvent)
  | take (worker : Nat)
  | finish (worker : Nat)
deriving DecidableEq, Repr

namespace SharedRuns

/-- A pool that was started, and no calls yet. -/
def initial (size : Nat) : SharedRuns := ⟨(WorkerPool.ofSize size).start, []⟩

/-- Replaces a run. -/
def withRun (s : SharedRuns) (run : Nat) (r : ProcessRun) : SharedRuns :=
  { s with runs := s.runs.set run r }

/-- The runs after a step, if it is possible.  A call whose job is refused gives up. -/
def step? (s : SharedRuns) : SharedStep → Option SharedRuns
  | .call hangs => some { s with runs := s.runs ++ [.spawn hangs] }
  | .queue run => do
    let r ← s.runs[run]?
    let (job, stage) ← r.stage.queues? run
    match s.pool.submit? job with
    | some pool => return { s.withRun run { r with stage := stage } with pool := pool }
    | none => return s.withRun run r.abort
  | .event run event => do return s.withRun run (← (← s.runs[run]?).step? event)
  | .take worker => do
    return { s with pool := ← s.pool.step? (fun _ => false) (.take .running worker) }
  | .finish worker => do
    let job ← (← (← s.pool.running).workers[worker]?).job?
    let r ← job.complete? (← s.runs[job.run]?)
    return { s.withRun job.run r with
      pool := ← s.pool.step? (fun _ => false) (.finish .running worker) }

/-- How many calls have not returned. -/
def inFlight (s : SharedRuns) : Nat := s.runs.countP (·.stage != .returned)

end SharedRuns

end ChartTrace
