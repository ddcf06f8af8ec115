import ChartTrace.Evaluator.Evaluation

namespace ChartTrace

/-!
# Programs

What an evaluator program does when it is run, as far as its caller can see.

* `Program`: a delay, what is read and printed, and how the program ends.
* `Program.run`: what a caller gets that waits for a limited time.
* `Program.reads?`: what the program has read by then.
-/

/-- How a program ends. -/
inductive Ending where
  | exit (code : Int)
  | signal (number : Nat)
deriving DecidableEq, Repr

/-- The exit code, unless a signal ended the program. -/
def Ending.exitCode? : Ending → Option Int
  | exit code => some code
  | signal _ => none

/-- The behaviour of a program. -/
structure Program where
  /-- Milliseconds before the program does anything. -/
  delay : Nat
  /-- Whether its output is open from the start. -/
  opensOutput : Bool
  /-- Whether it reads all of its input. -/
  readsInput : Bool
  /-- Whether it prints its input. -/
  echoes : Bool
  /-- What it prints then. -/
  stdout : Bytes
  ending : Ending
deriving DecidableEq, Repr

namespace Program

/-- Whether a caller with this many workers stops the program after `limit` milliseconds.  A program takes longer
than its delay.  The first worker follows the error output until it closes; with no second one nothing ends a wait
for the output. -/
def isStopped (p : Program) (limit workers : Nat) : Bool :=
  limit ≤ p.delay && (!p.opensOutput || 1 < workers)

/-- What the program has read when its run is over. -/
def reads? (p : Program) (limit workers : Nat) (input : Bytes) : Option Bytes :=
  if p.readsInput && !p.isStopped limit workers then some input else none

/-- What a caller gets who feeds `input` to the program and waits at most `limit` milliseconds. -/
def run (p : Program) (name : String) (limit workers : Nat) (input : Bytes) :
    Except EvaluationError ProcessOutput :=
  if p.isStopped limit workers then .error (.process (.timedOut name))
  else .ok ⟨(if p.readsInput && p.echoes then input else []) ++ p.stdout, p.ending.exitCode?⟩

end Program

end ChartTrace
