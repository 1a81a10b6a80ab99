import Envelope.Trial
import Envelope.Trial.Launch

/-!
A process that executes a trial, and what it shows: a log, complaints on the error stream, and an
exit code.

A trial may be at any time of the calendar, since what `Effect.now` reads is an input. But a process
has to take the reading first, and it cannot read a wall clock that shows a time before the epoch.
There it stops, and it is only here that a reading fails. Main statement: with clocks that never
show such a time, the trial of an execution is the whole trial.
-/

namespace Envelope.Trial

/-- The lines that tell why a trial failed: what it was doing, and then the causes. -/
def Fault.complaints (f : Fault) : List String :=
  match f.chain.tail with
  | [] => ["Error: " ++ f.message]
  | [cause] => ["Error: " ++ f.message, "", "Caused by:", "    " ++ cause]
  | causes =>
    ["Error: " ++ f.message, "", "Caused by:"] ++
      causes.mapIdx fun i cause => "    " ++ toString i ++ ": " ++ cause

/-- The next operation reads the wall clock: sealing does, opening does not. -/
def State.ReadsWall (s : State) : Prop :=
  match s.phase with
  | .encrypting _ => True
  | _ => False

instance (s : State) : Decidable s.ReadsWall := by
  unfold State.ReadsWall
  split <;> infer_instance

/-- A trial, and whether its process still goes on. -/
structure Execution where
  trial : State
  /-- The process had to stop, and the trial goes no further. -/
  hasStopped : Bool

namespace Execution

/-- The start of a trial. A fixed master key is dated by the wall clock; regions are not. -/
def start (settings : Settings) (client : RegionKey → RegionClient) (clock : Clock)
    (random : Random) : Execution :=
  if settings.masterKeySource = .fixed ∧ ¬ clock.IsSinceEpoch then
    ⟨prepare settings clock random, true⟩
  else ⟨Trial.start settings client clock random, false⟩

/-- The next operation of the trial. A process that has to stop instead disposes the factory. -/
def step (e : Execution) (clock : Clock) : Execution :=
  if e.hasStopped then e
  else if e.trial.ReadsWall ∧ ¬ clock.IsSinceEpoch then ⟨e.trial.dispose, true⟩
  else ⟨e.trial.step clock, false⟩

/-- The exit code, once there is one. -/
def exitCode? (e : Execution) : Option Nat :=
  if e.hasStopped then some stopCode
  else
    e.trial.outcome?.map fun
      | .ok () => 0
      | .error _ => 1

/-- The lines that tell why the trial failed, if it has. -/
def complaints (e : Execution) : List String :=
  match e.hasStopped, e.trial.outcome? with
  | false, some (.error f) => f.complaints
  | _, _ => []

/-- At most so many further operations, the first at the clock's reading of that number. -/
def advance (clocks : Nat → Clock) (reading : Nat) : Nat → Execution → Execution
  | 0, e => e
  | n + 1, e =>
    if e.exitCode?.isSome then e else advance clocks (reading + 1) n (e.step (clocks reading))

/-- A whole execution, given what the clock reads at the start and before each operation. -/
def run (settings : Settings) (client : RegionKey → RegionClient) (clocks : Nat → Clock)
    (random : Random) : Execution :=
  advance clocks 1 (2 * settings.iterations.toNat) (start settings client (clocks 0) random)

theorem advance_running {clocks : Nat → Clock} (h : ∀ n, (clocks n).IsSinceEpoch) (reading n : Nat)
    (s : State) :
    advance clocks reading n ⟨s, false⟩ = ⟨Trial.advance clocks reading n s, false⟩ := by
  induction n generalizing reading s with
  | zero => rfl
  | succ n ih =>
    cases hp : s.phase <;>
      simp [advance, Trial.advance, exitCode?, State.outcome?, step, hp, h reading, ih]

theorem run_eq {clocks : Nat → Clock} (h : ∀ n, (clocks n).IsSinceEpoch) (settings : Settings)
    (client : RegionKey → RegionClient) (random : Random) :
    run settings client clocks random = ⟨Trial.run settings client clocks random, false⟩ := by
  simp [run, Trial.run, start, h 0, advance_running h]

end Execution

/-- What a process shows. -/
structure Report where
  exitCode : Nat
  complaints : List String
  log : List Entry
deriving DecidableEq

/-- A whole process. -/
def report (vars : Variables) (client : RegionKey → RegionClient) (clocks : Nat → Clock)
    (random : Random) : Report :=
  match Launch.ofVariables vars with
  | .error refusal => ⟨refusal.exitCode, refusal.complaints, []⟩
  | .ok launch =>
    let e := Execution.run launch.settings client clocks random
    ⟨e.exitCode?.getD 0, launch.complaints ++ e.complaints, launch.shown e.trial.log⟩

end Envelope.Trial
