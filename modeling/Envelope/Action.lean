/-!
Computations over a state that may fail. The state a computation has reached stays when it
fails: what was logged, stored or drawn before a failure is not undone.
-/

namespace Envelope

abbrev Action (σ ε α : Type) := ExceptT ε (StateM σ) α

namespace Action

variable {σ τ ε δ α : Type}

/-- The outcome and the state reached. -/
def outcome (a : Action σ ε α) (s : σ) : Except ε α × σ := a.run.run s

/-- A change of the state that returns a value. -/
def ofState (f : σ → α × σ) : Action σ ε α := ExceptT.mk fun s =>
  let (a, s) := f s
  (.ok a, s)

def ofExcept (r : Except ε α) : Action σ ε α := ExceptT.mk fun s => (r, s)

/-- Runs a computation on a part of the state. -/
def zoom (part : σ → τ) (put : τ → σ → σ) (a : Action τ ε α) : Action σ ε α := ExceptT.mk fun s =>
  let (r, t) := a.outcome (part s)
  (r, put t s)

/-- Reports failures in other terms. -/
def mapError (f : ε → δ) (a : Action σ ε α) : Action σ δ α := ExceptT.mk fun s =>
  let (r, s) := a.outcome s
  (r.mapError f, s)

/-- Runs a computation and hands over its outcome, failed or not. -/
def attempt (a : Action σ ε α) : Action σ δ (Except ε α) := ExceptT.mk fun s =>
  let (r, s) := a.outcome s
  (.ok r, s)

end Action

end Envelope
