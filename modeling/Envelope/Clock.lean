import Envelope.Time

/-!
The two clocks a program reads: the wall clock, which names instants and may be set, and the
elapsed time since the start, which only grows.
-/

namespace Envelope

structure Clock where
  wall : Time
  /-- Nanoseconds since the start. -/
  elapsed : Nat
deriving DecidableEq

namespace Clock

def start (now : Time) : Clock := ⟨now, 0⟩

/-- Both clocks a duration later. The wall clock stays at the last legal instant once it is there,
until it is set; elapsed time has no end. -/
def advance (c : Clock) (d : Duration) : Clock :=
  ⟨(c.wall.add? d).getD .last, c.elapsed + d.nanos⟩

/-- Another wall time, with nothing elapsed. -/
def setWall (c : Clock) (now : Time) : Clock := { c with wall := now }

/-- The wall clock shows the epoch or a later time. -/
def IsSinceEpoch (c : Clock) : Prop := 0 ≤ c.wall.nanos

instance (c : Clock) : Decidable c.IsSinceEpoch := inferInstanceAs (Decidable (_ ≤ _))

end Clock

end Envelope
