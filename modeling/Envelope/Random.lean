import Envelope.Bytes

/-!
A reproducible stream of random bytes: the SplitMix64 generator, each 64-bit output written
lowest byte first. Bytes of an output that a draw leaves over go to the next draw.
-/

namespace Envelope

structure Random where
  state : UInt64
  /-- Bytes already produced and not yet drawn. -/
  pending : Bytes
deriving DecidableEq

namespace Random

def ofSeed (seed : UInt64) : Random := ⟨seed, []⟩

/-- The output that belongs to a state of the generator. -/
def output (state : UInt64) : UInt64 :=
  let z := (state ^^^ (state >>> 30)) * 0xbf58476d1ce4e5b9
  let z := (z ^^^ (z >>> 27)) * 0x94d049bb133111eb
  z ^^^ (z >>> 31)

/-- The state moves by a constant before each output. -/
def advance (state : UInt64) : UInt64 := state + 0x9e3779b97f4a7c15

/-- The bytes of the next `n` outputs, and the state after them. -/
def outputs : Nat → UInt64 → Bytes × UInt64
  | 0, state => ([], state)
  | n + 1, state =>
    let state := advance state
    let (rest, last) := outputs n state
    (Bytes.ofNat 8 (output state).toNat ++ rest, last)

theorem length_outputs (n : Nat) (state : UInt64) : (outputs n state).1.length = 8 * n := by
  induction n generalizing state with
  | zero => rfl
  | succ n ih => simp [outputs, ih]; omega

/-- The next `n` bytes of the stream, and the rest of it. -/
def draw (n : Nat) (r : Random) : Bytes × Random :=
  let (more, state) := outputs ((n - r.pending.length + 7) / 8) r.state
  let available := r.pending ++ more
  (available.take n, ⟨state, available.drop n⟩)

@[simp] theorem length_draw (n : Nat) (r : Random) : (r.draw n).1.length = n := by
  simp only [draw, List.length_take, List.length_append, length_outputs]
  omega

end Random

end Envelope
