/-!
Instants, creation times and durations.

An instant counts nanoseconds since the epoch within the legal calendar range. A creation time,
as key records carry it, is a legal whole second. `Time.stamp` cuts an instant down to one and
`Time.floorTo` cuts it down to a multiple of a step.
-/

namespace Envelope

/-- A legal instant, in nanoseconds since the epoch. -/
structure Time where
  nanos : Int
  first_le : -8334601228800 * 1000000000 ≤ nanos
  lt_end : nanos < 8210266876800 * 1000000000
deriving DecidableEq

/-- A legal whole second since the epoch: the creation time of a key. -/
structure Stamp where
  seconds : Int
  first_le : -8334601228800 ≤ seconds
  lt_end : seconds < 8210266876800
deriving DecidableEq

/-- A span of time in nanoseconds, at most 2^64 - 1 seconds and a fraction. -/
structure Duration where
  nanos : Nat
  le_max : nanos ≤ 18446744073709551615999999999
deriving DecidableEq

namespace Time

@[ext] theorem ext {a b : Time} (h : a.nanos = b.nanos) : a = b := by
  cases a; cases b; cases h; rfl

instance : LT Time := ⟨fun a b => a.nanos < b.nanos⟩
instance : LE Time := ⟨fun a b => a.nanos ≤ b.nanos⟩
instance (a b : Time) : Decidable (a < b) := inferInstanceAs (Decidable (a.nanos < b.nanos))
instance (a b : Time) : Decidable (a ≤ b) := inferInstanceAs (Decidable (a.nanos ≤ b.nanos))

theorem lt_iff {a b : Time} : a < b ↔ a.nanos < b.nanos := Iff.rfl
theorem le_iff {a b : Time} : a ≤ b ↔ a.nanos ≤ b.nanos := Iff.rfl

/-- The first legal instant. -/
def first : Time := ⟨-8334601228800 * 1000000000, by decide, by decide⟩

/-- The last legal instant. -/
def last : Time := ⟨8210266876800 * 1000000000 - 1, by decide, by decide⟩

/-- The instant that many nanoseconds after the epoch, if it is legal. -/
def ofNanos? (n : Int) : Option Time :=
  if h : -8334601228800 * 1000000000 ≤ n ∧ n < 8210266876800 * 1000000000 then
    some ⟨n, h.1, h.2⟩
  else none

/-- The instant a duration later, if it is legal. -/
def add? (t : Time) (d : Duration) : Option Time := ofNanos? (t.nanos + d.nanos)

/-- Whole seconds since the epoch, rounded toward the past. -/
def seconds (t : Time) : Int := t.nanos / 1000000000

/-- Nanoseconds since the last whole second. -/
def subsecond (t : Time) : Int := t.nanos % 1000000000

/-- The instant cut down to its whole second. -/
def stamp (t : Time) : Stamp where
  seconds := t.seconds
  first_le := by have := t.first_le; simp only [seconds]; omega
  lt_end := by have := t.lt_end; simp only [seconds]; omega

end Time

namespace Stamp

@[ext] theorem ext {a b : Stamp} (h : a.seconds = b.seconds) : a = b := by
  cases a; cases b; cases h; rfl

instance : LT Stamp := ⟨fun a b => a.seconds < b.seconds⟩
instance : LE Stamp := ⟨fun a b => a.seconds ≤ b.seconds⟩
instance (a b : Stamp) : Decidable (a < b) := inferInstanceAs (Decidable (a.seconds < b.seconds))
instance (a b : Stamp) : Decidable (a ≤ b) := inferInstanceAs (Decidable (a.seconds ≤ b.seconds))

theorem lt_iff {a b : Stamp} : a < b ↔ a.seconds < b.seconds := Iff.rfl
theorem le_iff {a b : Stamp} : a ≤ b ↔ a.seconds ≤ b.seconds := Iff.rfl

/-- The creation time that many seconds after the epoch, if it is legal. -/
def ofSeconds? (s : Int) : Option Stamp :=
  if h : -8334601228800 ≤ s ∧ s < 8210266876800 then some ⟨s, h.1, h.2⟩ else none

@[simp] theorem ofSeconds?_seconds (s : Stamp) : ofSeconds? s.seconds = some s := by
  simp [ofSeconds?, s.first_le, s.lt_end]

theorem ofSeconds?_eq_some_iff {n : Int} {s : Stamp} : ofSeconds? n = some s ↔ n = s.seconds := by
  constructor
  · intro h
    unfold ofSeconds? at h
    split at h <;> simp_all
    exact (congrArg Stamp.seconds h)
  · rintro rfl
    simp

/-- The instant at which the second begins. -/
def time (s : Stamp) : Time where
  nanos := s.seconds * 1000000000
  first_le := by have := s.first_le; omega
  lt_end := by have := s.lt_end; omega

@[simp] theorem stamp_time (s : Stamp) : s.time.stamp = s := by
  apply Stamp.ext
  simp only [Time.stamp, Time.seconds, time]
  omega

theorem time_lt_time {a b : Stamp} : a.time < b.time ↔ a < b := by
  simp only [Time.lt_iff, lt_iff, time]
  omega

theorem time_inj {a b : Stamp} : a.time = b.time ↔ a = b :=
  ⟨fun h => by rw [← stamp_time a, h, stamp_time], fun h => h ▸ rfl⟩

end Stamp

namespace Duration

@[ext] theorem ext {a b : Duration} (h : a.nanos = b.nanos) : a = b := by
  cases a; cases b; cases h; rfl

/-- The longest duration. -/
def max : Duration := ⟨18446744073709551615999999999, Nat.le_refl _⟩

def ofNanos? (n : Nat) : Option Duration :=
  if h : n ≤ 18446744073709551615999999999 then some ⟨n, h⟩ else none

def ofMinutes (m : UInt32) : Duration where
  nanos := m.toNat * 60000000000
  le_max := by have := m.toNat_lt; omega

def ofDays (d : UInt32) : Duration where
  nanos := d.toNat * 86400000000000
  le_max := by have := d.toNat_lt; omega

/-- Whole seconds, rounded down. -/
def seconds (d : Duration) : Nat := d.nanos / 1000000000

end Duration

/-- The creation time that an instant is cut down to when times are kept to multiples of a step.

The step is the whole seconds of the precision read as a signed 64-bit number. A step that is not
positive, or a multiple that is not legal, leaves the whole second. -/
def Time.floorTo (t : Time) (precision : Duration) : Stamp :=
  let step := (precision.seconds : Int).bmod 18446744073709551616
  if step ≤ 0 then t.stamp
  else (Stamp.ofSeconds? (t.seconds - t.seconds % step)).getD t.stamp

end Envelope
