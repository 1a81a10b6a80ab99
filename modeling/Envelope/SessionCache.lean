import Envelope.Time

/-!
The session cache: one engine for each partition id, bounded in number, least recently used out
first, and dropped when idle.

The sessions stand in the order of their last use, the latest first. What is left open otherwise
is fixed by that order: in which order several idle sessions go, and which of several that were last
used at one time is the least recently used. Nobody may rely on either.
-/

namespace Envelope

/-- A partition id, the number of its engine, and when it was last asked for. -/
structure CachedSession where
  partition : String
  engine : Nat
  lastUsed : Nat
deriving DecidableEq

structure SessionCache where
  /-- At most this many sessions are kept; none at all if it is zero. -/
  limit : Nat
  /-- A session not asked for during this time is dropped. -/
  expiry : Duration
  sessions : List CachedSession
deriving DecidableEq

/-- The answer to a request for a session, and the sessions that had to go. -/
structure Admission where
  engine : Nat
  /-- The engine is the fresh one that was offered. -/
  isNew : Bool
  idle : List CachedSession
  oldest : Option CachedSession
  cache : SessionCache
deriving DecidableEq

namespace SessionCache

def empty (limit : Nat) (expiry : Duration) : SessionCache := ⟨limit, expiry, []⟩

def size (c : SessionCache) : Nat := c.sessions.length

/-- The session was asked for recently enough to stay. -/
def IsAlive (c : SessionCache) (now : Nat) (s : CachedSession) : Prop :=
  now - s.lastUsed < c.expiry.nanos

instance (c : SessionCache) (now : Nat) (s : CachedSession) : Decidable (c.IsAlive now s) :=
  inferInstanceAs (Decidable (_ < _))

/-- The engine of a partition, or the fresh one. Idle sessions go first; if there is still no room
for a new session, the least recently used one goes. That the idle ones go in the order they stand
in, and that the last goes among those last used at one time, is a choice made here. -/
def request (c : SessionCache) (now : Nat) (partition : String) (fresh : Nat) : Admission :=
  if c.limit = 0 then ⟨fresh, true, [], none, c⟩
  else
    let alive := c.sessions.filter (c.IsAlive now ·)
    let idle := c.sessions.filter (¬ c.IsAlive now ·)
    match alive.find? (·.partition = partition) with
    | some s =>
      let others := alive.filter (·.partition ≠ partition)
      ⟨s.engine, false, idle, none, { c with sessions := { s with lastUsed := now } :: others }⟩
    | none =>
      let kept := if c.limit ≤ alive.length then alive.dropLast else alive
      let oldest := if c.limit ≤ alive.length then alive.getLast? else none
      ⟨fresh, true, idle, oldest, { c with sessions := ⟨partition, fresh, now⟩ :: kept }⟩

/-- The same cache without its sessions. -/
def clear (c : SessionCache) : SessionCache := { c with sessions := [] }

end SessionCache

end Envelope
