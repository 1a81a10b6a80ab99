import Envelope.Key
import Envelope.Timeline

/-!
A cache of decrypted keys by creation time.

A key is handed out only while its last put is younger than the revoke-check period. A put of a
time that is there keeps the first key, renews it and passes a revocation on. Once disposed, a
cache holds nothing and keeps nothing.
-/

namespace Envelope

/-- A key and when it was last put, in nanoseconds of elapsed time. -/
structure CachedKey where
  key : Key
  since : Nat
deriving DecidableEq

structure KeyCache where
  revokeCheck : Duration
  /-- The keys held; none once the cache is disposed. -/
  held : Option (Timeline CachedKey)

namespace KeyCache

def empty (revokeCheck : Duration) : KeyCache := ⟨revokeCheck, some ∅⟩

def entries (c : KeyCache) : Timeline CachedKey := c.held.getD ∅

def size (c : KeyCache) : Nat := c.entries.size

def isEmpty (c : KeyCache) : Bool := c.entries.isEmpty

def isDisposed (c : KeyCache) : Bool := c.held.isNone

/-- The entry may still be used without reading its record again. -/
def IsFresh (c : KeyCache) (now : Nat) (e : CachedKey) : Prop := now - e.since < c.revokeCheck.nanos

instance (c : KeyCache) (now : Nat) (e : CachedKey) : Decidable (c.IsFresh now e) :=
  inferInstanceAs (Decidable (_ < _))

/-- The key of a time, if it is held and fresh. -/
def get? (c : KeyCache) (now : Nat) (t : Time) : Option Key :=
  ((c.entries.get? t).filter (c.IsFresh now ·)).map (·.key)

/-- The key of the greatest time held, if it is fresh. -/
def latest? (c : KeyCache) (now : Nat) : Option (Time × Key) :=
  (c.entries.latest?.filter (c.IsFresh now ·.2)).map fun (t, e) => (t, e.key)

/-- Puts a key at a time and returns the key to use for it. -/
def put (c : KeyCache) (now : Nat) (t : Time) (key : Key) : Key × KeyCache :=
  match c.held with
  | none => (key, c)
  | some l =>
    match l.get? t with
    | none => (key, { c with held := some (l.insertIfNew t ⟨key, now⟩) })
    | some e =>
      let kept := if key.revoked then e.key.revoke else e.key
      (kept, { c with held := some (l.modify t fun _ => ⟨kept, now⟩) })

/-- Marks the key of a time as revoked. -/
def revoke (c : KeyCache) (t : Time) : KeyCache :=
  { c with held := c.held.map (·.modify t fun e => { e with key := e.key.revoke }) }

def dispose (c : KeyCache) : KeyCache := { c with held := none }

end KeyCache

end Envelope
