import Envelope.KeyCache

/-!
A key cache together with the keys it has handed out.

A key in the cache is shared with those who hold it: a revocation reaches them all. It is told
from others by its time, and stays shared when the cache is disposed. A key that a disposed cache
gave back belongs to its holder alone.
-/

namespace Envelope.KeyCache

/-- Which key a holder has. -/
inductive Handle where
  /-- The key that the cache keeps, or kept until it was disposed, at a time. -/
  | shared (t : Time)
  /-- A key that was given back and not kept, by its number. -/
  | loose (n : Nat)
deriving DecidableEq

structure Handout where
  elapsed : Nat
  cache : KeyCache
  /-- The keys that the cache held when it was disposed. -/
  retired : Timeline CachedKey
  loose : List Key

namespace Handout

def ofPeriod (revokeCheck : Duration) : Handout := ⟨0, .empty revokeCheck, ∅, []⟩

/-- The key as it is now. -/
def key? (h : Handout) : Handle → Option Key
  | .shared t => (if h.cache.isDisposed then h.retired else h.cache.entries).get? t |>.map (·.key)
  | .loose n => h.loose[n]?

def put (h : Handout) (t : Time) (key : Key) : Handle × Handout :=
  if h.cache.isDisposed then (.loose h.loose.length, { h with loose := h.loose ++ [key] })
  else (.shared t, { h with cache := (h.cache.put h.elapsed t key).2 })

def get? (h : Handout) (t : Time) : Option Handle :=
  (h.cache.get? h.elapsed t).map fun _ => .shared t

def latest? (h : Handout) : Option Handle :=
  (h.cache.latest? h.elapsed).map fun (t, _) => .shared t

def advance (h : Handout) (d : Duration) : Handout := { h with elapsed := h.elapsed + d.nanos }

/-- Marks a key as revoked, wherever it is held. -/
def revoke (h : Handout) : Handle → Handout
  | .shared t => { h with
      cache := h.cache.revoke t
      retired := h.retired.modify t fun e => { e with key := e.key.revoke } }
  | .loose n => { h with loose := h.loose.modify n Key.revoke }

def dispose (h : Handout) : Handout :=
  if h.cache.isDisposed then h
  else { h with cache := h.cache.dispose, retired := h.cache.entries }

end Handout

end Envelope.KeyCache
