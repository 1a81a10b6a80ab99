import Envelope.Clock
import Envelope.Json.Fields

/-!
The rules an engine follows: when keys expire, to what step the creation times of new keys are cut,
what is cached and for how long, and how an expired key is replaced.
-/

namespace Envelope

/-- How an expired key is replaced: by the write that meets it, or later by another process while
writes go on under it. -/
inductive Rotation where
  | inline
  | queued
deriving DecidableEq

/-- Reads a rotation: its name, or an object that maps its name to null. -/
def Rotation.ofValue? (v : Json.Value) : Option Rotation :=
  let named? (name : Option String) : Option Rotation :=
    match name with
    | some "inline" => some .inline
    | some "queued" => some .queued
    | _ => none
  match v with
  | .string spelling => named? (Json.Spelling.text? spelling)
  | .object [(name, .null)] => named? (Json.Spelling.text? name)
  | _ => none

structure Policy where
  /-- How long a key lives; none if it never expires. -/
  lifetime : Option Duration
  systemPrecision : Duration
  intermediatePrecision : Duration
  /-- How long a cached key is used before its record is read again. -/
  revokeCheck : Duration
  cachesSystemKeys : Bool
  cachesIntermediateKeys : Bool
  cachesSessions : Bool
  sessionLimit : Nat
  /-- How long an unused session stays cached. -/
  sessionExpiry : Duration
  notifiesSystem : Bool
  notifiesIntermediate : Bool
  rotation : Rotation
deriving DecidableEq

namespace Policy

/-- No limit: the largest 64-bit number. -/
def unlimited : Nat := 18446744073709551615

/-- Keys never expire and cached keys are never read again. -/
def never : Policy where
  lifetime := none
  systemPrecision := .ofMinutes 1
  intermediatePrecision := .ofMinutes 1
  revokeCheck := .max
  cachesSystemKeys := true
  cachesIntermediateKeys := true
  cachesSessions := false
  sessionLimit := unlimited
  sessionExpiry := .max
  notifiesSystem := false
  notifiesIntermediate := false
  rotation := .inline

/-- Keys expire after a number of days; creation times are whole minutes. -/
def expiring (days : UInt32) : Policy where
  lifetime := some (.ofDays days)
  systemPrecision := .ofMinutes 1
  intermediatePrecision := .ofMinutes 1
  revokeCheck := .ofMinutes 60
  cachesSystemKeys := true
  cachesIntermediateKeys := true
  cachesSessions := false
  sessionLimit := 1000
  sessionExpiry := .ofMinutes 120
  notifiesSystem := false
  notifiesIntermediate := false
  rotation := .inline

/-- A key is expired once its lifetime is over; an end outside the legal range never comes. -/
def IsExpired (p : Policy) (now created : Time) : Prop :=
  ∃ lifetime ∈ p.lifetime, ∃ expiry ∈ created.add? lifetime, expiry < now

instance (p : Policy) (now created : Time) : Decidable (p.IsExpired now created) :=
  decidable_of_iff (((p.lifetime.bind created.add?).any (· < now)) = true) <| by
    simp [IsExpired, Option.any_eq_true, Option.bind_eq_some_iff]
    grind

/-- The creation time of a system key made now. -/
def systemStamp (p : Policy) (now : Time) : Stamp := now.floorTo p.systemPrecision

/-- The creation time of an intermediate key made now. -/
def intermediateStamp (p : Policy) (now : Time) : Stamp := now.floorTo p.intermediatePrecision

end Policy

end Envelope
