import Envelope.KeyService.KeyEnvelope
import Envelope.KeyService.Region

/-!
The key management service that wraps system keys: a master key in memory, or master keys in one
or more regions.

A regional service wraps a key once under a fresh data key and the data key under every region, so
that any one region is enough to unwrap. All regions have to take part in wrapping.
-/

namespace Envelope

inductive KeyService where
  | master (key : Key)
  /-- The regions in the order they are tried. -/
  | regional (regions : List Region)

namespace KeyService

/-- The service of a master key, which must have 32 bytes. -/
def ofMaster (secret : Bytes) (now : Time) : Except Error KeyService :=
  match Key.ofBytes secret now.stamp false with
  | .ok key => .ok (.master key)
  | .error _ => .error (.invalidArgument .masterKeyLength)

/-- The service of one or more regions: those of the preferred name come first, and otherwise the
order stays. -/
def ofRegions (regions : List Region) (preferred : String) : Except Error KeyService :=
  if regions.isEmpty then .error (.invalidArgument .noRegions)
  else .ok (.regional (regions.filter (·.name = preferred) ++ regions.filter (·.name ≠ preferred)))

/-- The names of the regions in the order they are tried. -/
def regionNames? : KeyService → Option (List String)
  | .master _ => none
  | .regional regions => some (regions.map (·.name))

/-! ### Wrapping -/

/-- The first data key that a region generates, with the place of the region. -/
def generateDataKey (place : Nat) : List Region → Effect (Nat × DataKey)
  | [] => throw (.keyService .noRegionGenerates)
  | r :: rest => do
    match ← r.generate with
    | .ok dataKey => return (place, dataKey)
    | .error e =>
      Effect.emit (.generateFailed r.name r.arn e)
      generateDataKey (place + 1) rest

/-- The data key as each region wraps it; the region that generated it already has. -/
def wrapDataKey (origin : Nat) (dataKey : DataKey) (place : Nat) :
    List Region → Effect (List WrappedDataKey)
  | [] => return []
  | r :: rest => do
    let ciphertext ← if place = origin then pure dataKey.ciphertext else do
      match ← r.encrypt dataKey.plaintext with
      | .ok ciphertext => pure ciphertext
      | .error e =>
        Effect.emit (.regionWrapFailed r.name r.arn e)
        throw (.keyService (.regionCannotWrap r.name))
    let more ← wrapDataKey origin dataKey (place + 1) rest
    return ⟨r.name, r.arn, Base64.encodeText ciphertext⟩ :: more

def wrapRegional (regions : List Region) (key : Key) : Effect Bytes := do
  let (origin, dataKey) ← generateDataKey 0 regions
  let outer ← match Key.ofBytes dataKey.plaintext key.created false with
    | .ok outer => pure outer
    | .error fault => throw (.keyService (.unusableDataKey fault))
  let wrapped ← match ← Effect.sealing (outer.wrap key).attempt with
    | .ok wrapped => pure wrapped
    | .error fault => throw (.keyService (.wrapFailed fault))
  let dataKeys ← wrapDataKey origin dataKey 0 regions
  return (KeyEnvelope.mk (Base64.encodeText wrapped) dataKeys).toJson

/-- Wraps a key. -/
def wrap (service : KeyService) (key : Key) : Effect Bytes :=
  match service with
  | .master outer => Effect.sealing (outer.wrap key)
  | .regional regions => wrapRegional regions key

/-! ### Unwrapping -/

/-- The key that a region unwraps, if it can. -/
def unwrapIn (r : Region) (envelope : KeyEnvelope) (wrapped : Bytes) (created : Stamp)
    (revoked : Bool) : Effect (Option Key) := do
  match envelope.dataKey? r.name with
  | none => return none
  | some dataKey =>
    match Base64.decodeText dataKey.ciphertext with
    | none =>
      Effect.emit (.keyNotBase64 r.name)
      return none
    | some ciphertext =>
      match ← r.decrypt dataKey.arn ciphertext with
      | .error e =>
        Effect.emit (.regionDecryptFailed r.name dataKey.arn e)
        return none
      | .ok plaintext =>
        match Key.ofBytes plaintext created false >>= (·.unwrap wrapped created revoked) with
        | .ok key =>
          Effect.emit (.keyUnwrapped r.name)
          return some key
        | .error fault =>
          Effect.emit (.unwrapFailed r.name fault)
          return none

/-- The key that the first region that can unwraps. -/
def unwrapAny (envelope : KeyEnvelope) (wrapped : Bytes) (created : Stamp) (revoked : Bool) :
    List Region → Effect Key
  | [] => throw (.keyService .noRegionDecrypts)
  | r :: rest => do
    match ← unwrapIn r envelope wrapped created revoked with
    | some key => return key
    | none => unwrapAny envelope wrapped created revoked rest

def unwrapRegional (regions : List Region) (blob : Bytes) (created : Stamp) (revoked : Bool) :
    Effect Key := do
  let envelope ← Action.ofExcept (KeyEnvelope.ofJson blob)
  let wrapped ← Action.ofExcept envelope.keyBytes
  unwrapAny envelope wrapped created revoked regions

/-- Unwraps a key, which gets the creation time and the revocation given. -/
def unwrap (service : KeyService) (blob : Bytes) (created : Stamp) (revoked : Bool) :
    Effect Key :=
  match service with
  | .master outer => Effect.opened (outer.unwrap blob created revoked)
  | .regional regions => unwrapRegional regions blob created revoked

/-! ### Calls on the service -/

/-- A call to wrap, unless a planned failure meets it. -/
def callWrap (service : KeyService) (key : Key) : Effect Bytes := do
  Effect.note (.wrap key.created)
  match ← Effect.nextWrapFault with
  | some e => throw e
  | none => service.wrap key

/-- A call to unwrap, unless a planned failure meets it. -/
def callUnwrap (service : KeyService) (blob : Bytes) (created : Stamp) (revoked : Bool) :
    Effect Key := do
  Effect.note (.unwrap created revoked)
  match ← Effect.nextUnwrapFault with
  | some e => throw e
  | none => service.unwrap blob created revoked

end KeyService

end Envelope
