import Envelope.DataRow
import Envelope.KeyCache
import Envelope.KeyService
import Envelope.Policy

/-!
The engine of one partition: it seals payloads into data row records and opens them again.

A payload is sealed under a fresh data key, the data key under the latest usable intermediate key,
an intermediate key under a system key, and a system key by the key management service. Writing
creates the keys that are missing or may no longer be used; their creation times are cut to the
steps of the policy, so that writers who create a key at the same time meet at one record of the
store: one insert wins and all others use its key. Reading resolves exactly the keys that a record
names and creates none.
-/

namespace Envelope

structure Engine where
  partition : Partition
  policy : Policy
  service : KeyService

namespace Engine

/-- What one engine works on: an environment and the caches for the two tiers of keys. The system
keys are shared with other engines. -/
structure Workspace where
  environment : Environment
  systemKeys : KeyCache
  intermediateKeys : KeyCache

/-- Computations of an engine. -/
abbrev Work := Action Workspace Error

/-- What happens in the environment leaves the caches alone. -/
def inEnvironment {α : Type} (a : Effect α) : Work α :=
  a.zoom (·.environment) fun e w => { w with environment := e }

instance : MonadLift Effect Work := ⟨inEnvironment⟩

/-! ### Caches -/

/-- How a resolved key of the upper tier turned out. -/
inductive Lookup where
  | found (key : KeyHandle)
  /-- The key is there but may not protect new data. -/
  | unusable
  | notFound

def cachedSystemKey? (t : Time) : Work (Option Key) := Action.ofState fun w =>
  (w.systemKeys.get? w.environment.clock.elapsed t, w)

def latestSystemKey? : Work (Option Key) := Action.ofState fun w =>
  ((w.systemKeys.latest? w.environment.clock.elapsed).map Prod.snd, w)

def cachedIntermediateKey? (t : Time) : Work (Option Key) := Action.ofState fun w =>
  (w.intermediateKeys.get? w.environment.clock.elapsed t, w)

def latestIntermediateKey? : Work (Option Key) := Action.ofState fun w =>
  ((w.intermediateKeys.latest? w.environment.clock.elapsed).map Prod.snd, w)

/-- Caches a system key, if system keys are cached. -/
def retainSystemKey (e : Engine) (key : Key) : Work KeyHandle :=
  if e.policy.cachesSystemKeys then Action.ofState fun w =>
    let (kept, cache) := w.systemKeys.put w.environment.clock.elapsed key.created.time key
    (.cached kept, { w with systemKeys := cache })
  else pure (.owned key)

/-- Caches an intermediate key, if intermediate keys are cached. -/
def retainIntermediateKey (e : Engine) (key : Key) : Work KeyHandle :=
  if e.policy.cachesIntermediateKeys then Action.ofState fun w =>
    let (kept, cache) := w.intermediateKeys.put w.environment.clock.elapsed key.created.time key
    (.cached kept, { w with intermediateKeys := cache })
  else pure (.owned key)

/-! ### Usability -/

/-- Whether a key may protect new data: a revoked key may not, and an expired one only while its
replacement is left to another process. -/
def isUsable (e : Engine) (keyId : String) (created : Stamp) (revoked : Bool) : Effect Bool := do
  if revoked then return false
  else if ¬ e.policy.IsExpired (← Effect.now) created.time then return true
  else
    match e.policy.rotation with
    | .queued =>
      Effect.emit (.rotationDeferred keyId created)
      return true
    | .inline => return false

/-! ### System keys -/

def openSystemRecord (e : Engine) (r : KeyRecord) : Effect Key := do
  let wrapped ← Action.ofExcept r.keyBytes
  e.service.callUnwrap wrapped r.created r.isRevoked

/-- Creates a system key, or takes the one of the writer who was first. -/
def createSystemKey (e : Engine) : Effect Key := do
  let keyId := e.partition.systemKeyId
  let key ← Effect.generateKey (e.policy.systemStamp (← Effect.now))
  let wrapped ← e.service.callWrap key
  if ← Effect.insertRecord keyId (.system key.created wrapped (some false)) then
    Effect.emit (.keyCreated .system keyId key.created)
    return key
  else
    Effect.emit (.raceLost .system keyId)
    match ← Effect.latestRecord keyId with
    | some r => e.openSystemRecord r
    | none => throw (.application (.unresolvedConflict .system keyId))

/-- The latest system key if it may protect new data, else a new one. -/
def latestOrNewSystemKey (e : Engine) : Effect Key := do
  match ← Effect.latestRecord e.partition.systemKeyId with
  | some r =>
    if ← e.isUsable e.partition.systemKeyId r.created r.isRevoked then e.openSystemRecord r
    else e.createSystemKey
  | none => e.createSystemKey

/-- The system key that new data is protected by. -/
def systemKeyForWrite (e : Engine) : Work KeyHandle := do
  let resolve : Work KeyHandle := do e.retainSystemKey (← e.latestOrNewSystemKey)
  if e.policy.cachesSystemKeys then
    match ← latestSystemKey? with
    | some key =>
      if ← e.isUsable e.partition.systemKeyId key.created key.revoked then
        return .cached key
      else resolve
    | none => resolve
  else resolve

/-- Only keys under the engine's own id are cached: a cache tells keys apart by time alone. -/
def cachesSystemKey (e : Engine) (pointer : KeyMeta) : Bool :=
  e.policy.cachesSystemKeys && pointer.keyId == e.partition.systemKeyId

/-- Loads the system key that a pointer names. -/
def loadSystemKey (e : Engine) (pointer : KeyMeta) (forWrite : Bool) : Work Lookup := do
  match ← Effect.loadRecord pointer with
  | none => return .notFound
  | some r =>
    let usable ← if forWrite then e.isUsable pointer.keyId r.created r.isRevoked else pure true
    if usable then
      let key ← e.openSystemRecord r
      if e.cachesSystemKey pointer then return .found (← e.retainSystemKey key)
      else return .found (.owned key)
    else return .unusable

/-- The system key that a pointer names; for a write it must be one that may protect new data. -/
def systemKey (e : Engine) (pointer : KeyMeta) (forWrite : Bool) : Work Lookup := do
  if e.cachesSystemKey pointer then
    match ← cachedSystemKey? pointer.created.time with
    | some key =>
      let usable ← if forWrite then e.isUsable pointer.keyId key.created key.revoked else pure true
      if usable then return .found (.cached key) else return .unusable
    | none => e.loadSystemKey pointer forWrite
  else e.loadSystemKey pointer forWrite

/-- The system key that a record being read needs. -/
def systemKeyForRead (e : Engine) (pointer : KeyMeta) : Work KeyHandle := do
  match ← e.systemKey pointer false with
  | .found handle =>
    if e.policy.notifiesSystem then
      if e.policy.IsExpired (← Effect.now) handle.key.created.time then
        Effect.emit (.expiredKeyRead .system pointer.keyId handle.key.created)
    return handle
  | _ => throw (.metadataMissing (.systemKey pointer))

/-! ### Intermediate keys -/

def openIntermediateRecord (r : KeyRecord) (systemKey : Key) : Effect Key := do
  let wrapped ← Action.ofExcept r.keyBytes
  Effect.opened (systemKey.unwrap wrapped r.created r.isRevoked)

/-- The key of the latest intermediate record after a lost insert. -/
def reloadIntermediateKey (e : Engine) : Work Key := do
  let keyId := e.partition.intermediateKeyId
  match ← Effect.latestRecord keyId with
  | none => throw (.application (.unresolvedConflict .intermediate keyId))
  | some r =>
    match r.parent with
    | none => throw (.metadataMissing (.orphan keyId))
    | some pointer =>
      let systemKey ← e.systemKeyForRead pointer
      openIntermediateRecord r systemKey.key

/-- Creates an intermediate key, or takes the one of the writer who was first. -/
def createIntermediateKey (e : Engine) : Work Key := do
  let keyId := e.partition.intermediateKeyId
  let key ← Effect.generateKey (e.policy.intermediateStamp (← Effect.now))
  let systemKey ← e.systemKeyForWrite
  let wrapped ← Effect.sealing (systemKey.key.wrap key)
  let pointer := ⟨e.partition.systemKeyId, systemKey.key.created⟩
  if ← Effect.insertRecord keyId (.intermediate key.created wrapped (some false) pointer) then
    Effect.emit (.keyCreated .intermediate keyId key.created)
    return key
  else
    Effect.emit (.raceLost .intermediate keyId)
    e.reloadIntermediateKey

/-- The key of the latest intermediate record if it and its parent may protect new data, else a
new one. -/
def latestOrNewIntermediateKey (e : Engine) : Work Key := do
  let keyId := e.partition.intermediateKeyId
  match ← Effect.latestRecord keyId with
  | none => e.createIntermediateKey
  | some r =>
    if ← e.isUsable keyId r.created r.isRevoked then
      match r.parent with
      | none =>
        Effect.emit (.latestHasNoParent keyId)
        e.createIntermediateKey
      | some pointer =>
        match ← e.systemKey pointer true with
        | .found systemKey => openIntermediateRecord r systemKey.key
        | .unusable =>
          Effect.emit (.parentUnusable keyId pointer)
          e.createIntermediateKey
        | .notFound =>
          Effect.emit (.parentNotFound keyId pointer)
          e.createIntermediateKey
    else e.createIntermediateKey

/-- The intermediate key that new data is protected by. -/
def intermediateKeyForWrite (e : Engine) : Work KeyHandle := do
  let resolve : Work KeyHandle := do e.retainIntermediateKey (← e.latestOrNewIntermediateKey)
  if e.policy.cachesIntermediateKeys then
    match ← latestIntermediateKey? with
    | some key =>
      if ← e.isUsable e.partition.intermediateKeyId key.created key.revoked then
        return .cached key
      else resolve
    | none => resolve
  else resolve

def loadIntermediateKey (e : Engine) (pointer : KeyMeta) : Work Key := do
  match ← Effect.loadRecord pointer with
  | none => throw (.metadataMissing (.intermediateKey pointer))
  | some r =>
    match r.parent with
    | none => throw (.metadataMissing (.parentOf pointer))
    | some parent =>
      let systemKey ← e.systemKeyForRead parent
      openIntermediateRecord r systemKey.key

/-- Only keys under the engine's own id are cached: a cache tells keys apart by time alone. -/
def cachesIntermediateKey (e : Engine) (pointer : KeyMeta) : Bool :=
  e.policy.cachesIntermediateKeys && pointer.keyId == e.partition.intermediateKeyId

/-- The intermediate key that a record being read names. -/
def intermediateKeyForRead (e : Engine) (pointer : KeyMeta) : Work KeyHandle := do
  let handle : KeyHandle ← (do
    if e.cachesIntermediateKey pointer then
      match ← cachedIntermediateKey? pointer.created.time with
      | some key => return .cached key
      | none => e.retainIntermediateKey (← e.loadIntermediateKey pointer)
    else return .owned (← e.loadIntermediateKey pointer))
  if e.policy.notifiesIntermediate then
    if e.policy.IsExpired (← Effect.now) handle.key.created.time then
      Effect.emit (.expiredKeyRead .intermediate pointer.keyId handle.key.created)
  return handle

/-! ### Payloads -/

/-- Seals a payload into a data row record. -/
def encrypt (e : Engine) (payload : Bytes) : Work DataRow := do
  let key ← e.intermediateKeyForWrite
  let now ← Effect.now
  let sealed ← Effect.sealing (key.key.sealPayload now.stamp payload)
  return .ofParts sealed.created sealed.encryptedKey
    ⟨e.partition.intermediateKeyId, key.key.created⟩ sealed.cipherText

/-- A data row record that may be opened in a partition: the pointer to its intermediate key, the
wrapped data key with its creation time, and the sealed payload. -/
structure Readable where
  pointer : KeyMeta
  created : Stamp
  wrappedKey : Bytes
  cipherText : Bytes
deriving DecidableEq

/-- Checks a record before any key is looked up. -/
def readable (p : Partition) (r : DataRow) : Except Error Readable := do
  match r.key with
  | none => .error (.metadataMissing .key)
  | some key =>
    match key.parent with
    | none => .error (.metadataMissing .parent)
    | some parent =>
      match parent.meta? with
      | none => .error (.metadataMissing .incompleteParent)
      | some pointer =>
        if p.Accepts pointer.keyId then
          return ⟨pointer, key.created, ← key.keyBytes, ← r.cipherText⟩
        else .error (.metadataMissing (.foreignParent pointer.keyId p))

/-- Opens a data row record. -/
def decrypt (e : Engine) (text : Bytes) : Work Bytes := do
  let row ← Action.ofExcept (DataRow.ofJson text)
  let row ← Action.ofExcept (readable e.partition row)
  let key ← e.intermediateKeyForRead row.pointer
  Effect.opened (key.key.openPayload row.cipherText row.wrappedKey row.created)

end Engine

end Envelope
