import Envelope.Engine
import Envelope.SessionCache

/-!
Session factories, their sessions and what they share: one environment, key management services,
system key caches and engines.

A factory makes an engine for each session or, with a session cache, shares the engine of a
partition. The engines of a factory share its system key cache. A session is the number of its
engine: it stays of use when its engine has left the session cache, but such an engine caches no
intermediate keys.
-/

namespace Envelope

/-- What a factory is to be built from; parts may be missing. -/
structure FactorySettings where
  product : String
  service : String
  store : Option Store
  policy : Option Policy
  keyService : Option KeyService

/-- The parts of a factory, if none is missing and no id is empty. -/
def FactorySettings.check (s : FactorySettings) : Except Error (Store × Policy × KeyService) :=
  if s.product = "" then .error (.invalidArgument .emptyProduct)
  else if s.service = "" then .error (.invalidArgument .emptyService)
  else
    match s.store, s.policy, s.keyService with
    | none, _, _ => .error (.invalidArgument .noStore)
    | some _, none, _ => .error (.invalidArgument .noPolicy)
    | some _, some _, none => .error (.invalidArgument .noKeyService)
    | some store, some policy, some keyService => .ok (store, policy, keyService)

structure Factory where
  product : String
  service : String
  policy : Policy
  /-- The number of its key management service. -/
  keyService : Nat
  /-- The number of its system key cache. -/
  systemKeys : Nat
  sessions : Option SessionCache
  disposed : Bool

/-- An engine with the numbers of what it shares and the intermediate keys it caches. -/
structure EngineState where
  partition : Partition
  policy : Policy
  keyService : Nat
  systemKeys : Nat
  intermediateKeys : KeyCache

structure World where
  environment : Environment
  keyServices : List KeyService
  systemKeys : List KeyCache
  engines : List EngineState
  factories : List Factory

namespace World

def ofEnvironment (e : Environment) : World := ⟨e, [], [], [], []⟩

/-! ### Parts -/

/-- Another key management service, under the next number. -/
def addKeyService (w : World) (s : KeyService) : World :=
  { w with keyServices := w.keyServices ++ [s] }

/-- Another system key cache, under the next number. -/
def addSystemKeys (w : World) (revokeCheck : Duration) : World :=
  { w with systemKeys := w.systemKeys ++ [.empty revokeCheck] }

/-- Another engine, under the next number. -/
def addEngine (w : World) (partition : Partition) (policy : Policy) (keyService systemKeys : Nat) :
    World :=
  let engine := ⟨partition, policy, keyService, systemKeys, .empty policy.revokeCheck⟩
  { w with engines := w.engines ++ [engine] }

def emit (w : World) (event : Event) : World :=
  { w with environment := { w.environment with log := w.environment.log ++ [event] } }

def clearTrace (w : World) : World := { w with environment := w.environment.clearTrace }

/-! ### Engines at work -/

/-- Runs a computation of an engine, if there is an engine of that number. -/
def work {α : Type} (w : World) (engine : Nat) (a : Engine → Engine.Work α) :
    Option (Except Error α × World) := do
  let s ← w.engines[engine]?
  let service ← w.keyServices[s.keyService]?
  let systemKeys ← w.systemKeys[s.systemKeys]?
  let (r, after) := (a ⟨s.partition, s.policy, service⟩).outcome
    ⟨w.environment, systemKeys, s.intermediateKeys⟩
  some (r, { w with
    environment := after.environment
    systemKeys := w.systemKeys.set s.systemKeys after.systemKeys
    engines := w.engines.set engine { s with intermediateKeys := after.intermediateKeys } })

/-- Seals a payload into the text of a data row record. -/
def encrypt (w : World) (engine : Nat) (payload : Bytes) : Option (Except Error Bytes × World) :=
  w.work engine fun e => return (← e.encrypt payload).toJson

/-- Opens the text of a data row record. -/
def decrypt (w : World) (engine : Nat) (text : Bytes) : Option (Except Error Bytes × World) :=
  w.work engine fun e => e.decrypt text

/-! ### Disposal -/

/-- The engine releases its intermediate keys and caches none from now on. -/
def disposeEngine (w : World) (engine : Nat) : World :=
  { w with engines := w.engines.modify engine fun s =>
      { s with intermediateKeys := s.intermediateKeys.dispose } }

def disposeSystemKeys (w : World) (cache : Nat) : World :=
  { w with systemKeys := w.systemKeys.modify cache KeyCache.dispose }

/-- Releases the system keys and the cached sessions of a factory, once. -/
def disposeFactory (w : World) (factory : Nat) : World :=
  match w.factories[factory]? with
  | none => w
  | some f =>
    if f.disposed then w
    else
      let w := w.disposeSystemKeys f.systemKeys
      let cached := (f.sessions.map (·.sessions)).getD []
      let w := cached.foldl (fun w s => w.disposeEngine s.engine) w
      let f' := { f with disposed := true, sessions := f.sessions.map (·.clear) }
      emit { w with factories := w.factories.set factory f' } (.factoryDisposed f.product f.service)

/-! ### Factories and sessions -/

/-- Another factory, under the next number. -/
def addFactory (w : World) (product service : String) (policy : Policy) (keyService : Nat) :
    Except Error World := do
  let _ ← FactorySettings.check
    ⟨product, service, some w.environment.store, some policy, w.keyServices[keyService]?⟩
  let sessions := if policy.cachesSessions then
    some (SessionCache.empty policy.sessionLimit policy.sessionExpiry) else none
  let factory := ⟨product, service, policy, keyService, w.systemKeys.length, sessions, false⟩
  return { w.addSystemKeys policy.revokeCheck with factories := w.factories ++ [factory] }

/-- The world of a single factory over its own store. -/
def ofSettings (clock : Clock) (random : Random) (s : FactorySettings) : Except Error World := do
  let (store, policy, keyService) ← s.check
  let w := (ofEnvironment (.ofStore clock random store)).addKeyService keyService
  w.addFactory s.product s.service policy 0

/-- An engine of a factory for a partition id. -/
def addSession (w : World) (f : Factory) (partition : String) : World :=
  let p := Partition.ofIds partition f.service f.product w.environment.store.suffix
  (w.emit (.sessionCreated p)).addEngine p f.policy f.keyService f.systemKeys

/-- Lets the sessions go that a request has driven out of the cache. Which event of several idle
ones comes first is a choice of `SessionCache.request`, and may be any. -/
def evict (w : World) (a : Admission) : World :=
  let release (event : Event) (w : World) (s : CachedSession) : World :=
    (w.emit event).disposeEngine s.engine
  let w := a.idle.foldl (fun w s => release (.idleSessionEvicted s.partition) w s) w
  a.oldest.elim w fun s => release (.oldestSessionEvicted s.partition) w s

/-- A session for a partition id: the number of its engine. -/
def session (w : World) (factory : Nat) (partition : String) :
    Option (Except Error Nat × World) := do
  let f ← w.factories[factory]?
  if partition = "" then some (.error (.invalidArgument .emptyPartition), w)
  else if f.disposed then some (.error (.application .factoryDisposed), w)
  else
    let fresh := w.engines.length
    match f.sessions with
    | none => some (.ok fresh, w.addSession f partition)
    | some cache =>
      let a := cache.request w.environment.clock.elapsed partition fresh
      let w := w.evict a
      let w := if a.isNew then w.addSession f partition else w
      some (.ok a.engine,
        { w with factories := w.factories.set factory { f with sessions := some a.cache } })

/-- How many sessions a factory has in its cache. -/
def cachedSessions (w : World) (factory : Nat) : Nat :=
  match w.factories[factory]? with
  | some f => (f.sessions.map (·.size)).getD 0
  | none => 0

/-! ### Clock and store -/

/-- Time goes by. -/
def advance (w : World) (d : Duration) : World :=
  { w with environment := { w.environment with clock := w.environment.clock.advance d } }

def setWall (w : World) (now : Time) : World :=
  { w with environment := { w.environment with clock := w.environment.clock.setWall now } }

/-- Puts a record into the store; says whether it was added. -/
def putRecord (w : World) (keyId : String) (t : Time) (r : KeyRecord) : Bool × World :=
  let (added, store) := w.environment.store.insert keyId t r
  (added, { w with environment := { w.environment with store } })

/-- Marks a record of the store as revoked; says whether there is one. -/
def revokeRecord (w : World) (keyId : String) (t : Time) : Bool × World :=
  let (found, store) := w.environment.store.revoke keyId t
  let w := { w with environment := { w.environment with store } }
  (found, if found then w.emit (.recordRevoked keyId t.seconds) else w)

end World

end Envelope
