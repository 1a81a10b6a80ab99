import Envelope.World

/-!
Scenarios: one world with one store, one current factory and engines of its own, driven step by
step. Sessions, engines and records go by name; a new one takes the place of an old one of the
same name.
-/

namespace Envelope

/-- A key management service that can be built, and rebuilt when a region changes. -/
inductive ServicePlan where
  | master (secret : Bytes)
  /-- Simulated regions with their names and master keys, and the preferred name. -/
  | regional (regions : List (String × String × SimulatedRegion)) (preferred : String)
deriving DecidableEq

namespace ServicePlan

def build (p : ServicePlan) (now : Time) : Except Error KeyService :=
  match p with
  | .master secret => KeyService.ofMaster secret now
  | .regional regions preferred =>
    KeyService.ofRegions (regions.map fun (name, arn, r) => ⟨name, arn, r.client⟩) preferred

/-- The same plan with another behaviour of the region at a place. -/
def setRegion (p : ServicePlan) (place : Nat) (r : SimulatedRegion) : ServicePlan :=
  match p with
  | .master secret => .master secret
  | .regional regions preferred =>
    .regional (regions.modify place fun (name, arn, _) => (name, arn, r)) preferred

end ServicePlan

/-- Both plans of failures, the second after the first. -/
def Faults.append (a b : Faults) : Faults where
  latest := a.latest ++ b.latest
  load := a.load ++ b.load
  insert := a.insert ++ b.insert
  wrap := a.wrap ++ b.wrap
  unwrap := a.unwrap ++ b.unwrap

namespace Scenario

/-- Who seals or opens: a session, or an engine that stands alone. -/
inductive Actor where
  | session (name : String)
  | engine (name : String)
deriving DecidableEq

/-- What is to be opened: a record sealed before, or any bytes. -/
inductive Sealed where
  | named (name : String)
  | bytes (text : Bytes)
deriving DecidableEq

inductive Step where
  | advance (by_ : Duration)
  | setWall (now : Time)
  | newFactory (policy : Option Policy) (keyService : Option ServicePlan)
      (product service : String)
  | disposeFactory
  | dropFactory
  | openSession (partition name : String)
  | dropSession (name : String)
  | newEngine (partition : Partition) (name : String)
  | disposeEngine (name : String)
  | disposeSystemKeys
  | encrypt (actor : Actor) (payload : Bytes) (name : Option String)
  | decrypt (actor : Actor) (text : Sealed)
  | put (keyId : String) (record : Except Error KeyRecord) (created : Option Time)
  | revoke (keyId : String) (created : Time)
  | count (keyId : String)
  | dump
  | plan (faults : Faults)
  | setRegion (place : Nat) (region : SimulatedRegion)

inductive Answer where
  | done
  | missing
  | failed (error : Error)
  /-- A session, or why there is none, and how many sessions are cached. -/
  | session (outcome : Except Error Partition) (cached : Nat)
  | engine (partition : Partition)
  | dropped (found : Bool)
  | cachedSessions (count : Nat)
  /-- The text of a record; an engine that stands alone also tells how many system keys its cache
  holds. -/
  | sealed (outcome : Except Error Bytes) (systemKeys : Option Nat)
  | opened (outcome : Except Error Bytes) (systemKeys : Option Nat)
  | stored (outcome : Except Error Bool)
  | revoked (found : Bool)
  | count (records : Nat)
  | records (all : List (String × Time × KeyRecord))

structure State where
  world : World
  policy : Policy
  plan : ServicePlan
  /-- The number of the current key management service. -/
  keyService : Nat
  /-- The number of the current factory. -/
  factory : Option Nat
  sessions : List (String × Nat)
  engines : List (String × Nat)
  records : List (String × Bytes)

/-- The number of the system key cache that engines of their own share. -/
def ownSystemKeys : Nat := 0

/-- Gives a name, taking it from an older bearer. -/
def bind {α : Type} (name : String) (a : α) (l : List (String × α)) : List (String × α) :=
  (name, a) :: l.filter (·.1 ≠ name)

/-- The state before the first step, and why its factory could not be built, if so. Without a key
management service there is none. -/
def start (clock : Clock) (random : Random) (suffix : Option String) (policy : Policy)
    (plan : ServicePlan) (product service : String) : Except Error (State × Option Error) := do
  let keyService ← plan.build clock.wall
  let environment := Environment.ofStore clock random (.empty suffix)
  let w := ((World.ofEnvironment environment).addKeyService keyService).addSystemKeys
    policy.revokeCheck
  let state (w : World) (factory : Option Nat) : State := ⟨w, policy, plan, 0, factory, [], [], []⟩
  match w.addFactory product service policy 0 with
  | .ok w => return (state w (some 0), none)
  | .error e => return (state w none, some e)

/-- Drops the current factory, which disposes it. -/
def dropFactory (s : State) : State :=
  match s.factory with
  | none => s
  | some f => { s with world := s.world.disposeFactory f, factory := none }

def newFactory (s : State) (policy : Option Policy) (plan : Option ServicePlan)
    (product service : String) : Answer × State :=
  let withService : Except Error State :=
    match plan with
    | none => .ok s
    | some plan => do
      let keyService ← plan.build s.world.environment.clock.wall
      return { s with
        world := s.world.addKeyService keyService
        plan
        keyService := s.world.keyServices.length }
  match withService with
  | .error e => (.failed e, s)
  | .ok s =>
    let s := dropFactory { s with policy := policy.getD s.policy }
    match s.world.addFactory product service s.policy s.keyService with
    | .error e => (.failed e, s)
    | .ok w => (.done, { s with world := w, factory := some s.world.factories.length })

/-- The number of an actor's engine. -/
def actor? (s : State) : Actor → Option Nat
  | .session name => s.sessions.lookup name
  | .engine name => s.engines.lookup name

/-- How many system keys the cache of an actor that stands alone holds. -/
def ownSystemKeyCount (s : State) : Actor → Option Nat
  | .session _ => none
  | .engine _ => some ((s.world.systemKeys[ownSystemKeys]?.map (·.size)).getD 0)

def openSession (s : State) (partition name : String) : Option (Answer × State) := do
  let f ← s.factory
  let (r, w) ← s.world.session f partition
  let cached := w.cachedSessions f
  match r with
  | .error e => some (.session (.error e) cached, { s with world := w })
  | .ok engine =>
    let e ← w.engines[engine]?
    some (.session (.ok e.partition) cached,
      { s with world := w, sessions := bind name engine s.sessions })

def encrypt (s : State) (actor : Actor) (payload : Bytes) (name : Option String) :
    Option (Answer × State) := do
  let engine ← actor? s actor
  let (r, w) ← s.world.encrypt engine payload
  let s := { s with world := w }
  let s := match r, name with
    | .ok text, some name => { s with records := bind name text s.records }
    | _, _ => s
  some (.sealed r (ownSystemKeyCount s actor), s)

def decrypt (s : State) (actor : Actor) (text : Sealed) : Option (Answer × State) := do
  let engine ← actor? s actor
  let text ← match text with
    | .named name => s.records.lookup name
    | .bytes text => some text
  let (r, w) ← s.world.decrypt engine text
  let s := { s with world := w }
  some (.opened r (ownSystemKeyCount s actor), s)

def setRegion (s : State) (place : Nat) (region : SimulatedRegion) : Answer × State :=
  let plan := s.plan.setRegion place region
  match plan.build s.world.environment.clock.wall with
  | .error e => (.failed e, s)
  | .ok keyService =>
    (.done, { s with
      plan
      world := { s.world with
        keyServices := s.world.keyServices.set s.keyService keyService } })

/-- One step, unless it names what is not there. -/
def step? (s : State) : Step → Option (Answer × State)
  | .advance d => some (.done, { s with world := s.world.advance d })
  | .setWall now => some (.done, { s with world := s.world.setWall now })
  | .newFactory policy plan product service => some (newFactory s policy plan product service)
  | .disposeFactory => do
    let f ← s.factory
    let w := s.world.disposeFactory f
    some (.cachedSessions (w.cachedSessions f), { s with world := w })
  | .dropFactory => some (.done, dropFactory s)
  | .openSession partition name => openSession s partition name
  | .dropSession name =>
    some (.dropped (s.sessions.lookup name).isSome,
      { s with sessions := s.sessions.filter (·.1 ≠ name) })
  | .newEngine partition name =>
    some (.engine partition, { s with
      world := s.world.addEngine partition s.policy s.keyService ownSystemKeys
      engines := bind name s.world.engines.length s.engines })
  | .disposeEngine name => do
    let engine ← s.engines.lookup name
    some (.done, { s with world := s.world.disposeEngine engine })
  | .disposeSystemKeys =>
    some (.done, { s with world := s.world.disposeSystemKeys ownSystemKeys })
  | .encrypt actor payload name => encrypt s actor payload name
  | .decrypt actor text => decrypt s actor text
  | .put _ (.error e) _ => some (.stored (.error e), s)
  | .put keyId (.ok record) created =>
    let (added, w) := s.world.putRecord keyId (created.getD record.created.time) record
    some (.stored (.ok added), { s with world := w })
  | .revoke keyId created =>
    let (found, w) := s.world.revokeRecord keyId created
    some (.revoked found, { s with world := w })
  | .count keyId => some (.count (s.world.environment.store.count keyId), s)
  | .dump => some (.records s.world.environment.store.toList, s)
  | .plan faults =>
    let e := s.world.environment
    let e := { e with faults := e.faults.append faults }
    some (.done, { s with world := { s.world with environment := e } })
  | .setRegion place region => some (setRegion s place region)

/-- One step with the trace it leaves: its answer, what it logged and what it called. -/
def step (s : State) (c : Step) : (Answer × List Event × List Call) × State :=
  let s := { s with world := s.world.clearTrace }
  let (a, s) := (step? s c).getD (.missing, s)
  ((a, s.world.environment.log, s.world.environment.calls), s)

end Scenario

end Envelope
