import Envelope.Trial.Entry
import Envelope.World

/-!
A trial: seals and opens one payload a number of times in a single session.

The trial goes step by step, one operation of the session at a time, so that each may find the
clock at another time. It ends after the last round trip or at the first failure, and then disposes
its factory.
-/

namespace Envelope.Trial

/-- What a trial is about to do. -/
inductive Phase where
  | encrypting (iteration : Nat)
  | decrypting (iteration : Nat) (row : Bytes)
  | ended (outcome : Except Fault Unit)

structure State where
  settings : Settings
  world : World
  /-- The number of the engine of the session. -/
  session : Nat
  log : List Entry
  phase : Phase

namespace State

def emit (s : State) (e : Entry) : State := { s with log := s.log ++ [e] }

/-- Moves the events of the library into the log. -/
def collect (s : State) : State :=
  { s with
    log := s.log ++ s.world.environment.log.map .event
    world := s.world.clearTrace }

/-- Lets the clock show another time. -/
def setClock (s : State) (clock : Clock) : State :=
  { s with world := { s.world with environment := { s.world.environment with clock } } }

/-- Lets random bytes come from another stream. -/
def setRandom (s : State) (random : Random) : State :=
  { s with world := { s.world with environment := { s.world.environment with random } } }

/-- Disposes the factory. -/
def dispose (s : State) : State := ({ s with world := s.world.disposeFactory 0 }).collect

/-- Disposes the factory and ends the trial. -/
def finish (s : State) (outcome : Except Fault Unit) : State :=
  let s := s.dispose
  match outcome with
  | .ok () => { s with phase := .ended outcome }
  | .error f => { s.emit (.failed f) with phase := .ended outcome }

/-- The partition of the session. -/
def partition (s : State) : Partition :=
  Partition.ofIds s.settings.partition s.settings.service s.settings.product none

/-- Goes on with a round trip, or ends the trial when all are done. -/
def proceed (s : State) (iteration : Nat) : State :=
  if iteration ≤ s.settings.iterations.toNat then { s with phase := .encrypting iteration }
  else (s.emit (.finished s.settings.iterations.toNat s.partition)).finish (.ok ())

/-- One operation of the session. A session without an engine answers as one whose factory is
disposed. -/
def operate {α : Type} (s : State) (op : World → Nat → Option (Except Error α × World)) :
    Except Error α × State :=
  match op s.world s.session with
  | some (r, w) => (r, ({ s with world := w }).collect)
  | none => (.error (.application .factoryDisposed), s)

/-- The next operation, at a time of the clock. -/
def step (s : State) (clock : Clock) : State :=
  let s := s.setClock clock
  let payload := Json.utf8Bytes s.settings.payload
  match s.phase with
  | .encrypting iteration =>
    match s.operate (·.encrypt · payload) with
    | (.ok row, s) => { s.emit (.encrypted iteration row) with phase := .decrypting iteration row }
    | (.error e, s) => s.finish (.error (.encrypt iteration e))
  | .decrypting iteration row =>
    match s.operate (·.decrypt · row) with
    | (.ok opened, s) =>
      if opened = payload then (s.emit (.verified iteration)).proceed (iteration + 1)
      else s.finish (.error (.mismatch iteration))
    | (.error e, s) => s.finish (.error (.decrypt iteration e))
  | .ended _ => s

/-- How the trial ended, if it has. -/
def outcome? (s : State) : Option (Except Fault Unit) :=
  match s.phase with
  | .ended outcome => some outcome
  | _ => none

end State

/-! ### Set-up -/

/-- The key management service that the settings name. -/
def keyService (settings : Settings) (client : RegionKey → RegionClient) (now : Time) :
    Except Fault KeyService :=
  match settings.masterKeySource with
  | .fixed => (settings.masterService now).mapError .masterKey
  | .regions => do
    let keys ← settings.regionKeyList.mapError .regionKeys
    (settings.regionalService client keys).mapError .regions

/-- The world of one factory with the settings. -/
def factory (settings : Settings) (client : RegionKey → RegionClient) (clock : Clock)
    (random : Random) : Except Fault World := do
  let service ← keyService settings client clock.wall
  (World.ofSettings clock random
    ⟨settings.product, settings.service, some (.empty none), some settings.policy, some service⟩
    ).mapError .factory

/-- A trial that has no factory yet. A fixed master key is remarked on before it is used. -/
def prepare (settings : Settings) (clock : Clock) (random : Random) : State :=
  let blank := World.ofEnvironment (.ofStore clock random (.empty none))
  let s : State := ⟨settings, blank, 0, [], .encrypting 1⟩
  match settings.masterKeySource with
  | .fixed => s.emit .fixedMasterKey
  | .regions => s

/-- A trial before its first operation: its factory is built and its session open, or it has
failed. -/
def start (settings : Settings) (client : RegionKey → RegionClient) (clock : Clock)
    (random : Random) : State :=
  let s := prepare settings clock random
  match factory settings client clock random with
  | .error f => s.finish (.error f)
  | .ok w =>
    let s := ({ s with world := w }).emit
      (.ready settings.product settings.service settings.masterKeySource)
    match w.session 0 settings.partition with
    | some (.ok engine, w) => ({ s with world := w, session := engine }).collect.proceed 1
    | some (.error e, w) => ({ s with world := w }).finish (.error (.session e))
    | none => s.finish (.error (.session (.application .factoryDisposed)))

/-- At most so many further operations, the first at the clock's reading of that number. -/
def advance (clocks : Nat → Clock) (reading : Nat) : Nat → State → State
  | 0, s => s
  | n + 1, s =>
    match s.phase with
    | .ended _ => s
    | _ => advance clocks (reading + 1) n (s.step (clocks reading))

/-- A whole trial, given what the clock reads at the start and before each operation. -/
def run (settings : Settings) (client : RegionKey → RegionClient) (clocks : Nat → Clock)
    (random : Random) : State :=
  advance clocks 1 (2 * settings.iterations.toNat) (start settings client (clocks 0) random)

end Envelope.Trial
