import Envelope.Store
import Envelope.Trace

/-!
What an engine acts on: the clock, the random stream, the store of key records, the failures that
wait for the calls on it, and the trace of what was done.

A planned failure is taken by the next call of its kind. A store that fails does so without effect;
an insert may also lose against another writer, whose record is then in the store or not.
-/

namespace Envelope

/-- What may go wrong when records are looked up. -/
inductive LookupFault where
  | fail (error : Error)
  /-- Nothing is found. -/
  | nothing
deriving DecidableEq

/-- What may go wrong when a record is inserted. -/
inductive InsertFault where
  | fail (error : Error)
  /-- The insert fails before it is made, so that the trace does not show it. -/
  | refused (error : Error)
  /-- The record is stored and the insert is still reported as lost. -/
  | conflict
  /-- Nothing is stored and the insert is reported as lost. -/
  | lost
  /-- Another record is stored, under its own time, and the insert is reported as lost. -/
  | winner (record : KeyRecord)
deriving DecidableEq

/-- The failures planned for the next calls of each kind; a call without one goes through. -/
structure Faults where
  latest : List (Option LookupFault)
  load : List (Option LookupFault)
  insert : List (Option InsertFault)
  wrap : List (Option Error)
  unwrap : List (Option Error)
deriving DecidableEq

def Faults.none : Faults := ⟨[], [], [], [], []⟩

/-- The next planned failure of a queue, and the rest of the queue. -/
def nextFault {α : Type} : List (Option α) → Option α × List (Option α)
  | [] => (none, [])
  | f :: rest => (f, rest)

structure Environment where
  clock : Clock
  random : Random
  store : Store
  faults : Faults
  log : List Event
  calls : List Call

/-- Computations in an environment. -/
abbrev Effect := Action Environment Error

namespace Environment

def ofStore (clock : Clock) (random : Random) (store : Store) : Environment :=
  ⟨clock, random, store, .none, [], []⟩

/-- The same environment with an empty trace. -/
def clearTrace (e : Environment) : Environment := { e with log := [], calls := [] }

end Environment

namespace Effect

def clock : Effect Clock := Action.ofState fun e => (e.clock, e)

/-- The reading of the wall clock. It is an input, and any legal time may be read: that a process
cannot read a clock which shows a time before the epoch, and stops, is said at
`Trial.Execution`. -/
def now : Effect Time := Action.ofState fun e => (e.clock.wall, e)

/-- Logs an event. -/
def emit (event : Event) : Effect Unit :=
  Action.ofState fun e => ((), { e with log := e.log ++ [event] })

/-- Notes a call. -/
def note (call : Call) : Effect Unit :=
  Action.ofState fun e => ((), { e with calls := e.calls ++ [call] })

/-- Seals with random bytes from the stream of the environment. -/
def sealing {α : Type} (a : Sealing α) : Effect α :=
  (a.mapError Error.ofCipher).zoom (·.random) fun r e => { e with random := r }

/-- Opens what is sealed. -/
def opened {α : Type} (r : Except CipherFault α) : Effect α :=
  Action.ofExcept (r.mapError Error.ofCipher)

def generateKey (created : Stamp) : Effect Key := sealing (Key.generate created)

/-! ### Calls on the store -/

def nextLatestFault : Effect (Option LookupFault) := Action.ofState fun e =>
  let (f, rest) := nextFault e.faults.latest
  (f, { e with faults := { e.faults with latest := rest } })

def nextLoadFault : Effect (Option LookupFault) := Action.ofState fun e =>
  let (f, rest) := nextFault e.faults.load
  (f, { e with faults := { e.faults with load := rest } })

def nextInsertFault : Effect (Option InsertFault) := Action.ofState fun e =>
  let (f, rest) := nextFault e.faults.insert
  (f, { e with faults := { e.faults with insert := rest } })

def nextWrapFault : Effect (Option Error) := Action.ofState fun e =>
  let (f, rest) := nextFault e.faults.wrap
  (f, { e with faults := { e.faults with wrap := rest } })

def nextUnwrapFault : Effect (Option Error) := Action.ofState fun e =>
  let (f, rest) := nextFault e.faults.unwrap
  (f, { e with faults := { e.faults with unwrap := rest } })

/-- What a look-up answers, given what the store holds and what goes wrong. -/
def lookupOutcome (held : Option KeyRecord) : Option LookupFault → Except Error (Option KeyRecord)
  | none => .ok held
  | some .nothing => .ok none
  | some (.fail error) => .error error

/-- The latest record of a key id. -/
def latestRecord (keyId : String) : Effect (Option KeyRecord) := do
  let fault ← nextLatestFault
  let held ← Action.ofState fun e => (e.store.latest? keyId, e)
  let outcome := lookupOutcome held fault
  note (.latest keyId (outcome.map (·.map (·.created))))
  Action.ofExcept outcome

/-- The record that a pointer names. -/
def loadRecord (pointer : KeyMeta) : Effect (Option KeyRecord) := do
  let fault ← nextLoadFault
  let held ← Action.ofState fun e => (e.store.load? pointer.keyId pointer.created.time, e)
  let outcome := lookupOutcome held fault
  note (.load pointer.keyId pointer.created (outcome.map (·.map (·.created))))
  Action.ofExcept outcome

def storeInsert (keyId : String) (t : Time) (r : KeyRecord) : Effect Bool :=
  Action.ofState fun e =>
    let (added, store) := e.store.insert keyId t r
    (added, { e with store })

/-- What an insert answers, given what goes wrong. -/
def insertOutcome (keyId : String) (r : KeyRecord) : Option InsertFault → Effect (Except Error Bool)
  | none => do return .ok (← storeInsert keyId r.created.time r)
  | some (.fail error) => return .error error
  | some (.refused error) => throw error
  | some .conflict => do
    let _ ← storeInsert keyId r.created.time r
    return .ok false
  | some .lost => return .ok false
  | some (.winner other) => do
    let _ ← storeInsert keyId other.created.time other
    return .ok false

/-- Inserts a record under its own creation time; says whether the insert won. -/
def insertRecord (keyId : String) (r : KeyRecord) : Effect Bool := do
  let outcome ← insertOutcome keyId r (← nextInsertFault)
  note (.insert keyId r.created outcome)
  Action.ofExcept outcome

end Effect

end Envelope
