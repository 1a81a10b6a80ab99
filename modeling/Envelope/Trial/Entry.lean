import Envelope.LogFilter
import Envelope.Settings

/-!
What a trial logs, and how it may fail.

A failure says what the trial was doing and what went wrong there; its chain lists both, and behind
them the cause of the cause.
-/

namespace Envelope.Trial

/-- Why a trial failed. -/
inductive Fault where
  | masterKey (cause : Error)
  | regionKeys (cause : RegionKeyFault)
  | regions (cause : Error)
  | factory (cause : Error)
  | session (cause : Error)
  | encrypt (iteration : Nat) (cause : Error)
  | decrypt (iteration : Nat) (cause : Error)
  | mismatch (iteration : Nat)
deriving DecidableEq

namespace Fault

/-- The error of the library behind a failure. -/
def cause? : Fault → Option Error
  | .masterKey e | .regions e | .factory e | .session e | .encrypt _ e | .decrypt _ e => some e
  | .regionKeys _ | .mismatch _ => none

/-- What went wrong, in the words of the trial. -/
def message : Fault → String
  | .masterKey _ => "invalid static master key"
  | .regionKeys cause => cause.message
  | .regions _ => "failed to set up AWS KMS clients"
  | .factory _ => "failed to build session factory"
  | .session _ => "failed to open session"
  | .encrypt iteration _ => "encrypt failed on iteration " ++ toString iteration
  | .decrypt iteration _ => "decrypt failed on iteration " ++ toString iteration
  | .mismatch iteration =>
    "decrypted payload does not match on iteration " ++ toString iteration

/-- The text of what lies behind an error. -/
def sourceText : Source → String
  | .json => "invalid JSON"
  | .base64 => "invalid base64"
  | .text text => text

/-- The failure and what lies behind it, the outermost first. -/
def chain (f : Fault) : List String :=
  f.message :: (f.cause?.toList.flatMap fun e => e.message :: e.source.toList.map sourceText)

/-- The code of the error behind a failure. -/
def code (f : Fault) : String := (f.cause?.map (·.code)).getD "other"

end Fault

/-- An entry of the log: an event of the library, or a stage of the trial. -/
inductive Entry where
  | event (e : Event)
  | fixedMasterKey
  | ready (product service : String) (source : MasterKeySource)
  | encrypted (iteration : Nat) (row : Bytes)
  | verified (iteration : Nat)
  | finished (iterations : Nat) (partition : Partition)
  | failed (fault : Fault)
deriving DecidableEq

namespace Entry

def level : Entry → Level
  | .event e => e.level
  | .fixedMasterKey => .warn
  | .failed _ => .error
  | .ready .. | .encrypted .. | .verified _ | .finished .. => .info

def target : Entry → String
  | .event e => e.component.target
  | _ => "reference_app"

def message : Entry → String
  | .event e => e.message
  | .fixedMasterKey => "using a static master key; do not use in production"
  | .ready .. => "session factory ready"
  | .encrypted .. => "payload encrypted"
  | .verified _ => "payload verified"
  | .finished .. => "all round trips succeeded"
  | .failed _ => "reference-app failed"

def details : Entry → List (String × Detail)
  | .event e => e.details
  | .fixedMasterKey => []
  | .ready product service source =>
    [("product_id", .text product), ("service_id", .text service), ("kms", .text source.name)]
  | .encrypted iteration row =>
    [("iteration", .number iteration), ("data_row_record", .text ((Json.ofUtf8? row).getD ""))]
  | .verified iteration => [("iteration", .number iteration)]
  | .finished iterations partition =>
    [("iterations", .number iterations), ("partition", .text partition.display)]
  | .failed fault =>
    [("code", .text fault.code), ("error", .text (": ".intercalate fault.chain))]

/-- The names of all fields: the message is one. -/
def fields (e : Entry) : List String := "message" :: e.details.map Prod.fst

end Entry

end Envelope.Trial
