import Envelope.Json.Fields
import Envelope.Time

/-!
The pointer to one key record: a key id and the creation time of the key.
-/

namespace Envelope

/-- Reads a creation time, an integer of whole seconds in the legal range. -/
def Stamp.ofValue? (v : Json.Value) : Option Stamp := v.integer?.bind ofSeconds?

def Stamp.toValue (s : Stamp) : Json.Value := .ofInt s.seconds

structure KeyMeta where
  keyId : String
  created : Stamp
deriving DecidableEq

namespace KeyMeta

def ofValue? (v : Json.Value) : Option KeyMeta :=
  match v.fields? ["KeyId", "Created"] with
  | some [some keyId, some created] => do some ⟨← keyId.text?, ← Stamp.ofValue? created⟩
  | _ => none

def toValue (m : KeyMeta) : Json.Value :=
  .object [(Json.Spelling.ofText "KeyId", .ofText m.keyId),
    (Json.Spelling.ofText "Created", m.created.toValue)]

/-- The text of a pointer in messages. -/
def display (m : KeyMeta) : String :=
  "KeyMeta[keyId=" ++ m.keyId ++ ", created=" ++ toString m.created.seconds ++ "]"

end KeyMeta

end Envelope
