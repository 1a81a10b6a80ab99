import Envelope.Error
import Envelope.Text.Base64

/-!
The stored form of a key: its creation time, the wrapped secret in base64, whether it is revoked,
and for an intermediate key the pointer to the system key that wraps it.
-/

namespace Envelope

structure KeyRecord where
  created : Stamp
  /-- The wrapped secret in base64; a record read from a text may hold any text here. -/
  key : String
  revoked : Option Bool
  parent : Option KeyMeta
deriving DecidableEq

namespace KeyRecord

/-- The record of a key that the key management service wraps. -/
def system (created : Stamp) (wrapped : Bytes) (revoked : Option Bool) : KeyRecord :=
  ⟨created, Base64.encodeText wrapped, revoked, none⟩

/-- The record of a key that a system key wraps. -/
def intermediate (created : Stamp) (wrapped : Bytes) (revoked : Option Bool) (parent : KeyMeta) :
    KeyRecord :=
  ⟨created, Base64.encodeText wrapped, revoked, some parent⟩

/-- A record is revoked only if it says so. -/
def isRevoked (r : KeyRecord) : Bool := r.revoked.getD false

def withRevoked (r : KeyRecord) (revoked : Bool) : KeyRecord := { r with revoked := some revoked }

/-- The wrapped secret. -/
def keyBytes (r : KeyRecord) : Except Error Bytes :=
  match Base64.decodeText r.key with
  | some bytes => .ok bytes
  | none => .error (.application .keyRecordNotBase64)

def ofValue? (v : Json.Value) : Option KeyRecord :=
  match v.fields? ["Created", "Key", "Revoked", "ParentKeyMeta"] with
  | some [some created, some key, revoked, parent] => do
    some {
      created := ← Stamp.ofValue? created
      key := ← key.text?
      revoked := ← Json.Value.optional? Json.Value.bool? revoked
      parent := ← Json.Value.optional? KeyMeta.ofValue? parent }
  | _ => none

/-- Absent parts are left out. -/
def toValue (r : KeyRecord) : Json.Value :=
  let revoked := r.revoked.toList.map fun b => (Json.Spelling.ofText "Revoked", .bool b)
  let parent := r.parent.toList.map fun m => (Json.Spelling.ofText "ParentKeyMeta", m.toValue)
  .object ([(Json.Spelling.ofText "Created", r.created.toValue),
    (Json.Spelling.ofText "Key", .ofText r.key)] ++ revoked ++ parent)

def toJson (r : KeyRecord) : Bytes := r.toValue.render

def ofJson (text : Bytes) : Except Error KeyRecord :=
  match (Json.Value.parse? text).bind ofValue? with
  | some r => .ok r
  | none => .error (.application .malformedKeyRecord)

end KeyRecord

end Envelope
