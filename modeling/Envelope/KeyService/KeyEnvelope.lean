import Envelope.Error
import Envelope.Text.Base64

/-!
The stored form of a key that a regional key management service wraps: the key under a data key,
and the data key under a master key of each region.
-/

namespace Envelope

/-- The data key as one region wraps it. -/
structure WrappedDataKey where
  region : String
  arn : String
  /-- In base64; one read from a text may hold any text here. -/
  ciphertext : String
deriving DecidableEq

structure KeyEnvelope where
  /-- The wrapped key in base64. -/
  encryptedKey : String
  dataKeys : List WrappedDataKey
deriving DecidableEq

namespace WrappedDataKey

def ofValue? (v : Json.Value) : Option WrappedDataKey :=
  match v.fields? ["region", "arn", "encryptedKek"] with
  | some [some region, some arn, some ciphertext] => do
    some ⟨← region.text?, ← arn.text?, ← ciphertext.text?⟩
  | _ => none

def toValue (k : WrappedDataKey) : Json.Value :=
  .object [(Json.Spelling.ofText "region", .ofText k.region),
    (Json.Spelling.ofText "arn", .ofText k.arn),
    (Json.Spelling.ofText "encryptedKek", .ofText k.ciphertext)]

end WrappedDataKey

namespace KeyEnvelope

/-- The list of data keys may be absent, which is the same as empty. -/
def ofValue? (v : Json.Value) : Option KeyEnvelope :=
  match v.fields? ["encryptedKey", "kmsKeks"] with
  | some [some key, none] => do some ⟨← key.text?, []⟩
  | some [some key, some (.array items)] => do
    some ⟨← key.text?, ← items.mapM WrappedDataKey.ofValue?⟩
  | _ => none

def toValue (e : KeyEnvelope) : Json.Value :=
  .object [(Json.Spelling.ofText "encryptedKey", .ofText e.encryptedKey),
    (Json.Spelling.ofText "kmsKeks", .array (e.dataKeys.map WrappedDataKey.toValue))]

def toJson (e : KeyEnvelope) : Bytes := e.toValue.render

def ofJson (text : Bytes) : Except Error KeyEnvelope :=
  match (Json.Value.parse? text).bind ofValue? with
  | some e => .ok e
  | none => .error (.application .malformedKeyEnvelope)

/-- The wrapped key. -/
def keyBytes (e : KeyEnvelope) : Except Error Bytes :=
  match Base64.decodeText e.encryptedKey with
  | some bytes => .ok bytes
  | none => .error (.application .keyEnvelopeNotBase64)

/-- The data key as the named region wraps it; of several the first. -/
def dataKey? (e : KeyEnvelope) (region : String) : Option WrappedDataKey :=
  e.dataKeys.find? (·.region = region)

end KeyEnvelope

end Envelope
