import Envelope.Error
import Envelope.Text.Base64

/-!
The data row record: a sealed payload with its wrapped data key and the pointer to the
intermediate key that wraps it.

Every part but the creation time and the text of the data key may be absent from a record that is
read, so that an incomplete record is told apart from a malformed one.
-/

namespace Envelope

/-- The pointer to the intermediate key as a record carries it. -/
structure ParentPointer where
  keyId : Option String
  created : Option Stamp
deriving DecidableEq

namespace ParentPointer

def ofMeta (m : KeyMeta) : ParentPointer := ⟨some m.keyId, some m.created⟩

/-- The pointer, if it is complete. -/
def meta? (p : ParentPointer) : Option KeyMeta := do some ⟨← p.keyId, ← p.created⟩

@[simp] theorem meta?_ofMeta (m : KeyMeta) : (ofMeta m).meta? = some m := rfl

def ofValue? (v : Json.Value) : Option ParentPointer :=
  match v.fields? ["KeyId", "Created"] with
  | some [keyId, created] => do
    some ⟨← Json.Value.optional? Json.Value.text? keyId,
      ← Json.Value.optional? Stamp.ofValue? created⟩
  | _ => none

def toValue (p : ParentPointer) : Json.Value :=
  .object [(Json.Spelling.ofText "KeyId", (p.keyId.map Json.Value.ofText).getD .null),
    (Json.Spelling.ofText "Created", (p.created.map Stamp.toValue).getD .null)]

end ParentPointer

/-- The wrapped data key of a record. -/
structure DataRowKey where
  created : Stamp
  /-- The wrapped secret in base64; a record read from a text may hold any text here. -/
  key : String
  parent : Option ParentPointer
deriving DecidableEq

namespace DataRowKey

def keyBytes (k : DataRowKey) : Except Error Bytes :=
  match Base64.decodeText k.key with
  | some bytes => .ok bytes
  | none => .error (.invalidArgument .keyNotBase64)

def ofValue? (v : Json.Value) : Option DataRowKey :=
  match v.fields? ["Created", "Key", "ParentKeyMeta"] with
  | some [some created, some key, parent] => do
    some {
      created := ← Stamp.ofValue? created
      key := ← key.text?
      parent := ← Json.Value.optional? ParentPointer.ofValue? parent }
  | _ => none

def toValue (k : DataRowKey) : Json.Value :=
  .object [(Json.Spelling.ofText "Created", k.created.toValue),
    (Json.Spelling.ofText "Key", .ofText k.key),
    (Json.Spelling.ofText "ParentKeyMeta", (k.parent.map ParentPointer.toValue).getD .null)]

end DataRowKey

structure DataRow where
  key : Option DataRowKey
  /-- The sealed payload in base64. -/
  data : Option String
deriving DecidableEq

namespace DataRow

/-- The record of a payload sealed under a data key that `parent` wraps. -/
def ofParts (created : Stamp) (wrappedKey : Bytes) (parent : KeyMeta) (cipherText : Bytes) :
    DataRow :=
  ⟨some ⟨created, Base64.encodeText wrappedKey, some (.ofMeta parent)⟩,
    some (Base64.encodeText cipherText)⟩

/-- The sealed payload. -/
def cipherText (r : DataRow) : Except Error Bytes :=
  match r.data with
  | none => .error (.invalidArgument .dataMissing)
  | some data =>
    match Base64.decodeText data with
    | some bytes => .ok bytes
    | none => .error (.invalidArgument .dataNotBase64)

def ofValue? (v : Json.Value) : Option DataRow :=
  match v.fields? ["Key", "Data"] with
  | some [key, data] => do
    some ⟨← Json.Value.optional? DataRowKey.ofValue? key,
      ← Json.Value.optional? Json.Value.text? data⟩
  | _ => none

/-- Absent parts are written as null. -/
def toValue (r : DataRow) : Json.Value :=
  .object [(Json.Spelling.ofText "Key", (r.key.map DataRowKey.toValue).getD .null),
    (Json.Spelling.ofText "Data", (r.data.map Json.Value.ofText).getD .null)]

def toJson (r : DataRow) : Bytes := r.toValue.render

/-- Reads a record; no bytes at all and a bare null are refused in their own words. -/
def ofJson (text : Bytes) : Except Error DataRow :=
  if text = [] then .error (.invalidArgument .emptyRecord)
  else
    match (Json.Value.parse? text).bind (Json.Value.optional? ofValue? ∘ some) with
    | none => .error (.invalidArgument .malformedRecord)
    | some none => .error (.invalidArgument .nullRecord)
    | some (some r) => .ok r

end DataRow

end Envelope
