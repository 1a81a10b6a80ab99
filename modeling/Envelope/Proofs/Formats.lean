import Envelope.Proofs.Base64
import Envelope.Proofs.DataRow

/-!
# The stored forms lose nothing

A record is read back from its own text whatever it holds, so the text that a reader accepts only
has to give a record: printing that record and reading it again stays where it is. What base64
adds is that no byte string has two spellings. A record whose parts decode is therefore the record
of those parts.
-/

namespace Envelope

open Json

/-- An optional part that is left out when it is absent. -/
lemma Json.Value.optional?_map {α : Type} (read : Value → Option α) (write : α → Value)
    (a : Option α) (h : ∀ x ∈ a, read (write x) = some x ∧ write x ≠ .null) :
    optional? read (a.map write) = some a := by
  cases a with
  | none => rfl
  | some x => exact optional?_ofOption read write (some x) h

lemma Json.Value.isSpelled_bool (b : Bool) : (Value.bool b).IsSpelled := by
  intro t ht
  rw [List.mem_singleton.1 ht]
  trivial

/-! ### Key records -/

namespace KeyMeta

lemma toValue_eq (m : KeyMeta) : m.toValue = Value.ofFields
    [("KeyId", .ofText m.keyId), ("Created", m.created.toValue)] := rfl

lemma isSpelled_toValue (m : KeyMeta) : m.toValue.IsSpelled := by
  rw [toValue_eq]
  refine Value.isSpelled_ofFields fun f hf => ?_
  simp only [List.mem_cons, List.not_mem_nil, or_false] at hf
  rcases hf with rfl | rfl
  · exact Value.isSpelled_ofText m.keyId
  · exact Value.isSpelled_ofInt m.created.seconds

lemma ofValue?_toValue (m : KeyMeta) : ofValue? m.toValue = some m := by
  rw [toValue_eq, ofValue?, Value.fields?_ofFields _ (by simp)]
  simp [List.lookup_cons]

end KeyMeta

namespace KeyRecord

/-- The fields of a record; an absent part has none. -/
def fields (r : KeyRecord) : List (String × Value) :=
  [("Created", r.created.toValue), ("Key", .ofText r.key)] ++
    (r.revoked.toList.map fun b => ("Revoked", .bool b)) ++
    (r.parent.toList.map fun m => ("ParentKeyMeta", m.toValue))

lemma toValue_eq (r : KeyRecord) : r.toValue = Value.ofFields r.fields := by
  simp only [toValue, fields, Value.ofFields, List.map_append, List.map_cons, List.map_nil,
    List.map_map, Function.comp_def]

lemma isSpelled_toValue (r : KeyRecord) : r.toValue.IsSpelled := by
  rw [toValue_eq]
  refine Value.isSpelled_ofFields fun f hf => ?_
  simp only [fields, List.mem_append, List.mem_cons, List.not_mem_nil, or_false,
    List.mem_map] at hf
  rcases hf with ((rfl | rfl) | ⟨b, -, rfl⟩) | ⟨m, -, rfl⟩
  · exact Value.isSpelled_ofInt r.created.seconds
  · exact Value.isSpelled_ofText r.key
  · exact Value.isSpelled_bool b
  · exact m.isSpelled_toValue

lemma nodup_fields (r : KeyRecord) : (r.fields.map Prod.fst).Nodup := by
  rcases r with ⟨created, key, revoked, parent⟩
  cases revoked <;> cases parent <;> simp [fields]

lemma lookup_fields (r : KeyRecord) :
    ["Created", "Key", "Revoked", "ParentKeyMeta"].map (fun n => r.fields.lookup n) =
      [some r.created.toValue, some (.ofText r.key), r.revoked.map .bool,
        r.parent.map KeyMeta.toValue] := by
  rcases r with ⟨created, key, revoked, parent⟩
  cases revoked <;> cases parent <;> simp [fields, List.lookup_cons]

lemma ofValue?_toValue (r : KeyRecord) : ofValue? r.toValue = some r := by
  have hrevoked := Value.optional?_map Value.bool? Value.bool r.revoked
    fun b _ => ⟨rfl, Value.noConfusion⟩
  have hparent := Value.optional?_map KeyMeta.ofValue? KeyMeta.toValue r.parent
    fun m _ => ⟨m.ofValue?_toValue, Value.noConfusion⟩
  rw [toValue_eq, ofValue?, Value.fields?_ofFields _ r.nodup_fields, lookup_fields]
  simp [hrevoked, hparent]

/-- **A key record is read back from its text.** -/
theorem ofJson_toJson (r : KeyRecord) : ofJson r.toJson = .ok r := by
  have hparse : Value.parse? r.toJson = some r.toValue := Value.parse?_render r.isSpelled_toValue
  rw [ofJson, hparse, Option.bind_some, ofValue?_toValue]

/-- The records made for a wrapped secret: of a system key, of an intermediate key, and either of
them marked again. The times they are made with are any instants. -/
inductive Wraps (wrapped : Bytes) : KeyRecord → Prop
  | system (t : Time) (revoked : Option Bool) : Wraps wrapped (.system t.stamp wrapped revoked)
  | intermediate (t : Time) (revoked : Option Bool) (id : String) (u : Time) :
    Wraps wrapped (.intermediate t.stamp wrapped revoked ⟨id, u.stamp⟩)
  | marked {r : KeyRecord} (revoked : Bool) (h : Wraps wrapped r) :
    Wraps wrapped (r.withRevoked revoked)

lemma Wraps.keyBytes {wrapped : Bytes} {r : KeyRecord} (h : Wraps wrapped r) :
    r.keyBytes = .ok wrapped := by
  induction h with
  | system t revoked => exact keyBytes_system t.stamp wrapped revoked
  | intermediate t revoked id u => exact keyBytes_intermediate t.stamp wrapped revoked ⟨id, u.stamp⟩
  | marked revoked h ih => exact ih

end KeyRecord

/-! ### Data row records -/

namespace DataRow

lemma cipherText_ofParts (created : Stamp) (wrapped : Bytes) (parent : KeyMeta) (data : Bytes) :
    (ofParts created wrapped parent data).cipherText = .ok data := by
  simp [ofParts, cipherText, Base64.decodeText_encodeText]

lemma keyBytes_ofParts (created : Stamp) (wrapped : Bytes) (parent : KeyMeta) (data : Bytes) :
    (ofParts created wrapped parent data).key.map DataRowKey.keyBytes = some (.ok wrapped) := by
  simp [ofParts, DataRowKey.keyBytes, Base64.decodeText_encodeText]

/-- A complete pointer is that of its own meta. -/
lemma pointer?_eq_some {r : DataRow} {k : DataRowKey} {m : KeyMeta} (hk : r.key = some k)
    (h : r.pointer? = some m) : k.parent = some (.ofMeta m) := by
  obtain ⟨k', hk', h⟩ := Option.bind_eq_some_iff.1 h
  obtain rfl : k = k' := Option.some.inj (hk.symm.trans hk')
  obtain ⟨p, hp, h⟩ := Option.bind_eq_some_iff.1 h
  obtain ⟨id, hid, h⟩ := Option.bind_eq_some_iff.1 h
  obtain ⟨s, hs, h⟩ := Option.bind_eq_some_iff.1 h
  rw [hp, ← Option.some.inj h, ParentPointer.ofMeta, ← hid, ← hs]

/-- A record whose parts decode is the record of its parts. -/
lemma ofParts_eq_self {r : DataRow} {k : DataRowKey} {m : KeyMeta} {wrapped data : Bytes}
    (hk : r.key = some k) (hm : r.pointer? = some m) (hw : k.keyBytes = .ok wrapped)
    (hd : r.cipherText = .ok data) : ofParts k.created wrapped m data = r := by
  have hparent := pointer?_eq_some hk hm
  have hkey : Base64.encodeText wrapped = k.key := by
    unfold DataRowKey.keyBytes at hw
    split at hw
    · next bytes hb =>
      cases hw
      exact Base64.encodeText_of_decodeText hb
    · cases hw
  have hdata : some (Base64.encodeText data) = r.data := by
    unfold cipherText at hd
    split at hd
    · cases hd
    · next text ht =>
      split at hd
      · next bytes hb =>
        cases hd
        rw [ht, Base64.encodeText_of_decodeText hb]
      · cases hd
  rw [ofParts, hkey, hdata, ← hparent, ← hk]

end DataRow

/-! ### A row in array form -/

/-- A spelling stands for a text if its pieces make up the bytes of the text. -/
lemma Json.Spelling.text?_eq_some {spelling : Bytes} {s : String}
    (h : (pieces spelling).bind join = some (utf8Bytes s)) : text? spelling = some s := by
  obtain ⟨ps, hps, hjoin⟩ := Option.bind_eq_some_iff.1 h
  rw [text?, hps, Option.bind_some, hjoin, Option.bind_some, ofUtf8?_utf8Bytes]

namespace DataRow

/-- A row in array form, with an escape in its key id. -/
def arrayForm : Bytes :=
  "[[1,\"ZGs=\",[\"k\\u00e9\",2]], \"Y3Q=\"]".toList.map fun c => UInt8.ofNat c.toNat

/-- The wrapped data key of the row in array form. -/
def arrayKey : DataRowKey :=
  ⟨⟨1, by decide, by decide⟩, "ZGs=", some ⟨some "ké", some ⟨2, by decide, by decide⟩⟩⟩

lemma parse?_arrayForm : Value.parse? arrayForm = some (.array
    [.array [.number [49], .string [90, 71, 115, 61],
      .array [.string [107, 92, 117, 48, 48, 101, 57], .number [50]]],
    .string [89, 51, 81, 61]]) := rfl

lemma ofJson_arrayForm : ofJson arrayForm = .ok ⟨some arrayKey, some "Y3Q="⟩ := by
  have hkey : Spelling.text? [90, 71, 115, 61] = some "ZGs=" :=
    Spelling.text?_eq_some (by decide +kernel)
  have hid : Spelling.text? [107, 92, 117, 48, 48, 101, 57] = some "ké" :=
    Spelling.text?_eq_some (by decide +kernel)
  have hdata : Spelling.text? [89, 51, 81, 61] = some "Y3Q=" :=
    Spelling.text?_eq_some (by decide +kernel)
  rw [ofJson, if_neg (by decide +kernel), parse?_arrayForm]
  simp only [Option.bind_some, Function.comp_apply, Value.optional?, ofValue?, Value.fields?,
    List.length_cons, List.length_nil, Nat.zero_add, Nat.reduceAdd, Std.le_refl, if_true,
    List.map_cons, List.map_nil, Nat.sub_self, List.replicate_zero, List.append_nil,
    DataRowKey.ofValue?, Value.text?, hkey, ParentPointer.ofValue?, hid, Option.map_some,
    Option.bind_eq_bind, Option.map_bind, hdata]
  rfl

end DataRow

/-! ### Both forms -/

/-- **The stored forms decode to exactly what was encoded.** Whatever a key record or a data row
record is made of is read back from its text; a text that is accepted at all, however it is
spelled, gives a record that is read back from its own text; and an accepted data row record whose
pointer is complete and whose parts are base64 is the one record made of those parts. -/
theorem records_read_back :
    (∀ (wrapped : Bytes) (r : KeyRecord), r.Wraps wrapped →
      KeyRecord.ofJson r.toJson = .ok r ∧ r.keyBytes = .ok wrapped) ∧
    (∀ (t u : Time) (id : String) (wrapped data : Bytes) (r : DataRow),
      r = .ofParts t.stamp wrapped ⟨id, u.stamp⟩ data →
      DataRow.ofJson r.toJson = .ok r ∧ r.key.map DataRowKey.created = some t.stamp ∧
        r.key.map DataRowKey.keyBytes = some (.ok wrapped) ∧ r.pointer? = some ⟨id, u.stamp⟩ ∧
        r.cipherText = .ok data) ∧
    (∀ (text : Bytes) (r : KeyRecord), KeyRecord.ofJson text = .ok r →
      KeyRecord.ofJson r.toJson = .ok r) ∧
    (∀ (text : Bytes) (r : DataRow), DataRow.ofJson text = .ok r →
      DataRow.ofJson r.toJson = .ok r) ∧
    (∀ (text : Bytes) (r : DataRow) (k : DataRowKey) (m : KeyMeta) (wrapped data : Bytes),
      DataRow.ofJson text = .ok r → r.key = some k → r.pointer? = some m →
      k.keyBytes = .ok wrapped → r.cipherText = .ok data →
      DataRow.ofParts k.created wrapped m data = r) := by
  refine ⟨fun wrapped r h => ⟨r.ofJson_toJson, h.keyBytes⟩, ?_, fun text r _ => r.ofJson_toJson,
    fun text r _ => r.ofJson_toJson, fun text r k m wrapped data _ hk hm hw hd =>
      DataRow.ofParts_eq_self hk hm hw hd⟩
  rintro t u id wrapped data r rfl
  exact ⟨DataRow.ofJson_toJson _, rfl, DataRow.keyBytes_ofParts _ _ _ _,
    DataRow.pointer?_ofParts _ _ _ _, DataRow.cipherText_ofParts _ _ _ _⟩

/-- A record marked revoked, and the row in array form. -/
theorem records_read_back_arrayForm :
    KeyRecord.ofJson ((KeyRecord.system Time.first.stamp [107] none).withRevoked true).toJson =
        .ok ((KeyRecord.system Time.first.stamp [107] none).withRevoked true) ∧
      DataRow.ofJson DataRow.arrayForm = .ok ⟨some DataRow.arrayKey, some "Y3Q="⟩ ∧
      DataRow.ofParts DataRow.arrayKey.created [100, 107] ⟨"ké", ⟨2, by decide, by decide⟩⟩
        [99, 116] = ⟨some DataRow.arrayKey, some "Y3Q="⟩ := by
  refine ⟨?_, DataRow.ofJson_arrayForm, ?_⟩
  · exact (records_read_back.1 [107] _ (.marked true (.system Time.first none))).1
  · exact records_read_back.2.2.2.2 DataRow.arrayForm _ _ _ _ _ DataRow.ofJson_arrayForm rfl rfl
      (by rfl) (by rfl)

end Envelope
