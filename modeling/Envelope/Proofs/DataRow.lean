import Envelope.DataRow
import Envelope.Proofs.Json.Fields

/-!
The text of a data row record is read back to the same record.
-/

namespace Envelope

open Json

@[simp] lemma Stamp.ofValue?_toValue (s : Stamp) : Stamp.ofValue? s.toValue = some s := by
  simp [Stamp.ofValue?, Stamp.toValue]

namespace Json.Value

/-- An optional part written as null when it is absent. -/
def ofOption (v : Option Value) : Value := v.getD .null

lemma isSpelled_ofOption {v : Option Value} (h : ∀ w ∈ v, w.IsSpelled) :
    (ofOption v).IsSpelled := by
  cases v with
  | none => exact isSpelled_null
  | some w => exact h w rfl

/-- An optional part is read back if what is written for it is not null. -/
lemma optional?_ofOption {α : Type} (read : Value → Option α) (write : α → Value) (a : Option α)
    (h : ∀ x ∈ a, read (write x) = some x ∧ write x ≠ .null) :
    optional? read (some (ofOption (a.map write))) = some a := by
  cases a with
  | none => rfl
  | some x =>
    obtain ⟨hr, hn⟩ := h x rfl
    show optional? read (some (write x)) = _
    unfold optional?
    split
    · next heq => cases heq
    · next heq => exact absurd (Option.some.inj heq) hn
    · next heq =>
      cases heq
      rw [hr]
      rfl

end Json.Value

namespace ParentPointer

lemma toValue_eq (p : ParentPointer) : p.toValue = Value.ofFields
    [("KeyId", .ofOption (p.keyId.map .ofText)),
      ("Created", .ofOption (p.created.map Stamp.toValue))] := rfl

lemma isSpelled_toValue (p : ParentPointer) : p.toValue.IsSpelled := by
  rw [toValue_eq]
  refine Value.isSpelled_ofFields fun f hf => ?_
  simp only [List.mem_cons, List.not_mem_nil, or_false] at hf
  rcases hf with rfl | rfl
  · refine Value.isSpelled_ofOption fun w hw => ?_
    obtain ⟨s, -, rfl⟩ := Option.map_eq_some_iff.1 hw
    exact Value.isSpelled_ofText s
  · refine Value.isSpelled_ofOption fun w hw => ?_
    obtain ⟨s, -, rfl⟩ := Option.map_eq_some_iff.1 hw
    exact Value.isSpelled_ofInt s.seconds

lemma ofValue?_toValue (p : ParentPointer) : ofValue? p.toValue = some p := by
  have h1 := Value.optional?_ofOption Value.text? Value.ofText p.keyId
    fun s _ => ⟨Value.text?_ofText s, by simp [Value.ofText]⟩
  have h2 := Value.optional?_ofOption Stamp.ofValue? Stamp.toValue p.created
    fun s _ => ⟨Stamp.ofValue?_toValue s, by simp [Stamp.toValue, Value.ofInt]⟩
  rw [toValue_eq, ofValue?, Value.fields?_ofFields _ (by simp)]
  simp only [List.map_cons, List.map_nil, List.lookup_cons, beq_self_eq_true]
  simp [h1, h2]

end ParentPointer

namespace DataRowKey

lemma toValue_eq (k : DataRowKey) : k.toValue = Value.ofFields
    [("Created", k.created.toValue), ("Key", .ofText k.key),
      ("ParentKeyMeta", .ofOption (k.parent.map ParentPointer.toValue))] := rfl

lemma isSpelled_toValue (k : DataRowKey) : k.toValue.IsSpelled := by
  rw [toValue_eq]
  refine Value.isSpelled_ofFields fun f hf => ?_
  simp only [List.mem_cons, List.not_mem_nil, or_false] at hf
  rcases hf with rfl | rfl | rfl
  · exact Value.isSpelled_ofInt k.created.seconds
  · exact Value.isSpelled_ofText k.key
  · refine Value.isSpelled_ofOption fun w hw => ?_
    obtain ⟨p, -, rfl⟩ := Option.map_eq_some_iff.1 hw
    exact p.isSpelled_toValue

lemma ofValue?_toValue (k : DataRowKey) : ofValue? k.toValue = some k := by
  have h := Value.optional?_ofOption ParentPointer.ofValue? ParentPointer.toValue k.parent
    fun p _ => ⟨p.ofValue?_toValue, by simp [ParentPointer.toValue]⟩
  rw [toValue_eq, ofValue?, Value.fields?_ofFields _ (by simp)]
  simp [List.lookup_cons, h]

end DataRowKey

namespace DataRow

lemma toValue_eq (r : DataRow) : r.toValue = Value.ofFields
    [("Key", .ofOption (r.key.map DataRowKey.toValue)),
      ("Data", .ofOption (r.data.map .ofText))] := rfl

lemma isSpelled_toValue (r : DataRow) : r.toValue.IsSpelled := by
  rw [toValue_eq]
  refine Value.isSpelled_ofFields fun f hf => ?_
  simp only [List.mem_cons, List.not_mem_nil, or_false] at hf
  rcases hf with rfl | rfl
  · refine Value.isSpelled_ofOption fun w hw => ?_
    obtain ⟨k, -, rfl⟩ := Option.map_eq_some_iff.1 hw
    exact k.isSpelled_toValue
  · refine Value.isSpelled_ofOption fun w hw => ?_
    obtain ⟨s, -, rfl⟩ := Option.map_eq_some_iff.1 hw
    exact Value.isSpelled_ofText s

lemma ofValue?_toValue (r : DataRow) : ofValue? r.toValue = some r := by
  have h1 := Value.optional?_ofOption DataRowKey.ofValue? DataRowKey.toValue
    r.key fun k _ => ⟨k.ofValue?_toValue, by simp [DataRowKey.toValue]⟩
  have h2 := Value.optional?_ofOption Value.text? Value.ofText r.data
    fun s _ => ⟨Value.text?_ofText s, by simp [Value.ofText]⟩
  rw [toValue_eq, ofValue?, Value.fields?_ofFields _ (by simp)]
  simp [List.lookup_cons, h1, h2]

/-- **A record is read back from its text.** -/
theorem ofJson_toJson (r : DataRow) : ofJson r.toJson = .ok r := by
  have hparse : Value.parse? r.toJson = some r.toValue := Value.parse?_render r.isSpelled_toValue
  have hne : r.toJson ≠ [] := by
    intro h
    have hnil : Value.parse? [] = none := by decide
    rw [h, hnil] at hparse
    cases hparse
  have h : (Value.optional? ofValue? ∘ some) r.toValue = some (some r) := by
    exact Value.optional?_ofOption ofValue? toValue (some r)
      fun x _ => ⟨x.ofValue?_toValue, by simp [toValue]⟩
  rw [ofJson, if_neg hne, hparse, Option.bind_some, h]

/-- The pointer to the intermediate key, if the record has a complete one. -/
def pointer? (r : DataRow) : Option KeyMeta := do (← (← r.key).parent).meta?

@[simp] lemma pointer?_ofParts (created : Stamp) (wrapped : Bytes) (parent : KeyMeta)
    (cipherText : Bytes) : (ofParts created wrapped parent cipherText).pointer? = some parent := rfl

/-- The intermediate key that the text of a record names, if it is such a text. -/
def named? (text : Bytes) : Option KeyMeta := (ofJson text).toOption.bind pointer?

lemma named?_toJson (r : DataRow) : named? r.toJson = r.pointer? := by
  rw [named?, ofJson_toJson]
  rfl

end DataRow

end Envelope
