import Envelope.KeyService.KeyEnvelope
import Envelope.Proofs.Json.Fields

/-!
The text of a key envelope is read back to the same envelope.
-/

namespace Envelope

open Json

namespace Json.Value

lemma isSpelled_itemTokens {items : List Value} (h : ∀ v ∈ items, v.IsSpelled) :
    ∀ t ∈ itemTokens items, t.IsSpelled := by
  induction items with
  | nil => simp [itemTokens]
  | cons v rest ih =>
    have hv := h v (by simp)
    have ih := ih fun w hw => h w (by simp [hw])
    cases rest with
    | nil => simpa [itemTokens, IsSpelled] using hv
    | cons w rest =>
      intro t ht
      have ht : t ∈ v.tokens ∨ t = .comma ∨ t ∈ itemTokens (w :: rest) := by
        simpa [itemTokens] using ht
      rcases ht with ht | rfl | ht
      · exact hv t ht
      · trivial
      · exact ih t ht

lemma isSpelled_array {items : List Value} (h : ∀ v ∈ items, v.IsSpelled) :
    (array items).IsSpelled := by
  intro t ht
  have ht : t = .beginArray ∨ t ∈ itemTokens items ∨ t = .endArray := by
    simpa [tokens, or_assoc] using ht
  rcases ht with rfl | ht | rfl
  · trivial
  · exact isSpelled_itemTokens h t ht
  · trivial

/-- Items are read back if each of them is. -/
lemma mapM_map {α : Type} {read : Value → Option α} {write : α → Value}
    (h : ∀ a, read (write a) = some a) (l : List α) : (l.map write).mapM read = some l := by
  induction l with
  | nil => rfl
  | cons a rest ih => simp [List.mapM_cons, h, ih]

end Json.Value

namespace WrappedDataKey

lemma toValue_eq (k : WrappedDataKey) : k.toValue = Value.ofFields
    [("region", .ofText k.region), ("arn", .ofText k.arn),
      ("encryptedKek", .ofText k.ciphertext)] := rfl

lemma isSpelled_toValue (k : WrappedDataKey) : k.toValue.IsSpelled := by
  rw [toValue_eq]
  refine Value.isSpelled_ofFields fun f hf => ?_
  simp only [List.mem_cons, List.not_mem_nil, or_false] at hf
  rcases hf with rfl | rfl | rfl <;> exact Value.isSpelled_ofText _

lemma ofValue?_toValue (k : WrappedDataKey) : ofValue? k.toValue = some k := by
  rw [toValue_eq, ofValue?, Value.fields?_ofFields _ (by simp)]
  simp [List.lookup_cons]

end WrappedDataKey

namespace KeyEnvelope

lemma toValue_eq (e : KeyEnvelope) : e.toValue = Value.ofFields
    [("encryptedKey", .ofText e.encryptedKey),
      ("kmsKeks", .array (e.dataKeys.map WrappedDataKey.toValue))] := rfl

lemma isSpelled_toValue (e : KeyEnvelope) : e.toValue.IsSpelled := by
  rw [toValue_eq]
  refine Value.isSpelled_ofFields fun f hf => ?_
  simp only [List.mem_cons, List.not_mem_nil, or_false] at hf
  rcases hf with rfl | rfl
  · exact Value.isSpelled_ofText _
  · refine Value.isSpelled_array fun v hv => ?_
    obtain ⟨k, -, rfl⟩ := List.mem_map.1 hv
    exact k.isSpelled_toValue

lemma ofValue?_toValue (e : KeyEnvelope) : ofValue? e.toValue = some e := by
  have h := Value.mapM_map WrappedDataKey.ofValue?_toValue e.dataKeys
  rw [toValue_eq, ofValue?, Value.fields?_ofFields _ (by simp)]
  simp [List.lookup_cons, h]

/-- **A key envelope is read back from its text.** -/
theorem ofJson_toJson (e : KeyEnvelope) : ofJson e.toJson = .ok e := by
  have hparse : Value.parse? e.toJson = some e.toValue := Value.parse?_render e.isSpelled_toValue
  rw [ofJson, hparse, Option.bind_some, ofValue?_toValue]

end KeyEnvelope

end Envelope
