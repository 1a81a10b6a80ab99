import Envelope.Json.Fields
import Envelope.Proofs.Json.Rendering

/-!
Records written as objects with their field names are read back field by field.
-/

namespace Envelope.Json

namespace Value

/-! ### Spelled values -/

lemma isSpelled_null : IsSpelled .null := by
  intro t ht
  rw [List.mem_singleton.1 ht]
  trivial

lemma isSpelled_ofText (s : String) : (ofText s).IsSpelled := by
  intro t ht
  rw [List.mem_singleton.1 ht]
  exact Scan.isString_ofText s

lemma isSpelled_ofInt (n : Int) : (ofInt n).IsSpelled := by
  intro t ht
  rw [List.mem_singleton.1 ht]
  exact Scan.isNumber_ofInt n

lemma isSpelled_memberTokens {members : List (Bytes × Value)}
    (h : ∀ m ∈ members, Scan.IsString m.1 ∧ m.2.IsSpelled) :
    ∀ t ∈ memberTokens members, t.IsSpelled := by
  induction members with
  | nil => simp [memberTokens]
  | cons m rest ih =>
    obtain ⟨name, v⟩ := m
    obtain ⟨hn, hv⟩ := h (name, v) (by simp)
    have ih := ih fun m hm => h m (by simp [hm])
    intro t ht
    have ht : t = .string name ∨ t = .colon ∨ t ∈ v.tokens ∨ t = .comma ∨
        t ∈ memberTokens rest := by
      cases rest with
      | nil =>
        have ht : t = .string name ∨ t = .colon ∨ t ∈ v.tokens := by
          simpa [memberTokens] using ht
        tauto
      | cons m' rest => simpa [memberTokens, or_assoc] using ht
    rcases ht with rfl | rfl | ht | rfl | ht
    · exact hn
    · trivial
    · exact hv t ht
    · trivial
    · exact ih t ht

/-- The members of a record, with their names as texts. -/
def ofFields (fields : List (String × Value)) : Value :=
  .object (fields.map fun f => (Spelling.ofText f.1, f.2))

lemma isSpelled_ofFields {fields : List (String × Value)} (h : ∀ f ∈ fields, f.2.IsSpelled) :
    (ofFields fields).IsSpelled := by
  intro t ht
  have ht : t = .beginObject ∨
      t ∈ memberTokens (fields.map fun f => (Spelling.ofText f.1, f.2)) ∨ t = .endObject := by
    simpa [ofFields, tokens, or_assoc] using ht
  rcases ht with rfl | ht | rfl
  · trivial
  · refine isSpelled_memberTokens (fun m hm => ?_) t ht
    obtain ⟨f, hf, rfl⟩ := List.mem_map.1 hm
    exact ⟨Scan.isString_ofText f.1, h f hf⟩
  · trivial

/-! ### Fields -/

@[simp] lemma text?_ofText (s : String) : (ofText s).text? = some s := Spelling.text?_ofText s

@[simp] lemma integer?_ofInt (n : Int) : (ofInt n).integer? = some n := Decimal.integer?_ofInt n

lemma named?_map (fields : List (String × Value)) :
    named? (fields.map fun f => (Spelling.ofText f.1, f.2)) = some fields := by
  induction fields with
  | nil => rfl
  | cons f rest ih => simp [named?, ih, Spelling.text?_ofText]

lemma field?_of_nodup {fields : List (String × Value)} (h : (fields.map Prod.fst).Nodup)
    (name : String) : field? fields name = some (fields.lookup name) := by
  have hnil : ∀ {l : List (String × Value)}, name ∉ l.map Prod.fst →
      l.filter (·.1 = name) = [] ∧ l.lookup name = none := by
    intro l hl
    refine ⟨List.filter_eq_nil_iff.2 fun f hf => ?_, List.lookup_eq_none_iff.2 fun f hf => ?_⟩
    · simpa using fun he => hl (List.mem_map.2 ⟨f, hf, he⟩)
    · simpa using fun he => hl (List.mem_map.2 ⟨f, hf, he.symm⟩)
  induction fields with
  | nil => rfl
  | cons f rest ih =>
    obtain ⟨n, v⟩ := f
    rw [List.map_cons, List.nodup_cons] at h
    by_cases hn : n = name
    · subst hn
      simp [field?, (hnil h.1).1]
    · have hb : (name == n) = false := by simpa using Ne.symm hn
      rw [List.lookup_cons, hb, ← ih h.2]
      simp [field?, hn]

/-- **The fields of a record written as an object.** -/
theorem fields?_ofFields (names : List String) {fields : List (String × Value)}
    (h : (fields.map Prod.fst).Nodup) :
    fields? names (ofFields fields) = some (names.map fun n => fields.lookup n) := by
  rw [ofFields, fields?, named?_map]
  show names.mapM (field? fields) = _
  induction names with
  | nil => rfl
  | cons n rest ih => simp [List.mapM_cons, field?_of_nodup h, ih]

end Value

end Envelope.Json
