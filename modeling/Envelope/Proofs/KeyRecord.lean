import Envelope.Proofs.Base64
import Envelope.Proofs.Sealing
import Envelope.Store

/-!
Key records that open.

What a record opens to depends on the secret of the key it was wrapped under and on nothing else of
that key. A revocation only marks a record, so it still opens, to a key that is known to be revoked.
-/

namespace Envelope

namespace KeyRecord

/-- The key of a record, opened with the key it is wrapped under. -/
def openWith (outer : Key) (r : KeyRecord) : Except Error Key := do
  let wrapped ← r.keyBytes
  (outer.unwrap wrapped r.created r.isRevoked).mapError Error.ofCipher

/-- The record at a later time: nothing but a revocation may have happened to it. -/
def Persists (r r' : KeyRecord) : Prop := r' = r ∨ r' = r.withRevoked true

lemma Persists.refl (r : KeyRecord) : r.Persists r := Or.inl rfl

lemma Persists.trans {r r' r'' : KeyRecord} (h : r.Persists r') (h' : r'.Persists r'') :
    r.Persists r'' := by
  rcases h with rfl | rfl
  · exact h'
  · rcases h' with rfl | rfl <;> exact Or.inr rfl

lemma Persists.created {r r' : KeyRecord} (h : r.Persists r') : r'.created = r.created := by
  rcases h with rfl | rfl <;> rfl

lemma Persists.parent {r r' : KeyRecord} (h : r.Persists r') : r'.parent = r.parent := by
  rcases h with rfl | rfl <;> rfl

lemma Persists.isRevoked {r r' : KeyRecord} (h : r.Persists r') (hr : r.isRevoked = true) :
    r'.isRevoked = true := by
  rcases h with rfl | rfl
  · exact hr
  · rfl

lemma openWith_congr {outer outer' : Key} (h : outer.secret = outer'.secret) (r : KeyRecord) :
    r.openWith outer = r.openWith outer' := by
  unfold openWith
  simp only [Key.unwrap_congr h]

lemma openWith_of_keyBytes {outer inner : Key} {r : KeyRecord} {wrapped : Bytes}
    (hb : r.keyBytes = .ok wrapped) (h : outer.decrypt wrapped = .ok inner.secret) :
    r.openWith outer = .ok (inner.restamp r.created r.isRevoked) := by
  unfold openWith
  rw [hb]
  show (outer.unwrap wrapped r.created r.isRevoked).mapError Error.ofCipher = _
  rw [Key.unwrap_of_decrypt h]
  rfl

/-- A key opens from the record that it was wrapped for. -/
lemma openWith_of_decrypt {outer inner : Key} {r : KeyRecord} {wrapped : Bytes}
    (hb : r.keyBytes = .ok wrapped) (h : outer.decrypt wrapped = .ok inner.secret)
    (hc : r.created = inner.created) (hr : r.isRevoked = inner.revoked) :
    r.openWith outer = .ok inner := by
  rw [openWith_of_keyBytes hb h, hc, hr, Key.restamp_self]

lemma openWith_eq_ok {outer k : Key} {r : KeyRecord} (h : r.openWith outer = .ok k) :
    ∃ wrapped, r.keyBytes = .ok wrapped ∧ outer.decrypt wrapped = .ok k.secret ∧
      k.created = r.created ∧ k.revoked = r.isRevoked := by
  obtain ⟨wrapped, hb, h⟩ := Except.bind_eq_ok_iff.1 h
  exact ⟨wrapped, hb, Key.unwrap_eq_ok (Except.mapError_eq_ok_iff.1 h)⟩

end KeyRecord

/-- The key at a later time: nothing but a revocation may have happened to it. -/
def Key.Persists (k k' : Key) : Prop :=
  k'.secret = k.secret ∧ k'.created = k.created ∧ (k.revoked = true → k'.revoked = true)

lemma Key.Persists.refl (k : Key) : k.Persists k := ⟨rfl, rfl, id⟩

lemma KeyRecord.Persists.openWith {r r' : KeyRecord} {outer outer' k : Key} (h : r.Persists r')
    (ho : outer.Persists outer') (hk : r.openWith outer = .ok k) :
    ∃ k', r'.openWith outer' = .ok k' ∧ k.Persists k' := by
  obtain ⟨wrapped, hb, hd, hc, hr⟩ := openWith_eq_ok hk
  have hb' : r'.keyBytes = .ok wrapped := by
    rcases h with rfl | rfl <;> exact hb
  rw [openWith_congr ho.1]
  refine ⟨_, openWith_of_keyBytes hb' hd, rfl, h.created.trans hc.symm, fun hrev => ?_⟩
  exact h.isRevoked (hr ▸ hrev)

end Envelope
