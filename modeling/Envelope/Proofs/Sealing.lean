import Envelope.Key
import Envelope.Proofs.Computation

/-!
What is sealed under a key opens again under it.

Only the secret of a key matters for sealing and opening. Sealing fails for a text above the
length limit of the cipher and for no other reason, so wrapping a key never fails.
-/

namespace Envelope.Key

open Cipher

/-! ### Texts -/

lemma decrypt_sealed (k : Key) {nonce text sealed : Bytes}
    (hn : nonce.length = Siv.nonceLength) (h : Siv.encrypt k.secret nonce text = some sealed) :
    k.decrypt (sealed ++ nonce) = .ok text := by
  have hlen : sealed.length = text.length + Siv.tagLength := Siv.length_encrypt h
  have hbody : (sealed ++ nonce).length - Siv.nonceLength = sealed.length := by
    simp [hn]
  have hshort : ¬ (sealed ++ nonce).length < Siv.tagLength + Siv.nonceLength := by
    simp only [List.length_append, hlen, hn]
    omega
  unfold decrypt
  rw [if_neg hshort]
  simp only [hbody, List.drop_left, List.take_left, Siv.decrypt_encrypt h]

/-- **A sealed text opens again**, and only a text above the limit is not sealed. -/
lemma encrypt_yields (k : Key) (text : Bytes) (r : Random) :
    (k.encrypt text).Yields r
      (fun sealed _ => k.decrypt sealed = .ok text ∧
        sealed.length = text.length + Siv.tagLength + Siv.nonceLength)
      (fun fault _ => fault = .aeadFailure ∧ Siv.maxLength < text.length) := by
  have hn : (r.draw Siv.nonceLength).1.length = Siv.nonceLength := Random.length_draw _ r
  unfold encrypt drawBytes
  simp only [Action.yields_bind, Action.yields_ofState]
  cases h : Siv.encrypt k.secret (r.draw Siv.nonceLength).1 text with
  | some sealed =>
    refine ⟨decrypt_sealed k hn h, ?_⟩
    rw [List.length_append, hn, Siv.length_encrypt h]
  | none =>
    refine ⟨rfl, ?_⟩
    by_contra hle
    obtain ⟨sealed, hs⟩ := Siv.exists_encrypt k.secret (r.draw Siv.nonceLength).1
      (Nat.not_lt.1 hle)
    rw [h] at hs
    cases hs

/-- Only a text within the limit is sealed. -/
lemma encrypt_yields_le (k : Key) (text : Bytes) (r : Random) :
    (k.encrypt text).Yields r (fun _ _ => text.length ≤ Siv.maxLength) fun _ _ => True := by
  unfold encrypt drawBytes
  simp only [Action.yields_bind, Action.yields_ofState]
  split
  · next h =>
    refine Nat.not_lt.1 fun hlong => ?_
    unfold Siv.encrypt at h
    rw [if_pos hlong] at h
    cases h
  · trivial

lemma decrypt_congr {k k' : Key} (h : k.secret = k'.secret) (sealed : Bytes) :
    k.decrypt sealed = k'.decrypt sealed := by
  unfold decrypt
  rw [h]

/-! ### Keys -/

/-- The key that a wrapped secret opens to, with the creation time and revocation given. -/
def restamp (k : Key) (created : Stamp) (revoked : Bool) : Key := { k with created, revoked }

@[simp] lemma restamp_secret (k : Key) (created : Stamp) (revoked : Bool) :
    (k.restamp created revoked).secret = k.secret := rfl

@[simp] lemma restamp_self (k : Key) : k.restamp k.created k.revoked = k := rfl

lemma unwrap_congr {k k' : Key} (h : k.secret = k'.secret) (wrapped : Bytes) (created : Stamp)
    (revoked : Bool) : k.unwrap wrapped created revoked = k'.unwrap wrapped created revoked := by
  unfold unwrap
  rw [decrypt_congr h]

lemma unwrap_of_decrypt {outer inner : Key} {wrapped : Bytes}
    (h : outer.decrypt wrapped = .ok inner.secret) (created : Stamp) (revoked : Bool) :
    outer.unwrap wrapped created revoked = .ok (inner.restamp created revoked) := by
  unfold unwrap
  rw [h]
  show ofBytes inner.secret created revoked = _
  rw [ofBytes, dif_pos inner.length_secret]
  rfl

/-- What is unwrapped carries the creation time and the revocation given. -/
lemma unwrap_eq_ok {outer k : Key} {wrapped : Bytes} {created : Stamp} {revoked : Bool}
    (h : outer.unwrap wrapped created revoked = .ok k) :
    outer.decrypt wrapped = .ok k.secret ∧ k.created = created ∧ k.revoked = revoked := by
  obtain ⟨secret, hd, h⟩ := Except.bind_eq_ok_iff.1 h
  unfold ofBytes at h
  split at h
  · cases h
    exact ⟨hd, rfl, rfl⟩
  · cases h

lemma secret_length_le (k : Key) : k.secret.length ≤ Siv.maxLength := by
  rw [k.length_secret]
  decide

/-- **A wrapped key opens again**, and wrapping does not fail. -/
lemma wrap_yields (outer inner : Key) (r : Random) :
    (outer.wrap inner).Yields r (fun wrapped _ => outer.decrypt wrapped = .ok inner.secret)
      (fun _ _ => False) :=
  (encrypt_yields outer inner.secret r).mono (fun _ _ h => h.1)
    fun _ _ h => absurd h.2 (Nat.not_lt.2 inner.secret_length_le)

/-- Wrapping the inner key under the outer one may come to this text. -/
def Wraps (outer inner : Key) (wrapped : Bytes) : Prop :=
  ∃ r t : Random, (outer.wrap inner).outcome r = (.ok wrapped, t)

lemma Wraps.decrypt {outer inner : Key} {wrapped : Bytes} (h : outer.Wraps inner wrapped) :
    outer.decrypt wrapped = .ok inner.secret := by
  obtain ⟨r, t, hr⟩ := h
  have hw := wrap_yields outer inner r
  unfold Action.Yields at hw
  rwa [hr] at hw

/-- Only the secret of the outer key matters. -/
lemma Wraps.congr {outer outer' inner : Key} {wrapped : Bytes} (h : outer.Wraps inner wrapped)
    (hs : outer.secret = outer'.secret) : outer'.Wraps inner wrapped := by
  obtain ⟨r, t, hr⟩ := h
  refine ⟨r, t, ?_⟩
  unfold wrap encrypt at hr ⊢
  rwa [← hs]

lemma wrap_yields_wraps (outer inner : Key) (r : Random) :
    (outer.wrap inner).Yields r (fun wrapped _ => outer.Wraps inner wrapped)
      (fun _ _ => False) := by
  have hw := wrap_yields outer inner r
  unfold Action.Yields at hw ⊢
  rcases hr : (outer.wrap inner).outcome r with ⟨fault | wrapped, t⟩
  · rwa [hr] at hw
  · exact ⟨r, t, hr⟩

/-- Any key can be wrapped under any other. -/
lemma exists_wraps (outer inner : Key) : ∃ wrapped, outer.Wraps inner wrapped := by
  have hw := wrap_yields_wraps outer inner (.ofSeed 0)
  unfold Action.Yields at hw
  split at hw
  · next wrapped _ _ => exact ⟨wrapped, hw⟩
  · exact hw.elim

/-! ### Payloads -/

lemma openPayload_congr {k k' : Key} (h : k.secret = k'.secret) (cipherText wrapped : Bytes)
    (created : Stamp) :
    k.openPayload cipherText wrapped created = k'.openPayload cipherText wrapped created := by
  unfold openPayload
  rw [unwrap_congr h]

/-- **A sealed payload opens again**, whatever creation time its data key is read with. -/
lemma sealPayload_yields (outer : Key) (now : Stamp) (payload : Bytes) (r : Random) :
    (outer.sealPayload now payload).Yields r
      (fun p _ => p.created = now ∧
        ∀ created, outer.openPayload p.cipherText p.encryptedKey created = .ok payload)
      (fun fault _ => fault = .aeadFailure ∧ Siv.maxLength < payload.length) := by
  unfold sealPayload generate
  simp only [Action.yields_bind, Action.yields_ofState]
  refine (encrypt_yields _ payload _).mono (fun cipherText t hc => ?_) fun _ _ h => h
  refine (wrap_yields outer _ t).mono (fun wrapped u hw => ?_) fun _ _ h => h.elim
  refine ⟨rfl, fun created => ?_⟩
  unfold openPayload
  rw [unwrap_of_decrypt hw]
  exact (decrypt_congr (restamp_secret _ _ _) cipherText).trans hc.1

/-- How long the parts of a sealed payload are. -/
lemma sealPayload_yields_sizes (outer : Key) (now : Stamp) (payload : Bytes) (r : Random) :
    (outer.sealPayload now payload).Yields r
      (fun p _ => payload.length ≤ Siv.maxLength ∧
        p.cipherText.length = payload.length + Siv.tagLength + Siv.nonceLength ∧
        p.encryptedKey.length = Siv.keyLength + Siv.tagLength + Siv.nonceLength)
      (fun _ _ => True) := by
  unfold sealPayload generate
  simp only [Action.yields_bind, Action.yields_ofState]
  refine ((encrypt_yields _ payload _).and (encrypt_yields_le _ payload _)).mono
    (fun cipherText t hc => ?_) fun _ _ _ => trivial
  refine (encrypt_yields outer _ t).mono (fun wrapped u hw => ?_) fun _ _ _ => trivial
  exact ⟨hc.2, hc.1.2, hw.2.trans (by rw [Random.length_draw])⟩

/-- The data key of a sealed payload is wrapped under the key. -/
lemma sealPayload_yields_wraps (outer : Key) (now : Stamp) (payload : Bytes) (r : Random) :
    (outer.sealPayload now payload).Yields r
      (fun p _ => ∃ dataKey, outer.Wraps dataKey p.encryptedKey) (fun _ _ => True) := by
  unfold sealPayload generate
  simp only [Action.yields_bind, Action.yields_ofState]
  refine (encrypt_yields _ payload _).mono (fun cipherText t _ => ?_) fun _ _ _ => trivial
  exact (wrap_yields_wraps outer _ t).mono (fun wrapped u hw => ⟨_, hw⟩) fun _ _ h => h.elim

end Envelope.Key
