import Envelope.Proofs.Reading
import Envelope.Proofs.Secrecy.IntermediateKeys

/-!
Payloads in two workspaces that differ in their secrets.

An engine seals a payload into records that differ in ciphertexts alone, or fails with the same
error. It opens such records to the same payload.
-/

namespace Envelope

open Envelope.Action Kinship

/-! ### Records of payloads -/

/-- The record with these parts. -/
def Engine.Readable.row (rd : Readable) : DataRow :=
  .ofParts rd.created rd.wrappedKey rd.pointer rd.cipherText

open Engine (Readable)

/-- The record opens to the payload under the intermediate key that it points to. -/
def Store.Opens (s : Store) (m : Key) (rd : Readable) (payload : Bytes) : Prop :=
  ∃ k, s.intermediateKey m rd.pointer = .ok k ∧
    k.openPayload rd.cipherText rd.wrappedKey rd.created = .ok payload

lemma Store.Grows.opens {s s' : Store} {m : Key} {rd : Readable} {payload : Bytes}
    (h : s.Grows s') (ho : s.Opens m rd payload) : s'.Opens m rd payload := by
  obtain ⟨k, hk, hopen⟩ := ho
  obtain ⟨k', hk', hp⟩ := h.intermediateKey hk
  exact ⟨k', hk', (Key.openPayload_congr hp.1 _ _ _).trans hopen⟩

/-- The records differ in ciphertexts alone, and open to one payload. -/
structure RowsAlike (m n : Key) (s s' : Store) (rd rd' : Readable) : Prop where
  pointer : rd.pointer = rd'.pointer
  created : rd.created = rd'.created
  keyLength : rd.wrappedKey.length = rd'.wrappedKey.length
  dataLength : rd.cipherText.length = rd'.cipherText.length
  opens : ∃ payload, s.Opens m rd payload ∧ s'.Opens n rd' payload

lemma RowsAlike.mono {m n : Key} {s s' t t' : Store} {rd rd' : Readable}
    (h : RowsAlike m n s s' rd rd') (hs : s.Grows t) (hs' : s'.Grows t') :
    RowsAlike m n t t' rd rd' := by
  obtain ⟨payload, ho, ho'⟩ := h.opens
  exact ⟨h.pointer, h.created, h.keyLength, h.dataLength, payload, hs.opens ho, hs'.opens ho'⟩

namespace Engine

open Workspace

variable {p : Partition} {policy : Policy} {m n : Key} {e e' : Environment} {w w' : Workspace}

/-! ### Sealing -/

/-- All that is known of a sealed payload, and just when there is one. -/
lemma sealPayload_yields_all (outer : Key) (now : Stamp) (payload : Bytes) (r : Random) :
    (outer.sealPayload now payload).Yields r
      (fun x _ => (x.created = now ∧
        x.cipherText.length =
          payload.length + Cipher.Siv.tagLength + Cipher.Siv.nonceLength ∧
        x.encryptedKey.length =
          Cipher.Siv.keyLength + Cipher.Siv.tagLength + Cipher.Siv.nonceLength ∧
        ∀ created, outer.openPayload x.cipherText x.encryptedKey created = .ok payload) ∧
        payload.length ≤ Cipher.Siv.maxLength)
      (fun fault _ => fault = .aeadFailure ∧ ¬ payload.length ≤ Cipher.Siv.maxLength) :=
  ((outer.sealPayload_yields now payload r).and (outer.sealPayload_yields_sizes now payload r)).mono
    (fun _ _ h => ⟨⟨h.1.1, h.2.2.1, h.2.2.2, h.1.2⟩, h.2.1⟩)
    fun _ _ h => ⟨h.1.1, Nat.not_le.2 h.1.2⟩

/-- **Sealing a payload** comes to records that differ in ciphertexts alone, or to one error. -/
theorem agrees_encrypt (h : w.Twins p policy m n w') (payload : Bytes) :
    (kinship p policy m n).Agrees (encrypt ⟨p, policy, .master m⟩ payload)
      (encrypt ⟨p, policy, .master n⟩ payload) w w' fun row row' s s' =>
        ∃ rd rd', row = rd.row ∧ row' = rd'.row ∧ RowsAlike m n s s' rd rd' := by
  unfold encrypt
  dsimp only
  refine (agrees_intermediateKeyForWrite h).bind fun x y v v' keys hafter => ?_
  refine (agrees_lift hafter.twins (Effect.agrees_now hafter.twins.environment)).bind
    fun now _ v v' heq hafter => ?_
  subst heq
  replace keys := keys.mono hafter.left.intermediateKey hafter.right.intermediateKey
  have hseal := Effect.agrees_sealing .aeadFailure hafter.twins.environment
    (sealPayload_yields_all x.key now.stamp payload _)
    (sealPayload_yields_all y.key now.stamp payload _)
  refine (agrees_lift hafter.twins hseal).bind fun a b v v' hab hafter => ?_
  obtain ⟨⟨hc, hdata, hkey, hopen⟩, hc', hdata', hkey', hopen'⟩ := hab
  replace keys := keys.mono hafter.left.intermediateKey hafter.right.intermediateKey
  -- Later the stores may hold the keys as revoked, but their secrets stay and so the payload opens.
  have hpointer := congrArg (KeyMeta.mk p.intermediateKeyId) keys.created
  obtain ⟨-, ⟨x₀, hx₀, hx⟩, y₀, hy₀, hy⟩ := keys
  refine agrees_pure hafter.twins
    ⟨⟨⟨p.intermediateKeyId, x.key.created⟩, a.created, a.encryptedKey, a.cipherText⟩,
      ⟨⟨p.intermediateKeyId, y.key.created⟩, b.created, b.encryptedKey, b.cipherText⟩, rfl, rfl,
      hpointer, hc.trans hc'.symm, hkey.trans hkey'.symm, hdata.trans hdata'.symm, payload,
      ⟨x₀, hx₀, ?_⟩, y₀, hy₀, ?_⟩
  · exact (Key.openPayload_congr hx.1 _ _ _).trans (hopen _)
  · exact (Key.openPayload_congr hy.1 _ _ _).trans (hopen' _)

/-! ### Opening -/

lemma readable_row_of_accepts {rd : Readable} (h : p.Accepts rd.pointer.keyId) :
    readable p rd.row = .ok rd := readable_ofParts h _ _ _

lemma readable_row_of_not_accepts {rd : Readable} (h : ¬ p.Accepts rd.pointer.keyId) :
    readable p rd.row = .error (.metadataMissing (.foreignParent rd.pointer.keyId p)) := by
  simp only [readable, Readable.row, DataRow.ofParts, ParentPointer.meta?_ofMeta, if_neg h]

/-- **Opening records** that differ in ciphertexts alone comes to one payload, or to one error. -/
theorem agrees_decrypt (h : w.Twins p policy m n w') {rd rd' : Readable}
    (hrows : RowsAlike m n w.environment.store w'.environment.store rd rd') :
    (kinship p policy m n).Agrees (decrypt ⟨p, policy, .master m⟩ rd.row.toJson)
      (decrypt ⟨p, policy, .master n⟩ rd'.row.toJson) w w' fun x y _ _ => x = y := by
  unfold decrypt
  refine (agrees_ofExcept (Q := fun x y _ _ => x = rd.row ∧ y = rd'.row) h
    (DataRow.ofJson_toJson _) (DataRow.ofJson_toJson _) ⟨rfl, rfl⟩).bind
    fun _ _ v v' hread hafter => ?_
  obtain ⟨rfl, rfl⟩ := hread
  replace hrows := hrows.mono hafter.left.grows hafter.right.grows
  -- The records have one pointer, so they are accepted together or refused together.
  by_cases hacc : p.Accepts rd.pointer.keyId
  · obtain ⟨payload, ⟨k, hk, hopen⟩, k', hk', hopen'⟩ := hrows.opens
    refine (agrees_ofExcept (Q := fun x y _ _ => x = rd ∧ y = rd') hafter.twins
      (readable_row_of_accepts hacc) (readable_row_of_accepts (hrows.pointer ▸ hacc))
      ⟨rfl, rfl⟩).bind fun _ _ v v' hread hafter => ?_
    obtain ⟨rfl, rfl⟩ := hread
    rw [← hrows.pointer] at hk' ⊢
    refine (agrees_intermediateKeyForRead hafter.twins ⟨⟨k, hafter.left.intermediateKey hk⟩, k',
      hafter.right.intermediateKey hk'⟩).bind fun x y u u' keys hafter' => ?_
    obtain ⟨-, ⟨x₀, hx₀, hx⟩, y₀, hy₀, hy⟩ := keys
    cases ((hafter'.left.intermediateKey (hafter.left.intermediateKey hk)).symm.trans hx₀)
    cases ((hafter'.right.intermediateKey (hafter.right.intermediateKey hk')).symm.trans hy₀)
    rw [Key.openPayload_congr hx.1] at hopen
    rw [Key.openPayload_congr hy.1] at hopen'
    exact (agrees_lift hafter'.twins (Effect.agrees_opened hafter'.twins.environment hopen
      hopen')).mono fun _ _ _ _ hxy _ => hxy.1.trans hxy.2.symm
  · rw [readable_row_of_not_accepts hacc, readable_row_of_not_accepts (hrows.pointer ▸ hacc),
      ← hrows.pointer]
    exact agrees_throw hafter.twins _

end Engine

end Envelope
