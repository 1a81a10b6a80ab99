import Envelope.Proofs.Sealing

/-!
Opening undoes sealing, and opens nothing else.

A text opens under a key exactly if the key may have sealed it, and to what was sealed. So whatever
bytes are given, the answer is the text that was sealed, or that there is none. Along the way the
bytes are cut in two and taken for a nonce or for a key, each of a fixed length. A second form of
each computation has no result if a cut is outside the bytes or a length is wrong; it always has
one, and it is the same.
-/

namespace Envelope

namespace Bytes

/-- The bytes without the last `n`, and the last `n`, if there are so many. -/
def cutEnd? (n : Nat) (bs : Bytes) : Option (Bytes × Bytes) :=
  if n ≤ bs.length then some (bs.splitAt (bs.length - n)) else none

/-- The bytes, if they are `n`. -/
def exactly? (n : Nat) (bs : Bytes) : Option Bytes := if bs.length = n then some bs else none

lemma cutEnd?_of_le {n : Nat} {bs : Bytes} (h : n ≤ bs.length) :
    bs.cutEnd? n = some (bs.take (bs.length - n), bs.drop (bs.length - n)) := by
  rw [cutEnd?, if_pos h, List.splitAt_eq]

lemma exactly?_of_length {n : Nat} {bs : Bytes} (h : bs.length = n) :
    bs.exactly? n = some bs := if_pos h

end Bytes

/-- Every byte string can be the next one that is drawn. -/
lemma Random.exists_draw (bs : Bytes) : ∃ r : Random, (r.draw bs.length).1 = bs := by
  refine ⟨⟨0, bs⟩, ?_⟩
  have hcount : (bs.length - bs.length + 7) / 8 = 0 := by omega
  simp only [draw, hcount, outputs, List.append_nil, List.take_length]

namespace Cipher.Siv

variable {key nonce text sealed : Bytes}

/-- **Decryption undoes nothing but encryption**: what decrypts is the encryption of the text. -/
lemma encrypt_of_decrypt (hlength : tagLength ≤ sealed.length)
    (h : decrypt key nonce sealed = some text) : encrypt key nonce text = some sealed := by
  unfold decrypt at h
  split at h
  · cases h
  · next hmax =>
    dsimp only at h
    split at h
    · next htag =>
      cases h
      have hbody : (sealed.take (sealed.length - tagLength)).length =
          sealed.length - tagLength := by
        rw [List.length_take]
        omega
      unfold encrypt
      rw [if_neg (by rw [length_mask, hbody]; omega)]
      dsimp only
      rw [htag, mask_mask, List.take_append_drop]
    · cases h

/-- Decryption step by step. -/
def decryptInRange? (key nonce sealed : Bytes) : Option (Option Bytes) := do
  let key ← key.exactly? keyLength
  let nonce ← nonce.exactly? nonceLength
  let (body, t) ← sealed.cutEnd? tagLength
  if maxLength < body.length then return none
  let keys := DerivedKeys.derive key nonce
  let text := mask keys t body
  return if tag keys nonce text = t then some text else none

lemma decryptInRange?_eq (hkey : key.length = keyLength) (hnonce : nonce.length = nonceLength)
    (hlength : tagLength ≤ sealed.length) :
    decryptInRange? key nonce sealed = some (decrypt key nonce sealed) := by
  have hbody : (sealed.take (sealed.length - tagLength)).length = sealed.length - tagLength := by
    rw [List.length_take]
    omega
  unfold decryptInRange? decrypt
  simp only [Bytes.exactly?_of_length hkey, Bytes.exactly?_of_length hnonce,
    Bytes.cutEnd?_of_le hlength, Option.bind_eq_bind, Option.bind_some, hbody]
  by_cases hmax : maxLength + tagLength < sealed.length
  · rw [if_pos hmax, if_pos (by omega)]
    rfl
  · rw [if_neg hmax, if_neg (by omega)]
    rfl

end Cipher.Siv

namespace Key

open Cipher

variable {k : Key} {text sealed : Bytes}

/-! ### Texts -/

/-- Sealing the text under the key may come to these bytes. -/
def Seals (k : Key) (text sealed : Bytes) : Prop :=
  ∃ r t : Random, (k.encrypt text).outcome r = (.ok sealed, t)

lemma outcome_encrypt (k : Key) (text : Bytes) (r : Random) :
    (k.encrypt text).outcome r =
      ((match Siv.encrypt k.secret (r.draw Siv.nonceLength).1 text with
        | some sealed => .ok (sealed ++ (r.draw Siv.nonceLength).1)
        | none => .error .aeadFailure), (r.draw Siv.nonceLength).2) := by
  unfold encrypt drawBytes
  rw [Action.outcome_bind]
  show Action.outcome (match Siv.encrypt k.secret (r.draw Siv.nonceLength).1 text with
    | some sealed => pure (sealed ++ (r.draw Siv.nonceLength).1)
    | none => throw .aeadFailure : Sealing Bytes) (r.draw Siv.nonceLength).2 = _
  cases Siv.encrypt k.secret (r.draw Siv.nonceLength).1 text <;> rfl

/-- **What opens** is what the key may have sealed, and it opens to the text that was sealed. -/
theorem decrypt_eq_ok_iff : k.decrypt sealed = .ok text ↔ k.Seals text sealed := by
  constructor
  · intro h
    unfold decrypt at h
    split at h
    · cases h
    · next hshort =>
      dsimp only at h
      split at h
      · next text' hopen =>
        cases h
        obtain ⟨nonce, hnonce⟩ : ∃ nonce, nonce = sealed.drop (sealed.length - Siv.nonceLength) :=
          ⟨_, rfl⟩
        have hlength : nonce.length = Siv.nonceLength := by
          rw [hnonce, List.length_drop]
          omega
        rw [← hnonce] at hopen
        have hseal := Siv.encrypt_of_decrypt (by rw [List.length_take]; omega) hopen
        obtain ⟨r, hr⟩ := Random.exists_draw nonce
        rw [hlength] at hr
        refine ⟨r, (r.draw Siv.nonceLength).2, ?_⟩
        rw [outcome_encrypt, hr, hseal]
        dsimp only
        rw [hnonce, List.take_append_drop]
      · cases h
  · rintro ⟨r, t, hr⟩
    have hy := encrypt_yields k text r
    unfold Action.Yields at hy
    rw [hr] at hy
    exact hy.1

/-- What opens is within the limit, since it was sealed. -/
lemma length_le_of_decrypt (h : k.decrypt sealed = .ok text) : text.length ≤ Siv.maxLength := by
  obtain ⟨r, t, hr⟩ := decrypt_eq_ok_iff.1 h
  have hy := encrypt_yields_le k text r
  unfold Action.Yields at hy
  rwa [hr] at hy

lemma decrypt_of_length_lt (h : sealed.length < 28) : k.decrypt sealed = .error .truncated :=
  if_pos h

/-- Bytes of the least length or more open, or are not what the key seals. -/
lemma decrypt_of_le_length (h : 28 ≤ sealed.length) :
    (∃ text, k.decrypt sealed = .ok text ∧ k.Seals text sealed) ∨
      k.decrypt sealed = .error .aeadFailure ∧ ∀ text, ¬ k.Seals text sealed := by
  have hlong : ¬ sealed.length < Siv.tagLength + Siv.nonceLength := Nat.not_lt.2 h
  cases hopen : Siv.decrypt k.secret (sealed.drop (sealed.length - Siv.nonceLength))
      (sealed.take (sealed.length - Siv.nonceLength)) with
  | some text =>
    have hok : k.decrypt sealed = .ok text := by
      unfold decrypt
      rw [if_neg hlong]
      simp only [hopen]
    exact Or.inl ⟨text, hok, decrypt_eq_ok_iff.1 hok⟩
  | none =>
    have hfail : k.decrypt sealed = .error .aeadFailure := by
      unfold decrypt
      rw [if_neg hlong]
      simp only [hopen]
    refine Or.inr ⟨hfail, fun text hs => ?_⟩
    rw [decrypt_eq_ok_iff.2 hs] at hfail
    cases hfail

lemma decrypt_eq_truncated_iff : k.decrypt sealed = .error .truncated ↔ sealed.length < 28 := by
  refine ⟨fun h => ?_, decrypt_of_length_lt⟩
  by_contra hlong
  rcases decrypt_of_le_length (k := k) (Nat.not_lt.1 hlong) with ⟨text, hok, -⟩ | ⟨hfail, -⟩
  · rw [hok] at h
    cases h
  · rw [hfail] at h
    cases h

/-- Opening a text never finds fault with the length of a key. -/
lemma decrypt_ne_invalidKeyLength : k.decrypt sealed ≠ .error .invalidKeyLength := by
  intro h
  by_cases hshort : sealed.length < 28
  · rw [decrypt_of_length_lt hshort] at h
    cases h
  · rcases decrypt_of_le_length (k := k) (Nat.not_lt.1 hshort) with ⟨text, hok, -⟩ | ⟨hfail, -⟩
    · rw [hok] at h
      cases h
    · rw [hfail] at h
      cases h

/-! ### Keys and payloads -/

lemma ofBytes_of_length {secret : Bytes} (h : secret.length = Siv.keyLength) (created : Stamp)
    (revoked : Bool) : ofBytes secret created revoked = .ok ⟨secret, created, revoked, h⟩ :=
  dif_pos h

lemma ofBytes_of_length_ne {secret : Bytes} (h : secret.length ≠ Siv.keyLength) (created : Stamp)
    (revoked : Bool) : ofBytes secret created revoked = .error .invalidKeyLength := dif_neg h

/-- **A key is of the wrong length** exactly if it opens and is. -/
lemma unwrap_eq_invalidKeyLength_iff {wrapped : Bytes} {created : Stamp} {revoked : Bool} :
    k.unwrap wrapped created revoked = .error .invalidKeyLength ↔
      ∃ secret, k.decrypt wrapped = .ok secret ∧ secret.length ≠ 32 := by
  unfold unwrap
  cases hopen : k.decrypt wrapped with
  | error fault =>
    constructor
    · intro h
      cases h
      exact absurd hopen decrypt_ne_invalidKeyLength
    · rintro ⟨secret, hsecret, -⟩
      cases hsecret
  | ok secret =>
    show ofBytes secret created revoked = _ ↔ _
    by_cases hlength : secret.length = Siv.keyLength
    · rw [ofBytes_of_length hlength]
      constructor
      · intro h
        cases h
      · rintro ⟨secret', hsecret, hne⟩
        cases hsecret
        exact absurd hlength hne
    · rw [ofBytes_of_length_ne hlength]
      exact ⟨fun _ => ⟨secret, rfl, hlength⟩, fun _ => rfl⟩

/-- **A payload opens** if the key may have wrapped a data key, to what the data key may have
sealed. -/
theorem openPayload_eq_ok_iff {cipherText wrapped payload : Bytes} {created : Stamp} :
    k.openPayload cipherText wrapped created = .ok payload ↔
      ∃ dataKey, k.Wraps dataKey wrapped ∧ dataKey.Seals payload cipherText := by
  constructor
  · intro h
    obtain ⟨dataKey, hkey, hopen⟩ := Except.bind_eq_ok_iff.1 h
    exact ⟨dataKey, decrypt_eq_ok_iff.1 (unwrap_eq_ok hkey).1, decrypt_eq_ok_iff.1 hopen⟩
  · rintro ⟨dataKey, hwraps, hseals⟩
    refine Except.bind_eq_ok_iff.2 ⟨_, unwrap_of_decrypt hwraps.decrypt created false, ?_⟩
    rw [decrypt_congr (restamp_secret dataKey created false)]
    exact decrypt_eq_ok_iff.2 hseals

lemma openPayload_eq_invalidKeyLength_iff {cipherText wrapped : Bytes} {created : Stamp} :
    k.openPayload cipherText wrapped created = .error .invalidKeyLength ↔
      ∃ secret, k.decrypt wrapped = .ok secret ∧ secret.length ≠ 32 := by
  have hkey : k.unwrap wrapped created false = .error .invalidKeyLength ↔
      ∃ secret, k.decrypt wrapped = .ok secret ∧ secret.length ≠ 32 :=
    unwrap_eq_invalidKeyLength_iff
  rw [← hkey]
  unfold openPayload
  cases hunwrap : k.unwrap wrapped created false with
  | error fault =>
    constructor
    · intro h
      cases h
      rfl
    · intro h
      cases h
      rfl
  | ok dataKey =>
    constructor
    · intro h
      exact absurd h decrypt_ne_invalidKeyLength
    · intro h
      cases h

/-! ### Computations with checked ranges -/

/-- Sealing, with the length of what is taken for the key and for the nonce checked. -/
def encryptInRange? (k : Key) (text : Bytes) (r : Random) :
    Option (Except CipherFault Bytes × Random) := do
  let (drawn, rest) := r.draw Siv.nonceLength
  let secret ← k.secret.exactly? Siv.keyLength
  let nonce ← drawn.exactly? Siv.nonceLength
  match Siv.encrypt secret nonce text with
  | some sealed => return (.ok (sealed ++ nonce), rest)
  | none => return (.error .aeadFailure, rest)

/-- Opening, with every cut and length checked. -/
def decryptInRange? (k : Key) (sealed : Bytes) : Option (Except CipherFault Bytes) := do
  if sealed.length < Siv.tagLength + Siv.nonceLength then return .error .truncated
  let (body, nonce) ← sealed.cutEnd? Siv.nonceLength
  match ← Siv.decryptInRange? k.secret nonce body with
  | some text => return .ok text
  | none => return .error .aeadFailure

/-- Opening a wrapped key, with every cut and length checked. -/
def unwrapInRange? (outer : Key) (wrapped : Bytes) (created : Stamp) (revoked : Bool) :
    Option (Except CipherFault Key) := do
  match ← outer.decryptInRange? wrapped with
  | .error fault => return .error fault
  | .ok secret =>
    if secret.length ≠ Siv.keyLength then return .error .invalidKeyLength
    let secret ← secret.exactly? Siv.keyLength
    return ofBytes secret created revoked

/-- Opening a payload, with every cut and length checked. -/
def openPayloadInRange? (outer : Key) (cipherText encryptedKey : Bytes) (created : Stamp) :
    Option (Except CipherFault Bytes) := do
  match ← outer.unwrapInRange? encryptedKey created false with
  | .error fault => return .error fault
  | .ok dataKey => dataKey.decryptInRange? cipherText

lemma encryptInRange?_eq (k : Key) (text : Bytes) (r : Random) :
    k.encryptInRange? text r = some ((k.encrypt text).outcome r) := by
  have hnonce : (r.draw Siv.nonceLength).1.length = Siv.nonceLength := Random.length_draw _ r
  unfold encryptInRange?
  rw [outcome_encrypt]
  simp only [Bytes.exactly?_of_length k.length_secret, Bytes.exactly?_of_length hnonce,
    Option.bind_eq_bind, Option.bind_some]
  cases Siv.encrypt k.secret (r.draw Siv.nonceLength).1 text <;> rfl

lemma decryptInRange?_eq (k : Key) (sealed : Bytes) :
    k.decryptInRange? sealed = some (k.decrypt sealed) := by
  unfold decryptInRange? decrypt
  by_cases hshort : sealed.length < Siv.tagLength + Siv.nonceLength
  · rw [if_pos hshort, if_pos hshort]
    rfl
  · rw [if_neg hshort, if_neg hshort]
    have hcut : Siv.nonceLength ≤ sealed.length := by omega
    have hnonce : (sealed.drop (sealed.length - Siv.nonceLength)).length = Siv.nonceLength := by
      rw [List.length_drop]
      omega
    have hbody : Siv.tagLength ≤ (sealed.take (sealed.length - Siv.nonceLength)).length := by
      rw [List.length_take]
      omega
    simp only [Bytes.cutEnd?_of_le hcut, Siv.decryptInRange?_eq k.length_secret hnonce hbody,
      Option.bind_eq_bind, Option.bind_some]
    cases Siv.decrypt k.secret (sealed.drop (sealed.length - Siv.nonceLength))
      (sealed.take (sealed.length - Siv.nonceLength)) <;> rfl

lemma unwrapInRange?_eq (outer : Key) (wrapped : Bytes) (created : Stamp) (revoked : Bool) :
    outer.unwrapInRange? wrapped created revoked =
      some (outer.unwrap wrapped created revoked) := by
  unfold unwrapInRange? unwrap
  rw [decryptInRange?_eq]
  cases outer.decrypt wrapped with
  | error fault => rfl
  | ok secret =>
    show (if secret.length ≠ Siv.keyLength then _ else _) = some (ofBytes secret created revoked)
    by_cases hlength : secret.length = Siv.keyLength
    · rw [if_neg (not_not.2 hlength), Bytes.exactly?_of_length hlength]
      rfl
    · rw [if_pos hlength, ofBytes_of_length_ne hlength]
      rfl

lemma openPayloadInRange?_eq (outer : Key) (cipherText encryptedKey : Bytes) (created : Stamp) :
    outer.openPayloadInRange? cipherText encryptedKey created =
      some (outer.openPayload cipherText encryptedKey created) := by
  unfold openPayloadInRange? openPayload
  rw [unwrapInRange?_eq]
  cases outer.unwrap encryptedKey created false with
  | error fault => rfl
  | ok dataKey => exact decryptInRange?_eq dataKey cipherText

/-! ### Opening undoes sealing -/

/-- A text within the limit is sealed. -/
lemma exists_sealed (k : Key) {text : Bytes} (h : text.length ≤ Siv.maxLength) (r : Random) :
    ∃ sealed t, (k.encrypt text).outcome r = (.ok sealed, t) ∧
      sealed.length = text.length + 28 ∧ k.decrypt sealed = .ok text := by
  have hy := (encrypt_yields k text r).mono (R := fun sealed _ =>
    sealed.length = text.length + 28 ∧ k.decrypt sealed = .ok text) (F := fun _ _ => False)
    (fun _ _ h => ⟨h.2, h.1⟩) fun _ _ hlong => absurd h (Nat.not_le.2 hlong.2)
  exact hy.returns

/-- Any key is wrapped. -/
lemma exists_wrapped (outer inner : Key) (r : Random) :
    ∃ wrapped t, (outer.wrap inner).outcome r = (.ok wrapped, t) ∧ wrapped.length = 60 ∧
      ∀ created revoked, outer.unwrap wrapped created revoked =
        .ok { inner with created, revoked } := by
  obtain ⟨wrapped, t, hr, hlength, hopen⟩ := outer.exists_sealed inner.secret_length_le r
  rw [inner.length_secret] at hlength
  exact ⟨wrapped, t, hr, hlength, fun created revoked => unwrap_of_decrypt hopen created revoked⟩

/-- A payload within the limit is sealed. -/
lemma exists_sealedPayload (outer : Key) (now : Stamp) {payload : Bytes}
    (h : payload.length ≤ Siv.maxLength) (r : Random) :
    ∃ p t, (outer.sealPayload now payload).outcome r = (.ok p, t) ∧ p.created = now ∧
      p.cipherText.length = payload.length + 28 ∧ p.encryptedKey.length = 60 ∧
      ∀ created, outer.openPayload p.cipherText p.encryptedKey created = .ok payload := by
  have hy := (outer.sealPayload_yields now payload r).and
    (outer.sealPayload_yields_sizes now payload r)
  refine (hy.mono (F := fun _ _ => False) (fun p t hp => ?_) fun _ _ hlong => ?_).returns
  · obtain ⟨⟨hcreated, hopen⟩, -, hcipher, hkey⟩ := hp
    exact ⟨hcreated, hcipher, hkey, hopen⟩
  · exact absurd h (Nat.not_le.2 hlong.1.2)

/-- **Opening undoes sealing, and opens nothing else.** Whatever the key, the clock and the random
stream: texts and payloads within the limit and keys are sealed, with 28 bytes more, and open
again, a key with the creation time and the revocation it is given. Bytes that are too short are
truncated; all others open to the text that was sealed, or were not sealed under the key. The
length of a key is at fault exactly when it opens and does not have 32 bytes. No cut is outside the
bytes, and what is taken for a key or a nonce is as long as one. -/
theorem opening_undoes_sealing (k : Key) :
    (∀ (text : Bytes) (r : Random), text.length ≤ Siv.maxLength →
      ∃ sealed t, (k.encrypt text).outcome r = (.ok sealed, t) ∧
        sealed.length = text.length + 28 ∧ k.decrypt sealed = .ok text) ∧
    (∀ (inner : Key) (r : Random),
      ∃ wrapped t, (k.wrap inner).outcome r = (.ok wrapped, t) ∧ wrapped.length = 60 ∧
        ∀ (created : Time) (revoked : Bool), k.unwrap wrapped created.stamp revoked =
          .ok { inner with created := created.stamp, revoked }) ∧
    (∀ (now : Time) (payload : Bytes) (r : Random), payload.length ≤ Siv.maxLength →
      ∃ p t, (k.sealPayload now.stamp payload).outcome r = (.ok p, t) ∧
        p.created = now.stamp ∧ p.cipherText.length = payload.length + 28 ∧
        p.encryptedKey.length = 60 ∧ ∀ created : Time,
          k.openPayload p.cipherText p.encryptedKey created.stamp = .ok payload) ∧
    (∀ sealed, (k.decrypt sealed = .error .truncated ↔ sealed.length < 28) ∧
      (28 ≤ sealed.length → (∃ text, k.decrypt sealed = .ok text ∧ k.Seals text sealed) ∨
        k.decrypt sealed = .error .aeadFailure ∧ ∀ text, ¬ k.Seals text sealed)) ∧
    (∀ wrapped created revoked, k.unwrap wrapped created revoked = .error .invalidKeyLength ↔
      ∃ secret, k.decrypt wrapped = .ok secret ∧ secret.length ≠ 32) ∧
    (∀ cipherText wrapped created,
      k.openPayload cipherText wrapped created = .error .invalidKeyLength ↔
        ∃ secret, k.decrypt wrapped = .ok secret ∧ secret.length ≠ 32) ∧
    (∀ text r, k.encryptInRange? text r = some ((k.encrypt text).outcome r)) ∧
    (∀ sealed, k.decryptInRange? sealed = some (k.decrypt sealed)) ∧
    (∀ wrapped created revoked, k.unwrapInRange? wrapped created revoked =
      some (k.unwrap wrapped created revoked)) ∧
    ∀ cipherText wrapped created, k.openPayloadInRange? cipherText wrapped created =
      some (k.openPayload cipherText wrapped created) := by
  refine ⟨fun text r h => k.exists_sealed h r, fun inner r => ?_, fun now payload r h => ?_,
    fun sealed => ⟨decrypt_eq_truncated_iff, decrypt_of_le_length⟩,
    fun _ _ _ => unwrap_eq_invalidKeyLength_iff, fun _ _ _ => openPayload_eq_invalidKeyLength_iff,
    k.encryptInRange?_eq, k.decryptInRange?_eq, k.unwrapInRange?_eq, k.openPayloadInRange?_eq⟩
  · obtain ⟨wrapped, t, hr, hlength, hopen⟩ := k.exists_wrapped inner r
    exact ⟨wrapped, t, hr, hlength, fun created revoked => hopen created.stamp revoked⟩
  · obtain ⟨p, t, hr, hcreated, hcipher, hkey, hopen⟩ := k.exists_sealedPayload now.stamp h r
    exact ⟨p, t, hr, hcreated, hcipher, hkey, fun created => hopen created.stamp⟩

/-- A payload of two bytes, read with another creation time, and a text of no bytes. -/
theorem two_bytes_open :
    let k : Key := ⟨List.replicate 32 7, ⟨0, by decide, by decide⟩, true, rfl⟩
    let now : Time := ⟨1500000000, by decide, by decide⟩
    let payload : Bytes := [104, 105]
    let noise : Bytes := List.replicate 28 1
    payload.length ≤ Siv.maxLength ∧ ([] : Bytes).length ≤ Siv.maxLength ∧ 28 ≤ noise.length ∧
      (∃ p t, (k.sealPayload now.stamp payload).outcome (.ofSeed 1) = (.ok p, t) ∧
        p.cipherText.length = 30 ∧ p.encryptedKey.length = 60 ∧
        k.openPayload p.cipherText p.encryptedKey Time.last.stamp = .ok payload) ∧
      (∃ sealed t, (k.encrypt []).outcome (.ofSeed 1) = (.ok sealed, t) ∧ sealed.length = 28 ∧
        k.decrypt sealed = .ok []) ∧
      ((∃ text, k.decrypt noise = .ok text ∧ k.Seals text noise) ∨
        k.decrypt noise = .error .aeadFailure ∧ ∀ text, ¬ k.Seals text noise) := by
  intro k now payload noise
  have hpayload : payload.length ≤ Siv.maxLength := by decide
  have hempty : ([] : Bytes).length ≤ Siv.maxLength := by decide
  have hnoise : 28 ≤ noise.length := by decide
  obtain ⟨htexts, -, hpayloads, hbytes, -⟩ := opening_undoes_sealing k
  obtain ⟨p, t, hr, -, hcipher, hkey, hopen⟩ := hpayloads now payload (.ofSeed 1) hpayload
  exact ⟨hpayload, hempty, hnoise, ⟨p, t, hr, hcipher, hkey, hopen Time.last⟩,
    htexts [] (.ofSeed 1) hempty, (hbytes noise).2 hnoise⟩

end Key

end Envelope
