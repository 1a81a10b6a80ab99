import Envelope.Cipher.Polyval

/-!
Nonce-misuse-resistant authenticated encryption: AES-256 in counter mode under a synthetic
initial value, with no associated data.

Every nonce derives two keys. The tag is the encrypted hash of the plaintext, and it is also the
first counter block. The main statement, `decrypt_encrypt`, says that decryption undoes encryption.
-/

namespace Envelope.Cipher.Siv

def keyLength : Nat := 32
def nonceLength : Nat := 12
def tagLength : Nat := 16

/-- No text longer than this is sealed. -/
def maxLength : Nat := 68719476736

/-- The first `n` blocks of a byte string, the last one filled up with zeros. -/
def blocks : Nat → Bytes → List Block
  | 0, _ => []
  | n + 1, bs => Block.ofBytes (bs.take 16) :: blocks n (bs.drop 16)

def blockCount (bs : Bytes) : Nat := (bs.length + 15) / 16

/-- The keys that one nonce derives: one for the hash and one for the block cipher. -/
structure DerivedKeys where
  authentication : Polyval.Element
  encryption : Aes.Schedule
deriving DecidableEq

def DerivedKeys.derive (key nonce : Bytes) : DerivedKeys :=
  let schedule := Aes.Schedule.ofKey key
  let half (i : Nat) : Bytes :=
    (Aes.encrypt schedule (Block.ofBytes (Bytes.ofNat 4 i ++ nonce))).toBytes.take 8
  ⟨Polyval.ofBlock (Block.ofBytes (half 0 ++ half 1)),
    Aes.Schedule.ofKey (half 2 ++ half 3 ++ half 4 ++ half 5)⟩

/-- The block of the two bit lengths: no associated data, then the text. -/
def lengthBlock (text : Bytes) : Block :=
  Block.ofBytes (Bytes.ofNat 8 0 ++ Bytes.ofNat 8 (8 * text.length))

def tag (keys : DerivedKeys) (nonce text : Bytes) : Bytes :=
  let hash := Polyval.hash keys.authentication
    (blocks (blockCount text) text ++ [lengthBlock text])
  let masked := (Polyval.toBlock hash).xor (Block.ofBytes nonce)
  (Aes.encrypt keys.encryption { masked with c3 := masked.c3 &&& 0x7fffffff }).toBytes

/-- Counter `i` of the run that starts at a tag: the first word counts, the top bit is set. -/
def counter (tag : Bytes) (i : Nat) : Block :=
  let start := Block.ofBytes tag
  { start with c0 := start.c0 + UInt32.ofNat i, c3 := start.c3 ||| 0x80000000 }

def keyStream (keys : DerivedKeys) (tag : Bytes) (count : Nat) : Bytes :=
  (List.range count).flatMap fun i => (Aes.encrypt keys.encryption (counter tag i)).toBytes

/-- The text masked by the key stream that a tag starts. -/
def mask (keys : DerivedKeys) (tag text : Bytes) : Bytes :=
  text.xor (keyStream keys tag (blockCount text))

/-- The masked text followed by its tag, or nothing if the text is too long. -/
def encrypt (key nonce text : Bytes) : Option Bytes :=
  if maxLength < text.length then none
  else
    let keys := DerivedKeys.derive key nonce
    let t := tag keys nonce text
    some (mask keys t text ++ t)

/-- The text whose encryption is the given one, or nothing if the tag does not match. -/
def decrypt (key nonce sealed : Bytes) : Option Bytes :=
  if maxLength + tagLength < sealed.length then none
  else
    let keys := DerivedKeys.derive key nonce
    let t := sealed.drop (sealed.length - tagLength)
    let text := mask keys t (sealed.take (sealed.length - tagLength))
    if tag keys nonce text = t then some text else none

@[simp] theorem length_tag (keys : DerivedKeys) (nonce text : Bytes) :
    (tag keys nonce text).length = tagLength := rfl

theorem length_keyStream (keys : DerivedKeys) (t : Bytes) (count : Nat) :
    (keyStream keys t count).length = 16 * count := by
  induction count with
  | zero => rfl
  | succ n ih =>
    simp only [keyStream, List.range_succ, List.flatMap_append, List.length_append] at ih ⊢
    rw [ih]
    simp
    omega

theorem length_le_keyStream (keys : DerivedKeys) (t text : Bytes) :
    text.length ≤ (keyStream keys t (blockCount text)).length := by
  rw [length_keyStream, blockCount]
  omega

@[simp] theorem length_mask (keys : DerivedKeys) (t text : Bytes) :
    (mask keys t text).length = text.length := by
  have := length_le_keyStream keys t text
  simp only [mask, Bytes.length_xor]
  omega

/-- A mask under one tag undoes itself. -/
theorem mask_mask (keys : DerivedKeys) (t text : Bytes) :
    mask keys t (mask keys t text) = text := by
  have h : blockCount (mask keys t text) = blockCount text := by simp [blockCount]
  rw [mask, h, mask]
  exact Bytes.xor_xor_cancel (length_le_keyStream keys t text)

theorem length_encrypt {key nonce text sealed : Bytes} (h : encrypt key nonce text = some sealed) :
    sealed.length = text.length + tagLength := by
  unfold encrypt at h
  split at h
  · simp at h
  · cases h
    simp

/-- A text within the limit is sealed. -/
theorem exists_encrypt {text : Bytes} (key nonce : Bytes) (h : text.length ≤ maxLength) :
    ∃ sealed, encrypt key nonce text = some sealed := by
  simp [encrypt, Nat.not_lt.2 h]

/-- Decryption undoes encryption under the same key and nonce. -/
theorem decrypt_encrypt {key nonce text sealed : Bytes}
    (h : encrypt key nonce text = some sealed) : decrypt key nonce sealed = some text := by
  have hlen := length_encrypt h
  unfold encrypt at h
  split at h
  · simp at h
  · next hmax =>
    cases h
    have hmax' : ¬ maxLength + tagLength < text.length + tagLength := by omega
    simp [decrypt, hmax', mask_mask]

end Envelope.Cipher.Siv
