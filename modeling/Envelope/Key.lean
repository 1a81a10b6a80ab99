import Envelope.Action
import Envelope.Cipher.Siv
import Envelope.Clock
import Envelope.Error
import Envelope.Random

/-!
Keys and what is sealed under them.

A sealed text is the encrypted text, its tag and the nonce it was sealed with, 28 bytes longer than
the text. Keys wrap other keys in the same form, and an envelope seals a payload under a fresh data
key that is itself wrapped.
-/

namespace Envelope

/-- A decrypted key: 32 secret bytes, its creation time and whether it is known to be revoked. -/
structure Key where
  secret : Bytes
  created : Stamp
  revoked : Bool
  length_secret : secret.length = Cipher.Siv.keyLength
deriving DecidableEq

/-- Computations that draw random bytes and may fail to seal. -/
abbrev Sealing := Action Random CipherFault

def drawBytes {ε : Type} (n : Nat) : Action Random ε Bytes := Action.ofState (·.draw n)

namespace Key

/-- The key with the given secret bytes, which must be 32. -/
def ofBytes (secret : Bytes) (created : Stamp) (revoked : Bool) : Except CipherFault Key :=
  if h : secret.length = Cipher.Siv.keyLength then .ok ⟨secret, created, revoked, h⟩
  else .error .invalidKeyLength

/-- A fresh random key. -/
def generate {ε : Type} (created : Stamp) : Action Random ε Key :=
  Action.ofState fun r =>
    (⟨(r.draw Cipher.Siv.keyLength).1, created, false, Random.length_draw _ r⟩,
      (r.draw Cipher.Siv.keyLength).2)

/-- The same key, known to be revoked. -/
def revoke (k : Key) : Key := { k with revoked := true }

/-- Seals a text under the key with a fresh nonce. -/
def encrypt (k : Key) (text : Bytes) : Sealing Bytes := do
  let nonce ← drawBytes Cipher.Siv.nonceLength
  match Cipher.Siv.encrypt k.secret nonce text with
  | some sealed => pure (sealed ++ nonce)
  | none => throw .aeadFailure

/-- Opens a text sealed under the key. -/
def decrypt (k : Key) (sealed : Bytes) : Except CipherFault Bytes :=
  if sealed.length < Cipher.Siv.tagLength + Cipher.Siv.nonceLength then .error .truncated
  else
    let body := sealed.length - Cipher.Siv.nonceLength
    match Cipher.Siv.decrypt k.secret (sealed.drop body) (sealed.take body) with
    | some text => .ok text
    | none => .error .aeadFailure

/-- Seals the secret of another key under this one. -/
def wrap (outer inner : Key) : Sealing Bytes := outer.encrypt inner.secret

/-- Opens the secret of a key wrapped under this one. -/
def unwrap (outer : Key) (wrapped : Bytes) (created : Stamp) (revoked : Bool) :
    Except CipherFault Key := do
  ofBytes (← outer.decrypt wrapped) created revoked

/-- The text of a key in messages, which never shows the secret. -/
def display (k : Key) : String :=
  "CryptoKey \x7b secret: \"[REDACTED]\", created: " ++ toString k.created.seconds ++
    ", revoked: " ++ toString k.revoked ++ " \x7d"

end Key

/-- A payload sealed under a data key, and the data key wrapped under another key. -/
structure SealedPayload where
  cipherText : Bytes
  encryptedKey : Bytes
  /-- Creation time of the data key. -/
  created : Stamp
deriving DecidableEq

namespace Key

/-- Seals a payload under a fresh data key and wraps the data key. -/
def sealPayload (outer : Key) (now : Stamp) (payload : Bytes) : Sealing SealedPayload := do
  let dataKey ← generate now
  let cipherText ← dataKey.encrypt payload
  let encryptedKey ← outer.wrap dataKey
  return ⟨cipherText, encryptedKey, dataKey.created⟩

/-- Opens a payload whose data key is wrapped under this key. -/
def openPayload (outer : Key) (cipherText encryptedKey : Bytes) (created : Stamp) :
    Except CipherFault Bytes := do
  (← outer.unwrap encryptedKey created false).decrypt cipherText

end Key

/-- How a resolved key is held: released by its user, or borrowed from a cache. -/
inductive KeyHandle where
  | owned (key : Key)
  | cached (key : Key)
deriving DecidableEq

namespace KeyHandle

def key : KeyHandle → Key
  | .owned k | .cached k => k

def isCached : KeyHandle → Bool
  | .owned _ => false
  | .cached _ => true

def display : KeyHandle → String
  | .owned k => "Owned(" ++ k.display ++ ")"
  | .cached k => "Cached(" ++ k.display ++ ")"

end KeyHandle

end Envelope
