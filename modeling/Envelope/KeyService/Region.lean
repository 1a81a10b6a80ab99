import Envelope.Environment

/-!
The regions of a key management service: each has a name, the name of a master key in it, and a
client that answers three requests under a master key.
-/

namespace Envelope

/-- A fresh data key, in the clear and wrapped under the master key. -/
structure DataKey where
  plaintext : Bytes
  ciphertext : Bytes
deriving DecidableEq

/-- What a region answers to each request, given the name of the master key. -/
structure RegionClient where
  generate : String → Except Error DataKey
  encrypt : String → Bytes → Except Error Bytes
  decrypt : String → Bytes → Except Error Bytes

/-- A region and its client. -/
structure Region where
  name : String
  arn : String
  client : RegionClient

namespace RegionClient

/-- A region that cannot be reached. -/
def unreachable : RegionClient :=
  let fail (request : String) : Error :=
    .application (.stated ("KMS " ++ request ++ " failed") none)
  ⟨fun _ => .error (fail "GenerateDataKey"), fun _ _ => .error (fail "Encrypt"),
    fun _ _ => .error (fail "Decrypt")⟩

end RegionClient

/-- A region kept in memory: it answers by a fixed rule, unless a failure is set. -/
structure SimulatedRegion where
  dataKey : Bytes
  /-- The answer to every request to decrypt, if set. -/
  decryptsTo : Option Bytes
  generateFails : Option Error
  encryptFails : Option Error
  decryptFails : Option Error
deriving DecidableEq

namespace SimulatedRegion

/-- Marks the texts that a master key has wrapped. -/
def header (arn : String) : Bytes := Json.utf8Bytes ("kek|" ++ arn ++ "|")

/-- Flips a fixed pattern of bits in every byte. -/
def scramble (bs : Bytes) : Bytes := bs.map (· ^^^ 0x5a)

theorem scramble_scramble (bs : Bytes) : scramble (scramble bs) = bs := by
  unfold scramble
  rw [List.map_map]
  exact List.map_id'' (fun b => Bytes.byte_xor_xor_cancel b 0x5a) bs

def wrap (arn : String) (bs : Bytes) : Bytes := header arn ++ scramble bs

def unwrap (arn : String) (bs : Bytes) : Except Error Bytes :=
  if header arn <+: bs then .ok (scramble (bs.drop (header arn).length))
  else .error (.application (.stated "wrong ciphertext" none))

theorem unwrap_wrap (arn : String) (bs : Bytes) : unwrap arn (wrap arn bs) = .ok bs := by
  simp [unwrap, wrap, scramble_scramble]

def client (r : SimulatedRegion) : RegionClient where
  generate arn :=
    match r.generateFails with
    | some e => .error e
    | none => .ok ⟨r.dataKey, wrap arn r.dataKey⟩
  encrypt arn bs :=
    match r.encryptFails with
    | some e => .error e
    | none => .ok (wrap arn bs)
  decrypt arn bs :=
    match r.decryptFails, r.decryptsTo with
    | some e, _ => .error e
    | none, some answer => .ok answer
    | none, none => unwrap arn bs

end SimulatedRegion

namespace Region

/-! ### Requests -/

def generate (r : Region) : Effect (Except Error DataKey) := do
  Effect.note (.regionGenerate r.arn)
  return r.client.generate r.arn

def encrypt (r : Region) (plaintext : Bytes) : Effect (Except Error Bytes) := do
  Effect.note (.regionEncrypt r.arn plaintext)
  return r.client.encrypt r.arn plaintext

/-- Decrypts under the master key that the ciphertext names, which need not be the region's own. -/
def decrypt (r : Region) (arn : String) (ciphertext : Bytes) : Effect (Except Error Bytes) := do
  Effect.note (.regionDecrypt arn ciphertext)
  return r.client.decrypt arn ciphertext

end Region

end Envelope
