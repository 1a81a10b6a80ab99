import Envelope.Key

/-!
What can be seen of a run from outside: the events it logs and the calls it makes on the store,
the key management service and its regions.
-/

namespace Envelope

inductive Level where
  | debug
  | info
  | warn
  | error
deriving DecidableEq

def Level.name : Level → String
  | .debug => "DEBUG"
  | .info => "INFO"
  | .warn => "WARN"
  | .error => "ERROR"

/-- The part of the program that logs an event. -/
inductive Component where
  | engine
  | session
  | store
  | regions
deriving DecidableEq

inductive Event where
  | rotationDeferred (keyId : String) (created : Stamp)
  | parentUnusable (keyId : String) (parent : KeyMeta)
  | parentNotFound (keyId : String) (parent : KeyMeta)
  | latestHasNoParent (keyId : String)
  | keyCreated (tier : Tier) (keyId : String) (created : Stamp)
  | raceLost (tier : Tier) (keyId : String)
  | expiredKeyRead (tier : Tier) (keyId : String) (created : Stamp)
  | recordRevoked (keyId : String) (created : Int)
  | sessionCreated (partition : Partition)
  | idleSessionEvicted (partition : String)
  | oldestSessionEvicted (partition : String)
  | factoryDisposed (product service : String)
  | generateFailed (region arn : String) (error : Error)
  | regionWrapFailed (region arn : String) (error : Error)
  | keyNotBase64 (region : String)
  | regionDecryptFailed (region arn : String) (error : Error)
  | keyUnwrapped (region : String)
  | unwrapFailed (region : String) (fault : CipherFault)
deriving DecidableEq

/-- A detail of an event. -/
inductive Detail where
  | text (s : String)
  | number (n : Int)
deriving DecidableEq

namespace Event

def level : Event → Level
  | .rotationDeferred .. | .parentUnusable .. | .parentNotFound .. | .latestHasNoParent _ => .warn
  | .keyCreated .. | .raceLost .. | .recordRevoked .. => .debug
  | .expiredKeyRead .. | .factoryDisposed .. => .info
  | .sessionCreated _ | .idleSessionEvicted _ | .oldestSessionEvicted _ => .debug
  | .generateFailed .. | .regionWrapFailed .. | .keyNotBase64 _ | .regionDecryptFailed .. => .warn
  | .keyUnwrapped _ => .debug
  | .unwrapFailed .. => .warn

def component : Event → Component
  | .rotationDeferred .. | .parentUnusable .. | .parentNotFound .. | .latestHasNoParent _ => .engine
  | .keyCreated .. | .raceLost .. | .expiredKeyRead .. => .engine
  | .recordRevoked .. => .store
  | .sessionCreated _ | .idleSessionEvicted _ | .oldestSessionEvicted _ => .session
  | .factoryDisposed .. => .session
  | .generateFailed .. | .regionWrapFailed .. | .keyNotBase64 _ => .regions
  | .regionDecryptFailed .. | .keyUnwrapped _ | .unwrapFailed .. => .regions

def message : Event → String
  | .rotationDeferred .. => "key expired, rotation deferred to queue"
  | .parentUnusable .. => "parent system key is unusable, creating new intermediate key"
  | .parentNotFound .. => "parent system key not found, creating new intermediate key"
  | .latestHasNoParent _ => "latest intermediate key has no parent, creating new key"
  | .keyCreated tier .. => "created " ++ tier.name ++ " key"
  | .raceLost tier _ => "lost " ++ tier.name ++ " key creation race, reloading latest"
  | .expiredKeyRead tier .. => "read with expired " ++ tier.name ++ " key"
  | .recordRevoked .. => "key record revoked"
  | .sessionCreated _ => "creating session"
  | .idleSessionEvicted _ => "evicting idle session"
  | .oldestSessionEvicted _ => "evicting least recently used session"
  | .factoryDisposed .. => "session factory disposed"
  | .generateFailed .. => "failed to generate data key, trying next region"
  | .regionWrapFailed .. => "failed to wrap data key for region"
  | .keyNotBase64 _ => "KMS KEK holds invalid base64, trying next region"
  | .regionDecryptFailed .. => "failed to decrypt KEK, trying next region"
  | .keyUnwrapped _ => "system key unwrapped"
  | .unwrapFailed .. => "failed to unwrap key with regional KEK, trying next region"

/-- The named details of an event. -/
def details : Event → List (String × Detail)
  | .rotationDeferred keyId created | .keyCreated _ keyId created
  | .expiredKeyRead _ keyId created =>
    [("key_id", .text keyId), ("created", .number created.seconds)]
  | .recordRevoked keyId created => [("key_id", .text keyId), ("created", .number created)]
  | .parentUnusable keyId parent | .parentNotFound keyId parent =>
    [("key_id", .text keyId), ("parent", .text parent.display)]
  | .latestHasNoParent keyId | .raceLost _ keyId => [("key_id", .text keyId)]
  | .sessionCreated partition => [("partition", .text partition.display)]
  | .idleSessionEvicted id | .oldestSessionEvicted id => [("partition_id", .text id)]
  | .factoryDisposed product service =>
    [("product_id", .text product), ("service_id", .text service)]
  | .generateFailed region arn error | .regionWrapFailed region arn error
  | .regionDecryptFailed region arn error =>
    [("region", .text region), ("arn", .text arn), ("error", .text error.message)]
  | .keyNotBase64 region | .keyUnwrapped region => [("region", .text region)]
  | .unwrapFailed region fault => [("region", .text region), ("error", .text fault.message)]

end Event

/-- A call on a collaborator, with what it answered where that is of interest. -/
inductive Call where
  | latest (keyId : String) (outcome : Except Error (Option Stamp))
  | load (keyId : String) (created : Stamp) (outcome : Except Error (Option Stamp))
  | insert (keyId : String) (created : Stamp) (outcome : Except Error Bool)
  | wrap (created : Stamp)
  | unwrap (created : Stamp) (revoked : Bool)
  | regionGenerate (arn : String)
  | regionEncrypt (arn : String) (plaintext : Bytes)
  | regionDecrypt (arn : String) (ciphertext : Bytes)

end Envelope
