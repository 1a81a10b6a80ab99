import Envelope.KeyMeta
import Envelope.Partition

/-!
What can go wrong, by cause, and the text of each cause.

The four kinds of error tell a caller how to react: the argument is unusable, a key of the chain
cannot be found, something failed unexpectedly, or no region of the key management service could
serve the request.
-/

namespace Envelope

/-- The two tiers of stored keys. -/
inductive Tier where
  | system
  | intermediate
deriving DecidableEq

def Tier.name : Tier → String
  | .system => "system"
  | .intermediate => "intermediate"

/-- Why sealing or opening a text failed. -/
inductive CipherFault where
  | invalidKeyLength
  | aeadFailure
  | truncated
deriving DecidableEq

def CipherFault.message : CipherFault → String
  | .invalidKeyLength => "invalid key length: expected 32 bytes"
  | .aeadFailure => "aead operation failed"
  | .truncated => "ciphertext is truncated"

/-- An argument that cannot be used. -/
inductive ArgumentFault where
  | emptyRecord
  | malformedRecord
  | nullRecord
  | dataMissing
  | dataNotBase64
  | keyNotBase64
  | emptyPartition
  | emptyProduct
  | emptyService
  | noStore
  | noPolicy
  | noKeyService
  | masterKeyLength
  | noRegions
  | stated (text : String)
deriving DecidableEq

def ArgumentFault.message : ArgumentFault → String
  | .emptyRecord => "data row record bytes cannot be empty"
  | .malformedRecord => "invalid JSON format in data row record"
  | .nullRecord => "data row record cannot be null"
  | .dataMissing => "data row record has no Data"
  | .dataNotBase64 => "data row record Data is not base64"
  | .keyNotBase64 => "data row record Key is not base64"
  | .emptyPartition => "partition id cannot be empty"
  | .emptyProduct => "product id cannot be empty"
  | .emptyService => "service id cannot be empty"
  | .noStore => "a metastore is required"
  | .noPolicy => "a crypto policy is required"
  | .noKeyService => "a key management service is required"
  | .masterKeyLength => "static master key must be 32 bytes"
  | .noRegions => "at least one region key ARN is required"
  | .stated text => text

/-- A link of the key chain that is absent. -/
inductive MissingLink where
  | key
  | parent
  | incompleteParent
  | foreignParent (keyId : String) (partition : Partition)
  | intermediateKey (pointer : KeyMeta)
  | parentOf (pointer : KeyMeta)
  | systemKey (pointer : KeyMeta)
  | orphan (keyId : String)
  | stated (text : String)
deriving DecidableEq

def MissingLink.message : MissingLink → String
  | .key => "data row record has no Key"
  | .parent => "could not find parentKeyMeta"
  | .incompleteParent => "parentKeyMeta needs both KeyId and Created"
  | .foreignParent keyId p => "could not find parentKeyMeta " ++ keyId ++ " for " ++ p.display
  | .intermediateKey m => "could not find intermediate key " ++ m.display
  | .parentOf m =>
    "could not find parentKeyMeta (system key) for intermediate key " ++ m.display
  | .systemKey m => "could not find system key " ++ m.display
  | .orphan keyId => "intermediate key " ++ keyId ++ " has no parent system key"
  | .stated text => text

/-- An unexpected failure of a store, a cipher or stored data. -/
inductive Failure where
  | cipher (fault : CipherFault)
  | malformedKeyRecord
  | keyRecordNotBase64
  | malformedKeyEnvelope
  | keyEnvelopeNotBase64
  | unresolvedConflict (tier : Tier) (keyId : String)
  | factoryDisposed
  | stated (text : String) (source : Option String)
deriving DecidableEq

def Failure.message : Failure → String
  | .cipher _ => "cipher operation failed"
  | .malformedKeyRecord => "failed to deserialise key record"
  | .keyRecordNotBase64 => "key record holds invalid base64"
  | .malformedKeyEnvelope => "invalid KMS key envelope"
  | .keyEnvelopeNotBase64 => "KMS key envelope holds invalid base64"
  | .unresolvedConflict tier keyId =>
    "unable to retrieve " ++ tier.name ++ " key " ++ keyId ++ " after store conflict"
  | .factoryDisposed => "session factory has been disposed"
  | .stated text _ => text

/-- What lies behind a failure: a reader that refused a text, or a cause in words. -/
inductive Source where
  | json
  | base64
  | text (text : String)
deriving DecidableEq

def Failure.source : Failure → Option Source
  | .cipher fault => some (.text fault.message)
  | .malformedKeyRecord | .malformedKeyEnvelope => some .json
  | .keyRecordNotBase64 | .keyEnvelopeNotBase64 => some .base64
  | .unresolvedConflict _ _ | .factoryDisposed => none
  | .stated _ source => source.map .text

/-- Why the regions of a key management service could not serve a request. -/
inductive Outage where
  | noRegionGenerates
  | unusableDataKey (fault : CipherFault)
  | wrapFailed (fault : CipherFault)
  | regionCannotWrap (region : String)
  | noRegionDecrypts
  | stated (text : String)
deriving DecidableEq

def Outage.message : Outage → String
  | .noRegionGenerates => "could not successfully generate data key using any regions"
  | .unusableDataKey fault => "unusable KMS data key: " ++ fault.message
  | .wrapFailed fault => "failed to wrap key: " ++ fault.message
  | .regionCannotWrap region => "could not wrap data key in region " ++ region
  | .noRegionDecrypts => "could not successfully decrypt key using any regions"
  | .stated text => text

inductive Error where
  | invalidArgument (fault : ArgumentFault)
  | metadataMissing (link : MissingLink)
  | application (failure : Failure)
  | keyService (outage : Outage)
deriving DecidableEq

namespace Error

def ofCipher (fault : CipherFault) : Error := .application (.cipher fault)

/-- The short code of the kind of error. -/
def code : Error → String
  | .invalidArgument _ => "invalid_argument"
  | .metadataMissing _ => "metadata_missing"
  | .application _ => "app_encryption"
  | .keyService _ => "kms"

def message : Error → String
  | .invalidArgument fault => "invalid argument: " ++ fault.message
  | .metadataMissing link => "metadata missing: " ++ link.message
  | .application failure => "app encryption failure: " ++ failure.message
  | .keyService outage => "kms failure: " ++ outage.message

def source : Error → Option Source
  | .application failure => failure.source
  | _ => none

end Error

end Envelope
