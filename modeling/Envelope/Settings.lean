import Envelope.KeyService
import Envelope.Policy
import Envelope.Settings.RegionKey
import Envelope.Settings.Variables

/-!
The settings of a trial run, read from variables: whose payload is sealed, how often, under which
policy, and where the master key is kept.

A variable that is absent has a default. One that is present has to be readable, and the settings
together have to pass a check that names the first fault.
-/

namespace Envelope

/-- Where the master key is kept. -/
inductive MasterKeySource where
  /-- In the settings, for trials only. -/
  | fixed
  /-- In the regions of a key management service. -/
  | regions
deriving DecidableEq

namespace MasterKeySource

def name : MasterKeySource → String
  | .fixed => "Static"
  | .regions => "Aws"

def ofText? (s : String) : Option MasterKeySource :=
  if Text.Spells s "static" then some .fixed
  else if Text.Spells s "aws" then some .regions
  else none

end MasterKeySource

def Rotation.ofText? (s : String) : Option Rotation :=
  if Text.Spells s "inline" then some .inline
  else if Text.Spells s "queued" then some .queued
  else none

structure Settings where
  service : String
  product : String
  partition : String
  payload : String
  iterations : UInt32
  masterKeySource : MasterKeySource
  masterKey : String
  /-- The list of regions, as it was given. -/
  regionKeys : Option String
  preferredRegion : Option String
  expirationDays : UInt32
  revokeCheckMinutes : UInt32
  cachesSystemKeys : Bool
  cachesIntermediateKeys : Bool
  cachesSessions : Bool
  rotation : Rotation
  logLevel : String
  /-- Where spans are exported to, if anywhere. -/
  exportEndpoint : Option String
deriving DecidableEq

/-- Why settings cannot be used. -/
inductive SettingsFault where
  /-- A variable names a part that no list can have. A process with such a variable stops. -/
  | overrun
  | unreadable
  | blank (name : String)
  | zero (name : String)
  | masterKeyLength
  | regionKeys (fault : RegionKeyFault)
deriving DecidableEq

def SettingsFault.message : SettingsFault → String
  | .overrun => "index out of bounds"
  | .unreadable => "failed to deserialise configuration"
  | .blank name => name ++ " is required and must not be empty"
  | .zero name => name ++ " must be > 0"
  | .masterKeyLength => "STATIC_MASTER_KEY must be exactly 32 bytes"
  | .regionKeys fault => fault.message

namespace Settings

/-- The settings that variables give, if all are readable. -/
def read? (vars : Variables) : Option Settings := do
  some {
    service := ← vars.value? "service_id" some "reference_app"
    product := ← vars.value? "product_id" some "productId"
    partition := ← vars.value? "partition_id" some "partitionId-1"
    payload := ← vars.value? "payload" some "mysupersecretpayload"
    iterations := ← vars.value? "iterations" Text.count? 1
    masterKeySource := ← vars.choice? "kms_type" MasterKeySource.ofText? .fixed
    masterKey := ← vars.value? "static_master_key" some "thisIsAStaticMasterKeyForTesting"
    regionKeys := ← vars.value? "region_key_arns" (some ∘ some) none
    preferredRegion := ← vars.value? "preferred_region" (some ∘ some) none
    expirationDays := ← vars.value? "key_expiration_days" Text.count? 90
    revokeCheckMinutes := ← vars.value? "revoke_check_minutes" Text.count? 60
    cachesSystemKeys := ← vars.value? "can_cache_system_keys" Text.truth? true
    cachesIntermediateKeys := ← vars.value? "can_cache_intermediate_keys" Text.truth? true
    cachesSessions := ← vars.value? "can_cache_sessions" Text.truth? false
    rotation := ← vars.choice? "key_rotation_strategy" Rotation.ofText? .inline
    logLevel := ← vars.value? "log_level" some "info"
    exportEndpoint := ← vars.value? "otel_exporter_otlp_endpoint" (some ∘ some) none }

/-- The regions and their master keys. -/
def regionKeyList (s : Settings) : Except RegionKeyFault (List RegionKey) :=
  match s.regionKeys with
  | some text => RegionKey.listOfText text
  | none => .error .absent

def checkNotBlank (name value : String) : Except SettingsFault Unit :=
  if Text.trim value.toList = [] then .error (.blank name) else .ok ()

def checkPositive (name : String) (value : UInt32) : Except SettingsFault Unit :=
  if value = 0 then .error (.zero name) else .ok ()

/-- What the place of the master key asks of the other settings. -/
def checkMasterKey (s : Settings) : Except SettingsFault Unit :=
  match s.masterKeySource with
  | .fixed => if s.masterKey.utf8ByteSize = 32 then .ok () else .error .masterKeyLength
  | .regions => do
    let _ ← s.regionKeyList.mapError .regionKeys
    checkNotBlank "PREFERRED_REGION" (s.preferredRegion.getD "")

/-- Passes settings that can be used, and else names the first fault. -/
def check (s : Settings) : Except SettingsFault Unit := do
  checkNotBlank "SERVICE_ID" s.service
  checkNotBlank "PRODUCT_ID" s.product
  checkNotBlank "PARTITION_ID" s.partition
  checkPositive "ITERATIONS" s.iterations
  checkPositive "KEY_EXPIRATION_DAYS" s.expirationDays
  checkPositive "REVOKE_CHECK_MINUTES" s.revokeCheckMinutes
  s.checkMasterKey

/-- The settings that variables give, if they can be used. -/
def ofVariables (vars : Variables) : Except SettingsFault Settings :=
  if vars.Overrun then .error .overrun
  else
    match read? vars with
    | none => .error .unreadable
    | some s => do
      s.check
      return s

def policy (s : Settings) : Policy :=
  { Policy.expiring s.expirationDays with
    revokeCheck := .ofMinutes s.revokeCheckMinutes
    cachesSystemKeys := s.cachesSystemKeys
    cachesIntermediateKeys := s.cachesIntermediateKeys
    cachesSessions := s.cachesSessions
    rotation := s.rotation }

/-- The service of the fixed master key. -/
def masterService (s : Settings) (now : Time) : Except Error KeyService :=
  KeyService.ofMaster (Json.utf8Bytes s.masterKey) now

/-- The service of regions with their master keys, each reached through its client. -/
def regionalService (s : Settings) (client : RegionKey → RegionClient) (keys : List RegionKey) :
    Except Error KeyService :=
  KeyService.ofRegions (keys.map fun k => ⟨k.region, k.arn, client k⟩) (s.preferredRegion.getD "")

end Settings

end Envelope
