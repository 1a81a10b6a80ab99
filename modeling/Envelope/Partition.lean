/-!
The scope of a session and the key ids it derives: one series of intermediate keys for every
partition, one series of system keys for every service and product.

A suffix, such as the name of a region, ends both key ids. A partition with a suffix also accepts
the intermediate key ids that its own records have under other suffixes or under none.
-/

namespace Envelope

structure Partition where
  partition : String
  service : String
  product : String
  suffix : Option String
  suffix_ne : suffix ≠ some ""
deriving DecidableEq

namespace Partition

/-- The partition of three ids and a suffix; an empty suffix is none. -/
def ofIds (partition service product : String) (suffix : Option String) : Partition :=
  ⟨partition, service, product, suffix.filter (· ≠ ""), by simp⟩

/-- Ends a key id with the suffix, if there is one. -/
def suffixed (p : Partition) (keyId : String) : String :=
  match p.suffix with
  | some s => keyId ++ "_" ++ s
  | none => keyId

def systemKeyId (p : Partition) : String :=
  p.suffixed ("_SK_" ++ p.service ++ "_" ++ p.product)

/-- The intermediate key id without a suffix. -/
def baseKeyId (p : Partition) : String :=
  "_IK_" ++ p.partition ++ "_" ++ p.service ++ "_" ++ p.product

def intermediateKeyId (p : Partition) : String := p.suffixed p.baseKeyId

/-- A record that names this intermediate key id may be read in the partition. -/
def Accepts (p : Partition) (keyId : String) : Prop :=
  keyId = p.intermediateKeyId ∨
    p.suffix ≠ none ∧ (keyId = p.baseKeyId ∨ (p.baseKeyId ++ "_").toList <+: keyId.toList)

instance (p : Partition) (keyId : String) : Decidable (p.Accepts keyId) :=
  inferInstanceAs (Decidable (_ ∨ _))

theorem accepts_intermediateKeyId (p : Partition) : p.Accepts p.intermediateKeyId := Or.inl rfl

/-- The text of a partition in messages. -/
def display (p : Partition) : String :=
  "Partition[partitionId=" ++ p.partition ++ ", serviceId=" ++ p.service ++
    ", productId=" ++ p.product ++
    (match p.suffix with
      | some s => ", suffix=" ++ s
      | none => "") ++ "]"

end Partition

end Envelope
