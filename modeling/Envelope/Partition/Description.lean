import Envelope.Partition
import Envelope.Text.Quoted

/-!
Full texts of a partition and of its session, with every id, for diagnosis.
-/

namespace Envelope.Partition

/-- A partition with all its parts and the key ids it derives. -/
def describe (p : Partition) : String :=
  let suffix := match p.suffix with
    | some s => "Some(" ++ Text.quoted s ++ ")"
    | none => "None"
  "Partition \x7b partition_id: " ++ Text.quoted p.partition ++
    ", service_id: " ++ Text.quoted p.service ++
    ", product_id: " ++ Text.quoted p.product ++
    ", suffix: " ++ suffix ++
    ", system_key_id: " ++ Text.quoted p.systemKeyId ++
    ", intermediate_key_id: " ++ Text.quoted p.intermediateKeyId ++
    ", base_intermediate_key_id: " ++ Text.quoted p.baseKeyId ++ " \x7d"

/-- A session of the partition. -/
def describeSession (p : Partition) : String := "Session \x7b partition: " ++ p.describe ++ " \x7d"

end Envelope.Partition
