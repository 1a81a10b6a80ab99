import Envelope.Text.Blank
import Envelope.Text.Quoted

/-!
The list of regions and the master key in each, as settings give it: pairs `region=arn` with commas
between them. Blanks around the parts do not count, and neither do blank segments.
-/

namespace Envelope

/-- A region and the name of the master key in it. -/
structure RegionKey where
  region : String
  arn : String
deriving DecidableEq

/-- Why a list of regions cannot be used. -/
inductive RegionKeyFault where
  | absent
  | notPair (segment : String)
  | emptyPart (segment : String)
  | noRegion
deriving DecidableEq

def RegionKeyFault.message : RegionKeyFault → String
  | .absent => "REGION_KEY_ARNS is required when KMS_TYPE=aws"
  | .notPair segment => "REGION_KEY_ARNS entry " ++ Text.quoted segment ++ " is not region=arn"
  | .emptyPart segment =>
    "REGION_KEY_ARNS entry " ++ Text.quoted segment ++ " has an empty region or ARN"
  | .noRegion => "REGION_KEY_ARNS must name at least one region"

namespace RegionKey

/-- The pair that a segment without outer blanks gives. The first equals sign divides it. -/
def ofSegment (segment : List Char) : Except RegionKeyFault RegionKey :=
  match segment.dropWhile (· ≠ '=') with
  | [] => .error (.notPair (String.ofList segment))
  | _ :: rest =>
    let region := Text.trim (segment.takeWhile (· ≠ '='))
    let arn := Text.trim rest
    if region = [] ∨ arn = [] then .error (.emptyPart (String.ofList segment))
    else .ok ⟨String.ofList region, String.ofList arn⟩

/-- The segments of a list, without blanks at their ends and without blank segments. -/
def segments (text : String) : List (List Char) :=
  ((text.toList.splitOn ',').map Text.trim).filter (· ≠ [])

/-- The pairs of a list, in its order. -/
def listOfText (text : String) : Except RegionKeyFault (List RegionKey) := do
  let keys ← (segments text).mapM ofSegment
  if keys = [] then throw .noRegion else return keys

end RegionKey

end Envelope
