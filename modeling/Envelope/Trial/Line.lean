import Envelope.Time.Calendar
import Envelope.Trial.Entry

/-!
The line of an entry in a written log: a JSON object with the time, the level, what the entry says
and its target.
-/

namespace Envelope

def Detail.toValue : Detail → Json.Value
  | .text s => .ofText s
  | .number n => .ofInt n

def Trial.Entry.toValue (e : Trial.Entry) (at_ : Time) : Json.Value :=
  let member (name : String) (v : Json.Value) : Bytes × Json.Value :=
    (Json.Spelling.ofText name, v)
  .object [member "timestamp" (.ofText at_.text), member "level" (.ofText e.level.name),
    member "fields" (.object (member "message" (.ofText e.message) ::
      e.details.map fun (name, d) => member name d.toValue)),
    member "target" (.ofText e.target)]

/-- The line of an entry that was logged at a time. -/
def Trial.Entry.line (e : Trial.Entry) (at_ : Time) : String :=
  (Json.ofUtf8? (e.toValue at_).render).getD ""

end Envelope
