import Envelope.Json.Text

/-!
Records in JSON: an object with named fields, or an array of the fields in their order.

In an object, unknown names are skipped and a known name may stand only once; names compare as
texts. In an array, only fields at the end may be missing.
-/

namespace Envelope.Json.Value

/-- The names of all members as texts, if all of them are texts. -/
def named? : List (Bytes × Value) → Option (List (String × Value))
  | [] => some []
  | (name, v) :: rest => do
    let name ← Spelling.text? name
    let rest ← named? rest
    some ((name, v) :: rest)

/-- The value of a field, absent or present once. -/
def field? (members : List (String × Value)) (name : String) : Option (Option Value) :=
  match members.filter (·.1 = name) with
  | [] => some none
  | [(_, v)] => some (some v)
  | _ => none

/-- The fields of a record, in the order of the names. -/
def fields? (names : List String) : Value → Option (List (Option Value))
  | .object members => do
    let members ← named? members
    names.mapM (field? members)
  | .array items =>
    if items.length ≤ names.length then
      some (items.map some ++ List.replicate (names.length - items.length) none)
    else none
  | _ => none

end Envelope.Json.Value
