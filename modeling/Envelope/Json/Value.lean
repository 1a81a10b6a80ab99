import Envelope.Json.Token

/-!
JSON values, with numbers and strings as spelled and the members of objects in order, repeated
names included.

A value is read off its tokens with a stack of the arrays and objects that are still open, so no
depth of nesting is too much. It is written without blanks.
-/

namespace Envelope.Json

inductive Value where
  | null
  | bool (b : Bool)
  | number (spelling : Bytes)
  | string (spelling : Bytes)
  | array (items : List Value)
  | object (members : List (Bytes × Value))

namespace Value

/-! ### Reading -/

/-- An open array or object that waits for a value, its parts so far last first. -/
inductive Frame where
  | array (items : List Value)
  | object (members : List (Bytes × Value)) (name : Bytes)

/-- What has just been read, and so what may come next. -/
inductive Focus where
  /-- A value must come, for the innermost open frame. -/
  | value
  | arrayStart
  | afterItem (items : List Value)
  | objectStart
  | memberName (members : List (Bytes × Value))
  | afterName (members : List (Bytes × Value)) (name : Bytes)
  | afterMember (members : List (Bytes × Value))
  | done (whole : Value)

structure Reading where
  focus : Focus
  frames : List Frame

namespace Reading

def init : Reading := ⟨.value, []⟩

/-- Hands a finished value to the innermost open frame. -/
def fill (v : Value) : List Frame → Reading
  | [] => ⟨.done v, []⟩
  | .array items :: frames => ⟨.afterItem (v :: items), frames⟩
  | .object members name :: frames => ⟨.afterMember ((name, v) :: members), frames⟩

/-- The first token of a value. -/
def beginValue (t : Token) (frames : List Frame) : Option Reading :=
  match t with
  | .null => some (fill .null frames)
  | .bool b => some (fill (.bool b) frames)
  | .number spelling => some (fill (.number spelling) frames)
  | .string spelling => some (fill (.string spelling) frames)
  | .beginArray => some ⟨.arrayStart, frames⟩
  | .beginObject => some ⟨.objectStart, frames⟩
  | _ => none

def step (r : Reading) (t : Token) : Option Reading :=
  match r.focus with
  | .value => beginValue t r.frames
  | .arrayStart =>
    if t = .endArray then some (fill (.array []) r.frames)
    else beginValue t (.array [] :: r.frames)
  | .afterItem items =>
    match t with
    | .comma => some ⟨.value, .array items :: r.frames⟩
    | .endArray => some (fill (.array items.reverse) r.frames)
    | _ => none
  | .objectStart =>
    match t with
    | .endObject => some (fill (.object []) r.frames)
    | .string name => some ⟨.afterName [] name, r.frames⟩
    | _ => none
  | .memberName members =>
    match t with
    | .string name => some ⟨.afterName members name, r.frames⟩
    | _ => none
  | .afterName members name =>
    match t with
    | .colon => some ⟨.value, .object members name :: r.frames⟩
    | _ => none
  | .afterMember members =>
    match t with
    | .comma => some ⟨.memberName members, r.frames⟩
    | .endObject => some (fill (.object members.reverse) r.frames)
    | _ => none
  | .done _ => none

def finish (r : Reading) : Option Value :=
  match r.focus with
  | .done v => some v
  | _ => none

end Reading

/-- The value that the tokens make up, if they make up exactly one. -/
def ofTokens? (ts : List Token) : Option Value :=
  (ts.foldlM Reading.step Reading.init).bind Reading.finish

/-- The value of a text, if it is the text of one. -/
def parse? (text : Bytes) : Option Value := (tokens? text).bind ofTokens?

/-! ### Writing -/

mutual

def tokens : Value → List Token
  | .null => [.null]
  | .bool b => [.bool b]
  | .number spelling => [.number spelling]
  | .string spelling => [.string spelling]
  | .array items => .beginArray :: itemTokens items ++ [.endArray]
  | .object members => .beginObject :: memberTokens members ++ [.endObject]

/-- The items of an array with a comma between each two. -/
def itemTokens : List Value → List Token
  | [] => []
  | [v] => v.tokens
  | v :: rest => v.tokens ++ .comma :: itemTokens rest

/-- The members of an object with a comma between each two. -/
def memberTokens : List (Bytes × Value) → List Token
  | [] => []
  | [(name, v)] => .string name :: .colon :: v.tokens
  | (name, v) :: rest => .string name :: .colon :: v.tokens ++ .comma :: memberTokens rest

end

/-- The text of a value without blanks. -/
def render (v : Value) : Bytes := v.tokens.flatMap Token.spelling

end Value

end Envelope.Json
