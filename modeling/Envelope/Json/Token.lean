import Envelope.Bytes

/-!
The tokens of a JSON text, found in one pass over its bytes.

The scan knows between tokens, inside a word, inside a number and inside a string. It keeps the
spelling of numbers and strings: what they stand for is decided only where they are used, so a
string that nobody reads need not be text.
-/

namespace Envelope.Json

inductive Token where
  | beginObject
  | endObject
  | beginArray
  | endArray
  | comma
  | colon
  | null
  | bool (b : Bool)
  /-- The spelling of a number. -/
  | number (spelling : Bytes)
  /-- What stands between the quotes, escapes as written. -/
  | string (spelling : Bytes)
deriving DecidableEq

namespace Scan

/-- How much of a number has been read. -/
inductive NumberPart where
  | sign
  | zero
  | integer
  | point
  | fraction
  | exponent
  | exponentSign
  | exponentDigits
deriving DecidableEq

/-- Where a string stands: in plain text, after a backslash, or in a code unit with that many
hexadecimal digits to come. -/
inductive StringPart where
  | plain
  | escape
  | unit (left : Nat)
deriving DecidableEq

inductive Mode where
  | between
  /-- Inside a word: the token it makes and the bytes still to come. -/
  | word (token : Token) (rest : Bytes)
  /-- Inside a number: its spelling so far, last byte first. -/
  | number (part : NumberPart) (spelling : Bytes)
  /-- Inside a string: its spelling so far, last byte first. -/
  | string (part : StringPart) (spelling : Bytes)
deriving DecidableEq

structure State where
  /-- The tokens so far, last token first. -/
  tokens : List Token
  mode : Mode
deriving DecidableEq

def init : State := ⟨[], .between⟩

def isBlank (b : UInt8) : Bool := b = 32 ∨ b = 9 ∨ b = 10 ∨ b = 13

def isDigit (b : UInt8) : Bool := 48 ≤ b ∧ b ≤ 57

def isHexDigit (b : UInt8) : Bool := isDigit b ∨ (65 ≤ b ∧ b ≤ 70) ∨ (97 ≤ b ∧ b ≤ 102)

/-- The bytes that may follow a backslash, apart from the one that starts a code unit. -/
def isEscape (b : UInt8) : Bool :=
  b = 34 ∨ b = 92 ∨ b = 47 ∨ b = 98 ∨ b = 102 ∨ b = 110 ∨ b = 114 ∨ b = 116

/-- The token that one byte makes. -/
def punctuation? (b : UInt8) : Option Token :=
  if b = 123 then some .beginObject
  else if b = 125 then some .endObject
  else if b = 91 then some .beginArray
  else if b = 93 then some .endArray
  else if b = 44 then some .comma
  else if b = 58 then some .colon
  else none

/-- What a byte does between tokens. -/
def start (tokens : List Token) (b : UInt8) : Option State :=
  if isBlank b then some ⟨tokens, .between⟩
  else if b = 34 then some ⟨tokens, .string .plain []⟩
  else if b = 45 then some ⟨tokens, .number .sign [b]⟩
  else if b = 48 then some ⟨tokens, .number .zero [b]⟩
  else if isDigit b then some ⟨tokens, .number .integer [b]⟩
  else if b = 110 then some ⟨tokens, .word .null [117, 108, 108]⟩
  else if b = 116 then some ⟨tokens, .word (.bool true) [114, 117, 101]⟩
  else if b = 102 then some ⟨tokens, .word (.bool false) [97, 108, 115, 101]⟩
  else (punctuation? b).map fun t => ⟨t :: tokens, .between⟩

/-- The part of a number that a byte leads to, if the byte goes on with the number. -/
def NumberPart.next? (part : NumberPart) (b : UInt8) : Option NumberPart :=
  let fractionOrExponent : Option NumberPart :=
    if b = 46 then some .point else if b = 101 ∨ b = 69 then some .exponent else none
  match part with
  | .sign => if b = 48 then some .zero else if isDigit b then some .integer else none
  | .zero => fractionOrExponent
  | .integer => if isDigit b then some .integer else fractionOrExponent
  | .point => if isDigit b then some .fraction else none
  | .fraction =>
    if isDigit b then some .fraction
    else if b = 101 ∨ b = 69 then some .exponent
    else none
  | .exponent =>
    if isDigit b then some .exponentDigits
    else if b = 43 ∨ b = 45 then some .exponentSign
    else none
  | .exponentSign | .exponentDigits => if isDigit b then some .exponentDigits else none

/-- A number may end after this part. -/
def NumberPart.isComplete : NumberPart → Bool
  | .zero | .integer | .fraction | .exponentDigits => true
  | .sign | .point | .exponent | .exponentSign => false

def step (s : State) (b : UInt8) : Option State :=
  match s.mode with
  | .between => start s.tokens b
  | .word token rest =>
    match rest with
    | [] => none
    | [c] => if b = c then some ⟨token :: s.tokens, .between⟩ else none
    | c :: rest => if b = c then some ⟨s.tokens, .word token rest⟩ else none
  | .number part spelling =>
    match part.next? b with
    | some part => some ⟨s.tokens, .number part (b :: spelling)⟩
    | none =>
      if part.isComplete then start (.number spelling.reverse :: s.tokens) b else none
  | .string part spelling =>
    match part with
    | .plain =>
      if b = 34 then some ⟨.string spelling.reverse :: s.tokens, .between⟩
      else if b = 92 then some ⟨s.tokens, .string .escape (b :: spelling)⟩
      else if b < 32 then none
      else some ⟨s.tokens, .string .plain (b :: spelling)⟩
    | .escape =>
      if b = 117 then some ⟨s.tokens, .string (.unit 3) (b :: spelling)⟩
      else if isEscape b then some ⟨s.tokens, .string .plain (b :: spelling)⟩
      else none
    | .unit left =>
      if isHexDigit b then
        some ⟨s.tokens, .string (if left = 0 then .plain else .unit (left - 1)) (b :: spelling)⟩
      else none

/-- The tokens of a scan that may end here. -/
def finish (s : State) : Option (List Token) :=
  match s.mode with
  | .between => some s.tokens.reverse
  | .number part spelling =>
    if part.isComplete then some (.number spelling.reverse :: s.tokens).reverse else none
  | _ => none

end Scan

/-- The tokens of a text, if it divides into tokens. -/
def tokens? (text : Bytes) : Option (List Token) :=
  (text.foldlM Scan.step Scan.init).bind Scan.finish

namespace Token

def spelling : Token → Bytes
  | .beginObject => [123]
  | .endObject => [125]
  | .beginArray => [91]
  | .endArray => [93]
  | .comma => [44]
  | .colon => [58]
  | .null => [110, 117, 108, 108]
  | .bool true => [116, 114, 117, 101]
  | .bool false => [102, 97, 108, 115, 101]
  | .number spelling => spelling
  | .string spelling => 34 :: spelling ++ [34]

end Token

end Envelope.Json
