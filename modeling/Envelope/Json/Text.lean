import Envelope.Json.Value

/-!
What JSON strings and integers stand for, and how texts and integers are spelled.

A string stands for a text if its bytes are UTF-8 and its escaped code units pair up. A quote, a
backslash and the control characters are written as escapes, all else as it is.
-/

namespace Envelope.Json

/-! ### Texts -/

def utf8Bytes (s : String) : Bytes := s.toUTF8.data.toList

def ofUtf8? (bs : Bytes) : Option String := String.fromUTF8? ⟨bs.toArray⟩

theorem ofUtf8?_utf8Bytes (s : String) : ofUtf8? (utf8Bytes s) = some s := by
  simpa [ofUtf8?, utf8Bytes, String.fromUTF8?] using ⟨s.isValidUTF8, rfl⟩

namespace Spelling

/-- A byte of a string, or an escaped code unit of sixteen bits. -/
inductive Piece where
  | byte (b : UInt8)
  | unit (u : Nat)
deriving DecidableEq

def hexValue (b : UInt8) : Nat :=
  if b ≤ 57 then b.toNat - 48
  else if b ≤ 70 then b.toNat - 55
  else b.toNat - 87

def hexDigit (v : Nat) : UInt8 := if v < 10 then UInt8.ofNat (48 + v) else UInt8.ofNat (87 + v)

/-- The byte that a one-letter escape stands for. -/
def escaped? (letter : UInt8) : Option UInt8 :=
  if letter = 34 ∨ letter = 92 ∨ letter = 47 then some letter
  else if letter = 98 then some 8
  else if letter = 102 then some 12
  else if letter = 110 then some 10
  else if letter = 114 then some 13
  else if letter = 116 then some 9
  else none

/-- The pieces of a spelling. -/
def pieces : Bytes → Option (List Piece)
  | [] => some []
  | b :: rest =>
    if b = 92 then
      match rest with
      | 117 :: h3 :: h2 :: h1 :: h0 :: rest =>
        let u := ((hexValue h3 * 16 + hexValue h2) * 16 + hexValue h1) * 16 + hexValue h0
        (pieces rest).map (.unit u :: ·)
      | letter :: rest => do
        let b ← escaped? letter
        let more ← pieces rest
        some (.byte b :: more)
      | [] => none
    else (pieces rest).map (.byte b :: ·)

/-- The bytes of the pieces: a high and a low surrogate make one character, and neither stands
alone. -/
def join : List Piece → Option Bytes
  | [] => some []
  | .byte b :: rest => (join rest).map (b :: ·)
  | .unit u :: rest =>
    if u < 0xd800 ∨ 0xdfff < u then (join rest).map (String.utf8EncodeChar (Char.ofNat u) ++ ·)
    else
      match rest with
      | .unit l :: rest =>
        if u < 0xdc00 ∧ 0xdc00 ≤ l ∧ l ≤ 0xdfff then
          let c := Char.ofNat (0x10000 + (u - 0xd800) * 0x400 + (l - 0xdc00))
          (join rest).map (String.utf8EncodeChar c ++ ·)
        else none
      | _ => none

/-- The text that a spelling stands for. -/
def text? (spelling : Bytes) : Option String :=
  (pieces spelling).bind fun ps => (join ps).bind ofUtf8?

/-- How a byte of a text is written between quotes. -/
def ofByte (b : UInt8) : Bytes :=
  if b = 34 ∨ b = 92 then [92, b]
  else if b = 8 then [92, 98]
  else if b = 9 then [92, 116]
  else if b = 10 then [92, 110]
  else if b = 12 then [92, 102]
  else if b = 13 then [92, 114]
  else if b < 32 then
    [92, 117, 48, 48, hexDigit (b.toNat / 16), hexDigit (b.toNat % 16)]
  else [b]

/-- How a text is written between quotes. -/
def ofText (s : String) : Bytes := (utf8Bytes s).flatMap ofByte

end Spelling

/-! ### Integers -/

namespace Decimal

/-- The value of a spelling of digits only. -/
def natural (digits : Bytes) : Nat := digits.foldl (fun v d => 10 * v + (d.toNat - 48)) 0

/-- The integer that a number spells: a fraction, an exponent or a negative zero spells none. -/
def integer? (spelling : Bytes) : Option Int :=
  match spelling with
  | [] => none
  | b :: digits =>
    let natural? (digits : Bytes) : Option Nat :=
      if digits ≠ [] ∧ digits.all Scan.isDigit then some (natural digits) else none
    if b = 45 then
      match natural? digits with
      | some (n + 1) => some (-(n + 1 : Int))
      | _ => none
    else (natural? spelling).map Int.ofNat

/-- The digits of a natural number. -/
def ofNat (n : Nat) : Bytes := (Nat.toDigits 10 n).map fun c => UInt8.ofNat c.toNat

def ofInt (n : Int) : Bytes := if n < 0 then 45 :: ofNat n.natAbs else ofNat n.natAbs

end Decimal

namespace Value

def ofText (s : String) : Value := .string (Spelling.ofText s)

def ofInt (n : Int) : Value := .number (Decimal.ofInt n)

def text? : Value → Option String
  | .string spelling => Spelling.text? spelling
  | _ => none

def integer? : Value → Option Int
  | .number spelling => Decimal.integer? spelling
  | _ => none

def bool? : Value → Option Bool
  | .bool b => some b
  | _ => none

/-- Reads an optional part: null and absence mean none. -/
def optional? {α : Type} (read : Value → Option α) : Option Value → Option (Option α)
  | none | some .null => some none
  | some v => (read v).map some

end Value

end Envelope.Json
