/-!
Texts compared without regard to the case of letters, and numbers and truth values read from them.

The texts to compare with hold only lower-case ASCII letters, digits and underscores, so only the
characters that turn into one of these in lower case matter.
-/

namespace Envelope.Text

/-- The lower case of an ASCII letter, and of the Kelvin sign, whose lower case is also ASCII. -/
def lower (c : Char) : Char :=
  if 'A' ≤ c ∧ c ≤ 'Z' then Char.ofNat (c.toNat + 32)
  else if c.toNat = 0x212a then 'k'
  else c

/-- The text is the given one, which is in lower case, if case does not count. -/
def Spells (s lowerCase : String) : Prop := s.toList.map lower = lowerCase.toList

instance (s lowerCase : String) : Decidable (Spells s lowerCase) :=
  inferInstanceAs (Decidable (_ = _))

/-- The value of a text of digits. -/
def digits? (cs : List Char) : Option Nat :=
  if cs ≠ [] ∧ cs.all Char.isDigit then
    some (cs.foldl (fun n c => 10 * n + (c.toNat - '0'.toNat)) 0)
  else none

/-- A natural number: digits, after a plus sign or not. -/
def natural? (s : String) : Option Nat :=
  match s.toList with
  | '+' :: cs => digits? cs
  | cs => digits? cs

/-- A text without a sign at its front. -/
def unsigned (cs : List Char) : List Char :=
  if cs.head? = some '+' ∨ cs.head? = some '-' then cs.tail else cs

/-- Digits with a point among them or not. -/
def IsDecimal (cs : List Char) : Prop :=
  match cs.dropWhile Char.isDigit with
  | [] => cs ≠ []
  | c :: fraction => c = '.' ∧ fraction.all Char.isDigit ∧ cs ≠ ['.']

instance (cs : List Char) : Decidable (IsDecimal cs) := by
  unfold IsDecimal
  split <;> infer_instance

/-- The text is a number with or without a sign: a decimal, one times a power of ten, or a word for
one that is infinite or undefined. -/
def IsNumber (s : String) : Prop :=
  let cs := unsigned s.toList
  let spells (word : String) : Prop := Spells (String.ofList cs) word
  let isMark (c : Char) : Bool := c = 'e' ∨ c = 'E'
  let exponent := cs.dropWhile (!isMark ·)
  spells "inf" ∨ spells "infinity" ∨ spells "nan" ∨
    IsDecimal (cs.takeWhile (!isMark ·)) ∧
      (exponent = [] ∨ (digits? (unsigned exponent.tail)).isSome)

instance (s : String) : Decidable (IsNumber s) := by unfold IsNumber; infer_instance

/-- A word for yes or no. -/
def word? (s : String) : Option Bool :=
  if Spells s "true" ∨ Spells s "on" ∨ Spells s "yes" then some true
  else if Spells s "false" ∨ Spells s "off" ∨ Spells s "no" then some false
  else none

/-- A truth value: a word, or 1 or 0. -/
def truth? (s : String) : Option Bool :=
  if s = "1" then some true else if s = "0" then some false else word? s

/-- A count of 32 bits: a number, or a word that stands for 1 or 0. -/
def count? (s : String) : Option UInt32 :=
  match word? s with
  | some b => some (if b then 1 else 0)
  | none =>
    match natural? s with
    | some n => if n < 4294967296 then some (UInt32.ofNat n) else none
    | none => none

end Envelope.Text
