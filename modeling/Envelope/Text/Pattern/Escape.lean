import Envelope.Text.Pattern.Flags

/-!
Characters as they are written in a pattern: as they are, or after a backslash.

There are no tables of the properties of characters. What needs one is refused: the classes of
digits, blanks and letters of all scripts, and letters in either case. Among bytes these are only
the ASCII ones, and allowed; but a byte that is not ASCII is only a part of a character.
-/

namespace Envelope.Text.Pattern

/-- A character that stands for itself. -/
structure Literal where
  char : Char
  /-- It is given by the number of a byte. -/
  isByte : Bool
deriving DecidableEq

/-- The character may stand outside sets. -/
def Literal.IsAllowed (l : Literal) (f : Flags) : Prop :=
  if f.bytes then l.isByte → l.char.toNat < 128 else ¬ f.anyCase

instance (l : Literal) (f : Flags) : Decidable (l.IsAllowed f) := by
  unfold Literal.IsAllowed
  infer_instance

/-- The character may stand in a set. -/
def Literal.IsMember (l : Literal) (f : Flags) : Prop :=
  if f.bytes then l.char.toNat < 128 else ¬ f.anyCase

instance (l : Literal) (f : Flags) : Decidable (l.IsMember f) := by
  unfold Literal.IsMember
  infer_instance

/-- What an escape stands for. -/
inductive Escape where
  | literal (l : Literal)
  /-- The start or the end of the text, or the edge of an ASCII word. -/
  | edge
  /-- The edge of a word in any script. -/
  | wordEdge
  /-- The ASCII digits, blanks, or letters. -/
  | asciiClass
deriving DecidableEq

namespace Escape

def char (c : Char) : Escape := .literal ⟨c, false⟩

def hexValue? (c : Char) : Option Nat :=
  if c.isDigit then some (c.toNat - 48)
  else if 'a' ≤ c ∧ c ≤ 'f' then some (c.toNat - 87)
  else if 'A' ≤ c ∧ c ≤ 'F' then some (c.toNat - 55)
  else none

/-- The number whose leading digits are read and that goes on with so many hexadecimal digits, and
what follows them. -/
def number? (f : Flags) : Nat → Nat → List Char → Option (Nat × List Char)
  | 0, n, cs => some (n, cs)
  | count + 1, n, cs =>
    match f.skip cs with
    | [] => none
    | c :: rest => do number? f count (16 * n + (← hexValue? c)) rest

/-- The character whose number is given by so many hexadecimal digits, and what follows them. -/
def numbered? (f : Flags) (count : Nat) (cs : List Char) : Option (Escape × List Char) := do
  let (n, rest) ← number? f count 0 cs
  if n.isValidChar then some (.literal ⟨Char.ofNat n, count = 2⟩, rest) else none

/-- What the text after a backslash begins with, and what follows it. -/
def read? (f : Flags) : List Char → Option (Escape × List Char)
  | [] => none
  | c :: rest =>
    if c = 'x' then numbered? f 2 rest
    else if c = 'u' then numbered? f 4 rest
    else if c = 'U' then numbered? f 8 rest
    else if c = 'A' ∨ c = 'z' then some (.edge, rest)
    else if c ∈ ['b', 'B', '<', '>'] then some (if f.bytes then .edge else .wordEdge, rest)
    else if c ∈ ['d', 's', 'w'] then if f.bytes then some (.asciiClass, rest) else none
    else if c = 'a' then some (char '\x07', rest)
    else if c = 't' then some (char '\t', rest)
    else if c = 'n' then some (char '\n', rest)
    else if c = 'v' then some (char '\x0b', rest)
    else if c = 'f' then some (char '\x0c', rest)
    else if c = 'r' then some (char '\r', rest)
    else if c.toNat < 128 ∧ ¬ c.isAlphanum then some (char c, rest)
    else none

end Escape

end Envelope.Text.Pattern
