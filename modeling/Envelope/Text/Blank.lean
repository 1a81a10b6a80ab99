/-!
Blank characters, and texts without blanks at their ends.
-/

namespace Envelope.Text

/-- The character is white space: a tab, a line or page break, or a space of any width that a line
may break at or not. -/
def IsBlank (c : Char) : Prop :=
  let n := c.toNat
  (9 ≤ n ∧ n ≤ 13) ∨ n = 32 ∨ n = 0x85 ∨ n = 0xa0 ∨ n = 0x1680 ∨ (0x2000 ≤ n ∧ n ≤ 0x200a) ∨
    n = 0x2028 ∨ n = 0x2029 ∨ n = 0x202f ∨ n = 0x205f ∨ n = 0x3000

instance (c : Char) : Decidable (IsBlank c) := by unfold IsBlank; infer_instance

/-- A text without the blanks at its ends. -/
def trim (cs : List Char) : List Char :=
  ((cs.dropWhile (IsBlank ·)).reverse.dropWhile (IsBlank ·)).reverse

end Envelope.Text
