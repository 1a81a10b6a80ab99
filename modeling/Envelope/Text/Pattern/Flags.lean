import Envelope.Text.Blank

/-!
Flags that a pattern sets for a part of itself, and what does not count in a pattern that is spaced
out.
-/

namespace Envelope.Text.Pattern

structure Flags where
  /-- A letter stands for itself in either case. -/
  anyCase : Bool
  /-- The pattern is about bytes, not characters. -/
  bytes : Bool
  /-- Blanks do not count, nor do comments from a number sign to the end of the line. -/
  spaced : Bool
deriving DecidableEq

namespace Flags

def start : Flags := ⟨false, false, false⟩

/-- The flags after a list of marks, which sets those before a dash and clears those after it. -/
def change (f : Flags) (marks : List Char) : Flags :=
  let value (mark : Char) (old : Bool) : Bool :=
    if mark ∈ marks.takeWhile (· ≠ '-') then true else if mark ∈ marks then false else old
  ⟨value 'i' f.anyCase, !value 'u' (!f.bytes), value 'x' f.spaced⟩

end Flags

/-- A text from the first character that is neither blank nor in a comment. -/
def dropBlanks (inComment : Bool) : List Char → List Char
  | [] => []
  | c :: cs =>
    if inComment then dropBlanks (c ≠ '\n') cs
    else if IsBlank c then dropBlanks false cs
    else if c = '#' then dropBlanks true cs
    else c :: cs

namespace Flags

/-- A text from the first character that counts. -/
def skip (f : Flags) (cs : List Char) : List Char := if f.spaced then dropBlanks false cs else cs

/-- The character that tells whether a dash before it divides a range. In a pattern that is spaced
out it may be the first of a comment. -/
def afterDash? (f : Flags) (cs : List Char) : Option Char :=
  if f.spaced then
    match cs.dropWhile (IsBlank ·) with
    | '#' :: rest => (rest.dropWhile (IsBlank ·)).head?
    | rest => rest.head?
  else cs.head?

end Flags

end Envelope.Text.Pattern
