/-!
Texts of the form of a URI: an authority alone, a path, or a scheme with an authority and a path,
a query and a fragment after it.

Only ASCII characters are allowed, except that a fragment may hold anything.
-/

namespace Envelope.Text.Uri

/-- The longest URI, in bytes. -/
def maxLength : Nat := 65534

def longestScheme : Nat := 64

def IsSchemeChar (c : Char) : Prop := c.isAlphanum ∨ c ∈ ['+', '-', '.', '~']

instance (c : Char) : Decidable (IsSchemeChar c) := inferInstanceAs (Decidable (_ ∨ _))

/-- The character may stand in an authority; a percent sign may too, in places. -/
def IsAuthorityChar (c : Char) : Prop :=
  c.isAlphanum ∨ c ∈ "!$&'()*+,-.;=_~%:[]@".toList

instance (c : Char) : Decidable (IsAuthorityChar c) := inferInstanceAs (Decidable (_ ∨ _))

/-- An authority ends before one of these. -/
def EndsAuthority (c : Char) : Prop := c = '/' ∨ c = '?' ∨ c = '#'

instance (c : Char) : Decidable (EndsAuthority c) := by unfold EndsAuthority; infer_instance

/-- What counts while an authority is read: colons and percent signs of the part that is being
read, brackets, and whether the last character was an at sign. -/
structure Authority where
  colons : Nat
  percent : Bool
  opened : Bool
  closed : Bool
  endsInAt : Bool
deriving DecidableEq

namespace Authority

def start : Authority := ⟨0, false, false, false, false⟩

def step (a : Authority) (c : Char) : Option Authority :=
  let b := { a with endsInAt := false }
  if c = ':' then if a.colons < 8 then some { b with colons := a.colons + 1 } else none
  else if c = '[' then if a.percent || a.opened then none else some { b with opened := true }
  else if c = ']' then
    if !a.opened || a.closed then none
    else some { b with closed := true, colons := 0, percent := false }
  else if c = '@' then some { a with endsInAt := true, colons := 0, percent := false }
  else if c = '%' then some { b with percent := true }
  else if IsAuthorityChar c then some b
  else none

/-- The authority may end here: brackets are paired, at most one colon divides off a port, no
percent sign is left, and something follows the user. -/
def IsComplete (a : Authority) : Prop :=
  a.opened = a.closed ∧ a.colons ≤ 1 ∧ a.endsInAt = false ∧ a.percent = false

instance (a : Authority) : Decidable a.IsComplete := by unfold IsComplete; infer_instance

end Authority

def IsAuthority (cs : List Char) : Prop :=
  ∃ a ∈ cs.foldlM Authority.step .start, a.IsComplete

instance (cs : List Char) : Decidable (IsAuthority cs) :=
  decidable_of_iff ((cs.foldlM Authority.step .start).any (·.IsComplete) = true) <| by
    simp [IsAuthority, Option.any_eq_true]

def IsQueryChar (c : Char) : Prop :=
  let n := c.toNat
  n = 0x21 ∨ (0x24 ≤ n ∧ n ≤ 0x3b) ∨ n = 0x3d ∨ (0x3f ≤ n ∧ n ≤ 0x7e)

instance (c : Char) : Decidable (IsQueryChar c) := by unfold IsQueryChar; infer_instance

def IsPathChar (c : Char) : Prop :=
  let n := c.toNat
  n = 0x21 ∨ (0x24 ≤ n ∧ n ≤ 0x3b) ∨ n = 0x3d ∨ (0x40 ≤ n ∧ n ≤ 0x5f) ∨
    (0x61 ≤ n ∧ n ≤ 0x7e) ∨ n = 0x22

instance (c : Char) : Decidable (IsPathChar c) := by unfold IsPathChar; infer_instance

/-- A path with an optional query and fragment. -/
def IsPath (cs : List Char) : Prop :=
  let cs := cs.takeWhile (· ≠ '#')
  (cs.takeWhile (· ≠ '?')).all (IsPathChar ·) ∧
    ((cs.dropWhile (· ≠ '?')).drop 1).all (IsQueryChar ·)

instance (cs : List Char) : Decidable (IsPath cs) := inferInstanceAs (Decidable (_ ∧ _))

/-- What follows a scheme: an authority that is not empty, and a path. -/
def IsHierarchy (cs : List Char) : Prop :=
  let authority := cs.takeWhile (¬ EndsAuthority ·)
  authority ≠ [] ∧ IsAuthority authority ∧ IsPath (cs.dropWhile (¬ EndsAuthority ·))

instance (cs : List Char) : Decidable (IsHierarchy cs) := by unfold IsHierarchy; infer_instance

/-- The scheme of a text and what follows its two slashes. -/
def scheme? (cs : List Char) : Option (List Char × List Char) :=
  match cs.dropWhile (IsSchemeChar ·) with
  | ':' :: '/' :: '/' :: rest => some (cs.takeWhile (IsSchemeChar ·), rest)
  | _ => none

/-- The text has the form of a URI. -/
def IsUri (s : String) : Prop :=
  s ≠ "" ∧ s.utf8ByteSize ≤ maxLength ∧
    if s.toList.head? = some '/' then IsPath s.toList
    else
      match scheme? s.toList with
      | some (scheme, rest) => scheme.length ≤ longestScheme ∧ IsHierarchy rest
      | none => IsAuthority s.toList

instance (s : String) : Decidable (IsUri s) := by
  unfold IsUri
  have : Decidable (match scheme? s.toList with
      | some (scheme, rest) => scheme.length ≤ longestScheme ∧ IsHierarchy rest
      | none => IsAuthority s.toList) := by
    split <;> infer_instance
  infer_instance

end Envelope.Text.Uri
