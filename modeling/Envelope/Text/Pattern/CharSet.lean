import Envelope.Text.Pattern.Escape

/-!
Sets of characters in a pattern, between brackets: characters, ranges of them, sets inside the set,
and the common or different characters of two sets.

Only how deeply the parts of a set are nested is kept of it.
-/

namespace Envelope.Text.Pattern

/-- The depth of parts that stand together. One part alone is no deeper for it. -/
def together : List Nat → Nat
  | [] => 0
  | [depth] => depth
  | depths => depths.foldl max 0 + 1

/-- A set whose bracket is not closed. -/
structure OpenSet where
  /-- The depth of what stands before the last sign that joins two sets, if there is one. -/
  left? : Option Nat
  /-- The depths of the members that come after it. -/
  members : List Nat
  /-- Only dashes are read. The next dash stands for itself, and a bracket does if none is read. -/
  fresh : Bool
deriving DecidableEq

namespace OpenSet

def empty : OpenSet := ⟨none, [], true⟩

def add (s : OpenSet) (depth : Nat) : OpenSet :=
  { s with members := depth :: s.members, fresh := false }

def depth (s : OpenSet) : Nat :=
  match s.left? with
  | none => together s.members
  | some left => max left (together s.members) + 1

/-- The set after a sign that joins what is read with what comes. -/
def join (s : OpenSet) : OpenSet := ⟨some s.depth, [], false⟩

end OpenSet

/-- The names of classes that a set may hold. All are ASCII. -/
def classNames : List String :=
  ["alnum", "alpha", "ascii", "blank", "cntrl", "digit", "graph", "lower", "print", "punct",
    "space", "upper", "word", "xdigit"]

/-- Whether a class in a set is negated, and what follows it; the text begins after its bracket. -/
def namedClass? : List Char → Option (Bool × List Char)
  | ':' :: rest =>
    let negated := rest.head? = some '^'
    let rest := if negated then rest.tail else rest
    match rest.dropWhile (· ≠ ':') with
    | ':' :: ']' :: after =>
      if String.ofList (rest.takeWhile (· ≠ ':')) ∈ classNames then some (negated, after) else none
    | _ => none
  | _ => none

/-- A class in a set may be used: its letters need no other case, and it lies in ASCII if bytes
count. -/
def AllowsClass (f : Flags) (negated : Bool) : Prop :=
  if f.bytes then ¬ negated else ¬ f.anyCase

instance (f : Flags) (negated : Bool) : Decidable (AllowsClass f negated) := by
  unfold AllowsClass
  infer_instance

/-- A character or class of a set, and what follows it. -/
def member? (f : Flags) : List Char → Option (Escape × List Char)
  | [] => none
  | '\\' :: rest => Escape.read? f rest
  | c :: rest => some (.char c, rest)

/-- What follows a member of a set: a character, a class, or a range of characters. -/
def afterMember? (f : Flags) (cs : List Char) : Option (List Char) := do
  match ← member? f cs with
  | (.literal first, rest) =>
    if ¬ first.IsMember f then none
    else
      match f.skip rest with
      | '-' :: more =>
        if f.afterDash? more ∈ [some ']', some '-'] then some ('-' :: more)
        else
          match ← member? f (f.skip more) with
          | (.literal last, rest) =>
            if last.IsMember f ∧ first.char ≤ last.char then some rest else none
          | _ => none
      | rest => some rest
  | (.asciiClass, rest) =>
    match f.skip rest with
    | '-' :: more =>
      if f.afterDash? more ∈ [some ']', some '-'] then some ('-' :: more) else none
    | rest => some rest
  | _ => none

end Envelope.Text.Pattern
