import Envelope.Text.Alphanumeric
import Envelope.Text.Pattern.CharSet

/-!
Which texts are regular expressions.

The patterns here stand between braces, so they hold no closing brace, and nothing that needs one
can be complete. They match whole characters, so among bytes there is no dot and no negated set.

A pattern is read from left to right with the groups and sets that are open. Of what is read only
the depth is kept, and that something may be repeated.
-/

namespace Envelope.Text.Pattern

/-- Why a text cannot be used as a pattern. -/
inductive Fault where
  | malformed
  /-- It is well formed and asks for the edge of a word. -/
  | wordEdge
deriving DecidableEq

def Fault.message : Fault → String
  | .malformed => "error building NFA"
  | .wordEdge =>
    "unsupported regex feature for DFAs: cannot build DFAs for regexes with Unicode word " ++
      "boundaries; switch to ASCII word boundaries, or heuristically enable Unicode word " ++
      "boundaries or use a different regex engine"

/-- The greatest depth of a pattern. -/
def maxDepth : Nat := 250

/-! ### Groups -/

/-- A part of a pattern; a list of flags is one that cannot be repeated. -/
structure Part where
  depth : Nat
  repeatable : Bool
deriving DecidableEq

/-- A group that is not closed, or the whole pattern. -/
structure Group where
  flags : Flags
  /-- The depths of the branches before the last. -/
  branches : List Nat
  /-- The parts of the last branch. -/
  parts : List Part
deriving DecidableEq

namespace Group

def start : Group := ⟨.start, [], []⟩

def add (g : Group) (depth : Nat) : Group := { g with parts := ⟨depth, true⟩ :: g.parts }

def branchDepth (g : Group) : Nat := together (g.parts.map (·.depth))

def depth (g : Group) : Nat := together (g.branchDepth :: g.branches)

def nextBranch (g : Group) : Group :=
  { g with branches := g.branchDepth :: g.branches, parts := [] }

/-- Sets flags for what is left of the group. -/
def setFlags (g : Group) (marks : List Char) : Group :=
  { g with flags := g.flags.change marks, parts := ⟨0, false⟩ :: g.parts }

/-- Repeats the last part. -/
def repeatLast (g : Group) : Option Group :=
  match g.parts with
  | [] => none
  | p :: parts =>
    if p.repeatable then some { g with parts := ⟨p.depth + 1, true⟩ :: parts } else none

end Group

/-! ### Reading -/

structure Reading where
  /-- The innermost group. -/
  group : Group
  /-- The groups around it. -/
  outer : List Group
  /-- The sets that are open, the innermost first. -/
  sets : List OpenSet
  /-- The names of groups so far. -/
  names : List (List Char)
  wordEdge : Bool
deriving DecidableEq

namespace Reading

def start : Reading := ⟨.start, [], [], [], false⟩

def add (r : Reading) (depth : Nat) : Reading := { r with group := r.group.add depth }

/-- Opens a group that begins with the given change of flags. -/
def openGroup (r : Reading) (marks : List Char) : Reading :=
  { r with group := ⟨r.group.flags.change marks, [], []⟩, outer := r.group :: r.outer }

def closeGroup (r : Reading) : Option Reading :=
  match r.outer with
  | [] => none
  | g :: outer => some { r with group := g.add (r.group.depth + 1), outer }

/-- The name of a group begins with a letter or an underscore. -/
def IsName (cs : List Char) : Prop :=
  cs.head?.any (fun c => IsAlphabetic c ∨ c = '_') ∧
    cs.all fun c => IsAlphanumeric c ∨ c ∈ ['_', '.', '[', ']']

instance (cs : List Char) : Decidable (IsName cs) := inferInstanceAs (Decidable (_ ∧ _))

/-- Opens a group with a name that no other group has. -/
def openNamed (r : Reading) (cs : List Char) : Option (Reading × List Char) :=
  let name := cs.takeWhile (· ≠ '>')
  match cs.dropWhile (· ≠ '>') with
  | [] => none
  | _ :: rest =>
    if IsName name ∧ name ∉ r.names then
      some ({ r.openGroup [] with names := name :: r.names }, rest)
    else none

/-- Changes flags, for the rest of the group or for a group of their own. -/
def changeFlags (r : Reading) (cs : List Char) : Option (Reading × List Char) :=
  let marks := cs.takeWhile fun c => c ≠ ':' ∧ c ≠ ')'
  if marks.all (· ∈ "imsUuxR-".toList) ∧ marks.Nodup ∧ marks.getLast? ≠ some '-' then
    match cs.dropWhile fun c => c ≠ ':' ∧ c ≠ ')' with
    | ':' :: rest => some (r.openGroup marks, rest)
    | ')' :: rest =>
      if marks = [] then none else some ({ r with group := r.group.setFlags marks }, rest)
    | _ => none
  else none

def beginGroup (r : Reading) : List Char → Option (Reading × List Char)
  | '?' :: 'P' :: '<' :: rest | '?' :: '<' :: rest => r.openNamed rest
  | '?' :: rest => r.changeFlags rest
  | rest => some (r.openGroup [], rest)

/-- Opens a set, which a caret negates. -/
def openSet (r : Reading) (cs : List Char) : Option (Reading × List Char) :=
  let opened := { r with sets := OpenSet.empty :: r.sets }
  match r.group.flags.skip cs with
  | '^' :: rest => if r.group.flags.bytes then none else some (opened, rest)
  | rest => some (opened, rest)

/-- Closes a set, which is a member of the one around it or a part of the pattern. -/
def closeSet (r : Reading) (s : OpenSet) : List OpenSet → Reading
  | [] => { r with sets := [] }.add (s.depth + 1)
  | outer :: sets => { r with sets := outer.add (s.depth + 1) :: sets }

/-- The part of a pattern that begins with a character outside sets. -/
def outside (r : Reading) (c : Char) (rest : List Char) : Option (Reading × List Char) :=
  let flags := r.group.flags
  if c = '(' then r.beginGroup (flags.skip rest)
  else if c = ')' then r.closeGroup.map fun r => (r, rest)
  else if c = '|' then some ({ r with group := r.group.nextBranch }, rest)
  else if c = '[' then r.openSet rest
  else if c ∈ ['*', '+', '?'] then
    r.group.repeatLast.map fun group =>
      ({ r with group }, if rest.head? = some '?' then rest.tail else rest)
  else if c = '\x7b' then none
  else if c = '.' then if flags.bytes then none else some (r.add 0, rest)
  else if c = '^' ∨ c = '$' then some (r.add 0, rest)
  else if c = '\\' then
    match Escape.read? flags rest with
    | none => none
    | some (.literal l, rest) => if l.IsAllowed flags then some (r.add 0, rest) else none
    | some (.wordEdge, rest) => some ({ r with wordEdge := true }.add 0, rest)
    | some (_, rest) => some (r.add 0, rest)
  else if Literal.IsAllowed ⟨c, false⟩ flags then some (r.add 0, rest)
  else none

/-- The part of a set that begins with a character. Two sets are joined by a doubled sign. -/
def inside (r : Reading) (s : OpenSet) (sets : List OpenSet) (c : Char) (rest : List Char) :
    Option (Reading × List Char) :=
  let flags := r.group.flags
  let put (s : OpenSet) : Reading := { r with sets := s :: sets }
  if s.fresh ∧ (c = '-' ∨ c = ']' ∧ s.members = []) then
    if Literal.IsMember ⟨c, false⟩ flags then some (put { s.add 0 with fresh := c = '-' }, rest)
    else none
  else if c = '[' then
    match namedClass? rest with
    | some (negated, rest) =>
      if AllowsClass flags negated then some (put (s.add 0), rest) else none
    | none => (put { s with fresh := false }).openSet rest
  else if c = ']' then some (r.closeSet s sets, rest)
  else if c ∈ ['&', '-', '~'] ∧ rest.head? = some c then some (put s.join, rest.tail)
  else (afterMember? flags (c :: rest)).map fun rest => (put (s.add 0), rest)

def step (r : Reading) (c : Char) (rest : List Char) : Option (Reading × List Char) :=
  match r.sets with
  | [] => r.outside c rest
  | s :: sets => r.inside s sets c rest

/-- Everything is closed, and nothing too deep. -/
def IsComplete (r : Reading) : Prop := r.outer = [] ∧ r.sets = [] ∧ r.group.depth ≤ maxDepth

instance (r : Reading) : Decidable r.IsComplete := inferInstanceAs (Decidable (_ ∧ _))

/-- The end of a reading, after so many steps at most. -/
def run (n : Nat) (r : Reading) (cs : List Char) : Option Reading :=
  match n, r.group.flags.skip cs with
  | _, [] => if r.IsComplete then some r else none
  | 0, _ => none
  | n + 1, c :: rest => do
    let (r, rest) ← r.step c rest
    run n r rest

end Reading

/-- What is wrong with a text as a pattern. -/
def fault? (cs : List Char) : Option Fault :=
  match Reading.run cs.length .start cs with
  | none => some .malformed
  | some r => if r.wordEdge then some .wordEdge else none

end Envelope.Text.Pattern
