import Envelope.Text.Letters

/-!
Variables, such as the environment of a process, and what they give for a setting.

The case of names does not count. The name of a variable may go on after that of a setting, with
dots and names or with numbers in brackets. It then gives a part of the value, and no setting has
parts, except that a choice among words can also be made by the name of its only part.
-/

namespace Envelope

/-- Named texts. -/
abbrev Variables := List (String × String)

namespace Variables

/-- A step from a value to one of its parts. -/
inductive PartStep where
  | named (name : List Char)
  /-- To a part of a list; negative numbers count from its end. -/
  | numbered (n : Int)
deriving DecidableEq

def IsNameChar (c : Char) : Prop := c.isAlphanum ∨ c = '_' ∨ c = '-' ∨ c = ' '

instance (c : Char) : Decidable (IsNameChar c) := inferInstanceAs (Decidable (_ ∨ _))

/-- A text without the spaces and tabs at its start. -/
def skipSpace (cs : List Char) : List Char := cs.dropWhile fun c => c = ' ' ∨ c = '\t'

/-- A number of 64 bits, without a plus sign. -/
def number? (cs : List Char) : Option Int := do
  let negative := cs.head? = some '-'
  let n : Int ← Text.digits? (if negative then cs.tail else cs)
  let n := if negative then -n else n
  if -9223372036854775808 ≤ n ∧ n < 9223372036854775808 then some n else none

/-- The step that a text begins with, and what follows it. -/
def partStep? : List Char → Option (PartStep × List Char)
  | '.' :: rest =>
    let name := rest.takeWhile (IsNameChar ·)
    if name = [] then none else some (.named name, rest.dropWhile (IsNameChar ·))
  | '[' :: rest =>
    let isDigit (c : Char) : Bool := c.isDigit ∨ c = '-'
    match skipSpace ((skipSpace rest).dropWhile isDigit) with
    | ']' :: after =>
      (number? ((skipSpace rest).takeWhile isDigit)).map fun n => (.numbered n, after)
    | _ => none
  | _ => none

/-- The steps that a text is made of, if there are at most so many. -/
def partSteps? : Nat → List Char → Option (List PartStep)
  | _, [] => some []
  | 0, _ => none
  | n + 1, cs => do
    let (step, rest) ← partStep? cs
    return step :: (← partSteps? n rest)

/-- A name without regard to case, and the steps that it goes on with, if it has this form. -/
def path? (name : String) : Option (List Char × List PartStep) := do
  let cs := name.toList.map Text.lower
  let root := cs.takeWhile (IsNameChar ·)
  if root = [] then none
  else return (root, ← partSteps? cs.length (cs.dropWhile (IsNameChar ·)))

/-- The greatest length of a list. Its size in bytes is counted in 63 bits, and a part takes 96. -/
def maxListLength : Nat := 9223372036854775807 / 96

/-- The step leads out of every list, or it counts from the end of one that has no parts yet. -/
def PartStep.IsOutside : PartStep → Prop
  | .named _ => False
  | .numbered n => n < 0 ∨ maxListLength ≤ n

instance (step : PartStep) : Decidable step.IsOutside := by
  unfold PartStep.IsOutside
  split <;> infer_instance

/-- Some variable names a part that no list can have. -/
def Overrun (vars : Variables) : Prop :=
  ∃ v ∈ vars, ∃ path ∈ path? v.1, ∃ step ∈ path.2, step.IsOutside

instance (vars : Variables) : Decidable vars.Overrun :=
  decidable_of_iff
    (vars.any (fun v => (path? v.1).any fun path => path.2.any (·.IsOutside)) = true) <| by
    simp [Overrun, List.any_eq_true, Option.any_eq_true]

/-- What a setting is given. -/
inductive Given where
  | nothing
  | text (s : String)
  /-- The first step to each part. -/
  | parts (steps : List PartStep)
deriving DecidableEq

/-- The first step to the part of a setting that a variable gives, if it gives one. -/
def part? (setting : String) (v : String × String) : Option PartStep := do
  let (root, steps) ← path? v.1
  if root = setting.toList then steps.head? else none

/-- What variables give for a setting: parts if there are any, and of several texts the last. -/
def given (vars : Variables) (setting : String) : Given :=
  match vars.filterMap (part? setting) with
  | [] =>
    match vars.reverse.find? fun v => Text.Spells v.1 setting with
    | some v => .text v.2
    | none => .nothing
  | steps => .parts steps

/-- The value of a setting as `read?` understands it; fails on one that it does not. -/
def value? {α : Type} (vars : Variables) (setting : String) (read? : String → Option α)
    (default : α) : Option α :=
  match vars.given setting with
  | .nothing => some default
  | .text s => read? s
  | .parts _ => none

/-- The value of a setting that is chosen by a word, also by the name of its only part. -/
def choice? {α : Type} (vars : Variables) (setting : String) (read? : String → Option α)
    (default : α) : Option α :=
  match vars.given setting with
  | .parts (.named word :: others) =>
    if ∀ step ∈ others, step = .named word then read? (String.ofList word) else none
  | _ => vars.value? setting read? default

end Variables

end Envelope
