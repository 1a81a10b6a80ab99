import Envelope.Json.Text
import Envelope.Text.Alphanumeric
import Envelope.Text.Blank
import Envelope.Text.Letters
import Envelope.Text.Pattern

/-!
Directives of a log filter: which events one of them is about, and down to which level it shows
them.

The full form is `target[span{field=value}]=level`, and each part may be absent. Blanks around a
directive do not count when its marks are sought, but the parts between them are taken from the
directive with its blanks, at the same places. After a wide blank such a place may be inside a
character; a process that reads such a text stops.
-/

namespace Envelope

/-- Why a directive cannot be used. -/
inductive DirectiveFault where
  | malformed
  | level
  | pattern (fault : Text.Pattern.Fault)
deriving DecidableEq

def DirectiveFault.message : DirectiveFault → String
  | .malformed => "invalid filter directive"
  | .level =>
    "error parsing level filter: expected one of \"off\", \"error\", \"warn\", \"info\", " ++
      "\"debug\", \"trace\", or a number 0-5"
  | .pattern fault => "invalid field filter: " ++ fault.message

/-- A directive is about the events whose target begins with the given one and that have the given
field, and shows them down to a rank; zero shows none. -/
structure LogDirective where
  target : List Char
  /-- The name of a field, or empty for events with any fields. -/
  field : String
  /-- The directive holds only in spans: those of a name, or with a value of the field. -/
  inSpans : Bool
  limit : Nat
deriving DecidableEq

namespace LogDirective

/-- The rank that shows everything. -/
def everything : Nat := 5

/-- About all events, and showing everything. -/
def all : LogDirective := ⟨[], "", false, everything⟩

/-- The rank of a level by its name or number. -/
def limit? (s : String) : Option Nat :=
  match Text.natural? s with
  | some n => if n ≤ everything then some n else none
  | none =>
    if Text.Spells s "off" then some 0
    else if Text.Spells s "error" then some 1
    else if Text.Spells s "warn" then some 2
    else if Text.Spells s "info" then some 3
    else if Text.Spells s "debug" then some 4
    else if Text.Spells s "trace" then some everything
    else none

/-- A target begins with a letter, a number or one of these marks. -/
def IsStart (c : Char) : Prop := Text.IsAlphanumeric c ∨ c = '-' ∨ c = ':' ∨ c = '_'

instance (c : Char) : Decidable (IsStart c) := inferInstanceAs (Decidable (_ ∨ _))

/-! ### Reading -/

/-- A result or a fault, or nothing where the process stops. -/
abbrev Attempt := ExceptT DirectiveFault Option

/-- A directive that is read: its bytes, and its bytes without the blanks at its ends. -/
structure Draft where
  text : Bytes
  body : Bytes

namespace Draft

def ofText (s : String) : Draft :=
  ⟨Json.utf8Bytes s, Json.utf8Bytes (String.ofList (Text.trim s.toList))⟩

/-- The next place of one of the marks, or the end. -/
def find (d : Draft) (marks : Bytes) (place : Nat) : Nat :=
  place + ((d.body.drop place).takeWhile (· ∉ marks)).length

/-- The part of the text between two places, if neither is inside a character. -/
def part (d : Draft) (start stop : Nat) : Option String := do
  let _ ← Json.ofUtf8? (d.text.take start)
  Json.ofUtf8? ((d.text.take stop).drop start)

/-- The part of the text from a place on. -/
def rest (d : Draft) (start : Nat) : Option String := d.part start d.text.length

/-- The level that ends a directive, if something is left for it. -/
def limit (d : Draft) (place : Nat) : Attempt Nat := do
  let level ← d.rest place
  if level = "" then return everything
  else
    match limit? level with
    | some n => return n
    | none => throw .level

/-- Adds the level after an equals sign to a directive, or leaves it when the text is at its end. -/
def finish (d : Draft) (place : Nat) (directive : LogDirective) : Attempt LogDirective := do
  match d.body[place]? with
  | none => return directive
  | some mark =>
    if mark = 61 then return { directive with limit := ← d.limit (place + 1) }
    else throw .malformed

/-- Adds a field to a directive, with a value or not. The value is a number or a pattern. -/
def addField (field : String) (directive : LogDirective) : Attempt LogDirective := do
  let name := String.ofList (field.toList.takeWhile (· ≠ '='))
  match field.toList.dropWhile (· ≠ '=') with
  | [] => if field = "" then throw .malformed else return { directive with field := name }
  | _ :: value =>
    let value := value.takeWhile (· ≠ '=')
    if ¬ Text.IsNumber (String.ofList value) then
      if let some fault := Text.Pattern.fault? value then throw (.pattern fault)
    return { directive with field := name, inSpans := true }

/-- Reads what follows an opening bracket: the name of a span, a field in braces, or both. -/
def ofSpan (d : Draft) (place : Nat) (directive : LogDirective) : Attempt LogDirective := do
  let stop := d.find [93, 123] place
  match d.body[stop]? with
  | none => throw .malformed
  | some mark =>
    let name ← d.part place stop
    if mark = 93 then d.finish (stop + 1) { directive with inSpans := true }
    else
      let close := d.find [125] (stop + 1)
      if d.body[close]? = none then throw .malformed
      let directive ← addField (← d.part (stop + 1) close)
        { directive with inSpans := name ≠ "" }
      if d.body[close + 1]? = some 93 then d.finish (close + 2) directive
      else throw .malformed

/-- Reads what begins with a target, or is a level alone. -/
def ofTarget (d : Draft) : Attempt LogDirective := do
  let stop := d.find [61, 91] 0
  match d.body[stop]? with
  | none =>
    let whole ← d.rest 0
    match limit? whole with
    | some limit => return { all with limit }
    | none => return { all with target := whole.toList }
  | some mark =>
    let directive := { all with target := (← d.part 0 stop).toList }
    if mark = 61 then return { directive with limit := ← d.limit (stop + 1) }
    else d.ofSpan (stop + 1) directive

end Draft

def ofText (s : String) : Attempt LogDirective :=
  match (Text.trim s.toList).head? with
  | none => throw .malformed
  | some c =>
    if c = '[' then (Draft.ofText s).ofSpan 1 all
    else if IsStart c then (Draft.ofText s).ofTarget
    else throw .malformed

/-! ### Use -/

/-- The directive is about the events of a target with these fields. No event is in a span. -/
def Concerns (d : LogDirective) (target : String) (fields : List String) : Prop :=
  ¬ d.inSpans ∧ d.target <+: target.toList ∧ (d.field = "" ∨ d.field ∈ fields)

instance (d : LogDirective) (target : String) (fields : List String) :
    Decidable (d.Concerns target fields) := inferInstanceAs (Decidable (_ ∧ _))

/-- The other directive decides where both could: its target is longer, or as long and its field
comes later; no field at all comes first. -/
def YieldsTo (d other : LogDirective) : Prop :=
  d.target.length < other.target.length ∨
    d.target.length = other.target.length ∧ d.field ≤ other.field

instance (d other : LogDirective) : Decidable (d.YieldsTo other) :=
  inferInstanceAs (Decidable (_ ∨ _))

end LogDirective

end Envelope
