import Envelope.LogFilter.Directive
import Envelope.Trace

/-!
Which events of a log are shown: a list of directives.

A target is the name of the part that logs. Of the directives that are about an event the one with
the longest target decides, then the one about a field, and of several alike the last.
-/

namespace Envelope

/-- The target under which a part of the library logs. -/
def Component.target : Component → String
  | .engine => "appencryption::envelope"
  | .session => "appencryption::session"
  | .store => "appencryption::metastore::memory"
  | .regions => "appencryption::kms::aws"

/-- The place of a level, the gravest first. -/
def Level.rank : Level → Nat
  | .error => 1
  | .warn => 2
  | .info => 3
  | .debug => 4

abbrev LogFilter := List LogDirective

namespace LogFilter

/-- A filter that shows only errors if it would otherwise have no directives. -/
def orErrors (f : LogFilter) : LogFilter :=
  if f.isEmpty then [{ LogDirective.all with limit := Level.rank .error }] else f

/-- The directives of a text, divided by commas. -/
def pieces (s : String) : List String :=
  ((s.toList.splitOn ',').filter (· ≠ [])).map String.ofList

/-- The filter of a text; one bad directive spoils it. -/
def ofText (s : String) : LogDirective.Attempt LogFilter := (pieces s).mapM LogDirective.ofText

/-- The directives that a process cannot read, and the filter of the others, if none stops it. -/
structure Lenient where
  refused : List (String × DirectiveFault)
  filter? : Option LogFilter
deriving DecidableEq

namespace Lenient

/-- Reads one directive after the other. -/
def ofPieces : List String → Lenient
  | [] => ⟨[], some []⟩
  | piece :: rest =>
    match (LogDirective.ofText piece).run with
    | none => ⟨[], none⟩
    | some read =>
      let more := ofPieces rest
      match read with
      | .ok directive => { more with filter? := more.filter?.map (directive :: ·) }
      | .error fault => { more with refused := (piece, fault) :: more.refused }

/-- A filter that is left without directives shows only errors. -/
def ofText (s : String) : Lenient :=
  let read := ofPieces (pieces s)
  { read with filter? := read.filter?.map orErrors }

end Lenient

/-- The rank down to which events of a target with these fields are shown. -/
def limit (f : LogFilter) (target : String) (fields : List String) : Nat :=
  let decisive (best d : LogDirective) : LogDirective := if best.YieldsTo d then d else best
  ((f.filter (·.Concerns target fields)).foldl decisive { LogDirective.all with limit := 0 }).limit

/-- An event of this target and level with these fields is shown. -/
def Shows (f : LogFilter) (target : String) (fields : List String) (level : Level) : Prop :=
  level.rank ≤ f.limit target fields

instance (f : LogFilter) (target : String) (fields : List String) (level : Level) :
    Decidable (f.Shows target fields level) := inferInstanceAs (Decidable (_ ≤ _))

end LogFilter

end Envelope
