import Envelope.Settings.Variables
import Envelope.Text.Uri

/-!
The export of the spans of a trial: where they go, which of them are kept, and how they wait.

Variables decide this, and they are found by their very names. Most of what they may say is taken
with a complaint at most, but a target that is no URI fails, and a queue without room or without a
pause stops the process.
-/

namespace Envelope.Trial.Export

/-- The natural number of 64 bits that a variable gives. Any other text gives nothing. -/
def number? (vars : Variables) (name : String) : Option Nat := do
  let n ← Text.natural? (← vars.lookup name)
  if n < 18446744073709551616 then some n else none

/-! ### The target -/

/-- Where spans go if the settings ask for an export. Variables come before the settings, and an
empty text in the settings stands for the usual place. -/
def target (vars : Variables) (endpoint : String) : String :=
  match vars.lookup "OTEL_EXPORTER_OTLP_TRACES_ENDPOINT" with
  | some target => target
  | none =>
    match vars.lookup "OTEL_EXPORTER_OTLP_ENDPOINT" with
    | some target => target
    | none => if endpoint = "" then "http://localhost:4317" else endpoint

/-- The target is a URI, and no compression is asked for. -/
def HasTarget (vars : Variables) (endpoint : String) : Prop :=
  vars.lookup "OTEL_EXPORTER_OTLP_TRACES_COMPRESSION" = none ∧
    vars.lookup "OTEL_EXPORTER_OTLP_COMPRESSION" = none ∧
    Text.Uri.IsUri (target vars endpoint)

instance (vars : Variables) (endpoint : String) : Decidable (HasTarget vars endpoint) :=
  inferInstanceAs (Decidable (_ ∧ _))

/-! ### The choice of spans -/

/-- Why spans are not chosen as a variable says. -/
inductive SamplerFault where
  /-- There is no number that says how many of them to keep. -/
  | ratio
  | unsupported (name : String)
  | unknown (name : String)
deriving DecidableEq

def SamplerFault.message : SamplerFault → String
  | .ratio =>
    "Missing or invalid OTEL_TRACES_SAMPLER_ARG value. Falling back to default: 1.0"
  | .unsupported name =>
    "Unimplemented " ++ name ++ " sampler. Falling back to default: parentbased_always_on"
  | .unknown name =>
    "Unrecognised OTEL_TRACES_SAMPLER value: " ++ name ++
      ". Falling back to default: parentbased_always_on"

/-- The line that tells of it. -/
def SamplerFault.complaint (fault : SamplerFault) : String :=
  "OpenTelemetry error occurred. " ++ fault.message

/-- What is wrong with the choice of spans, if a variable makes it. -/
def samplerFault? (vars : Variables) : Option SamplerFault := do
  let name ← vars.lookup "OTEL_TRACES_SAMPLER"
  if name ∈ ["always_on", "always_off", "parentbased_always_on", "parentbased_always_off"] then
    none
  else if name ∈ ["traceidratio", "parentbased_traceidratio"] then
    if (vars.lookup "OTEL_TRACES_SAMPLER_ARG").any (Text.IsNumber ·) then none else some .ratio
  else if name ∈ ["jaeger_remote", "parentbased_jaeger_remote", "xray"] then
    some (.unsupported name)
  else some (.unknown name)

/-! ### The queue -/

/-- The most spans that a queue may have room for. -/
def maxRoom : Nat := 2305843009213693951

/-- The queue in which spans wait has room, and a pause between two departures. -/
def HasQueue (vars : Variables) : Prop :=
  (∀ room ∈ number? vars "OTEL_BSP_MAX_QUEUE_SIZE", 0 < room ∧ room ≤ maxRoom) ∧
    number? vars "OTEL_BSP_SCHEDULE_DELAY" ≠ some 0

instance (vars : Variables) : Decidable (HasQueue vars) := inferInstanceAs (Decidable (_ ∧ _))

end Envelope.Trial.Export
