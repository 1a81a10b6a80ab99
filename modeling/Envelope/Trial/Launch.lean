import Envelope.Trial.Entry
import Envelope.Trial.Export

/-!
From the variables of a process to a trial that may start, or to the reason why it may not.

Whatever the process tells on its error stream meanwhile is kept with either of them.
-/

namespace Envelope.Trial

/-- The line that tells of a directive that could not be read. -/
def complaint (refused : String × DirectiveFault) : String :=
  "ignoring `" ++ refused.1 ++ "`: " ++ refused.2.message

/-- The exit code of a process that has to stop where it stands. -/
def stopCode : Nat := 101

/-- Why a process does not get as far as a trial, and what it told before. -/
inductive Refusal where
  | settings (fault : SettingsFault)
  /-- The spans of the trial have nowhere to go. -/
  | noExport (told : List String)
  /-- The process stops while it reads its variables. -/
  | stopped (told : List String)
deriving DecidableEq

namespace Refusal

def ofFault : SettingsFault → Refusal
  | .overrun => .stopped []
  | fault => .settings fault

/-- The lines on the error stream. -/
def complaints : Refusal → List String
  | .settings fault =>
    ["ERROR: reference-app configuration invalid: " ++ fault.message, "Error: " ++ fault.message]
  | .noExport told => told ++ ["Error: failed to install OTLP tracing pipeline"]
  | .stopped told => told

def exitCode : Refusal → Nat
  | .stopped _ => stopCode
  | _ => 1

end Refusal

/-- A trial that may start: its settings, the filter of its log, and the lines on the error stream
so far. -/
structure Launch where
  settings : Settings
  filter : LogFilter
  complaints : List String
deriving DecidableEq

namespace Launch

/-- The most threads of a process. A list of them takes 8 bytes for each, and its size in bytes is
counted in 63 bits. -/
def maxThreads : Nat := 9223372036854775807 / 8

/-- The process can have as many threads as a variable asks for. -/
def HasThreads (vars : Variables) : Prop :=
  ∀ s ∈ vars.lookup "TOKIO_WORKER_THREADS", ∃ n ∈ Text.natural? s, 0 < n ∧ n ≤ maxThreads

instance (vars : Variables) : Decidable (HasThreads vars) :=
  inferInstanceAs (Decidable (∀ s ∈ _, _))

/-- Sets up an export, and gives the complaints about it. -/
def setUpExport (vars : Variables) (endpoint : String) : Except Refusal (List String) :=
  let told := (Export.samplerFault? vars).toList.map (·.complaint)
  if ¬ Export.HasTarget vars endpoint then .error (.noExport told)
  else if ¬ Export.HasQueue vars then .error (.stopped told)
  else .ok told

/-- The filter that its own variable gives, if it can be read; else the one that the log level
gives. The name of that variable is compared letter by letter. -/
def filterOf (vars : Variables) (logLevel : String) : LogFilter.Lenient :=
  match (vars.lookup "RUST_LOG").map fun s => (LogFilter.ofText s).run with
  | some none => ⟨[], none⟩
  | some (some (.ok filter)) => ⟨[], some filter⟩
  | _ => .ofText logLevel

def ofVariables (vars : Variables) : Except Refusal Launch := do
  if ¬ HasThreads vars then throw (.stopped [])
  let settings ← (Settings.ofVariables vars).mapError .ofFault
  let told ← match settings.exportEndpoint with
    | some endpoint => setUpExport vars endpoint
    | none => pure []
  match filterOf vars settings.logLevel with
  | ⟨refused, none⟩ => throw (.stopped (told ++ refused.map complaint))
  | ⟨refused, some filter⟩ => return ⟨settings, filter, told ++ refused.map complaint⟩

/-- The entries that the filter shows. -/
def shown (l : Launch) (log : List Entry) : List Entry :=
  log.filter fun e => l.filter.Shows e.target e.fields e.level

end Launch

end Envelope.Trial
