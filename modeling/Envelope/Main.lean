import Envelope.Trial.Execution
import Envelope.Trial.Line
import Std.Time.DateTime.Timestamp

/-!
The command: a trial with the environment of the process as its settings, the clocks of the machine
and random bytes of the operating system. Regions are not reached from here.
-/

namespace Envelope.Command

/-- The variables that a trial reads. -/
def names : List String :=
  ["SERVICE_ID", "PRODUCT_ID", "PARTITION_ID", "PAYLOAD", "ITERATIONS", "KMS_TYPE",
    "STATIC_MASTER_KEY", "REGION_KEY_ARNS", "PREFERRED_REGION", "KEY_EXPIRATION_DAYS",
    "REVOKE_CHECK_MINUTES", "CAN_CACHE_SYSTEM_KEYS", "CAN_CACHE_INTERMEDIATE_KEYS",
    "CAN_CACHE_SESSIONS", "KEY_ROTATION_STRATEGY", "LOG_LEVEL", "OTEL_EXPORTER_OTLP_ENDPOINT",
    "OTEL_EXPORTER_OTLP_TRACES_ENDPOINT", "OTEL_EXPORTER_OTLP_COMPRESSION",
    "OTEL_EXPORTER_OTLP_TRACES_COMPRESSION", "OTEL_TRACES_SAMPLER", "OTEL_TRACES_SAMPLER_ARG",
    "OTEL_BSP_MAX_QUEUE_SIZE", "OTEL_BSP_SCHEDULE_DELAY", "RUST_LOG", "TOKIO_WORKER_THREADS"]

/-- The variables of the process. The system finds a variable by its exact name, so each is asked
for in capitals and then in small letters. -/
def environment : IO Variables :=
  (names.flatMap fun name => [name, name.toLower]).filterMapM fun name => do
    return (← IO.getEnv name).map (name, ·)

/-- The clocks of the machine. A wall time outside the calendar is taken for its start. -/
def clock : IO Clock := do
  let now ← Std.Time.Timestamp.now
  let elapsed ← IO.monoNanosNow
  return ⟨(Time.ofNanos? now.toNanosecondsSinceUnixEpoch.val).getD .first, elapsed⟩

/-- More random bytes than one operation draws. -/
def random : IO Random := do
  let bytes ← IO.getRandomBytes 4096
  return ⟨0, bytes.data.toList⟩

/-- Prints what the log holds and empties it. -/
def flush (launch : Trial.Launch) (e : Trial.Execution) (now : Time) : IO Trial.Execution := do
  for entry in launch.shown e.trial.log do
    IO.println (entry.line now)
  return { e with trial := { e.trial with log := [] } }

partial def loop (launch : Trial.Launch) (e : Trial.Execution) : IO UInt32 := do
  let clock ← clock
  let e ← flush launch e clock.wall
  match e.exitCode? with
  | some code =>
    e.complaints.forM IO.eprintln
    return UInt32.ofNat code
  | none => loop launch (({ e with trial := e.trial.setRandom (← random) }).step clock)

end Envelope.Command

open Envelope in
def main : IO UInt32 := do
  match Trial.Launch.ofVariables (← Command.environment) with
  | .error refusal =>
    refusal.complaints.forM IO.eprintln
    return UInt32.ofNat refusal.exitCode
  | .ok launch =>
    launch.complaints.forM IO.eprintln
    let clock ← Command.clock
    Command.loop launch
      (.start launch.settings (fun _ => .unreachable) clock (← Command.random))
