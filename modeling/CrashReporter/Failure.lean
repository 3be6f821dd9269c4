import CrashReporter.Text.Quoted

/-!
# What can go wrong in the agent

Each failure is a cause and, for most, the reason given with it. A reading or writing failure and a
failure to read a document stand for an underlying error, which they report as their source.
-/

namespace CrashReporter

/-- Why an operation of the agent failed. -/
inductive Failure where
  | alreadyInitialized
  | configuration (reason : String)
  | storageUnavailable (reason : String)
  | registrationFailed (reason : String)
  | remoteApi (reason : String)
  | sinkUnavailable (reason : String)
  | schedulerClosed
  | serialization (reason : String)
  | transport (reason : String)
  | io (reason : String)
  | json (reason : String)
  deriving DecidableEq, Inhabited

namespace Failure

/-- The text a failure is shown by. -/
def message : Failure → String
  | .alreadyInitialized => "agent is already initialized; call shutdown() first"
  | .configuration reason => "configuration error: " ++ reason
  | .storageUnavailable reason => "no writable config directory: " ++ reason
  | .registrationFailed reason => "device registration failed: " ++ reason
  | .remoteApi reason => "remote API error: " ++ reason
  | .sinkUnavailable reason => "sink unavailable: " ++ reason
  | .schedulerClosed => "scheduler is closed"
  | .serialization reason => "serialization error: " ++ reason
  | .transport reason => "transport error: " ++ reason
  | .io reason => "I/O error: " ++ reason
  | .json reason => "JSON error: " ++ reason

/-- The name of the cause. -/
def kind : Failure → String
  | .alreadyInitialized => "AlreadyInitialized"
  | .configuration _ => "Configuration"
  | .storageUnavailable _ => "StorageUnavailable"
  | .registrationFailed _ => "RegistrationFailed"
  | .remoteApi _ => "RemoteApi"
  | .sinkUnavailable _ => "SinkUnavailable"
  | .schedulerClosed => "SchedulerClosed"
  | .serialization _ => "Serialization"
  | .transport _ => "Transport"
  | .io _ => "Io"
  | .json _ => "Json"

/-- The reason given with the cause. -/
def reason : Failure → String
  | .alreadyInitialized | .schedulerClosed => ""
  | .configuration r | .storageUnavailable r | .registrationFailed r | .remoteApi r
  | .sinkUnavailable r | .serialization r | .transport r | .io r | .json r => r

/-- The failure of that name, with a reason if it takes one. -/
def ofKind? (kind reason : String) : Option Failure :=
  [.alreadyInitialized, .configuration reason, .storageUnavailable reason, .registrationFailed reason,
    .remoteApi reason, .sinkUnavailable reason, .schedulerClosed, .serialization reason,
    .transport reason, .io reason, .json reason].find? (·.kind == kind)

/-- The text of the underlying error. -/
def source? : Failure → Option String
  | .io reason | .json reason => some reason
  | _ => none

/-- The failure as a value: its name and its parts. -/
def debug : Failure → String
  | .alreadyInitialized => "AlreadyInitialized"
  | .schedulerClosed => "SchedulerClosed"
  | .io reason => s!"Io(Custom \x7b kind: Other, error: {Text.quoted reason} \x7d)"
  | .json reason => s!"Json(Error({Text.quoted reason}, line: 0, column: 0))"
  | f => s!"{f.kind}({Text.quoted f.reason})"

end Failure

end CrashReporter
