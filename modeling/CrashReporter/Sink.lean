import CrashReporter.Payload
import CrashReporter.Transport

/-!
# The sink

Where events leave the agent. A sink sends nothing before it is started, and takes nothing any more
once it is closed; what reaches a closed sink is dropped without a word.
-/

namespace CrashReporter

/-- A transport, and what its events are sent with once it is started. -/
structure Sink where
  transport : Transport
  origin : Option Origin := none
  closed : Bool := false

namespace Sink

/-- What is said of a sink that is not started. -/
def notStarted : Failure := .sinkUnavailable "sink has not been started"

/-- The failure of a start: one of its own kind as it is, any other in words. -/
def startFailure : Failure → Failure
  | .sinkUnavailable reason => .sinkUnavailable reason
  | other => .sinkUnavailable other.message

/-- Starts the transport. -/
def start (s : Sink) (i : Identity) (publicIp : String) (answers : Transport.Answers) :
    List Call × Outcome Sink :=
  let (calls, outcome) := s.transport.start i answers
  (calls, (outcome.mapFailure startFailure).map fun transport =>
    { s with transport, origin := some ⟨i.installationId, publicIp⟩ })

/-- The packed event. -/
def pack (s : Sink) (e : Event) (id : String) (readings : Readings) : Except Failure Bytes :=
  match s.origin with
  | some origin => .ok (e.payload id origin readings)
  | none => .error notStarted

/-- Whether a payload is let through; a closed sink drops it. -/
def admits (s : Sink) : Except Failure Bool :=
  if s.closed then .ok false
  else if s.origin.isNone then .error notStarted
  else .ok true

/-- Closes the sink. Only the first time is the transport ended. -/
def close (s : Sink) : List Call × Sink :=
  if s.closed then ([], s)
  else
    let (calls, transport) := s.transport.stop
    (calls, { s with transport, closed := true })

end Sink

end CrashReporter
