import CrashReporter.Call
import CrashReporter.FileTree.Operations
import CrashReporter.Outcome
import CrashReporter.Settings
import CrashReporter.Transport.Frame

/-!
# Transports

The ways that packed events leave the machine: a transport that the host supplies, requests to the
remote API, frames on a serial line, and publications to a message broker. A transport is started with
the device's identity, delivers payloads, and ends once.
-/

namespace CrashReporter

/-- A transport, with what it has been given at its start. -/
inductive Transport where
  /-- The host's own. -/
  | custom
  /-- By requests for an installation. -/
  | https (installation : Option String)
  /-- Over a serial port. -/
  | serial (port : String) (isOpen : Bool)
  /-- In a session with the broker. -/
  | mqtt (session : Mqtt.Session)
  deriving DecidableEq

namespace Transport

/-- The transport of a kind before its start. -/
def ofKind (kind : TransportKind) (port : Option String) : Transport :=
  match kind with
  | .https => .https none
  | .serial => .serial (port.getD "") false
  | .mqtt => .mqtt .unopened

/-- What those around the agent answer when a transport is started. -/
structure Answers where
  custom : Outcome Unit := .ok ()
  port : Except OsError Unit := .ok ()
  broker : Outcome Broker := .ok default
  session : Except Mqtt.Refusal Unit := .ok ()

/-- Starts the session that a broker's address leads to. -/
def openSession (i : Identity) (answers : Answers) (broker : Broker) : List Call × Outcome Transport :=
  let connect := Call.connect broker (.ofIdentity i)
  match answers.session with
  | .ok _ => ([connect], .ok (.mqtt (.opened i.topic)))
  | .error r =>
    (if r = .unreachable then [] else [connect],
      .failed (.sinkUnavailable s!"broker connection failed: {r.message}"))

/-- Starts a transport: what it asks for, and what has become of it. -/
def start (t : Transport) (i : Identity) (answers : Answers) : List Call × Outcome Transport :=
  match t with
  | .custom => ([.startTransport i], answers.custom.map fun _ => .custom)
  | .https _ =>
    ([], if i.isComplete then .ok (.https (some i.installationId))
      else .failed (.sinkUnavailable "device is not registered"))
  | .serial port _ =>
    ([.openPort port], match answers.port with
      | .ok _ => .ok (.serial port true)
      | .error e => .failed (.sinkUnavailable s!"cannot open {port}: {e.text}"))
  | .mqtt _ =>
    match answers.broker with
    | .ok broker =>
      let (calls, outcome) := openSession i answers broker
      (.discoverBroker :: calls, outcome)
    | .failed f =>
      ([.discoverBroker], .failed (.sinkUnavailable s!"broker discovery failed: {f.message}"))
    | .panicked => ([.discoverBroker], .panicked)

/-- What a transport asks for to deliver a payload. -/
def request (t : Transport) (payload : Bytes) : Except Failure Call :=
  match t with
  | .custom => .ok (.deliver payload)
  | .https (some installation) => .ok (.post installation payload)
  | .https none => .error (.sinkUnavailable "HTTPS transport is not started")
  | .serial _ isOpen => do
    let frame ← Serial.frame payload
    if isOpen then return .write frame
    else throw (.sinkUnavailable "serial port is closed")
  | .mqtt session => .publish <$> session.publication payload

/-- Ends a transport: what it asks for, and what is left of it. -/
def stop (t : Transport) : List Call × Transport :=
  match t with
  | .custom => ([.stopTransport], t)
  | .https _ => ([], t)
  | .serial port isOpen => (if isOpen then [.closePort] else [], .serial port false)
  | .mqtt (.opened topic) => ([.disconnect], .mqtt (.ended topic))
  | .mqtt _ => ([], t)

end Transport

end CrashReporter
