import CrashReporter.Failure
import CrashReporter.Identity

/-!
# Publishing to a message broker

A device opens a session with the broker under its installation's name, and publishes its events under
its topic. The broker may refuse the session, and a topic with a wild card is refused before anything
is sent.
-/

namespace CrashReporter.Mqtt

/-- The protocol's name. -/
def protocolName : String := "MQTT"

/-- The protocol's version. -/
def protocolLevel : Nat := 4

/-- What a session is opened with. -/
structure Connect where
  clientId : String
  userName : String
  password : String
  /-- Seconds after which the broker may take a silent client for gone. -/
  keepAlive : Nat := 60
  /-- Whether the broker forgets what was before. -/
  cleanSession : Bool := true
  deriving DecidableEq

/-- What a device opens its session with. -/
def Connect.ofIdentity (i : Identity) : Connect where
  clientId := i.installationId
  userName := i.clientId
  password := i.clientSecret

/-- A published payload. -/
structure Publication where
  topic : String
  payload : Bytes
  /-- Two: the broker hands it on exactly once. -/
  quality : Nat := 2
  /-- Whether the broker keeps it for later subscribers. -/
  retain : Bool := false
  /-- Whether it was published before. -/
  duplicate : Bool := false
  deriving DecidableEq

/-- Why no session is opened. -/
inductive Refusal where
  /-- Nothing listens there. -/
  | unreachable
  /-- The connection was closed without an answer. -/
  | closed
  /-- The broker's answer is a code other than zero. -/
  | code (n : Nat)
  deriving DecidableEq

/-- The names of the codes from one on. -/
def codeNames : List String :=
  ["RefusedProtocolVersion", "BadClientId", "ServiceUnavailable", "BadUserNamePassword", "NotAuthorized"]

/-- The wording of a refusal. -/
def Refusal.message : Refusal → String
  | .unreachable => "I/O: Connection refused (os error 111)"
  | .closed => "I/O: connection closed by peer"
  | .code n =>
    match codeNames[n - 1]? with
    | some name => s!"Connection refused, return code: `{name}`"
    | none => s!"I/O: Invalid Connect return code: {n}"

/-- A session as far as it has come; the topic is kept when it ends. -/
inductive Session where
  | unopened
  | opened (topic : String)
  | ended (topic : String)
  deriving DecidableEq

/-- Whether a topic names no others through a wild card. -/
def isPlainTopic (topic : String) : Bool := topic.toList.all fun c => c ≠ '+' ∧ c ≠ '#'

/-- The failure of a publication that is not sent. -/
def unsent : Failure := .transport "publish failed: Failed to send mqtt requests to eventloop"

/-- What is published for a payload. -/
def Session.publication (s : Session) (payload : Bytes) : Except Failure Publication :=
  match s with
  | .unopened => .error (.sinkUnavailable "MQTT transport is not started")
  | .opened topic => if isPlainTopic topic then .ok { topic, payload } else .error unsent
  | .ended _ => .error unsent

end CrashReporter.Mqtt
