import CrashReporter.Duration
import CrashReporter.Failure
import CrashReporter.Settings.Environment

/-!
# Settings

The host sets options; what it does not set is taken from the environment, and from a default where
there is one. `Options.resolve` makes the settings an agent runs with, or says what is missing.
-/

namespace CrashReporter

/-- How events are delivered: through a message broker, by requests to the remote API, or over a
serial port. -/
inductive TransportKind where
  | mqtt
  | https
  | serial
  deriving DecidableEq, Inhabited

namespace TransportKind

/-- The name it is chosen by. -/
def name : TransportKind → String
  | .mqtt => "mqtt"
  | .https => "https"
  | .serial => "serial"

/-- The name it is shown by. -/
def label : TransportKind → String
  | .mqtt => "Mqtt"
  | .https => "Https"
  | .serial => "Serial"

/-- The kind of a name, in any case. -/
def ofName? (s : String) : Option TransportKind :=
  match Environment.lower s with
  | "mqtt" => some .mqtt
  | "https" | "http" => some .https
  | "serial" => some .serial
  | _ => none

end TransportKind

/-- The options that the host has set. -/
structure Options where
  appId : Option String := none
  apiKey : Option String := none
  baseUrl : Option String := none
  configDir : Option String := none
  autoShutdown : Option Bool := none
  panicHook : Option Bool := none
  workerThreads : Option Nat := none
  serialPort : Option String := none
  transportKind : Option TransportKind := none
  shutdownGrace : Option Duration := none

/-- What an agent runs with. -/
structure Settings where
  appId : String
  apiKey : String
  baseUrl : String
  configDir : Option String
  autoShutdown : Bool
  panicHook : Bool
  workerThreads : Nat
  serialPort : Option String
  transportKind : TransportKind
  shutdownGrace : Duration
  deriving DecidableEq

/-- The remote API's address unless another is set. -/
def defaultBaseUrl : String := "https://api.faultline.io"

/-- The number of workers unless another is set. -/
def defaultWorkerThreads : Nat := 3

/-- The grace of a shutdown unless another is set. -/
def defaultShutdownGrace : Duration := .ofSeconds 3

/-- The variables of the environment that stand for options. -/
inductive Variable where
  | appId
  | apiKey
  | baseUrl
  | configDir
  | autoShutdown
  | panicHook
  | workerThreads
  | serialPort
  | transport
  | shutdownGrace
  deriving DecidableEq

/-- The name of a variable. -/
def Variable.name : Variable → String
  | .appId => "FAULTLINE_APP_ID"
  | .apiKey => "FAULTLINE_API_KEY"
  | .baseUrl => "FAULTLINE_BASE_URL"
  | .configDir => "FAULTLINE_CONFIG_DIR"
  | .autoShutdown => "FAULTLINE_AUTO_SHUTDOWN"
  | .panicHook => "FAULTLINE_PANIC_HOOK"
  | .workerThreads => "FAULTLINE_THREADS"
  | .serialPort => "FAULTLINE_SERIAL_PORT"
  | .transport => "FAULTLINE_TRANSPORT"
  | .shutdownGrace => "FAULTLINE_SHUTDOWN_GRACE_SECS"

/-- The variables in the order of the options. -/
def Variable.all : List Variable :=
  [.appId, .apiKey, .baseUrl, .configDir, .autoShutdown, .panicHook, .workerThreads, .serialPort,
    .transport, .shutdownGrace]

/-- A text without the slashes at its end. -/
def trimSlashes (s : String) : String :=
  String.ofList (s.toList.reverse.dropWhile (· == '/')).reverse

/-- The greatest number of 64 bits. -/
def maxNumber : Nat := UInt64.size - 1

namespace Options

/-- An option of which something is left without blanks, else the variable that stands for it. -/
def textOr (env : Environment) (v : Variable) (option : Option String) : Option String :=
  (option.bind Text.nonBlank?).or (env.string? v.name)

/-- A text that has to be there. -/
def required (what : String) : Option String → Except Failure String
  | some s => .ok s
  | none => .error (.configuration (what ++ " is missing or empty"))

/-- The address of the remote API, without slashes at its end. -/
def resolveBaseUrl (o : Options) (env : Environment) : String :=
  match (o.baseUrl.or (env.string? Variable.baseUrl.name)).map trimSlashes with
  | some url => if url.isEmpty then defaultBaseUrl else url
  | none => defaultBaseUrl

/-- The kind of transport: serial if a port is set, else as chosen. -/
def resolveTransport (o : Options) (env : Environment) (port : Option String) :
    Except Failure TransportKind :=
  if port.isSome then .ok .serial
  else match o.transportKind with
    | some kind => .ok kind
    | none =>
      match env.string? Variable.transport.name with
      | none => .ok .mqtt
      | some s =>
        match TransportKind.ofName? s with
        | some kind => .ok kind
        | none => .error (.configuration s!"unknown transport '{s}'")

/-- The number of workers, at least one. -/
def resolveWorkers (o : Options) (env : Environment) : Nat :=
  match o.workerThreads.or (env.natural? maxNumber Variable.workerThreads.name) with
  | some n => if 1 ≤ n then n else defaultWorkerThreads
  | none => defaultWorkerThreads

/-- The grace of a shutdown. -/
def resolveGrace (o : Options) (env : Environment) : Duration :=
  (o.shutdownGrace.or
    ((env.natural? maxNumber Variable.shutdownGrace.name).map fun n => .ofSeconds (UInt64.ofNat n))).getD
    defaultShutdownGrace

/-- The settings that the options and the environment make. A host that brings a transport of its
own need not name a serial port. -/
def resolve (o : Options) (env : Environment) (customTransport : Bool) : Except Failure Settings := do
  let appId ← required "app ID" (textOr env .appId o.appId)
  let apiKey ← required "API key" (textOr env .apiKey o.apiKey)
  let serialPort := textOr env .serialPort o.serialPort
  let transportKind ← o.resolveTransport env serialPort
  if transportKind = .serial ∧ serialPort = none ∧ customTransport = false then
    throw (.configuration "serial transport selected without a serial port")
  return {
    appId, apiKey, serialPort, transportKind
    baseUrl := o.resolveBaseUrl env
    configDir := o.configDir.or (env.string? Variable.configDir.name)
    autoShutdown := (o.autoShutdown.or (env.flag? Variable.autoShutdown.name)).getD true
    panicHook := (o.panicHook.or (env.flag? Variable.panicHook.name)).getD true
    workerThreads := o.resolveWorkers env
    shutdownGrace := o.resolveGrace env }

end Options

namespace Settings

/-- An optional text, quoted. -/
def describeText : Option String → String
  | some s => s!"Some({Text.quoted s})"
  | none => "None"

/-- The settings as a text that does not give the key away. -/
def describe (s : Settings) : String :=
  let fields : List (String × String) := [
    ("app_id", Text.quoted s.appId),
    ("api_key", Text.quoted "***"),
    ("base_url", Text.quoted s.baseUrl),
    ("config_dir", describeText s.configDir),
    ("auto_shutdown", toString s.autoShutdown),
    ("panic_hook", toString s.panicHook),
    ("worker_threads", String.ofList (Nat.toDigits 10 s.workerThreads)),
    ("serial_port", describeText s.serialPort),
    ("transport_kind", s.transportKind.label),
    ("shutdown_grace", s.shutdownGrace.describe)]
  "Settings \x7b " ++ ", ".intercalate (fields.map fun (name, value) => name ++ ": " ++ value) ++ " \x7d"

/-- The transport that serves the settings. -/
def transport (s : Settings) : Except Failure TransportKind :=
  match s.transportKind, s.serialPort with
  | .serial, none => .error (.configuration "serial transport selected without a serial port")
  | kind, _ => .ok kind

end Settings

end CrashReporter
