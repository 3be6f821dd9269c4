import CrashReporter.Agent
import CrashReporter.Identity.Registration

/-!
# Bringing an agent up

An agent looks for a directory to keep its documents in, asks for the machine's public address, finds
or registers its identity, takes over a policy and starts its transport, in this order. The first of
these that fails ends it, and the transport is told so even if it was never started. Only the address
may stay unknown.
-/

namespace CrashReporter

namespace Startup

/-- What those around the agent answer, if they are asked. -/
structure Answers where
  address : Outcome String
  credentials : Outcome Credentials
  policy : Outcome Policy
  transport : Transport.Answers
  /-- How the transport takes being told that it is over. -/
  stopped : Outcome Unit := .ok ()

/-- A result with the calls made on the way to it. -/
abbrev Asked (α : Type) := List Call × Outcome α

/-- Goes on with the value of what was asked before. -/
def Asked.andThen {α β : Type} (x : Asked α) (next : α → Disk (Asked β)) : Disk (Asked β) := do
  match x with
  | (calls, .ok a) =>
    let (more, o) ← next a
    return (calls ++ more, o)
  | (calls, .failed f) => return (calls, .failed f)
  | (calls, .panicked) => return (calls, .panicked)

/-- The machine's public address; a text without characters if it stays unknown. -/
def lookUp (answers : Answers) : Asked String :=
  ([.lookUpAddress], match answers.address with
    | .ok address => .ok address
    | .failed _ => .ok ""
    | .panicked => .panicked)

/-- The identity: the stored one, or that of a registration. -/
def identify (v : Vault) (appId : String) (nonce : Gcm.Nonce) (answers : Answers) :
    Disk (Asked Identity) := do
  match ← Registration.kept v with
  | some i => return ([], .ok i)
  | none =>
    let conclude (answer : Except Failure Credentials) : Disk (Asked Identity) := do
      return ([.register appId], .ofExcept (← Registration.conclude v nonce answer))
    match answers.credentials with
    | .ok c => conclude (.ok c)
    | .failed f => conclude (.error f)
    | .panicked => return ([.register appId], .panicked)

/-- The monitor under the policy that is fetched, or under the copy. -/
def govern (m : Usage.Monitor) (answers : Answers) : Disk (Asked Usage.Monitor) := do
  let begin (answer : Except Failure Policy) : Disk (Asked Usage.Monitor) := do
    return ([.fetchPolicy], .ofExcept (← m.begin answer))
  match answers.policy with
  | .ok p => begin (.ok p)
  | .failed f => begin (.error f)
  | .panicked => return ([.fetchPolicy], .panicked)

/-- Starts all parts of an agent that has a store. -/
def start (settings : Settings) (sink : Sink) (monitor : Usage.Monitor) (nonce : Gcm.Nonce)
    (answers : Answers) : Disk (Asked Agent) :=
  (lookUp answers).andThen fun address => do
    let vault := Vault.ofApp monitor.store settings.appId
    (← identify vault settings.appId nonce answers).andThen fun i => do
      (← govern monitor answers).andThen fun monitor => do
        let (calls, o) := sink.start i address answers.transport
        return (calls, o.map fun sink => { settings, monitor, sink : Agent })

/-- The end of an agent that did not start: its transport is told. -/
def giveUp (sink : Sink) (answers : Answers) (f : Failure) : Asked Agent :=
  let (calls, _) := sink.close
  (calls, match calls, answers.stopped with
    | _ :: _, .panicked => .panicked
    | _, _ => .failed f)

/-- The transport of an agent: the host's, or the one that the settings name. -/
def transportOf (settings : Settings) (custom : Bool) : Except Failure Transport :=
  if custom then .ok .custom
  else do return .ofKind (← settings.transport) settings.serialPort

/-- Brings an agent up in the first of the candidate directories that can be used, unless another
agent is `alive`. -/
def run (settings : Settings) (candidates : List String) (custom alive : Bool) (nonce : Gcm.Nonce)
    (answers : Answers) : Disk (Asked Agent) := do
  match ← Store.openFirst candidates with
  | none => return ([], .failed (Store.noneUsable candidates))
  | some store =>
    if alive then return ([], .failed .alreadyInitialized)
    match transportOf settings custom with
    | .error f => return ([], .failed f)
    | .ok transport =>
      let sink : Sink := { transport }
      match ← start settings sink (← Usage.Monitor.ofStore store) nonce answers with
      | (calls, .failed f) =>
        let (more, o) := giveUp sink answers f
        return (calls ++ more, o)
      | result => return result

end Startup

end CrashReporter
