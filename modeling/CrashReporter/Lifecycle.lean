import CrashReporter.Agent.Hooks
import CrashReporter.Agent.Startup

/-!
# The agent's lifecycle

A process has at most one agent. It is brought up in the background, runs, and is shut down; these
phases change under one lock. A thread that sends an event takes hold of the agent without the lock,
so it may still hold an agent that is shut down meanwhile, and as long as it does no other can be made.
-/

namespace CrashReporter

/-- What becomes of the agent. -/
inductive Phase where
  | uninitialized
  | starting
  | running
  | shuttingDown
  deriving DecidableEq, Inhabited

/-- The name of a phase. -/
def Phase.name : Phase → String
  | .uninitialized => "Uninitialized"
  | .starting => "Starting"
  | .running => "Running"
  | .shuttingDown => "ShuttingDown"

/-- A panic: the name of its thread and its text, if it has them, where it was, and what an event of it is
sent with. -/
structure Panic where
  thread : Option String
  text : Option String
  location : Option (String × UInt32)
  now : Int
  stack : List Frame
  id : String
  readings : Readings

/-- Where a process stands with its agent. -/
structure Lifecycle where
  phase : Phase := .uninitialized
  /-- The agent that there is. -/
  agent : Option Agent := none
  /-- Whether senders find the agent. -/
  offered : Bool := false
  /-- How many sending threads hold the agent. -/
  holders : Nat := 0
  /-- The settings that an agent is being brought up with, and whether the host supplies its
  transport. -/
  pending : Option (Settings × Bool) := none
  hooks : Hooks := {}

namespace Lifecycle

/-- Whether senders find an agent. -/
def hasAgent (l : Lifecycle) : Bool := l.offered && l.agent.isSome

/-- The process without an agent that nobody holds any more. -/
def release (l : Lifecycle) : Lifecycle :=
  if l.offered ∨ l.phase = .shuttingDown ∨ 0 < l.holders then l else { l with agent := none }

/-- Asks for an agent: its options are resolved, and it will be brought up in the background. -/
def begin (l : Lifecycle) (options : Options) (env : Environment) (custom : Bool) :
    Except Failure Lifecycle := do
  if l.phase ≠ .uninitialized then throw .alreadyInitialized
  let settings ← options.resolve env custom
  return { l with phase := .starting, pending := some (settings, custom) }

/-- The end of bringing an agent up. A panic leaves the phase as it was. -/
def conclude (l : Lifecycle) (settings : Settings) (o : Outcome Agent) : Lifecycle :=
  let l := { l with pending := none }
  match o with
  | .ok agent =>
    { l with phase := .running, agent := some agent, offered := true, hooks := l.hooks.install settings }
  | .failed _ => { l with phase := .uninitialized }
  | .panicked => l

/-- What the one who asked for an agent is told. -/
def report (o : Outcome Agent) : Except Failure Unit :=
  match o with
  | .ok _ => .ok ()
  | .failed f => .error f
  | .panicked => .error .schedulerClosed

/-- Brings the agent up that was asked for. The host's `paths` name the candidate directories for the
configured one, or panic, which is no answer. -/
def bringUpOn (l : Lifecycle) (paths : Option String → Option (List String)) (nonce : Gcm.Nonce)
    (answers : Startup.Answers) : Disk (List Call × Except Failure Unit × Lifecycle) := do
  match l.pending with
  | none => return ([], .error .schedulerClosed, l)
  | some (settings, custom) =>
    match paths settings.configDir with
    | none => return ([], report .panicked, l.conclude settings .panicked)
    | some candidates =>
      let (calls, o) ← Startup.run settings candidates custom l.agent.isSome nonce answers
      return (calls, report o, l.conclude settings o)

/-- Brings the agent up that was asked for, where the platform offers directories. -/
def bringUp (l : Lifecycle) (platform : Platform) (nonce : Gcm.Nonce) (answers : Startup.Answers) :
    Disk (List Call × Except Failure Unit × Lifecycle) :=
  l.bringUpOn (fun configured => some (platform.candidates configured)) nonce answers

/-- A sending thread takes hold of the agent, if it finds one. -/
def take? (l : Lifecycle) : Option Lifecycle :=
  if l.hasAgent then some { l with holders := l.holders + 1 } else none

/-- A sending thread lets go of the agent. -/
def letGo (l : Lifecycle) : Lifecycle := ({ l with holders := l.holders - 1 } : Lifecycle).release

/-- Hands an event to the agent that a thread holds. An agent that takes no more events drops it. -/
def dispatch (l : Lifecycle) (e : Event) (stack : List Frame) (id : String) (readings : Readings) :
    Lifecycle :=
  { l with agent := l.agent.map fun a => (a.dispatch e stack id readings).toOption.getD a }

/-- Sends an event, unless it is empty or no agent runs. -/
def send (l : Lifecycle) (e : Event) (stack : List Frame) (id : String) (readings : Readings) :
    Lifecycle :=
  if e.isEmpty then l
  else match l.take? with
    | none => l
    | some l => (l.dispatch e stack id readings).letGo

/-- The deliveries of the process's agent. -/
def deliveries (l : Lifecycle) : List Delivery := l.agent.elim [] (·.deliveries)

/-- Takes delivery `i` to its end, if the transport answers what it is asked, and gives what was asked. -/
def deliver (l : Lifecycle) (i : Nat) (answer : Call → Option (Outcome Unit)) :
    Disk (Lifecycle × Option Call) := do
  match l.agent with
  | none => return (l, none)
  | some a =>
    let (a, call) ← a.deliver i answer
    return ({ l with agent := some a }, call)

/-- The message of a panic, as far as it is a text. -/
def panicMessage (text : Option String) : String := text.getD "Box<dyn Any>"

/-- The event that the hook that reports a panic sends, if it sends one. -/
def panicEvent? (l : Lifecycle) (thread text : Option String) (location : Option (String × UInt32))
    (now : Int) : Option Event :=
  if l.hasAgent && l.hooks.reports thread then
    some (.ofPanic (panicMessage text) location now)
  else none

/-- The process once the hook that reports a panic has run. -/
def reportPanic (l : Lifecycle) (p : Panic) : Lifecycle :=
  (l.panicEvent? p.thread p.text p.location p.now).elim l fun e => l.send e p.stack p.id p.readings

/-- A thread panics: how often the hook runs that the process came with, and the process after it. -/
def onPanic (l : Lifecycle) (p : Panic) : Nat × Lifecycle :=
  l.hooks.panicHook.run (fun l => l.reportPanic p) l

/-- The last second that the clock can name. -/
def lastSecond : Nat := 0x7FFFFFFFFFFFFFFF

/-- Whether the clock, which shows `now` nanoseconds, can name the end of a grace. -/
def canWait (now : Nat) (grace : Duration) : Bool :=
  (now + grace.inNanoseconds) / 1000000000 ≤ lastSecond

/-- The beginning of a shutdown: senders find the agent no more. -/
def beginShutdown (l : Lifecycle) : Lifecycle := { l with phase := .shuttingDown, offered := false }

/-- Stops the agent, unless it was stopped before. Its sink is closed, if the end of the grace can be
named; and deliveries that outlast the grace are given up. -/
def stopAgent (l : Lifecycle) (now : Nat) : List Call × Lifecycle :=
  match l.agent.bind Agent.close? with
  | none => ([], l)
  | some a =>
    if canWait now a.settings.shutdownGrace then
      let (calls, a) := a.closeSink
      (calls, { l with agent := some a.halt })
    else ([], { l with agent := some a.halt })

/-- The end of a shutdown: the count is written once more. -/
def finishShutdown (l : Lifecycle) : Disk Lifecycle := do
  match l.agent with
  | some a => a.monitor.persist
  | none => pure ()
  return ({ l with phase := .uninitialized } : Lifecycle).release

/-- Shuts the agent down that runs. -/
def shutdown (l : Lifecycle) (now : Nat) : Disk (List Call × Lifecycle) := do
  if l.phase ≠ .running then return ([], l)
  let (calls, l) := l.beginShutdown.stopAgent now
  return (calls, ← l.finishShutdown)

/-- What a callback does at the process's exit. -/
def onExit (l : Lifecycle) (now : Nat) : Disk (List Call × Lifecycle) :=
  if l.hooks.shutsDownOnExit then l.shutdown now else pure ([], l)

/-- Callbacks that run at the process's exit, one after the other. -/
def callBack (now : Nat) : Nat → Lifecycle → Disk (List Call × Lifecycle)
  | 0, l => pure ([], l)
  | n + 1, l => do
    let (calls, l) ← l.onExit now
    let (more, l) ← callBack now n l
    return (calls ++ more, l)

/-- The process's exit. -/
def exit (l : Lifecycle) (now : Nat) : Disk (List Call × Lifecycle) :=
  callBack now l.hooks.exitCallbacks l

end Lifecycle

end CrashReporter
