import CrashReporter.Scheduler
import CrashReporter.Settings

/-!
# Hooks of the process

Two hooks act for the agent that runs: one at the process's exit, which shuts the agent down, and one at
each panic, which reports it and then runs the hook that was there before. A hook is registered once, by
the first agent whose settings ask for it; whether it acts is up to the agent that runs.
-/

namespace CrashReporter

/-- The hook that runs at a panic: the one that the process came with, or one that reports the panic and
then runs the one that it replaced. -/
inductive PanicHook where
  | found
  | reporting (replaced : PanicHook)
  deriving DecidableEq, Inhabited

/-- What the hook does at a panic, and how often the hook runs that the process came with. -/
def PanicHook.run {α : Type} (report : α → α) : PanicHook → α → Nat × α
  | .found, a => (1, a)
  | .reporting replaced, a => replaced.run report (report a)

/-- Which hooks are registered, and which of them act. -/
structure Hooks where
  exitInstalled : Bool := false
  panicInstalled : Bool := false
  /-- How many callbacks run at the process's exit. -/
  exitCallbacks : Nat := 0
  panicHook : PanicHook := .found
  shutsDownOnExit : Bool := false
  reportsPanics : Bool := false
  deriving DecidableEq, Inhabited

namespace Hooks

/-- Registers the callback at the process's exit, unless that was done before. -/
def registerExit (h : Hooks) : Hooks :=
  if h.exitInstalled then h
  else { h with exitInstalled := true, exitCallbacks := h.exitCallbacks + 1 }

/-- Puts the hook that reports in the place of the one there is, unless that was done before. -/
def registerPanic (h : Hooks) : Hooks :=
  if h.panicInstalled then h
  else { h with panicInstalled := true, panicHook := .reporting h.panicHook }

/-- The hooks once an agent runs. -/
def install (h : Hooks) (s : Settings) : Hooks :=
  let h := { h with shutsDownOnExit := s.autoShutdown, reportsPanics := s.panicHook }
  let h := if s.autoShutdown then h.registerExit else h
  if s.panicHook then h.registerPanic else h

/-- Whether the hook that reports acts at a panic of a thread while an agent runs; at those of the agent's
own threads it does not. -/
def reports (h : Hooks) (thread : Option String) : Bool :=
  h.reportsPanics && thread != some Scheduler.threadName

end Hooks

end CrashReporter
