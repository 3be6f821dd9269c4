import CrashReporter.Delivery

/-!
# The agent

A running agent: its settings, its monitor, its sink and the deliveries on their way. Its steps are
those of its deliveries, of the threads that hand events over, and of its stop, in any order.
-/

namespace CrashReporter

/-- A running agent. -/
structure Agent where
  settings : Settings
  monitor : Usage.Monitor
  sink : Sink
  scheduler : Scheduler := {}
  deliveries : List Delivery := []

namespace Agent

/-- Hands an event over; its delivery waits for a thread. -/
def dispatch (a : Agent) (e : Event) (stack : List Frame) (id : String) (readings : Readings) :
    Except Failure Agent := do
  let scheduler ← a.scheduler.submit .once
  let payload ← a.sink.pack (e.resolve stack) id readings
  return { a with
    scheduler
    deliveries := a.deliveries ++ [{ payload, task := a.scheduler.tasks.length }] }

/-- The agent with delivery `i` at another stage. A delivery that is over ends its task. -/
def setStage (a : Agent) (i : Nat) (d : Delivery) (stage : Delivery.Stage) : Agent :=
  let d := { d with stage }
  { a with
    deliveries := a.deliveries.set i d
    scheduler := if d.isOver then a.scheduler.finish d.task else a.scheduler }

/-- A step of delivery `i`. -/
def step (a : Agent) (i : Nat) : Disk (Agent × Option Call) := do
  match a.deliveries[i]? with
  | none => return (a, none)
  | some d =>
    let (stage, monitor, call) ← d.step a.sink a.monitor
    return ({ a with monitor }.setStage i d stage, call)

/-- The transport answers delivery `i`. -/
def answer (a : Agent) (i : Nat) (o : Outcome Unit) : Agent :=
  match a.deliveries[i]? with
  | some d => if d.stage = .underway then a.setStage i d (.afterAnswer o) else a
  | none => a

/-- Gives up delivery `i`. -/
def cancel (a : Agent) (i : Nat) : Agent :=
  match a.deliveries[i]? with
  | some d => a.setStage i d d.stage.giveUp
  | none => a

/-- Takes delivery `i` on until the transport is asked for an answer, or it is over. -/
def carry (a : Agent) (i : Nat) : Disk (Agent × Option Call) := do
  let (a, _) ← a.step i
  let (a, _) ← a.step i
  let (a, call) ← a.step i
  let (a, _) ← a.step i
  return (a, call)

/-- Takes delivery `i` on after the transport's answer. -/
def settle (a : Agent) (i : Nat) (o : Outcome Unit) : Disk Agent := do
  return (← (a.answer i o).step i).1

/-- Takes delivery `i` to its end, if the transport answers what it is asked, and gives what was asked. -/
def deliver (a : Agent) (i : Nat) (answer : Call → Option (Outcome Unit)) :
    Disk (Agent × Option Call) := do
  let (a, call) ← a.carry i
  match call.bind answer with
  | some o => return (← a.settle i o, call)
  | none => return (a, call)

/-- Closes the scheduler; nothing if it was closed before. -/
def close? (a : Agent) : Option Agent :=
  a.scheduler.close?.map fun scheduler => { a with scheduler }

/-- Closes the sink. -/
def closeSink (a : Agent) : List Call × Agent :=
  let (calls, sink) := a.sink.close
  (calls, { a with sink })

/-- Gives up the deliveries that are left, and ends all tasks. -/
def halt (a : Agent) : Agent :=
  let a := (List.range a.deliveries.length).foldl cancel a
  { a with scheduler := a.scheduler.stop }

end Agent

end CrashReporter
