import CrashReporter.Outcome
import CrashReporter.Scheduler
import CrashReporter.Sink
import CrashReporter.Usage.Monitor

/-!
# Deliveries

A delivery takes one payload through the sink in steps, between which others may take theirs: it finds
the sink open, has its bytes counted, and hands them to the transport. If the transport fails, the
count is returned; if it panics, or if the delivery is cancelled while the transport is at it, the
bytes stay counted.
-/

namespace CrashReporter

namespace Delivery

/-- What has become of a payload in the end. -/
inductive Fate where
  /-- The sink was closed. -/
  | dropped
  /-- The policy did not allow it. -/
  | refused
  /-- The transport took it. -/
  | delivered
  /-- The transport failed, and its bytes are no longer counted. -/
  | returned
  /-- It was given up before its bytes were counted. -/
  | cancelled
  /-- It was given up afterwards. -/
  | lost
  deriving DecidableEq

/-- How far a delivery has come. -/
inductive Stage where
  /-- It waits for a thread. -/
  | queued
  /-- It has found the sink open. -/
  | admitted
  /-- Its bytes are counted. -/
  | reserved
  /-- The transport is at it. -/
  | underway
  /-- The transport has failed. -/
  | failed
  /-- It is over. -/
  | ended (fate : Fate)
  deriving DecidableEq

/-- What is left of a delivery that is given up. -/
def Stage.giveUp : Stage → Stage
  | .queued | .admitted => .ended .cancelled
  | .reserved | .underway | .failed => .ended .lost
  | .ended fate => .ended fate

/-- How a delivery goes on once the transport has answered. -/
def Stage.afterAnswer : Outcome Unit → Stage
  | .ok _ => .ended .delivered
  | .failed _ => .failed
  | .panicked => .ended .lost

end Delivery

/-- A payload on its way. -/
structure Delivery where
  payload : Bytes
  stage : Delivery.Stage := .queued
  /-- The scheduler's task. -/
  task : Nat
  deriving DecidableEq

namespace Delivery

/-- The size that is counted. -/
def size (d : Delivery) : Int64 := Int64.ofNat d.payload.length

/-- Whether a delivery is over. -/
def isOver (d : Delivery) : Bool :=
  match d.stage with
  | .ended _ => true
  | _ => false

/-- A step of a delivery through an open or closed sink with a monitor: how far it comes, the monitor
after it, and what it asks for. A delivery that the transport is at, or that is over, stays as it is. -/
def step (d : Delivery) (sink : Sink) (monitor : Usage.Monitor) :
    Disk (Stage × Usage.Monitor × Option Call) := do
  match d.stage with
  | .queued =>
    return (if sink.closed then .ended .dropped else .admitted, monitor, none)
  | .admitted =>
    let (counted, monitor) ← monitor.reserve d.size
    return (if counted then .reserved else .ended .refused, monitor, none)
  | .reserved =>
    match sink.transport.request d.payload with
    | .ok call => return (.underway, monitor, some call)
    | .error _ => return (.failed, monitor, none)
  | .failed => return (.ended .returned, ← monitor.release d.size, none)
  | .underway => return (.underway, monitor, none)
  | .ended fate => return (.ended fate, monitor, none)

end Delivery

end CrashReporter
