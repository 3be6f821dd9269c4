import CrashReporter.Store
import CrashReporter.Usage.Meter

/-!
# The monitor of data usage

A meter whose count is kept in a store, so that it survives the process, together with a copy of the
policy for times when the remote API cannot be asked. The store is written after every change of the
count. A document that cannot be written changes nothing in the meter.
-/

namespace CrashReporter.Usage

/-- A meter and the store that its count is kept in. -/
structure Monitor where
  store : Store
  meter : Meter := {}
  deriving Inhabited

namespace Monitor

open Json

/-- The name of the count's document. -/
def countName : String := "usage.json"

/-- The name of the copy of the policy. -/
def policyName : String := "limits.json"

/-- The count as it is kept. -/
def countRecord : Record (Option UInt64) UInt64 where
  name := "Count"
  members := [.of "bytes_sent" .word64 id (fun _ v => some v) false]
  blank := none
  finish d := require "bytes_sent" d

/-- The count as it is kept. -/
def countJson (sent : UInt64) : Value := .object [("bytes_sent", .ofNat sent.toNat)]

/-- The count that a store holds; nothing, if it holds none. -/
def storedCount (store : Store) : Disk UInt64 := do
  return (← store.load countRecord.shape countName).getD 0

/-- The monitor of a store, without limits until it has a policy. -/
def ofStore (store : Store) : Disk Monitor := do
  return { store, meter := { sent := ← storedCount store } }

/-- Writes the count, as far as the system lets it. -/
def persist (m : Monitor) : Disk Unit := do
  let _ ← Disk.attempt (m.store.save countName (countJson m.meter.sent))

/-- The monitor with a changed meter, whose count is written. -/
def update (m : Monitor) (meter : Meter) : Disk Monitor := do
  let m := { m with meter }
  m.persist
  return m

/-- The monitor with a meter that changed its count, or as it was. -/
def updateIf (m : Monitor) : Option Meter → Disk Monitor
  | some meter => m.update meter
  | none => pure m

/-- Counts a payload, if it may be sent; tells whether it may. -/
def reserve (m : Monitor) (size : Int64) : Disk (Bool × Monitor) := do
  let next := m.meter.reserve? size
  return (next.isSome, ← m.updateIf next)

/-- Returns the count of a payload that was not delivered. -/
def release (m : Monitor) (size : Int64) : Disk Monitor := m.updateIf (m.meter.release? size)

/-- Counts bytes that were sent regardless. -/
def add (m : Monitor) (size : Int64) : Disk Monitor := m.updateIf (m.meter.add? size)

/-- Puts the monitor under another policy. -/
def setPolicy (m : Monitor) (p : Policy) : Monitor := { m with meter := m.meter.setPolicy p }

/-- Sees a day. -/
def check (m : Monitor) (today : Date) : Disk Monitor :=
  if m.meter.resetsOn today then m.update (m.meter.check today)
  else return { m with meter := m.meter.check today }

/-- Takes over the policy that the remote API answers with, and keeps a copy of it. -/
def refresh (m : Monitor) (answer : Except Failure Policy) : Disk (Except Failure Monitor) := do
  match answer with
  | .error f => return .error f
  | .ok p =>
    let _ ← Disk.attempt (m.store.save policyName p.toJson)
    return .ok (m.setPolicy p)

/-- Takes over the policy that the remote API answers with, or else the copy. -/
def begin (m : Monitor) (answer : Except Failure Policy) : Disk (Except Failure Monitor) := do
  match ← m.refresh answer with
  | .ok m => return .ok m
  | .error f =>
    match ← m.store.load Policy.record.shape policyName with
    | some p => return .ok (m.setPolicy p)
    | none =>
      return .error (.remoteApi s!"usage policy unavailable and no cached copy: {f.message}")

/-- A tick; if the policy is to be fetched, the answer is taken over, and a failure changes nothing.
Tells whether the answer was asked for. -/
def tick (m : Monitor) (answer : Except Failure Policy) : Disk (Bool × Monitor) := do
  let (meter, due) := m.meter.tick
  let m := { m with meter }
  if due then
    match ← m.refresh answer with
    | .ok m => return (true, m)
    | .error _ => return (true, m)
  else return (false, m)

end Monitor

end CrashReporter.Usage
