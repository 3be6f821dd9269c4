import CrashReporter.Calendar
import CrashReporter.Usage.Admission
import CrashReporter.Usage.Policy

/-!
# The meter

How much a device has sent in this cycle of its plan, and under which policy. Payloads are counted
before they are delivered; the count of one that was not delivered is returned. On a plan's day of
the month the count starts again from zero, once, as long as another day was seen before.
-/

namespace CrashReporter.Usage

/-- What has been sent, and what may be. -/
structure Meter where
  policy : Policy := {}
  /-- Bytes sent in this cycle, those on their way included. -/
  sent : UInt64 := 0
  /-- Whether the plan's next day begins a cycle. -/
  awaitingReset : Bool := false
  /-- Ticks since the policy was last fetched. -/
  ticks : Nat := 0
  deriving DecidableEq, Inhabited

namespace Meter

/-- The meter with more bytes counted. -/
def count (m : Meter) (bytes : UInt64) : Meter := { m with sent := plus m.sent bytes }

/-- The meter with fewer bytes counted. -/
def uncount (m : Meter) (bytes : UInt64) : Meter := { m with sent := minus m.sent bytes }

/-- The meter at the beginning of a cycle. -/
def restart (m : Meter) : Meter := { m with sent := 0 }

/-- Whether a payload must not be sent now. -/
def refuses (m : Meter) (size : Int64) : Bool := exceedsLimit m.sent m.policy.dataLimit size

/-- The meter with a payload counted, unless it must not be sent. -/
def reserve? (m : Meter) (size : Int64) : Option Meter :=
  if m.refuses size then none else some (m.count (bytesOf size))

/-- The meter with a payload's count returned, if it counts at all. -/
def release? (m : Meter) (size : Int64) : Option Meter :=
  if size < 1 then none else some (m.uncount (bytesOf size))

/-- The meter with bytes counted that were sent regardless, if there are any. -/
def add? (m : Meter) (size : Int64) : Option Meter :=
  if size < 1 then none else some (m.count (bytesOf size))

/-- The meter under another policy. -/
def setPolicy (m : Meter) (p : Policy) : Meter := { m with policy := p }

/-- The day of a date's month on which a cycle begins: the plan's day, or the nearest that the month
has. -/
def cycleDay (m : Meter) (today : Date) : Nat :=
  max 1 (min m.policy.resetDay.toNat today.monthLength)

/-- Whether the count starts again today. -/
def resetsOn (m : Meter) (today : Date) : Bool :=
  m.awaitingReset && today.day == m.cycleDay today

/-- The meter once it has seen a day. -/
def check (m : Meter) (today : Date) : Meter :=
  if today.day ≠ m.cycleDay today then { m with awaitingReset := true }
  else if m.awaitingReset then { m.restart with awaitingReset := false }
  else m

/-- How many ticks go by before the policy is fetched again. -/
def ticksPerFetch : Nat := 24

/-- The meter after a tick, and whether the policy is to be fetched. -/
def tick (m : Meter) : Meter × Bool :=
  if ticksPerFetch ≤ m.ticks + 1 then ({ m with ticks := 0 }, true)
  else ({ m with ticks := m.ticks + 1 }, false)

end Meter

end CrashReporter.Usage
