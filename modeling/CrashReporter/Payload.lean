import CrashReporter.Event
import CrashReporter.MessagePack

/-!
# Packed events

An event travels as a MessagePack map with named keys, together with the installation and the public
address it comes from, the agent's version and two readings of the process.
-/

namespace CrashReporter

/-- The version that events and requests carry. -/
def agentVersion : String := "0.1.0"

/-- What the process uses when an event is packed: memory in percent and processor time in percent. -/
structure Readings where
  memory : Double
  cpu : Double
  deriving DecidableEq, Inhabited

/-- What an event is sent with. -/
structure Origin where
  device : String
  publicIp : String

namespace Frame

/-- A frame as a map. -/
def packed (f : Frame) : MessagePack.Value :=
  .map [
    (.text "functionName", .text f.functionName),
    (.text "className", .text f.className),
    (.text "filePath", .text f.filePath),
    (.text "lineNumber", .int f.lineNumber.toNat)]

end Frame

namespace Event

/-- An event as a map; `id` tells two sendings of the same event apart. -/
def packed (e : Event) (id : String) (origin : Origin) (readings : Readings) : MessagePack.Value :=
  .map [
    (.text "stackTrace", .list (e.frames.map Frame.packed)),
    (.text "timestamp", .int e.timestamp),
    (.text "excType", .text e.excType),
    (.text "id", .text id),
    (.text "device", .text origin.device),
    (.text "publicIp", .text origin.publicIp),
    (.text "agentVersion", .text agentVersion),
    (.text "memoryUsage", .double readings.memory),
    (.text "cpuUsage", .double readings.cpu)]

/-- The bytes that are delivered for an event. -/
def payload (e : Event) (id : String) (origin : Origin) (readings : Readings) : Bytes :=
  MessagePack.pack (e.packed id origin readings)

end Event

end CrashReporter
