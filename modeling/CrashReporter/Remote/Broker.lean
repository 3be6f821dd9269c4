import CrashReporter.Json.Shape
import CrashReporter.Text.Blank
import CrashReporter.Text.Numeral

/-!
# The message broker's address

The remote API names the broker that events are published to. Its port may come as a number or as a
text with blanks around the digits.
-/

namespace CrashReporter

/-- Where the broker listens. -/
structure Broker where
  host : String
  port : UInt16
  deriving DecidableEq, Inhabited

namespace Broker

open Json

/-- The one port on which a broker takes connections without encryption. -/
def plainPort : UInt16 := 1883

/-- Whether a connection is encrypted. -/
def useTls (b : Broker) : Bool := b.port != plainPort

/-- The greatest port. -/
def maxPort : Nat := 65535

/-- The port that a value names. -/
def portOf : Value → Except Mismatch UInt16
  | .number (.whole n) =>
    if 0 ≤ n ∧ n ≤ maxPort then .ok (UInt16.ofNat n.toNat)
    else .error (.other s!"invalid port {n}")
  | .text s =>
    match Text.natural? maxPort (Text.trim s) with
    | some n => .ok (UInt16.ofNat n)
    | none => .error (.other s!"invalid port '{s}'")
  | v => .error (.other s!"invalid port {v.compact}")

/-- A port. -/
def portShape : Shape UInt16 where
  read depth s := do
    let (v, rest) ← Value.read depth s
    match portOf v with
    | .ok port => return (port, rest)
    | .error m => mismatchBefore m rest
  ofValue := portOf

/-- The members read so far. -/
structure Draft where
  host : Option String := none
  port : Option UInt16 := none

/-- The document that names a broker. -/
def record : Record Draft Broker where
  name := "BrokerSettings"
  members := [
    .of "brokers" .text Draft.host (fun d v => { d with host := some v }) false,
    .of "port" portShape Draft.port (fun d v => { d with port := some v }) false]
  blank := {}
  finish d := return ⟨← require "brokers" d.host, ← require "port" d.port⟩

end Broker

end CrashReporter
