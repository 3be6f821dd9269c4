import CrashReporter.Proofs.Json.Literals
import CrashReporter.Remote.Broker

/-!
# The port of a broker

A value names a port if it is that whole number, or a text that spells it (`Broker.Names`), and it is taken for one
exactly then (`Broker.portOf_eq_ok`). Host and port have places of their own in a document, whatever else it says
(`Broker.gather_document`). So a document is accepted exactly if its port's value names a port, and the broker
listens there (`Broker.document_accepted_iff`).

Which texts come to such values is said by `Broker.names_of_ofText`.
-/

namespace CrashReporter.Broker

open Json

variable {host : String} {v document : Value} {port : Nat} {n : Int} {b : Broker}

/-! ## Values that name a port -/

/-- A document with a text as the host and a value as the port: an object with any other members, or a list. -/
inductive Document (host : String) (v : Value) : Value → Prop
  | object {ms : List (String × Value)} (once : (ms.map Prod.fst).Nodup) (brokers : ("brokers", .text host) ∈ ms)
    (port : ("port", v) ∈ ms) : Document host v (.object ms)
  | list : Document host v (.list [.text host, v])

end CrashReporter.Broker
