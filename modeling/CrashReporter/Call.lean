import CrashReporter.Remote.Broker
import CrashReporter.Transport.Mqtt

/-!
# Calls

What the agent asks of the programs and devices around it: the remote API, a transport that the host
supplies, a serial port and a message broker.
-/

namespace CrashReporter

/-- What the agent asks for. -/
inductive Call where
  /-- The public address of the machine. -/
  | lookUpAddress
  /-- Credentials for an application on this machine. -/
  | register (application : String)
  /-- The policy that this device is under. -/
  | fetchPolicy
  /-- The broker's address. -/
  | discoverBroker
  /-- To take an installation's packed event. -/
  | post (installation : String) (payload : Bytes)
  /-- The host's transport: to begin. -/
  | startTransport (i : Identity)
  /-- The host's transport: to deliver a packed event. -/
  | deliver (payload : Bytes)
  /-- The host's transport: to end. -/
  | stopTransport
  /-- To open a serial port. -/
  | openPort (name : String)
  /-- To put bytes on the line. -/
  | write (frame : Bytes)
  /-- To close the serial port. -/
  | closePort
  /-- To open a session with the broker at an address that something listens at. -/
  | connect (broker : Broker) (packet : Mqtt.Connect)
  /-- To publish a packed event. -/
  | publish (p : Mqtt.Publication)
  /-- To end the session. -/
  | disconnect
  deriving DecidableEq

end CrashReporter
