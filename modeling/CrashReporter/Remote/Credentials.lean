import CrashReporter.Json.Shape

/-!
# Credentials

What the remote API answers when a device is registered.
-/

namespace CrashReporter

/-- The answer to a registration. -/
structure Credentials where
  organization : String
  clientId : String
  id : String
  password : String
  deriving DecidableEq, Inhabited

namespace Credentials

open Json

/-- The members read so far. -/
structure Draft where
  organization : Option String := none
  clientId : Option String := none
  id : Option String := none
  password : Option String := none

/-- The document that hands credentials out. -/
def record : Record Draft Credentials where
  name := "DeviceCredentials"
  members := [
    .of "organization" .text Draft.organization (fun d v => { d with organization := some v }) false,
    .of "client_id" .text Draft.clientId (fun d v => { d with clientId := some v }) false,
    .of "id" .text Draft.id (fun d v => { d with id := some v }) false,
    .of "client_password" .text Draft.password (fun d v => { d with password := some v }) false]
  blank := {}
  finish d := do
    return {
      organization := ← require "organization" d.organization
      clientId := ← require "client_id" d.clientId
      id := ← require "id" d.id
      password := ← require "client_password" d.password }

/-- The credentials as a text that does not give the password away. -/
def describe (c : Credentials) : String :=
  let fields : List (String × String) := [("organization", c.organization), ("client_id", c.clientId),
    ("id", c.id), ("client_password", "***")]
  "DeviceCredentials \x7b "
    ++ ", ".intercalate (fields.map fun (name, value) => name ++ ": " ++ Text.quoted value) ++ " \x7d"

end Credentials

end CrashReporter
