import CrashReporter.Failure
import CrashReporter.Json.Shape
import CrashReporter.Remote.Credentials
import CrashReporter.Text.Blank

/-!
# Identities

Who a device is to the remote API and to the broker. An identity is complete if none of its four
parts is blank, and only a complete one is ever used.
-/

namespace CrashReporter

/-- Who a device is. -/
structure Identity where
  organization : String
  clientId : String
  installationId : String
  clientSecret : String
  deriving DecidableEq, Inhabited

namespace Identity

open Json

/-- The four parts. -/
def parts (i : Identity) : List String :=
  [i.organization, i.clientId, i.installationId, i.clientSecret]

/-- Whether no part is blank. -/
def isComplete (i : Identity) : Bool := i.parts.all fun s => !Text.isBlankText s

/-- The identity that credentials give a device. -/
def ofCredentials (c : Credentials) : Except Failure Identity :=
  let i : Identity := ⟨c.organization, c.clientId, c.id, c.password⟩
  if i.isComplete then .ok i
  else .error (.registrationFailed "response is missing one or more credential fields")

/-- The members read so far. -/
structure Draft where
  organization : Option String := none
  clientId : Option String := none
  installationId : Option String := none
  clientSecret : Option String := none

/-- An identity as it is kept. -/
def record : Record Draft Identity where
  name := "Identity"
  members := [
    .of "organization" .text Draft.organization (fun d v => { d with organization := some v }) false,
    .of "client_id" .text Draft.clientId (fun d v => { d with clientId := some v }) false,
    .of "installation_id" .text Draft.installationId
      (fun d v => { d with installationId := some v }) false,
    .of "client_secret" .text Draft.clientSecret (fun d v => { d with clientSecret := some v }) false]
  blank := {}
  finish d := do
    return {
      organization := ← require "organization" d.organization
      clientId := ← require "client_id" d.clientId
      installationId := ← require "installation_id" d.installationId
      clientSecret := ← require "client_secret" d.clientSecret }

/-- An identity as it is kept. -/
def toJson (i : Identity) : Value := .object [
  ("organization", .text i.organization),
  ("client_id", .text i.clientId),
  ("installation_id", .text i.installationId),
  ("client_secret", .text i.clientSecret)]

/-- The identity as a text that does not give the secret away. -/
def describe (i : Identity) : String :=
  let fields : List (String × String) := [("organization", i.organization), ("client_id", i.clientId),
    ("installation_id", i.installationId), ("client_secret", "***")]
  "Identity \x7b "
    ++ ", ".intercalate (fields.map fun (name, value) => name ++ ": " ++ Text.quoted value) ++ " \x7d"

/-- The topic that a device's events are published under. -/
def topic (i : Identity) : String := "rust/events/" ++ i.organization ++ "/" ++ i.clientId

end Identity

end CrashReporter
