import CrashReporter.Identity.Vault

/-!
# Registration

A device asks the remote API for credentials once and keeps the identity that they give it. Before it
asks it looks into the vault, and removes a document there that it cannot use.
-/

namespace CrashReporter

namespace Registration

/-- The failure of a registration: one of its own kind as it is, any other in words. -/
def failure : Failure → Failure
  | .registrationFailed reason => .registrationFailed reason
  | other => .registrationFailed other.message

/-- The stored identity. If there is none, a document that is passed over is removed, as far as the
system lets it. -/
def kept (v : Vault) : Disk (Option Identity) := do
  match ← v.load with
  | some i => return some i
  | none =>
    if ← v.holds then
      let _ ← Disk.attempt v.clear
    return none

/-- Keeps the identity that the answer to a registration gives. -/
def conclude (v : Vault) (nonce : Gcm.Nonce) (answer : Except Failure Credentials) :
    Disk (Except Failure Identity) := do
  match answer.mapError failure >>= Identity.ofCredentials with
  | .error f => return .error f
  | .ok i =>
    match ← Disk.attempt (v.save nonce i) with
    | .ok _ => return .ok i
    | .error e =>
      return .error (.registrationFailed s!"could not persist identity: {(Store.failure e).message}")

end Registration

/-- What is said of an identity that is not there yet. -/
def Identity.missing : Failure := .sinkUnavailable "device identity is not available"

end CrashReporter
