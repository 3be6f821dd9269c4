import CrashReporter.Digest.Sha256
import CrashReporter.Text.Utf8

/-!
# The machine's fingerprint

What a machine is recognised by, without giving its names away.
-/

namespace CrashReporter

/-- The fingerprint of a machine: the digest of its host name and its id, in hexadecimal. -/
def fingerprint (hostname machineId : String) : String :=
  Bytes.toHex (Digest.sha256 (Text.utf8 (hostname ++ "|" ++ machineId)))

/-- A text's first and last eight characters; nothing of a text of up to 16 bytes, or one with
characters beyond ASCII. -/
def shortForm (value : String) : String :=
  let cs := value.toList
  if value.utf8ByteSize ≤ 16 ∨ cs.any (fun c => 128 ≤ c.toNat) then "***"
  else String.ofList (cs.take 8 ++ "...".toList ++ cs.drop (cs.length - 8))

end CrashReporter
