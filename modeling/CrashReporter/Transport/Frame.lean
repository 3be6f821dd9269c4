import CrashReporter.Digest.Crc32
import CrashReporter.Failure

/-!
# Frames on a serial line

A payload on the line stands behind its length and in front of its check value, both in four bytes.
-/

namespace CrashReporter.Serial

/-- The frame of a payload, which must be shorter than `2 ^ 32` bytes. -/
def frame (payload : Bytes) : Except Failure Bytes :=
  if payload.length < UInt32.size then
    .ok (Bytes.bigEndian 4 payload.length ++ payload
      ++ Bytes.bigEndian 4 (Digest.crc32 payload).toNat)
  else .error (.serialization s!"payload of {payload.length} bytes is too large")

end CrashReporter.Serial
