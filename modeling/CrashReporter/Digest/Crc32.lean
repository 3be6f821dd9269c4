import CrashReporter.Bytes

/-!
# CRC-32

The 32-bit cyclic redundancy check with the reflected polynomial `edb88320`, all ones at the start
and complemented at the end.
-/

namespace CrashReporter.Digest

namespace Crc32

/-- The generator polynomial, lowest power in the highest bit. -/
def polynomial : UInt32 := 0xEDB88320

/-- One bit of division. -/
def shift (r : UInt32) : UInt32 :=
  if r &&& 1 = 1 then (r >>> 1) ^^^ polynomial else r >>> 1

/-- One byte of division: the byte enters at the low end and eight bits leave. -/
def feed (r : UInt32) (b : UInt8) : UInt32 :=
  Nat.repeat shift 8 (r ^^^ b.toUInt32)

end Crc32

/-- The check value of a byte string. -/
def crc32 (bs : Bytes) : UInt32 := (bs.foldl Crc32.feed 0xFFFFFFFF) ^^^ 0xFFFFFFFF

end CrashReporter.Digest
