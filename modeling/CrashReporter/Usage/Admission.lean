/-!
# Admission of payloads

A device may send a limited number of bytes in each cycle of its data plan. The count of bytes sent
stops at the greatest number of 64 bits, and at zero.
-/

namespace CrashReporter.Usage

/-- The sum, or the greatest number of 64 bits if the sum is greater. -/
def plus (a b : UInt64) : UInt64 := UInt64.ofNat (min (a.toNat + b.toNat) (UInt64.size - 1))

/-- The difference, or zero if it is less. -/
def minus (a b : UInt64) : UInt64 := UInt64.ofNat (a.toNat - b.toNat)

@[simp] theorem toNat_plus (a b : UInt64) :
    (plus a b).toNat = min (a.toNat + b.toNat) (UInt64.size - 1) := by
  have : UInt64.size = 18446744073709551616 := rfl
  rw [plus, UInt64.toNat_ofNat']
  omega

@[simp] theorem toNat_minus (a b : UInt64) : (minus a b).toNat = a.toNat - b.toNat := by
  have := a.toNat_lt
  rw [minus, UInt64.toNat_ofNat']
  omega

/-- A size as a count of bytes; a negative one counts nothing. -/
def bytesOf (size : Int64) : UInt64 := UInt64.ofNat size.toInt.toNat

/-- Whether a payload of `proposed` bytes must not be sent when `sent` have been and `limit` are
allowed. Nothing less than a byte is ever sent, and a limit of zero allows everything. -/
def exceedsLimit (sent limit : UInt64) (proposed : Int64) : Bool :=
  if proposed ≤ 0 then true
  else if limit = 0 then false
  else limit < plus sent (bytesOf proposed)

end CrashReporter.Usage
