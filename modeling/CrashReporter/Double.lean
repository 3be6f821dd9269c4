/-!
# Double-precision numbers

A double is its 64 bits. A finite one is a sign and `significand * 2 ^ exponent`. Sums of products
are not needed here: a decimal is read by one multiplication or division by a power of ten.
-/

namespace CrashReporter

/-- A double-precision number, by its IEEE 754 bits. -/
structure Double where
  bits : UInt64
  deriving DecidableEq, Inhabited

namespace Double

/-- Positive zero. -/
def zero : Double := ⟨0⟩

/-- Whether the sign bit is set; it is for negative zero. -/
def isNegative (d : Double) : Bool := d.bits >>> 63 == 1

/-- What the lowest bit of the exponent counts for among the 64 bits. -/
def unit : Nat := 0x10000000000000

/-- The 52 stored bits of the significand. -/
def fraction (d : Double) : Nat := d.bits.toNat % unit

/-- The 11 stored bits of the exponent. -/
def biasedExponent (d : Double) : Nat := d.bits.toNat / unit % 0x800

/-- The whole significand of a finite double; its top bit is stored only through the exponent. -/
def significand (d : Double) : Nat :=
  if d.biasedExponent = 0 then d.fraction else unit + d.fraction

/-- The power of two of the significand's last bit. -/
def exponent (d : Double) : Int := (max d.biasedExponent 1 : Int) - 1075

/-- Whether the magnitude is beyond every finite one. -/
def isInfinite (d : Double) : Bool := d.biasedExponent == 2047 && d.fraction == 0

/-- The same magnitude with the other sign. -/
def neg (d : Double) : Double := ⟨d.bits ^^^ 0x8000000000000000⟩

/-- The double nearest to a whole number. -/
def ofWord (n : UInt64) : Double := ⟨n.toFloat.toBits⟩

/-- The double nearest to the product. -/
def mul (a b : Double) : Double := ⟨(Float.ofBits a.bits * Float.ofBits b.bits).toBits⟩

/-- The double nearest to the quotient. -/
def div (a b : Double) : Double := ⟨(Float.ofBits a.bits / Float.ofBits b.bits).toBits⟩

/-- The double nearest to `10 ^ n`. -/
def tenToThe (n : Nat) : Double := ⟨(Float.ofScientific 1 false n).toBits⟩

end Double

end CrashReporter
