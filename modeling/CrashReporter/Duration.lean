/-!
# Lengths of time

Whole seconds of 64 bits and nanoseconds, and the text that shows them exactly.
-/

namespace CrashReporter

/-- A length of time. -/
structure Duration where
  seconds : UInt64
  nanoseconds : Nat
  nanoseconds_lt : nanoseconds < 1000000000 := by decide
  deriving DecidableEq

namespace Duration

/-- Whole seconds. -/
def ofSeconds (n : UInt64) : Duration := { seconds := n, nanoseconds := 0 }

instance : Inhabited Duration := ⟨ofSeconds 0⟩

/-- The length in nanoseconds. -/
def inNanoseconds (d : Duration) : Nat := d.seconds.toNat * 1000000000 + d.nanoseconds

/-- Seconds and nanoseconds; nanoseconds of a whole second or more are counted as seconds. -/
def ofParts (seconds : UInt64) (nanoseconds : Nat) : Duration where
  seconds := seconds + UInt64.ofNat (nanoseconds / 1000000000)
  nanoseconds := nanoseconds % 1000000000
  nanoseconds_lt := Nat.mod_lt _ (by decide)

/-- The fraction `n / 10 ^ places` behind a point, without zeros at its end, or nothing for zero. -/
def fraction (places n : Nat) : List Char :=
  if n = 0 then []
  else
    let ds := Nat.toDigits 10 n
    let all := List.replicate (places - ds.length) '0' ++ ds
    '.' :: (all.reverse.dropWhile (· == '0')).reverse

/-- The length in the largest of seconds, milliseconds, microseconds and nanoseconds of which it
holds at least one. -/
def describe (d : Duration) : String :=
  let shown (whole places part : Nat) (unit : String) : String :=
    String.ofList (Nat.toDigits 10 whole ++ fraction places part) ++ unit
  if 0 < d.seconds then shown d.seconds.toNat 9 d.nanoseconds "s"
  else if 1000000 ≤ d.nanoseconds then shown (d.nanoseconds / 1000000) 6 (d.nanoseconds % 1000000) "ms"
  else if 1000 ≤ d.nanoseconds then shown (d.nanoseconds / 1000) 3 (d.nanoseconds % 1000) "µs"
  else shown d.nanoseconds 0 0 "ns"

end Duration

end CrashReporter
