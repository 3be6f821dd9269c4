/-!
# Byte strings

Byte strings as lists, numbers in base 256 with the most significant byte first, and the lower-case
hexadecimal spelling.
-/

namespace CrashReporter

/-- A byte string. -/
abbrev Bytes := List UInt8

namespace Bytes

/-- The last `n` base-256 digits of `v`, most significant first. -/
def bigEndian : Nat → Nat → Bytes
  | 0, _ => []
  | n + 1, v => bigEndian n (v / 256) ++ [UInt8.ofNat v]

/-- The number whose base-256 digits are `bs`, most significant first. -/
def toNat (bs : Bytes) : Nat :=
  bs.foldl (fun n b => 256 * n + b.toNat) 0

@[simp] theorem length_bigEndian (n v : Nat) : (bigEndian n v).length = n := by
  induction n generalizing v with
  | zero => rfl
  | succ n ih => simp [bigEndian, ih]

/-- The digits of a number below the `n`-th power of 256 read back as that number. -/
theorem toNat_bigEndian {n v : Nat} (h : v < Nat.pow 256 n) : toNat (bigEndian n v) = v := by
  induction n generalizing v with
  | zero =>
    have hv : v = 0 := Nat.lt_one_iff.1 h
    simp [bigEndian, toNat, hv]
  | succ n ih =>
    have hd : v / 256 < Nat.pow 256 n := (Nat.div_lt_iff_lt_mul (by decide)).2 h
    have hq := ih hd
    simp only [toNat] at hq ⊢
    simp only [bigEndian, List.foldl_append, hq, List.foldl_cons, List.foldl_nil, UInt8.toNat_ofNat']
    omega

/-- The sixteen digits. -/
def hexDigits : List Char := "0123456789abcdef".toList

/-- The digit of value `n`, below 16. -/
def hexDigit (n : Nat) : Char := hexDigits.getD n '0'

/-- Two digits a byte. -/
def toHex (bs : Bytes) : String :=
  String.ofList (bs.flatMap fun b => [hexDigit (b.toNat / 16), hexDigit (b.toNat % 16)])

/-- The value of a hexadecimal digit of either case. -/
def hexValue? (c : Char) : Option Nat :=
  if '0' ≤ c ∧ c ≤ '9' then some (c.toNat - '0'.toNat)
  else if 'a' ≤ c ∧ c ≤ 'f' then some (c.toNat - 'a'.toNat + 10)
  else if 'A' ≤ c ∧ c ≤ 'F' then some (c.toNat - 'A'.toNat + 10)
  else none

/-- The bytes that pairs of digits spell; a digit left alone at the end is refused. -/
def ofHexDigits? : List Char → Option Bytes
  | [] => some []
  | [_] => none
  | a :: b :: rest => do
    let high ← hexValue? a
    let low ← hexValue? b
    return UInt8.ofNat (16 * high + low) :: (← ofHexDigits? rest)

/-- Reads what `toHex` writes, in either case. -/
def ofHex? (s : String) : Option Bytes := ofHexDigits? s.toList

end Bytes

end CrashReporter
