import CrashReporter.Bytes

/-!
# The AES block cipher with keys of 256 bits

A block is a square of four columns of four bytes. A round substitutes each byte, shifts the rows,
mixes the columns and adds a round key. Bytes are polynomials over two elements, modulo
`x^8 + x^4 + x^3 + x + 1`; the substitution is inversion followed by an affine map.
-/

namespace CrashReporter.Aes256

/-- A block of 16 bytes, column by column. -/
abbrev Block := Vector UInt8 16

/-- A key of 32 bytes. -/
abbrev Key := Vector UInt8 32

/-- The product with `x`. -/
def double (a : UInt8) : UInt8 :=
  if a < 0x80 then a <<< 1 else (a <<< 1) ^^^ 0x1B

/-- The sum of the products of `a` with those powers of `x` below `x^n` that `b` holds, from the bit
`b` starts with. -/
def product : Nat → UInt8 → UInt8 → UInt8
  | 0, _, _ => 0
  | n + 1, a, b => (if b &&& 1 = 1 then a else 0) ^^^ product n (double a) (b >>> 1)

/-- The product of two bytes. -/
def mul (a b : UInt8) : UInt8 := product 8 a b

/-- The inverse of a byte, and zero for zero: the power to the 254. -/
def inverse (a : UInt8) : UInt8 :=
  let a2 := mul a a
  let a4 := mul a2 a2
  let a8 := mul a4 a4
  let a16 := mul a8 a8
  let a32 := mul a16 a16
  let a64 := mul a32 a32
  [a4, a8, a16, a32, a64, mul a64 a64].foldl mul a2

/-- A byte with its bits turned to the left by `n`, `0 < n < 8`. -/
def turn (a n : UInt8) : UInt8 := (a <<< n) ||| (a >>> (8 - n))

/-- What a byte is substituted by. -/
def substitute (a : UInt8) : UInt8 :=
  let b := inverse a
  b ^^^ turn b 1 ^^^ turn b 2 ^^^ turn b 3 ^^^ turn b 4 ^^^ 0x63

/-- The substitutes of all bytes. -/
def substitutes : Vector UInt8 256 := .ofFn fun i => substitute (UInt8.ofNat i)

/-- What a byte is substituted by, looked up. -/
def lookup (a : UInt8) : UInt8 := substitutes.get ⟨a.toNat, a.toNat_lt⟩

/-- A column. -/
abbrev Column := Vector UInt8 4

/-- The sum of two columns or blocks, byte by byte. -/
def plus {n : Nat} (v w : Vector UInt8 n) : Vector UInt8 n := v.zipWith (· ^^^ ·) w

/-- The round constants: a power of `x` in the first byte. -/
def constant (n : Nat) : Column := #v[Nat.repeat double n 1, 0, 0, 0]

/-- Column `i` of the round keys, behind those before it. -/
def nextColumn (columns : Array Column) (i : Nat) : Column :=
  let last := columns.getD (i - 1) default
  let back := columns.getD (i - 8) default
  if i % 8 = 0 then
    let turned : Column := #v[last[1], last[2], last[3], last[0]]
    plus back (plus (turned.map lookup) (constant (i / 8 - 1)))
  else if i % 8 = 4 then plus back (last.map lookup)
  else plus back last

/-- The columns of all round keys: the key's own, and 52 more. -/
def expand (key : Key) : Array Column :=
  let own : Array Column := .ofFn fun i : Fin 8 => .ofFn fun j : Fin 4 => key[4 * i.val + j.val]
  (List.range 52).foldl (fun cs i => cs.push (nextColumn cs (i + 8))) own

/-- The key of a round. -/
def roundKey (columns : Array Column) (round : Nat) : Block :=
  let column (i : Nat) : Column := columns.getD (4 * round + i) default
  column 0 ++ column 1 ++ column 2 ++ column 3

/-- Each row moves to the left by its number. -/
def shiftRows (b : Block) : Block := .ofFn fun i => b[(i.val + 4 * (i.val % 4)) % 16]

/-- Each column is multiplied by a polynomial with coefficients 2, 3, 1 and 1. -/
def mixColumns (b : Block) : Block := .ofFn fun i =>
  let cell (k : Nat) : UInt8 := b[(4 * (i.val / 4) + (i.val + k) % 4) % 16]
  double (cell 0) ^^^ (double (cell 1) ^^^ cell 1) ^^^ cell 2 ^^^ cell 3

/-- A round before the last. -/
def round (b k : Block) : Block := plus (mixColumns (shiftRows (b.map lookup))) k

/-- The last round mixes no columns. -/
def lastRound (b k : Block) : Block := plus (shiftRows (b.map lookup)) k

/-- A block under the key with those round keys. -/
def encryptWith (keys : List Block) (b : Block) : Block :=
  match keys with
  | [] => b
  | first :: rest => lastRound (rest.dropLast.foldl round (plus b first)) (rest.getLastD first)

/-- The 15 round keys. -/
def roundKeys (key : Key) : List Block :=
  let columns := expand key
  (List.range 15).map (roundKey columns)

/-- A block under a key. -/
def encrypt (key : Key) : Block → Block :=
  let keys := roundKeys key
  encryptWith keys

end CrashReporter.Aes256
