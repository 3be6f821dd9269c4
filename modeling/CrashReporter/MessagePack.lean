import CrashReporter.Double
import CrashReporter.Text.Utf8

/-!
# MessagePack

Values, their shortest packed form, and the reader of packed forms. A header tells the kind of a
value and its size; the shortest header for a size is the one that is written, any is read.
-/

namespace CrashReporter.MessagePack

/-- A packed value. -/
inductive Value where
  | nil
  | bool (b : Bool)
  | int (n : Int)
  | double (d : Double)
  | text (s : String)
  | bytes (bs : Bytes)
  | list (items : List Value)
  | map (entries : List (Value × Value))
  deriving Inhabited

/-- One byte for a header. -/
def header (n : Nat) : Bytes := [UInt8.ofNat n]

/-- A natural number in the fewest bytes. -/
def packNat (n : Nat) : Bytes :=
  if n < 0x80 then header n
  else if n < 0x100 then header 0xCC ++ Bytes.bigEndian 1 n
  else if n < 0x10000 then header 0xCD ++ Bytes.bigEndian 2 n
  else if n < 0x100000000 then header 0xCE ++ Bytes.bigEndian 4 n
  else header 0xCF ++ Bytes.bigEndian 8 n

/-- The negative number `-m` in the fewest bytes, as its two's complement. -/
def packNegative (m : Nat) : Bytes :=
  if m ≤ 0x20 then header (0x100 - m)
  else if m ≤ 0x80 then header 0xD0 ++ Bytes.bigEndian 1 (0x100 - m)
  else if m ≤ 0x8000 then header 0xD1 ++ Bytes.bigEndian 2 (0x10000 - m)
  else if m ≤ 0x80000000 then header 0xD2 ++ Bytes.bigEndian 4 (0x100000000 - m)
  else header 0xD3 ++ Bytes.bigEndian 8 (0x10000000000000000 - m)

/-- A whole number in the fewest bytes. -/
def packInt (n : Int) : Bytes := if 0 ≤ n then packNat n.natAbs else packNegative n.natAbs

/-- A double, always in nine bytes. -/
def packDouble (d : Double) : Bytes := header 0xCB ++ Bytes.bigEndian 8 d.bits.toNat

/-- The header of a text of `n` bytes. -/
def textHeader (n : Nat) : Bytes :=
  if n < 32 then header (0xA0 + n)
  else if n < 0x100 then header 0xD9 ++ Bytes.bigEndian 1 n
  else if n < 0x10000 then header 0xDA ++ Bytes.bigEndian 2 n
  else header 0xDB ++ Bytes.bigEndian 4 n

/-- A text: its size and its bytes. -/
def packText (s : String) : Bytes :=
  let bs := Text.utf8 s
  textHeader bs.length ++ bs

/-- The header of a string of `n` bytes. -/
def bytesHeader (n : Nat) : Bytes :=
  if n < 0x100 then header 0xC4 ++ Bytes.bigEndian 1 n
  else if n < 0x10000 then header 0xC5 ++ Bytes.bigEndian 2 n
  else header 0xC6 ++ Bytes.bigEndian 4 n

/-- The header of a list of `n` items. -/
def listHeader (n : Nat) : Bytes :=
  if n < 16 then header (0x90 + n)
  else if n < 0x10000 then header 0xDC ++ Bytes.bigEndian 2 n
  else header 0xDD ++ Bytes.bigEndian 4 n

/-- The header of a map of `n` entries. -/
def mapHeader (n : Nat) : Bytes :=
  if n < 16 then header (0x80 + n)
  else if n < 0x10000 then header 0xDE ++ Bytes.bigEndian 2 n
  else header 0xDF ++ Bytes.bigEndian 4 n

mutual

/-- The shortest packed form. -/
def pack : Value → Bytes
  | .nil => header 0xC0
  | .bool false => header 0xC2
  | .bool true => header 0xC3
  | .int n => packInt n
  | .double d => packDouble d
  | .text s => packText s
  | .bytes bs => bytesHeader bs.length ++ bs
  | .list items => listHeader items.length ++ packItems items
  | .map entries => mapHeader entries.length ++ packEntries entries

/-- Items one after the other. -/
def packItems : List Value → Bytes
  | [] => []
  | v :: vs => pack v ++ packItems vs

/-- Entries one after the other, each as its key and its value. -/
def packEntries : List (Value × Value) → Bytes
  | [] => []
  | (k, v) :: es => pack k ++ (pack v ++ packEntries es)

end

/-! ## Reading -/

/-- The first `n` bytes and the rest, if there are that many. -/
def takeBytes (n : Nat) (s : Bytes) : Option (Bytes × Bytes) :=
  let start := s.take n
  if start.length = n then some (start, s.drop n) else none

/-- A natural number of `n` bytes. -/
def takeNat (n : Nat) (s : Bytes) : Option (Nat × Bytes) := do
  let (digits, rest) ← takeBytes n s
  return (digits.toNat, rest)

/-- A whole number of `n` bytes in two's complement. -/
def takeInt (n : Nat) (s : Bytes) : Option (Int × Bytes) := do
  let (v, rest) ← takeNat n s
  return (if 2 * v < Nat.pow 256 n then (v : Int) else (v : Int) - ((Nat.pow 256 n : Nat) : Int), rest)

/-- A text of `n` bytes. -/
def takeText (n : Nat) (s : Bytes) : Option (Value × Bytes) := do
  let (bs, rest) ← takeBytes n s
  return (.text (← Text.ofUtf8? bs), rest)

/-- A string of `n` bytes. -/
def takeString (n : Nat) (s : Bytes) : Option (Value × Bytes) := do
  let (bs, rest) ← takeBytes n s
  return (.bytes bs, rest)

mutual

/-- The first value; the number bounds the depth of the recursion. -/
def unpackN : Nat → Bytes → Option (Value × Bytes)
  | 0, _ => none
  | _ + 1, [] => none
  | f + 1, b :: s =>
    let n := b.toNat
    let int (r : Option (Int × Bytes)) : Option (Value × Bytes) := r.map fun (v, t) => (.int v, t)
    let nat (r : Option (Nat × Bytes)) : Option (Value × Bytes) := r.map fun (v, t) => (.int v, t)
    if n < 0x80 then some (.int n, s)
    else if n < 0x90 then unpackEntriesN f (n - 0x80) [] s
    else if n < 0xA0 then unpackItemsN f (n - 0x90) [] s
    else if n < 0xC0 then takeText (n - 0xA0) s
    else if 0xE0 ≤ n then some (.int ((n : Int) - 0x100), s)
    else match n with
      | 0xC0 => some (.nil, s)
      | 0xC2 => some (.bool false, s)
      | 0xC3 => some (.bool true, s)
      | 0xC4 => do let (k, t) ← takeNat 1 s; takeString k t
      | 0xC5 => do let (k, t) ← takeNat 2 s; takeString k t
      | 0xC6 => do let (k, t) ← takeNat 4 s; takeString k t
      | 0xCB => do let (k, t) ← takeNat 8 s; some (.double ⟨UInt64.ofNat k⟩, t)
      | 0xCC => nat (takeNat 1 s)
      | 0xCD => nat (takeNat 2 s)
      | 0xCE => nat (takeNat 4 s)
      | 0xCF => nat (takeNat 8 s)
      | 0xD0 => int (takeInt 1 s)
      | 0xD1 => int (takeInt 2 s)
      | 0xD2 => int (takeInt 4 s)
      | 0xD3 => int (takeInt 8 s)
      | 0xD9 => do let (k, t) ← takeNat 1 s; takeText k t
      | 0xDA => do let (k, t) ← takeNat 2 s; takeText k t
      | 0xDB => do let (k, t) ← takeNat 4 s; takeText k t
      | 0xDC => do let (k, t) ← takeNat 2 s; unpackItemsN f k [] t
      | 0xDD => do let (k, t) ← takeNat 4 s; unpackItemsN f k [] t
      | 0xDE => do let (k, t) ← takeNat 2 s; unpackEntriesN f k [] t
      | 0xDF => do let (k, t) ← takeNat 4 s; unpackEntriesN f k [] t
      | _ => none

/-- The items still to come of a list whose others are in `acc`, latest first. -/
def unpackItemsN : Nat → Nat → List Value → Bytes → Option (Value × Bytes)
  | 0, _, _, _ => none
  | _ + 1, 0, acc, s => some (.list acc.reverse, s)
  | f + 1, n + 1, acc, s => do
    let (v, s) ← unpackN f s
    unpackItemsN f n (v :: acc) s

/-- The entries still to come of a map whose others are in `acc`, latest first. -/
def unpackEntriesN : Nat → Nat → List (Value × Value) → Bytes → Option (Value × Bytes)
  | 0, _, _, _ => none
  | _ + 1, 0, acc, s => some (.map acc.reverse, s)
  | f + 1, n + 1, acc, s => do
    let (k, s) ← unpackN f s
    let (v, s) ← unpackN f s
    unpackEntriesN f n ((k, v) :: acc) s

end

/-- The first value and the bytes behind it. -/
def unpack? (s : Bytes) : Option (Value × Bytes) := unpackN (2 * s.length + 2) s

end CrashReporter.MessagePack
