import CrashReporter.Text.Numeral
import CrashReporter.Text.Percent

/-!
# Hosts

The host in an address: a name in lower case, or the number of a machine in its shortest spelling. A
name whose last part is a number has to be four numbers' worth of one.
-/

namespace CrashReporter.Host

open Text

/-- The number that digits spell; no digits spell zero. -/
def digitsOf? (base : Nat) (cs : List Char) : Option Nat :=
  cs.foldlM (fun n c => (Bytes.hexValue? c).bind fun d => if d < base then some (base * n + d) else none) 0

/-- A part of a machine's number: hexadecimal after `0x`, octal after `0`, decimal otherwise. -/
def part? : List Char → Option Nat
  | [] => none
  | '0' :: 'x' :: rest | '0' :: 'X' :: rest => digitsOf? 16 rest
  | '0' :: rest => digitsOf? 8 rest
  | cs => digitsOf? 10 cs

/-- The parts of a name, less an empty last one. -/
def parts (name : String) : List String :=
  match (name.splitOn ".").reverse with
  | "" :: p :: more => (p :: more).reverse
  | ps => ps.reverse

/-- Whether the last part of a name makes it a machine's number. -/
def endsInNumber (name : String) : Bool :=
  match (parts name).getLast? with
  | some p =>
    (!p.isEmpty && p.toList.all Char.isDigit)
      || ((p.startsWith "0x" || p.startsWith "0X") && (part? p.toList).isSome)
  | none => false

/-- A number's four bytes, between points. -/
def dotted (n : Nat) : String := ".".intercalate ((Bytes.bigEndian 4 n).map fun b => toString b.toNat)

/-- A machine's number: up to four parts, the last of which fills all the bytes that are left. -/
def number4? (name : String) : Option Nat := do
  let ns ← (parts name).mapM fun p => part? p.toList
  match ns.reverse with
  | last :: first =>
    if 3 < first.length || first.any (255 < ·) || Nat.pow 256 (4 - first.length) ≤ last then none
    else some (first.reverse.zipIdx.foldl (fun sum (n, i) => sum + n * Nat.pow 256 (3 - i)) last)
  | [] => none

/-- Four decimal numbers as two groups of a longer machine's number. -/
def tailGroups? (cs : List Char) : Option (List Nat) := do
  let ns ← ((String.ofList cs).splitOn ".").mapM fun p =>
    if p.isEmpty || (p.startsWith "0" && p != "0") then none
    else (digitsOf? 10 p.toList).filter (· < 256)
  match ns with
  | [a, b, c, d] => some [256 * a + b, 256 * c + d]
  | _ => none

/-- Groups of up to four hexadecimal digits between colons. -/
def groups? (cs : List Char) : Option (List Nat) := do
  if cs.isEmpty then return []
  let pieces := (String.ofList cs).splitOn ":"
  let group? (p : String) : Option Nat :=
    if p.isEmpty || 4 < p.length then none else digitsOf? 16 p.toList
  let last := (pieces.getLastD "").toList
  return (← pieces.dropLast.mapM group?) ++
    (← if last.contains '.' then tailGroups? last else (group? (String.ofList last)).map ([·]))

/-- A longer machine's number: eight groups, of which zeros may be left out at one place. -/
def number6? (s : String) : Option (List Nat) := do
  match s.splitOn "::" with
  | [all] => (← groups? all.toList) |> fun gs => if gs.length = 8 then some gs else none
  | [first, last] =>
    if (first.toList.contains '.') then none
    let a ← groups? first.toList
    let b ← groups? last.toList
    if a.length + b.length ≤ 7 then some (a ++ List.replicate (8 - a.length - b.length) 0 ++ b) else none
  | _ => none

/-- How many zeros the list begins with. -/
def leadingZeros (gs : List Nat) : Nat := (gs.takeWhile (· == 0)).length

/-- Groups without their first longest run of zeros, if there are two or more. -/
def shortest6 (gs : List Nat) : String :=
  let text (gs : List Nat) := ":".intercalate (gs.map fun g => String.ofList (Nat.toDigits 16 g))
  let runs := (List.range gs.length).map fun i => leadingZeros (gs.drop i)
  let longest := runs.foldl max 0
  if longest < 2 then text gs
  else
    let i := runs.findIdx (· == longest)
    text (gs.take i) ++ "::" ++ text (gs.drop (i + longest))

/-- Whether no host has the character. -/
def isForbidden (c : Char) : Bool := c.toNat = 0 || "\t\n\r #/:<>?@[\\]^|".contains c

/-- The host in a special address. A name beyond ASCII is refused. -/
def ofSpecial? (cs : List Char) : Option String := do
  match cs with
  | '[' :: rest =>
    if rest.getLast? ≠ some ']' then none
    return "[" ++ shortest6 (← number6? (String.ofList rest.dropLast)) ++ "]"
  | cs =>
    let name := (← ofUtf8? (Percent.decode cs)).toLower
    if name.isEmpty || name.toList.any (fun c => isForbidden c || Percent.isControl c || c == '%' || 0x7F < c.toNat) then
      none
    else if endsInNumber name then return dotted (← number4? name)
    else return name

/-- The host in any other address; it may be empty, and keeps its spelling. -/
def ofOther? (cs : List Char) : Option String :=
  match cs with
  | '[' :: _ => ofSpecial? cs
  | cs => if cs.any isForbidden then none else some (String.ofList (Percent.encode Percent.isControl cs))

end CrashReporter.Host
