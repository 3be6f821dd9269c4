import CrashReporter.Double.Shortest
import CrashReporter.Json.Value

/-!
# Writing JSON

The compact form has no blanks. The pretty form puts each item and member on a line of its own,
indented by two blanks a level; an empty list or object stays on one line.
-/

namespace CrashReporter.Json

/-- Four hexadecimal digits. -/
def fourHex (n : Nat) : List Char :=
  [0x1000, 0x100, 0x10, 1].map fun p => "0123456789abcdef".toList.getD (n / p % 16) '0'

/-- A character inside quotes. -/
def escapeChar (c : Char) : List Char :=
  if c = '"' then ['\\', '"']
  else if c = '\\' then ['\\', '\\']
  else if c.toNat = 8 then ['\\', 'b']
  else if c.toNat = 9 then ['\\', 't']
  else if c.toNat = 10 then ['\\', 'n']
  else if c.toNat = 12 then ['\\', 'f']
  else if c.toNat = 13 then ['\\', 'r']
  else if c.toNat < 0x20 then '\\' :: 'u' :: fourHex c.toNat
  else [c]

/-- A text in quotes. -/
def quote (s : String) : List Char := '"' :: (s.toList.flatMap escapeChar ++ ['"'])

/-- The digits of a natural number. -/
def natDigits (n : Nat) : List Char := Nat.toDigits 10 n

/-- The digits of a whole number. -/
def intDigits (n : Int) : List Char :=
  if n < 0 then '-' :: natDigits n.natAbs else natDigits n.natAbs

/-- How a finite double is written: with the fewest digits that read back, without an exponent if
the first digit stands between the sixteenth place before the point and the fifth behind it. -/
def doubleDigits (d : Double) : List Char :=
  let s := d.shortest
  let ds := natDigits s.digits
  let point : Int := s.exponent + ds.length
  let sign := if d.isNegative then ['-'] else []
  let body :=
    if s.digits = 0 then ['0', '.', '0']
    else if -5 < point ∧ point ≤ 16 then
      if point ≤ 0 then '0' :: '.' :: (List.replicate (-point).toNat '0' ++ ds)
      else if ds.length ≤ point.toNat then
        ds ++ List.replicate (point.toNat - ds.length) '0' ++ ['.', '0']
      else ds.take point.toNat ++ '.' :: ds.drop point.toNat
    else
      let e := point - 1
      let mark := if e < 0 then 'e' :: '-' :: natDigits e.natAbs else 'e' :: '+' :: natDigits e.natAbs
      match ds with
      | [one] => one :: mark
      | one :: more => one :: '.' :: (more ++ mark)
      | [] => mark
  sign ++ body

/-- A number. -/
def Number.chars : Number → List Char
  | .whole n => intDigits n
  | .double d => doubleDigits d

mutual

/-- A value without blanks. -/
def Value.compactChars : Value → List Char
  | .null => "null".toList
  | .bool true => "true".toList
  | .bool false => "false".toList
  | .number n => n.chars
  | .text s => quote s
  | .list [] => ['[', ']']
  | .list (v :: vs) => '[' :: (v.compactChars ++ compactItems vs)
  | .object [] => ['\x7b', '\x7d']
  | .object ((k, v) :: ms) => '\x7b' :: (quote k ++ ':' :: (v.compactChars ++ compactMembers ms))

/-- The items behind the first, and the closing bracket. -/
def compactItems : List Value → List Char
  | [] => [']']
  | v :: vs => ',' :: (v.compactChars ++ compactItems vs)

/-- The members behind the first, and the closing brace. -/
def compactMembers : List (String × Value) → List Char
  | [] => ['\x7d']
  | (k, v) :: ms => ',' :: (quote k ++ ':' :: (v.compactChars ++ compactMembers ms))

end

/-- A new line at a level. -/
def newLine (level : Nat) : List Char := '\n' :: List.replicate (2 * level) ' '

mutual

/-- A value with a line for each item and member; `level` is that of the line it starts on. -/
def Value.prettyChars (level : Nat) : Value → List Char
  | .null => "null".toList
  | .bool true => "true".toList
  | .bool false => "false".toList
  | .number n => n.chars
  | .text s => quote s
  | .list [] => ['[', ']']
  | .list (v :: vs) =>
    '[' :: (newLine (level + 1) ++ v.prettyChars (level + 1) ++ prettyItems level vs)
  | .object [] => ['\x7b', '\x7d']
  | .object ((k, v) :: ms) =>
    '\x7b' :: (newLine (level + 1) ++ quote k ++ ':' :: ' ' :: (v.prettyChars (level + 1) ++ prettyMembers level ms))

/-- The items behind the first, and the closing bracket. -/
def prettyItems (level : Nat) : List Value → List Char
  | [] => newLine level ++ [']']
  | v :: vs => ',' :: (newLine (level + 1) ++ v.prettyChars (level + 1) ++ prettyItems level vs)

/-- The members behind the first, and the closing brace. -/
def prettyMembers (level : Nat) : List (String × Value) → List Char
  | [] => newLine level ++ ['\x7d']
  | (k, v) :: ms =>
    ',' :: (newLine (level + 1) ++ quote k ++ ':' :: ' ' :: (v.prettyChars (level + 1) ++ prettyMembers level ms))

end

/-- The compact form. -/
def Value.compact (v : Value) : String := String.ofList v.compactChars

/-- The pretty form. -/
def Value.pretty (v : Value) : String := String.ofList (v.prettyChars 0)

end CrashReporter.Json
