import CrashReporter.Text.Utf8

/-!
# Percent encoding

A byte that an address cannot hold is written as a percent sign and two hexadecimal digits. What reads
such a text leaves a percent sign that no two digits follow as it is.
-/

namespace CrashReporter.Text.Percent

/-- A byte as a percent sign and two digits. -/
def encodeByte (b : UInt8) : List Char :=
  '%' :: (Nat.toDigits 16 (256 + b.toNat)).tail.map Char.toUpper

/-- A text in which the characters that `escapes` names, and all beyond ASCII, are encoded. -/
def encode (escapes : Char → Bool) (cs : List Char) : List Char :=
  cs.flatMap fun c =>
    if c.toNat < 0x7F && !escapes c then [c] else (String.utf8EncodeChar c).flatMap encodeByte

/-- The bytes that a text stands for. -/
def decode : List Char → Bytes
  | [] => []
  | '%' :: a :: b :: rest =>
    match Bytes.hexValue? a, Bytes.hexValue? b with
    | some h, some l => UInt8.ofNat (16 * h + l) :: decode rest
    | _, _ => 0x25 :: decode (a :: b :: rest)
  | c :: rest => String.utf8EncodeChar c ++ decode rest

/-- Whether a control character of ASCII. -/
def isControl (c : Char) : Bool := c.toNat < 0x20 || c.toNat == 0x7F

/-- What is encoded in the part behind `#`. -/
def inFragment (c : Char) : Bool := isControl c || " \"<>`".contains c

/-- What is encoded in a path. -/
def inPath (c : Char) : Bool := inFragment c || "#?\x7b\x7d".contains c

/-- What is encoded in a query. -/
def inQuery (c : Char) : Bool := isControl c || " \"#<>".contains c

end CrashReporter.Text.Percent
