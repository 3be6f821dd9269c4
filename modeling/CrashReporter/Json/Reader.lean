import CrashReporter.Json.Fault
import CrashReporter.Table
import CrashReporter.Text.Utf8

/-!
# Reading JSON

A reader takes the bytes not yet read and answers with what it read and the bytes behind it.
`Value.read` reads any value, no deeper than a given number of levels; `skipValue` reads past a value
that nobody asked for, at any depth and without a look at its texts' encoding or its numbers' size.

The recursion is bounded by the length of the text, which every step shortens.
-/

namespace CrashReporter.Json

/-- A flaw noticed with `rest` unread. -/
def flawBefore {α : Type} (flaw : Flaw) (rest : Bytes) : Except Fault α :=
  .error ⟨flaw, rest.length⟩

/-- A flaw noticed in the first byte of `rest`, or at the end of the text. -/
def flawAt {α : Type} (flaw : Flaw) (rest : Bytes) : Except Fault α :=
  .error ⟨flaw, rest.length - 1⟩

/-- The blanks between tokens: space, tab, line feed and carriage return. -/
def isBlankByte (b : UInt8) : Bool := b == 0x20 || b == 9 || b == 10 || b == 13

/-- The text from the next token on. -/
def skipBlanks (s : Bytes) : Bytes := s.dropWhile isBlankByte

/-- Whether the byte is a decimal digit. -/
def isDigit (b : UInt8) : Bool := 0x30 ≤ b && b ≤ 0x39

/-- The rest of a literal whose first letter has been read. -/
def literal : List Char → Bytes → Except Fault Bytes
  | [], s => .ok s
  | _ :: _, [] => flawBefore .endInValue []
  | c :: cs, b :: rest => if b.toNat = c.toNat then literal cs rest else flawBefore .noLiteral rest

/-! ## Texts -/

/-- The value of a hexadecimal digit. -/
def hexByte? (b : UInt8) : Option Nat := Bytes.hexValue? (Char.ofNat b.toNat)

/-- Four hexadecimal digits. -/
def fourHexDigits : Bytes → Except Fault (Nat × Bytes)
  | a :: b :: c :: d :: rest =>
    match hexByte? a, hexByte? b, hexByte? c, hexByte? d with
    | some a, some b, some c, some d => .ok (((a * 16 + b) * 16 + c) * 16 + d, rest)
    | _, _, _, _ => flawBefore .badEscape rest
  | _ => flawBefore .endInText []

/-- The bytes of a character. -/
def charBytes (code : Nat) : Bytes := String.utf8EncodeChar (Char.ofNat code)

/-- The character of an escape in hexadecimal, behind the letter `u`: one unit of UTF-16, or two
escapes in a row for a character beyond the first 65536. -/
def unicodeEscape (s : Bytes) : Except Fault (Bytes × Bytes) := do
  let (unit, s) ← fourHexDigits s
  if 0xDC00 ≤ unit ∧ unit ≤ 0xDFFF then flawBefore .loneSurrogate s
  else if unit < 0xD800 ∨ 0xDBFF < unit then return (charBytes unit, s)
  else match s with
    | [] => flawBefore .endInText []
    | [0x5C] => flawBefore .endInText []
    | 0x5C :: 0x75 :: s => do
      let (low, s) ← fourHexDigits s
      if low < 0xDC00 ∨ 0xDFFF < low then flawBefore .loneSurrogate s
      else return (charBytes (0x10000 + (unit - 0xD800) * 0x400 + (low - 0xDC00)), s)
    | 0x5C :: _ :: s => flawBefore .halfPair s
    | _ :: s => flawBefore .halfPair s

/-- The bytes that an escape stands for, behind the backslash. -/
def escape : Bytes → Except Fault (Bytes × Bytes)
  | [] => flawBefore .endInText []
  | b :: rest =>
    if b = 0x22 ∨ b = 0x5C ∨ b = 0x2F then .ok ([b], rest)
    else if b = 0x62 then .ok ([8], rest)
    else if b = 0x66 then .ok ([12], rest)
    else if b = 0x6E then .ok ([10], rest)
    else if b = 0x72 then .ok ([13], rest)
    else if b = 0x74 then .ok ([9], rest)
    else if b = 0x75 then unicodeEscape rest
    else flawBefore .badEscape rest

/-- The bytes up to the closing quote; `acc` holds the ones before, latest first. -/
def textBytes : Nat → Bytes → Bytes → Except Fault (Bytes × Bytes)
  | 0, _, s => flawBefore .endInText s
  | _ + 1, _, [] => flawBefore .endInText []
  | n + 1, acc, b :: rest =>
    if b = 0x22 then .ok (acc.reverse, rest)
    else if b = 0x5C then do
      let (bytes, rest) ← escape rest
      textBytes n (bytes.reverse ++ acc) rest
    else if b < 0x20 then flawBefore .controlCharacter rest
    else textBytes n (b :: acc) rest

/-- A text behind its opening quote. Bytes that spell no text are noticed before the closing quote. -/
def readText (s : Bytes) : Except Fault (String × Bytes) := do
  let (bytes, rest) ← textBytes (s.length + 1) [] s
  match Text.ofUtf8? bytes with
  | some text => return (text, rest)
  | none => flawBefore .badCodePoint (0x22 :: rest)

/-- The rest behind a text that nobody asked for; its bytes need spell no characters. -/
def skipText : Nat → Bytes → Except Fault Bytes
  | 0, s => flawBefore .endInText s
  | _ + 1, [] => flawBefore .endInText []
  | n + 1, b :: rest =>
    if b = 0x22 then .ok rest
    else if b = 0x5C then
      match rest with
      | [] => flawBefore .endInText []
      | e :: rest =>
        if e = 0x75 then do
          let (_, rest) ← fourHexDigits rest
          skipText n rest
        else if e ∈ ([0x22, 0x5C, 0x2F, 0x62, 0x66, 0x6E, 0x72, 0x74] : Bytes) then skipText n rest
        else flawBefore .badEscape rest
    else if b < 0x20 then flawBefore .controlCharacter (b :: rest)
    else skipText n rest

/-! ## Numbers

A number's digits are gathered into one significand of 64 bits; digits that no longer fit count
only by their places. A number with a fraction or an exponent, or too large for an integer, is the
double nearest to the significand, multiplied or divided by a power of ten. -/

/-- The greatest significand. -/
def maxWord : Nat := UInt64.size - 1

/-- Digits gathered behind `n` while they fit; how many did, and the text behind them. -/
def gatherDigits : Nat → Nat → Bytes → Nat × Nat × Bytes
  | n, used, [] => (n, used, [])
  | n, used, b :: rest =>
    if isDigit b then
      let n' := 10 * n + (b.toNat - 0x30)
      if n' ≤ maxWord then gatherDigits n' (used + 1) rest else (n, used, b :: rest)
    else (n, used, b :: rest)

/-- `significand * 10 ^ exponent`, or none if it is beyond every finite double. Powers beyond
`10 ^ 308` are taken in steps. -/
def scaled : Nat → Double → Int → Option Double
  | 0, d, _ => some d
  | n + 1, d, exponent =>
    if exponent.natAbs ≤ 308 then
      if 0 ≤ exponent then
        let product := d.mul (.tenToThe exponent.toNat)
        if product.isInfinite then none else some product
      else some (d.div (.tenToThe exponent.natAbs))
    else if d.significand = 0 then some d
    else if 0 ≤ exponent then none
    else scaled n (d.div (.tenToThe 308)) (exponent + 308)

/-- A double with a sign. -/
def signed (positive : Bool) (d : Double) : Double := if positive then d else d.neg

/-- The double of a significand and a power of ten, with `rest` unread. -/
def finishDouble (positive : Bool) (significand : Nat) (exponent : Int) (rest : Bytes) :
    Except Fault (Number × Bytes) :=
  match scaled (exponent.natAbs / 308 + 2) (.ofWord (UInt64.ofNat significand)) exponent with
  | some d => .ok (.double (signed positive d), rest)
  | none => flawBefore .outOfRange rest

/-- The digits of an exponent behind the first; past 31 bits the exponent is out of range. -/
def exponentDigits : Nat → Bytes → Except Bytes (Nat × Bytes)
  | e, [] => .ok (e, [])
  | e, b :: rest =>
    if isDigit b then
      let e' := 10 * e + (b.toNat - 0x30)
      if e' ≤ 2147483647 then exponentDigits e' rest else .error rest
    else .ok (e, b :: rest)

/-- A number from the letter of its exponent on, which is read. -/
def readExponent (positive : Bool) (significand : Nat) (start : Int) (s : Bytes) :
    Except Fault (Number × Bytes) :=
  let (up, s) := match s with
    | 0x2B :: s => (true, s)
    | 0x2D :: s => (false, s)
    | s => (true, s)
  match s with
  | [] => flawBefore .endInValue []
  | b :: rest =>
    if isDigit b then
      match exponentDigits (b.toNat - 0x30) rest with
      | .ok (e, rest) => finishDouble positive significand (if up then start + e else start - e) rest
      | .error rest =>
        if significand ≠ 0 ∧ up then flawBefore .outOfRange rest
        else .ok (.double (signed positive .zero), rest.dropWhile isDigit)
    else flawBefore .badNumber rest

/-- Whether the byte starts an exponent. -/
def isExponentMark (b : UInt8) : Bool := b == 0x65 || b == 0x45

/-- A double once its digits are read: with an exponent if one follows. -/
def finishDigits (positive : Bool) (significand : Nat) (start : Int) (s : Bytes) : Except Fault (Number × Bytes) :=
  match s with
  | b :: rest =>
    if isExponentMark b then readExponent positive significand start rest
    else finishDouble positive significand start s
  | [] => finishDouble positive significand start s

/-- A number from behind its point on. -/
def readFraction (positive : Bool) (significand : Nat) (places : Nat) (s : Bytes) : Except Fault (Number × Bytes) :=
  let (n, used, rest) := gatherDigits significand 0 s
  let more := rest.dropWhile isDigit
  if used = 0 ∧ more.length = rest.length then
    match s with
    | [] => flawAt .endInValue []
    | s => flawAt .badNumber s
  else finishDigits positive n ((places : Int) - used) more

/-- A number behind its whole digits: `places` of them did not fit into the significand. -/
def finishNumber (positive : Bool) (significand places : Nat) (s : Bytes) : Except Fault (Number × Bytes) :=
  let asDouble := finishDouble positive significand places s
  let asWhole : Except Fault (Number × Bytes) :=
    if 0 < places then asDouble
    else if positive then .ok (.whole significand, s)
    else if 0 < significand ∧ significand ≤ 0x8000000000000000 then .ok (.whole (-significand), s)
    else asDouble
  match s with
  | b :: rest =>
    if b = 0x2E then readFraction positive significand places rest
    else if isExponentMark b then readExponent positive significand places rest
    else asWhole
  | [] => asWhole

/-- A number behind its sign. -/
def readNumber (positive : Bool) (s : Bytes) : Except Fault (Number × Bytes) :=
  match s with
  | [] => flawBefore .endInValue []
  | b :: rest =>
    if b = 0x30 then
      match rest with
      | d :: _ => if isDigit d then flawAt .badNumber rest else finishNumber positive 0 0 rest
      | [] => finishNumber positive 0 0 rest
    else if isDigit b then
      let (n, _, rest) := gatherDigits 0 0 s
      let more := rest.dropWhile isDigit
      finishNumber positive n (rest.length - more.length) more
    else flawBefore .badNumber rest

/-- The rest behind an exponent that nobody asked for. -/
def skipExponent (s : Bytes) : Except Fault Bytes :=
  let s := match s with
    | 0x2B :: s => s
    | 0x2D :: s => s
    | s => s
  match s with
  | b :: rest => if isDigit b then .ok (rest.dropWhile isDigit) else flawBefore .badNumber rest
  | [] => flawBefore .badNumber []

/-- The rest behind a number that nobody asked for, from behind its sign. -/
def skipNumber (s : Bytes) : Except Fault Bytes := do
  let s ← match s with
    | b :: rest =>
      if b = 0x30 then
        match rest with
        | d :: _ => if isDigit d then flawAt .badNumber rest else .ok rest
        | [] => .ok rest
      else if isDigit b then .ok (rest.dropWhile isDigit)
      else flawBefore .badNumber rest
    | [] => flawBefore .badNumber []
  match s with
  | b :: rest =>
    if b = 0x2E then
      let more := rest.dropWhile isDigit
      if more.length = rest.length then flawAt .badNumber rest
      else match more with
        | e :: after => if isExponentMark e then skipExponent after else .ok more
        | [] => .ok more
    else if isExponentMark b then skipExponent rest
    else .ok s
  | [] => .ok s

/-! ## Values -/

/-- Where an item of a list begins, or the text behind the list's closing bracket. -/
inductive Next where
  | item (s : Bytes)
  | done (rest : Bytes)

/-- The next item of a list; `first` if none came before. -/
def nextItem (first : Bool) (s : Bytes) : Except Fault Next :=
  match skipBlanks s with
  | [] => flawAt .endInList []
  | b :: rest =>
    if b = 0x5D then .ok (.done rest)
    else if first then .ok (.item (b :: rest))
    else if b = 0x2C then
      match skipBlanks rest with
      | [] => flawAt .endInValue []
      | c :: after => if c = 0x5D then flawAt .trailingComma (c :: after) else .ok (.item (c :: after))
    else flawAt .noListEnd (b :: rest)

/-- The next member of an object, from behind the opening quote of its key. -/
def nextMember (first : Bool) (s : Bytes) : Except Fault Next :=
  let key : Bytes → Except Fault Next
    | [] => flawAt .endInValue []
    | b :: rest => if b = 0x22 then .ok (.item rest) else flawAt .keyNotText (b :: rest)
  match skipBlanks s with
  | [] => flawAt .endInObject []
  | b :: rest =>
    if b = 0x7D then .ok (.done rest)
    else if first then key (b :: rest)
    else if b = 0x2C then
      match skipBlanks rest with
      | 0x7D :: after => flawAt .trailingComma (0x7D :: after)
      | t => key t
    else flawAt .noObjectEnd (b :: rest)

/-- The text behind the colon between a key and its value. -/
def afterColon (s : Bytes) : Except Fault Bytes :=
  match skipBlanks s with
  | [] => flawAt .endInObject []
  | b :: rest => if b = 0x3A then .ok rest else flawAt .noColon (b :: rest)

mutual

/-- Any value of at most `depth - 1` levels of lists and objects. -/
def readValueN : Nat → Nat → Bytes → Except Fault (Value × Bytes)
  | 0, _, s => flawBefore .endInValue s
  | n + 1, depth, s =>
    match skipBlanks s with
    | [] => flawAt .endInValue []
    | b :: rest =>
      if b = 0x6E then do return (.null, ← literal "ull".toList rest)
      else if b = 0x74 then do return (.bool true, ← literal "rue".toList rest)
      else if b = 0x66 then do return (.bool false, ← literal "alse".toList rest)
      else if b = 0x2D then do
        let (v, rest) ← readNumber false rest
        return (.number v, rest)
      else if isDigit b then do
        let (v, rest) ← readNumber true (b :: rest)
        return (.number v, rest)
      else if b = 0x22 then do
        let (v, rest) ← readText rest
        return (.text v, rest)
      else if b = 0x5B then
        if depth ≤ 1 then flawAt .tooDeep (b :: rest) else readItemsN n (depth - 1) true [] rest
      else if b = 0x7B then
        if depth ≤ 1 then flawAt .tooDeep (b :: rest) else readMembersN n (depth - 1) true [] rest
      else flawAt .noValue (b :: rest)

/-- The items of a list behind those in `acc`, latest first. -/
def readItemsN : Nat → Nat → Bool → List Value → Bytes → Except Fault (Value × Bytes)
  | 0, _, _, _, s => flawBefore .endInList s
  | n + 1, depth, first, acc, s => do
    match ← nextItem first s with
    | .done rest => return (.list acc.reverse, rest)
    | .item s =>
      let (v, rest) ← readValueN n depth s
      readItemsN n depth false (v :: acc) rest

/-- The members of an object besides those in `acc`. Of a key's values the last one counts. -/
def readMembersN : Nat → Nat → Bool → List (String × Value) → Bytes → Except Fault (Value × Bytes)
  | 0, _, _, _, s => flawBefore .endInObject s
  | n + 1, depth, first, acc, s => do
    match ← nextMember first s with
    | .done rest => return (.object acc, rest)
    | .item s =>
      let (key, rest) ← readText s
      let rest ← afterColon rest
      let (v, rest) ← readValueN n depth rest
      readMembersN n depth false (Table.insertEntry key v acc) rest

end

/-- A bound on the steps that a reader takes on a text. -/
def stepBound (s : Bytes) : Nat := 2 * s.length + 3

/-- Any value of at most `depth - 1` levels of lists and objects. -/
def Value.read (depth : Nat) (s : Bytes) : Except Fault (Value × Bytes) := readValueN (stepBound s) depth s

mutual

/-- The rest behind a value that nobody asked for. -/
def skipValueN : Nat → Bytes → Except Fault Bytes
  | 0, s => flawBefore .endInValue s
  | n + 1, s =>
    match skipBlanks s with
    | [] => flawAt .endInValue []
    | b :: rest =>
      if b = 0x6E then literal "ull".toList rest
      else if b = 0x74 then literal "rue".toList rest
      else if b = 0x66 then literal "alse".toList rest
      else if b = 0x2D then skipNumber rest
      else if isDigit b then skipNumber (b :: rest)
      else if b = 0x22 then skipText (rest.length + 1) rest
      else if b = 0x5B then skipItemsN n true rest
      else if b = 0x7B then skipMembersN n true rest
      else flawAt .noValue (b :: rest)

/-- The rest behind the items of a list. -/
def skipItemsN : Nat → Bool → Bytes → Except Fault Bytes
  | 0, _, s => flawBefore .endInList s
  | n + 1, first, s =>
    match skipBlanks s with
    | [] => flawAt .endInList []
    | b :: rest =>
      if b = 0x2C ∧ first = false then do skipItemsN n false (← skipValueN n rest)
      else if b = 0x5D then .ok rest
      else if first then do skipItemsN n false (← skipValueN n (b :: rest))
      else flawAt .noListEnd (b :: rest)

/-- The rest behind the members of an object. -/
def skipMembersN : Nat → Bool → Bytes → Except Fault Bytes
  | 0, _, s => flawBefore .endInObject s
  | n + 1, first, s =>
    match skipBlanks s with
    | [] => flawAt .endInObject []
    | b :: rest =>
      if b = 0x2C ∧ first = false then skipMemberN n rest
      else if b = 0x7D then .ok rest
      else if first then skipMemberN n (b :: rest)
      else flawAt .noObjectEnd (b :: rest)

/-- The rest behind a member and those that follow it. -/
def skipMemberN : Nat → Bytes → Except Fault Bytes
  | 0, s => flawBefore .endInObject s
  | n + 1, s =>
    match skipBlanks s with
    | [] => flawAt .endInObject []
    | b :: rest =>
      if b = 0x22 then do
        let rest ← skipText (rest.length + 1) rest
        let rest ← afterColon rest
        skipMembersN n false (← skipValueN n rest)
      else flawAt .keyNotText (b :: rest)

end

/-- The rest behind a value that nobody asked for. -/
def skipValue (s : Bytes) : Except Fault Bytes := skipValueN (2 * stepBound s) s

/-- The levels of lists and objects that a text may have, and one. -/
def maxDepth : Nat := 128

/-- Nothing but blanks behind a value. -/
def endOfText (s : Bytes) : Except Fault Unit :=
  match skipBlanks s with
  | [] => .ok ()
  | t => flawAt .trailingText t

/-- The value that a whole text spells. -/
def Value.ofText (s : Bytes) : Except Fault Value := do
  let (v, rest) ← Value.read maxDepth s
  endOfText rest
  return v

end CrashReporter.Json
