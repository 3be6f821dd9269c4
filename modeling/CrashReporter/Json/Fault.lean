import CrashReporter.Bytes
import CrashReporter.Json.Printer
import CrashReporter.Text.Quoted

/-!
# What can be wrong with a JSON text

A text can break the grammar, or hold a value of another type than the reader asked for. Where a
fault was noticed is counted in bytes still unread, and told as a line and a column.
-/

namespace CrashReporter.Json

/-- The kind of value that was found, as a message names it. -/
inductive Found where
  | null
  | bool (b : Bool)
  | number (n : Number)
  | text (s : String)
  | list
  | object

/-- The name of what was found. -/
def Found.message : Found → String
  | .null => "null"
  | .bool b => s!"boolean `{b}`"
  | .number (.whole n) => s!"integer `{n}`"
  | .number (.double d) => s!"floating point `{String.ofList (doubleDigits d)}`"
  | .text s => s!"string {Text.quoted s}"
  | .list => "sequence"
  | .object => "map"

/-- What a value is. -/
def Value.found : Value → Found
  | .null => .null
  | .bool b => .bool b
  | .number n => .number n
  | .text s => .text s
  | .list _ => .list
  | .object _ => .object

/-- A value that is not what was asked for. -/
inductive Mismatch where
  | wrongType (found : Found) (expected : String)
  | wrongValue (found : Found) (expected : String)
  | wrongLength (n : Nat) (expected : String)
  | missing (key : String)
  | duplicate (key : String)
  | other (message : String)

/-- The wording of a mismatch. -/
def Mismatch.message : Mismatch → String
  | .wrongType found expected => s!"invalid type: {found.message}, expected {expected}"
  | .wrongValue found expected => s!"invalid value: {found.message}, expected {expected}"
  | .wrongLength n expected => s!"invalid length {n}, expected {expected}"
  | .missing key => s!"missing field `{key}`"
  | .duplicate key => s!"duplicate field `{key}`"
  | .other message => message

/-- What is wrong. -/
inductive Flaw where
  | endInList
  | endInObject
  | endInText
  | endInValue
  | noColon
  | noListEnd
  | noObjectEnd
  | noLiteral
  | noValue
  | badEscape
  | badNumber
  | outOfRange
  | badCodePoint
  | controlCharacter
  | keyNotText
  | loneSurrogate
  | halfPair
  | trailingComma
  | trailingText
  | tooDeep
  | mismatch (m : Mismatch)

/-- The wording of a flaw. -/
def Flaw.message : Flaw → String
  | .endInList => "EOF while parsing a list"
  | .endInObject => "EOF while parsing an object"
  | .endInText => "EOF while parsing a string"
  | .endInValue => "EOF while parsing a value"
  | .noColon => "expected `:`"
  | .noListEnd => "expected `,` or `]`"
  | .noObjectEnd => "expected `,` or `\x7d`"
  | .noLiteral => "expected ident"
  | .noValue => "expected value"
  | .badEscape => "invalid escape"
  | .badNumber => "invalid number"
  | .outOfRange => "number out of range"
  | .badCodePoint => "invalid unicode code point"
  | .controlCharacter => "control character (\\u0000-\\u001F) found while parsing a string"
  | .keyNotText => "key must be a string"
  | .loneSurrogate => "lone leading surrogate in hex escape"
  | .halfPair => "unexpected end of hex escape"
  | .trailingComma => "trailing comma"
  | .trailingText => "trailing characters"
  | .tooDeep => "recursion limit exceeded"
  | .mismatch m => m.message

/-- A flaw, and how many bytes were unread where it was noticed. -/
structure Fault where
  flaw : Flaw
  unread : Nat

/-- The line and the column up to the end of what was read: lines from one, columns in bytes. -/
def lineColumn (read : Bytes) : Nat × Nat :=
  (1 + read.count 10, (read.reverse.takeWhile (· != 10)).length)

/-- The wording of a fault in a text. -/
def Fault.message (f : Fault) (text : Bytes) : String :=
  let (line, column) := lineColumn (text.take (text.length - f.unread))
  s!"{f.flaw.message} at line {line} column {column}"

end CrashReporter.Json
