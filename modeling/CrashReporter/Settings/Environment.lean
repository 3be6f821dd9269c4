import CrashReporter.Text.Blank
import CrashReporter.Text.Numeral
import CrashReporter.Text.Utf8

/-!
# Environment variables

A variable is read as a text without blanks around it. One that is blank, or whose bytes are not
UTF-8, counts as not set.
-/

namespace CrashReporter

/-- The variables that are set, and their bytes. -/
abbrev Environment := List (String × Bytes)

namespace Environment

/-- What a variable's bytes say. -/
def textOf (value : Bytes) : Option String := do
  let s := Text.trim (← Text.ofUtf8? value)
  if s.isEmpty then none else some s

/-- A variable as a text. -/
def string? (env : Environment) (name : String) : Option String :=
  (env.lookup name).bind textOf

/-- The letters of ASCII in lower case. -/
def lower (s : String) : String := s.map Char.toLower

/-- Whether a text switches something on: all do but `false`, in any case, and `0`. -/
def flagOf (s : String) : Bool := lower s != "false" && s != "0"

/-- A variable as a switch. -/
def flag? (env : Environment) (name : String) : Option Bool := (env.string? name).map flagOf

/-- A variable as a natural number of at most `max`. -/
def natural? (env : Environment) (max : Nat) (name : String) : Option Nat :=
  (env.string? name).bind (Text.natural? max)

/-- A variable as a whole number between `-(max + 1)` and `max`. -/
def whole? (env : Environment) (max : Nat) (name : String) : Option Int :=
  (env.string? name).bind (Text.whole? max)

end Environment

end CrashReporter
