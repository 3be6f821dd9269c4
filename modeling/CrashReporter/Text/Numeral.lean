/-!
# Decimal numerals

Numerals of bounded numbers: digits, with a plus sign or, for a signed number, a minus sign before
them. Leading zeros are allowed, blanks and separators are not.
-/

namespace CrashReporter.Text

/-- Why a text is no numeral of a number in range. -/
inductive NumeralFlaw where
  | empty
  | badDigit
  | tooLarge
  | tooSmall
  deriving DecidableEq

/-- The wording of the flaw. -/
def NumeralFlaw.message : NumeralFlaw → String
  | .empty => "cannot parse integer from empty string"
  | .badDigit => "invalid digit found in string"
  | .tooLarge => "number too large to fit in target type"
  | .tooSmall => "number too small to fit in target type"

/-- The value of a digit. -/
def digitValue? (c : Char) : Option Nat :=
  if '0' ≤ c ∧ c ≤ '9' then some (c.toNat - '0'.toNat) else none

/-- The number that digits spell behind those read into `n`, at most `max`. -/
def digitsUpTo (max : Nat) (flaw : NumeralFlaw) : Nat → List Char → Except NumeralFlaw Nat
  | n, [] => .ok n
  | n, c :: cs =>
    match digitValue? c with
    | none => .error .badDigit
    | some d => if 10 * n + d ≤ max then digitsUpTo max flaw (10 * n + d) cs else .error flaw

/-- A natural number of at most `max`. -/
def readNatural (max : Nat) (s : String) : Except NumeralFlaw Nat :=
  match s.toList with
  | [] => .error .empty
  | ['+'] => .error .badDigit
  | '+' :: cs => digitsUpTo max .tooLarge 0 cs
  | cs => digitsUpTo max .tooLarge 0 cs

/-- A whole number between `-(max + 1)` and `max`. -/
def readWhole (max : Nat) (s : String) : Except NumeralFlaw Int :=
  match s.toList with
  | [] => .error .empty
  | ['+'] | ['-'] => .error .badDigit
  | '+' :: cs => (digitsUpTo max .tooLarge 0 cs).map fun n => (n : Int)
  | '-' :: cs => (digitsUpTo (max + 1) .tooSmall 0 cs).map fun n => -(n : Int)
  | cs => (digitsUpTo max .tooLarge 0 cs).map fun n => (n : Int)

/-- A natural number of at most `max`, or none. -/
def natural? (max : Nat) (s : String) : Option Nat := (readNatural max s).toOption

/-- A whole number between `-(max + 1)` and `max`, or none. -/
def whole? (max : Nat) (s : String) : Option Int := (readWhole max s).toOption

end CrashReporter.Text
