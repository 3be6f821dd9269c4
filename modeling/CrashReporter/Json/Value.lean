import CrashReporter.Double

/-!
# JSON values

A number written as an integer that fits 64 bits, signed or unsigned, is whole; every other number
is a double. The members of an object are in the order of their keys, each key once.
-/

namespace CrashReporter.Json

/-- A number. -/
inductive Number where
  | whole (n : Int)
  | double (d : Double)
  deriving DecidableEq, Inhabited

/-- A JSON value. -/
inductive Value where
  | null
  | bool (b : Bool)
  | number (n : Number)
  | text (s : String)
  | list (items : List Value)
  | object (members : List (String × Value))
  deriving Inhabited

namespace Value

/-- A whole number. -/
def ofNat (n : Nat) : Value := .number (.whole n)

/-- The member of that key. -/
def get? (v : Value) (key : String) : Option Value :=
  match v with
  | .object members => members.lookup key
  | _ => none

end Value

end CrashReporter.Json
