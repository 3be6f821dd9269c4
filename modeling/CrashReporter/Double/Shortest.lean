import CrashReporter.Double

/-!
# The shortest decimal that reads back

Every real number nearer to a double than to its neighbours reads as that double; a number half way
between two reads as the one with an even significand. Of the decimals that read as a given double,
those with the fewest digits are sought, and among them the one nearest to the double.
-/

namespace CrashReporter.Double

/-- A positive rational number. -/
structure Ratio where
  num : Nat
  den : Nat

namespace Ratio

/-- `n * 2 ^ e`. -/
def scaleTwo (n : Nat) (e : Int) : Ratio :=
  if 0 ≤ e then ⟨n * Nat.pow 2 e.toNat, 1⟩ else ⟨n, Nat.pow 2 (-e).toNat⟩

/-- `n * 10 ^ e`. -/
def scaleTen (n : Nat) (e : Int) : Ratio :=
  if 0 ≤ e then ⟨n * Nat.pow 10 e.toNat, 1⟩ else ⟨n, Nat.pow 10 (-e).toNat⟩

/-- Whether the first is less than the second. -/
def lt (a b : Ratio) : Bool := a.num * b.den < b.num * a.den

/-- The whole part of `a / b`. -/
def floorDiv (a b : Ratio) : Nat := a.num * b.den / (a.den * b.num)

/-- The distance between the two, over the product of their denominators. -/
def distance (a b : Ratio) : Ratio :=
  let x := a.num * b.den
  let y := b.num * a.den
  ⟨(x - y) + (y - x), a.den * b.den⟩

end Ratio

/-- The reals that read as a given double: an interval, with or without its ends. -/
structure Reach where
  value : Ratio
  least : Ratio
  greatest : Ratio
  closed : Bool

/-- The reals that read as the magnitude of a finite double other than zero. The step to the
neighbour below is half as long at a power of two. -/
def reach (d : Double) : Reach :=
  let m := d.significand
  let e := d.exponent - 2
  let below := if d.fraction = 0 ∧ 1 < d.biasedExponent then 1 else 2
  ⟨.scaleTwo (4 * m) e, .scaleTwo (4 * m - below) e, .scaleTwo (4 * m + 2) e, m % 2 == 0⟩

/-- Whether a real reads as the double. -/
def Reach.contains (r : Reach) (x : Ratio) : Bool :=
  if r.closed then !x.lt r.least && !r.greatest.lt x else r.least.lt x && x.lt r.greatest

/-- The power of ten just above a positive rational between `10 ^ -400` and `10 ^ 400`. -/
def decimalPoint (x : Ratio) : Int :=
  ((Nat.toDigits 10 (x.num * Nat.pow 10 400 / x.den)).length : Int) - 400

/-- A decimal: `digits * 10 ^ exponent`. -/
structure Decimal where
  digits : Nat
  exponent : Int
  deriving DecidableEq

/-- The decimal as a rational. -/
def Decimal.toRatio (d : Decimal) : Ratio := .scaleTen d.digits d.exponent

/-- A decimal of `n` digits that reads as the double: one of the two neighbours on the grid of that
many digits, the nearer if both do; of two as near, the one whose last digit is even. -/
def Reach.decimal? (r : Reach) (n : Nat) : Option Decimal :=
  let e := decimalPoint r.value - n
  let low : Decimal := ⟨r.value.floorDiv (.scaleTen 1 e), e⟩
  let high : Decimal := ⟨low.digits + 1, e⟩
  match r.contains low.toRatio, r.contains high.toRatio with
  | true, true =>
    let toLow := r.value.distance low.toRatio
    let toHigh := r.value.distance high.toRatio
    if toHigh.lt toLow then some high
    else if toLow.lt toHigh ∨ low.digits % 2 = 0 then some low
    else some high
  | true, false => some low
  | false, true => some high
  | false, false => none

/-- The first decimal found with one digit, two digits, and so on. -/
def Reach.shortest (r : Reach) : Decimal :=
  ((List.range 17).findSome? fun n => r.decimal? (n + 1)).getD ⟨0, 0⟩

/-- Zeros at the end of the digits counted in the exponent instead. -/
def Decimal.strip : Nat → Decimal → Decimal
  | 0, d => d
  | n + 1, d => if d.digits % 10 = 0 ∧ d.digits ≠ 0 then strip n ⟨d.digits / 10, d.exponent + 1⟩ else d

/-- The shortest decimal that reads as the magnitude of a finite double. -/
def shortest (d : Double) : Decimal :=
  if d.significand = 0 then ⟨0, 0⟩ else d.reach.shortest.strip 20

end CrashReporter.Double
