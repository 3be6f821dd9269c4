import CrashReporter.Usage.Meter

/-!
# Admission in whole numbers

What the rule of admission and the count of a meter say in whole numbers, where nothing overflows:
`exceedsLimit_eq_false_iff` for the rule, `Meter.toNat_sent_count` and `Meter.toNat_sent_uncount` for
the count. Where something does, taking off what was added does not bring back the count
(`minus_plus_eq_iff`); up to there a payload is counted and returned without a trace
(`Meter.release?_count_of_fits`).
-/

namespace CrashReporter.Usage

theorem toNat_bytesOf (size : Int64) : (bytesOf size).toNat = size.toInt.toNat := by
  have := size.toInt_lt
  rw [bytesOf, UInt64.toNat_ofNat']
  omega

/-- Of a count that was added to and then taken off as much there remains what had room beside it. -/
theorem toNat_minus_plus (a b : UInt64) :
    (minus (plus a b) b).toNat = min a.toNat (UInt64.size - 1 - b.toNat) := by
  rw [toNat_minus, toNat_plus]
  omega

/-- Taking off what was added brings back the count exactly if the sum can be counted. -/
theorem minus_plus_eq_iff (a b : UInt64) : minus (plus a b) b = a ↔ a.toNat + b.toNat < UInt64.size := by
  have bound := b.toNat_lt
  have : UInt64.size = 18446744073709551616 := rfl
  rw [← UInt64.toNat_inj, toNat_minus_plus]
  omega

theorem not_lt_one {size : Int64} (pos : 1 ≤ size.toInt) : ¬ size < 1 := by
  rw [Int64.lt_iff_toInt_lt, Int64.toInt_one]
  omega

/-- A payload may be sent if it has a byte, and if the limit, unless it is zero, is not below the sum
as far as that can be counted. -/
theorem exceedsLimit_eq_false_iff (sent limit : UInt64) (size : Int64) :
    exceedsLimit sent limit size = false ↔ 1 ≤ size.toInt ∧
      (limit.toNat = 0 ∨ min (sent.toNat + size.toInt.toNat) (UInt64.size - 1) ≤ limit.toNat) := by
  have zero : limit = 0 ↔ limit.toNat = 0 := UInt64.toNat_inj.symm
  unfold exceedsLimit
  split
  · rename_i h
    have := Int64.le_iff_toInt_le.mp h
    rw [Int64.toInt_zero] at this
    simp only [Bool.true_eq_false, false_iff]
    omega
  · rename_i h
    have := mt Int64.le_iff_toInt_le.mpr h
    rw [Int64.toInt_zero] at this
    split
    · rename_i h0
      simp only [true_iff]
      exact ⟨by omega, .inl (zero.mp h0)⟩
    · rename_i h0
      rw [decide_eq_false_iff_not, UInt64.lt_iff_toNat_lt, toNat_plus, toNat_bytesOf]
      have := mt zero.mpr h0
      omega

namespace Meter

variable {m : Meter} {size : Int64}

theorem reserve?_of_refuses (h : m.refuses size = true) : m.reserve? size = none := if_pos h

theorem reserve?_of_admits (h : m.refuses size = false) :
    m.reserve? size = some (m.count (bytesOf size)) :=
  if_neg (Bool.eq_false_iff.mp h)

theorem isSome_reserve (m : Meter) (size : Int64) : (m.reserve? size).isSome = !m.refuses size := by
  cases h : m.refuses size with
  | true => rw [reserve?_of_refuses h]; rfl
  | false => rw [reserve?_of_admits h]; rfl

theorem toNat_sent_count (m : Meter) (size : Int64)
    (h : m.sent.toNat + size.toInt.toNat < UInt64.size) :
    (m.count (bytesOf size)).sent.toNat = m.sent.toNat + size.toInt.toNat := by
  rw [count, toNat_plus, toNat_bytesOf]
  omega

theorem toNat_sent_uncount (m : Meter) (size : Int64) :
    (m.uncount (bytesOf size)).sent.toNat = m.sent.toNat - size.toInt.toNat := by
  rw [uncount, toNat_minus, toNat_bytesOf]

/-- Returning a payload takes its bytes off the count; one without bytes had none counted. -/
theorem toNat_sent_release (m : Meter) (size : Int64) :
    ((m.release? size).getD m).sent.toNat = m.sent.toNat - size.toInt.toNat := by
  unfold release?
  split
  · rename_i h
    have := Int64.lt_iff_toInt_lt.mp h
    rw [Int64.toInt_one] at this
    rw [Option.getD_none, Int.toNat_of_nonpos (by omega), Nat.sub_zero]
  · exact m.toNat_sent_uncount size

/-- A payload that was counted is returned, and nothing but the count can tell. -/
theorem release?_count (m : Meter) (pos : 1 ≤ size.toInt) :
    (m.count (bytesOf size)).release? size =
      some { m with sent := minus (plus m.sent (bytesOf size)) (bytesOf size) } :=
  if_neg (not_lt_one pos)

/-- A payload that is counted and returned leaves the meter as it was. -/
theorem release?_count_of_fits (pos : 1 ≤ size.toInt)
    (fits : m.sent.toNat + size.toInt.toNat < UInt64.size) :
    (m.count (bytesOf size)).release? size = some m := by
  have restored : minus (plus m.sent (bytesOf size)) (bytesOf size) = m.sent :=
    (minus_plus_eq_iff _ _).mpr (by rwa [toNat_bytesOf])
  rw [release?_count m pos, restored]

/-- `exceedsLimit_eq_false_iff`, where the sum can be counted. -/
theorem refuses_eq_false_iff (h : m.sent.toNat + size.toInt.toNat < UInt64.size) :
    m.refuses size = false ↔ 1 ≤ size.toInt ∧
      (m.policy.dataLimit.toNat = 0 ∨
        m.sent.toNat + size.toInt.toNat ≤ m.policy.dataLimit.toNat) := by
  rw [refuses, exceedsLimit_eq_false_iff, Nat.min_eq_left (by omega)]

end Meter

end CrashReporter.Usage
