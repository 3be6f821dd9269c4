import CrashReporter.Proofs.Usage.Admission
import CrashReporter.Proofs.Usage.Stored

/-!
# Payloads at the end of the count

A count of bytes ends at the greatest number of 64 bits, and stops there. Whole numbers do not: in them a payload
is too much for a limit (`Exceeds`), and may be one that brings the count beyond its end (`Overflows`).

A payload that does not is refused exactly if it is too much. One that does is too much for every limit but zero, and
is let through by the greatest one all the same, since a count that has stopped is not above it (`exceedsLimit_iff`,
`Overflows.exceedsLimit_eq_false_iff`). It counts with fewer bytes than its return takes off again.

So for a monitor, whatever its files: the return of an admitted payload brings the count back exactly if the payload
did not overflow it, and what else the monitor has stays as it is (`Monitor.exact_unless_overflows`).
-/

namespace CrashReporter.Usage

/-- A payload is too much in whole numbers: it has no byte, or the limit, unless it is zero, has no room for it. -/
def Exceeds (sent limit : UInt64) (size : Int64) : Prop :=
  size.toInt ≤ 0 ∨ 0 < limit.toNat ∧ (limit.toNat : Int) < sent.toNat + size.toInt

/-- A payload brings the count beyond 64 bits. -/
def Overflows (sent : UInt64) (size : Int64) : Prop := UInt64.size ≤ sent.toNat + size.toInt.toNat

instance (sent limit : UInt64) (size : Int64) : Decidable (Exceeds sent limit size) :=
  inferInstanceAs (Decidable (_ ∨ _))

instance (sent : UInt64) (size : Int64) : Decidable (Overflows sent size) :=
  inferInstanceAs (Decidable (_ ≤ _))

/-! ## The rule -/

section

variable {sent limit : UInt64} {size : Int64}

theorem Overflows.pos (beyond : Overflows sent size) : 1 ≤ size.toInt := by
  have bound : sent.toNat < UInt64.size := sent.toNat_lt
  unfold Overflows at beyond
  omega

/-- A payload that overflows the count is too much for every limit. -/
theorem Overflows.exceeds (beyond : Overflows sent size) (limited : 0 < limit.toNat) : Exceeds sent limit size := by
  have bound : limit.toNat < UInt64.size := limit.toNat_lt
  have pos := beyond.pos
  unfold Overflows at beyond
  exact .inr ⟨limited, by omega⟩

/-- The only limits that let such a payload through are the one that is none, and the one that no count is above. -/
theorem Overflows.exceedsLimit_eq_false_iff (beyond : Overflows sent size) :
    exceedsLimit sent limit size = false ↔ limit.toNat = 0 ∨ limit.toNat = UInt64.size - 1 := by
  have bound : limit.toNat < UInt64.size := limit.toNat_lt
  -- What a limit is held against is the end of the count, and only one limit is as great.
  have stopped : min (sent.toNat + size.toInt.toNat) (UInt64.size - 1) = UInt64.size - 1 :=
    Nat.min_eq_right (Nat.le_trans (Nat.sub_le _ _) beyond)
  rw [Usage.exceedsLimit_eq_false_iff, stopped, and_iff_right beyond.pos]
  omega

/-- Where the sum can be counted, the rule is the one for whole numbers. -/
theorem exceedsLimit_iff_of_fits (fits : ¬ Overflows sent size) :
    exceedsLimit sent limit size = true ↔ Exceeds sent limit size := by
  have counted : min (sent.toNat + size.toInt.toNat) (UInt64.size - 1) = sent.toNat + size.toInt.toNat :=
    Nat.min_eq_left (Nat.le_sub_one_of_lt (Nat.lt_of_not_le fits))
  rw [← Bool.not_eq_false, exceedsLimit_eq_false_iff, counted]
  unfold Exceeds
  omega

/-- A payload is refused if it is too much, except by the greatest limit if it overflows the count. -/
theorem exceedsLimit_iff (sent limit : UInt64) (size : Int64) :
    exceedsLimit sent limit size = true ↔
      Exceeds sent limit size ∧ ¬ (limit.toNat = UInt64.size - 1 ∧ Overflows sent size) := by
  by_cases beyond : Overflows sent size
  · -- The whole sum is above every limit there is, so only where there is none is it not too much.
    have exceeds : Exceeds sent limit size ↔ limit.toNat ≠ 0 := by
      refine ⟨fun h => ?_, fun h => beyond.exceeds (Nat.pos_of_ne_zero h)⟩
      rcases h with none | ⟨limited, -⟩
      · exact absurd beyond.pos (Int.not_le.mpr (Int.lt_add_one_of_le none))
      · exact Nat.ne_of_gt limited
    rw [← Bool.not_eq_false, beyond.exceedsLimit_eq_false_iff, exceeds, not_or, and_iff_left beyond]
  · rw [exceedsLimit_iff_of_fits beyond, and_iff_left fun h => beyond h.2]

/-- The rule is the one for whole numbers, except for a payload that overflows the count under the greatest limit. -/
theorem exceedsLimit_whole_iff (sent limit : UInt64) (size : Int64) :
    (exceedsLimit sent limit size = true ↔ Exceeds sent limit size) ↔
      ¬ (limit.toNat = UInt64.size - 1 ∧ Overflows sent size) := by
  rw [exceedsLimit_iff, and_iff_left_iff_imp]
  refine ⟨fun h beyond => ?_, fun h _ => h⟩
  have limited : 0 < limit.toNat := beyond.1 ▸ (by decide)
  exact h (beyond.2.exceeds limited) beyond

end

/-! ## Counting and returning -/

namespace Monitor

/-- A monitor is asked to count a payload, and tells whether it has; then it is asked to return it. Where the count can
be written, the one that is written is each time the one that the monitor has. -/
structure Returns (m : Monitor) (size : Int64) (admitted : Bool) (counted returned : Monitor) : Prop where
  reserves : (m.reserve size).Gives (admitted, counted)
  releases : (counted.release size).Gives returned
  keeps_counted : Disk.Turns m.Counted (m.reserve size) (admitted, counted) counted.Counted
  keeps_returned : Disk.Turns counted.Counted (counted.release size) returned returned.Counted

theorem exists_returns (m : Monitor) (size : Int64) :
    ∃ counted returned, m.Returns size (!m.meter.refuses size) counted returned ∧
      (m.meter.refuses size = false → returned =
        { m with meter := { m.meter with sent := minus (plus m.meter.sent (bytesOf size)) (bytesOf size) } }) := by
  refine ⟨_, _, ⟨m.reserve_gives size, release_gives _ size, m.reserve_counted size, release_counted _ size⟩,
    fun admits => ?_⟩
  have pos : 1 ≤ size.toInt := ((exceedsLimit_eq_false_iff _ _ _).mp admits).1
  simp only [Meter.reserve?_of_admits admits, Option.getD_some, m.meter.release?_count pos]

/-- The rule of admission is that for whole numbers at every count, limit and size, but for a payload that overflows
the count under the greatest limit. A monitor, whatever its files, admits a payload by this rule, and one that it
admits and then has returned leaves everything but the count as it was, and the count itself exactly if it did not
overflow it: else what is left is what had room beside the payload. Nothing that overflows is ever admitted under
a limit that is neither zero nor the greatest. -/
theorem exact_unless_overflows (sent limit : UInt64) (m : Monitor) (size : Int64) :
    ((exceedsLimit sent limit size = true ↔ Exceeds sent limit size) ↔
        ¬ (limit.toNat = UInt64.size - 1 ∧ Overflows sent size)) ∧
      ∃ admitted counted returned, m.Returns size admitted counted returned ∧
        (admitted = true ↔ exceedsLimit m.meter.sent m.meter.policy.dataLimit size = false) ∧
        (admitted = true →
          returned = { m with meter := { m.meter with sent := returned.meter.sent } } ∧
          returned.meter.sent.toNat = min m.meter.sent.toNat (UInt64.size - 1 - size.toInt.toNat) ∧
          (returned.meter.sent = m.meter.sent ↔ ¬ Overflows m.meter.sent size)) ∧
        (Overflows m.meter.sent size → (admitted = true ↔
          m.meter.policy.dataLimit.toNat = 0 ∨ m.meter.policy.dataLimit.toNat = UInt64.size - 1)) := by
  obtain ⟨counted, returned, returns, left⟩ := m.exists_returns size
  refine ⟨exceedsLimit_whole_iff sent limit size, _, counted, returned, returns, ?_, fun admitted => ?_,
    fun beyond => ?_⟩
  · rw [Bool.not_eq_true']
    rfl
  · obtain rfl := left ((Bool.not_eq_true' _).mp admitted)
    refine ⟨rfl, ?_, ?_⟩
    · rw [← toNat_bytesOf]
      exact toNat_minus_plus _ _
    · unfold Overflows
      rw [← toNat_bytesOf, Nat.not_le]
      exact minus_plus_eq_iff _ _
  · rw [Bool.not_eq_true']
    exact beyond.exceedsLimit_eq_false_iff

/-- A payload that brings the count to its very end is admitted under the greatest limit and returned without a trace;
one byte more would be too much. -/
theorem exact_unless_overflows_full :
    let policy : Policy := { dataLimit := 18446744073709551615 }
    let m : Monitor := { store := ⟨"/state"⟩, meter := { policy, sent := 18446744073709551555 } }
    ¬ Overflows m.meter.sent 60 ∧ Exceeds m.meter.sent m.meter.policy.dataLimit 61 ∧
      exceedsLimit m.meter.sent m.meter.policy.dataLimit 60 = false ∧
      ∃ counted, m.Returns 60 true counted m := by
  intro policy m
  have fits : ¬ Overflows m.meter.sent 60 := by decide
  obtain ⟨whole, admitted, counted, returned, returns, asked, restored, -⟩ :=
    exact_unless_overflows m.meter.sent m.meter.policy.dataLimit m 60
  have admits : exceedsLimit m.meter.sent m.meter.policy.dataLimit 60 = false := by
    rw [← Bool.not_eq_true, whole.mpr fun beyond => fits beyond.2]
    decide
  obtain rfl : admitted = true := asked.mpr admits
  obtain ⟨frame, -, same⟩ := restored rfl
  rw [same.mpr fits] at frame
  have unchanged : returned = m := frame
  exact ⟨fits, by decide, admits, counted, unchanged ▸ returns⟩

/-- At the end of the count a payload of one byte is too much for the greatest limit, which lets it through; and where
there is no limit, its return leaves less than there was before it came. -/
theorem overflow_passes_and_undercounts :
    let last : UInt64 := 18446744073709551615
    let m : Monitor := { store := ⟨"/state"⟩, meter := { sent := last } }
    ¬ (exceedsLimit last last 1 = true ↔ Exceeds last last 1) ∧
      ∃ counted returned, m.Returns 1 true counted returned ∧ returned.meter.sent ≠ m.meter.sent := by
  intro last m
  obtain ⟨counted, returned, returns, left⟩ := m.exists_returns 1
  refine ⟨by decide, counted, returned, returns, ?_⟩
  rw [left (by decide)]
  decide

end Monitor

end CrashReporter.Usage
