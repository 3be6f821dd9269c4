import CrashReporter.Proofs.Usage.Ledger

/-!
# The count of a cycle

When a cycle begins, the count starts again from zero, while payloads of earlier cycles may still be
in flight. If one of them fails, its bytes come off the count of the later cycle, in which they were
never counted.

* `Ledger.Change.cycleAccounts`: as long as no such return takes anything off, the count is what the
  ledger holds of the cycle;
* `Ledger.timely_of_covered`: the first such return leaves the count below that;
* `Ledger.covered_along_iff`: so the count covers its cycle throughout exactly if there is none;
* `Ledger.Change.heldIn_le`: and then a limit bounds what each cycle sends.
-/

namespace CrashReporter.Usage

/-- The bytes of a payload, if it was admitted in that cycle. -/
def Reservation.bytesIn (cycle : Nat) (r : Reservation) : Nat :=
  if r.cycle = cycle then r.bytes else 0

namespace Ledger

/-- The count is not below what this cycle's payloads in flight or delivered make up. -/
def Covered (l : Ledger) : Prop := l.held (Reservation.bytesIn l.cycle) ≤ l.sent

/-- A payload of an earlier cycle is returned only when nothing is counted. -/
def Timely (l : Ledger) : Move → Prop
  | .release r => r ∈ l.inFlight → r.cycle < l.cycle → l.sent = 0
  | _ => True

instance (l : Ledger) : (move : Move) → Decidable (l.Timely move)
  | .release r => inferInstanceAs (Decidable (r ∈ l.inFlight → r.cycle < l.cycle → l.sent = 0))
  | .reserve _ | .deliver _ | .keepUp _ => inferInstanceAs (Decidable True)

/-- Every payload has a byte and was admitted in a cycle that has begun. -/
structure Booked (l : Ledger) : Prop where
  inFlight : ∀ r ∈ l.inFlight, 1 ≤ r.bytes ∧ r.cycle ≤ l.cycle
  delivered : ∀ r ∈ l.delivered, r.cycle ≤ l.cycle

theorem Change.booked {l l' : Ledger} {move : Move} (change : l.Change move l') (h : l.Booked) :
    l'.Booked := by
  cases change with
  | none => exact h
  | book size admits =>
    have size := (exceedsLimit_eq_false_iff _ _ _).mp admits
    refine ⟨fun r hr => ?_, h.delivered⟩
    rcases List.mem_cons.mp hr with rfl | hr
    · exact ⟨by rw [Reservation.bytes_mk]; omega, Nat.le_refl _⟩
    · exact h.inFlight r hr
  | settle r hr =>
    refine ⟨fun q hq => h.inFlight q (List.mem_of_mem_erase hq), fun q hq => ?_⟩
    rcases List.mem_cons.mp hq with rfl | hq
    · exact (h.inFlight q hr).2
    · exact h.delivered q hq
  | giveBack r hr => exact ⟨fun q hq => h.inFlight q (List.mem_of_mem_erase hq), h.delivered⟩
  | advance u =>
    have le : l.cycle ≤ (l.advance u).cycle := by
      simp only [Ledger.advance]
      split <;> omega
    exact ⟨fun r hr => ⟨(h.inFlight r hr).1, Nat.le_trans (h.inFlight r hr).2 le⟩,
      fun r hr => Nat.le_trans (h.delivered r hr) le⟩

/-- Nothing is held of a cycle that has not begun. -/
theorem held_bytesIn_of_lt {l : Ledger} (h : l.Booked) {cycle : Nat} (hc : l.cycle < cycle) :
    l.held (Reservation.bytesIn cycle) = 0 := by
  have none : ∀ rs : List Reservation, (∀ r ∈ rs, r.cycle ≤ l.cycle) →
      (rs.map (Reservation.bytesIn cycle)).sum = 0 := fun rs hrs =>
    List.sum_eq_zero fun n hn => by
      obtain ⟨r, hr, rfl⟩ := List.mem_map.mp hn
      exact if_neg (by have := hrs r hr; omega)
  rw [held, none _ fun r hr => (h.inFlight r hr).2, none _ h.delivered]

/-- The count is what the ledger holds of this cycle, and of the first one what was counted before. -/
def CycleAccounts (base : Nat) (l : Ledger) : Prop :=
  l.sent = (if l.cycle = 0 then base else 0) + l.held (Reservation.bytesIn l.cycle)

theorem CycleAccounts.covered {base : Nat} {l : Ledger} (h : l.CycleAccounts base) : l.Covered := by
  unfold CycleAccounts at h
  unfold Covered
  omega

theorem Change.cycleAccounts {base : Nat} {l l' : Ledger} {move : Move}
    (change : l.Change move l') (booked : l.Booked) (fits : l.Fits move) (timely : l.Timely move)
    (h : l.CycleAccounts base) : l'.CycleAccounts base := by
  unfold CycleAccounts at *
  cases change with
  | none => exact h
  | book size admits =>
    have own : Reservation.bytesIn l.cycle ⟨size, l.cycle⟩ = size.toInt.toNat := if_pos rfl
    rw [sent_book fits, show (l.book size).cycle = l.cycle from rfl, held_book, own, h]
    omega
  | settle r hr => rw [sent_settle, show (l.settle r).cycle = l.cycle from rfl, held_settle _ hr, h]
  | giveBack r hr =>
    have back := held_giveBack (Reservation.bytesIn l.cycle) hr
    rw [sent_giveBack, show (l.giveBack r).cycle = l.cycle from rfl]
    rcases Nat.lt_or_eq_of_le (booked.inFlight r hr).2 with early | own
    · -- Nothing is counted, and nothing of this cycle is held.
      have := timely hr early
      omega
    · rw [show Reservation.bytesIn l.cycle r = r.bytes from if_pos own] at back
      omega
  | advance u =>
    rw [sent_advance, held_advance]
    simp only [Ledger.advance]
    split
    · rw [held_bytesIn_of_lt booked (Nat.lt_succ_self _), if_neg (Nat.succ_ne_zero _)]
    · exact h

theorem timely_of_covered {base : Nat} {l : Ledger} {move : Move} (booked : l.Booked)
    (h : l.CycleAccounts base) (covered : (l.after move).Covered) : l.Timely move := by
  cases move with
  | release r =>
    intro hr early
    have back := held_giveBack (Reservation.bytesIn l.cycle) hr
    rw [show Reservation.bytesIn l.cycle r = 0 from if_neg (Nat.ne_of_lt early)] at back
    have byte := (booked.inFlight r hr).1
    unfold CycleAccounts at h
    rw [if_neg (by omega : l.cycle ≠ 0)] at h
    simp only [after, if_pos hr, Covered] at covered
    rw [sent_giveBack, show (l.giveBack r).cycle = l.cycle from rfl] at covered
    omega
  | reserve _ | deliver _ | keepUp _ => trivial

/-- What no move changes as long as every return is timely. -/
def Sound (base : Nat) (l : Ledger) : Prop := l.Booked ∧ l.CycleAccounts base

theorem sound_of (m : Monitor) : (of m).Sound m.meter.sent.toNat :=
  ⟨⟨fun _ h => absurd h List.not_mem_nil, fun _ h => absurd h List.not_mem_nil⟩, rfl⟩

theorem sound_after {base : Nat} {l : Ledger} {move : Move} (h : l.Sound base)
    (fits : l.Fits move) (timely : l.Timely move) : (l.after move).Sound base :=
  have change := l.change_after move
  ⟨change.booked h.1, change.cycleAccounts h.1 fits timely h.2⟩

/-- The count covers its cycle after each of the moves exactly if every return is timely. -/
theorem covered_along_iff {base : Nat} {l : Ledger} {moves : List Move} (h : l.Sound base)
    (fits : Along after Fits l moves) :
    (∀ first, first <+: moves → (l.afterAll first).Covered) ↔ Along after Timely l moves := by
  induction moves generalizing l with
  | nil =>
    refine iff_of_true (fun first hf => ?_) trivial
    rw [List.prefix_nil.mp hf]
    exact h.2.covered
  | cons move moves ih =>
    constructor
    · intro covered
      have timely : l.Timely move := timely_of_covered h.1 h.2 (covered [move] ⟨moves, rfl⟩)
      refine ⟨timely, (ih (sound_after h fits.1 timely) fits.2).mp fun first hf => ?_⟩
      exact covered (move :: first) (List.cons_prefix_cons.mpr ⟨rfl, hf⟩)
    · rintro ⟨timely, later⟩ first hf
      rcases List.prefix_cons_iff.mp hf with rfl | ⟨rest, rfl, hr⟩
      · exact h.2.covered
      · exact (ih (sound_after h fits.1 timely) fits.2).mpr later rest hr

/-! ## The limit of a cycle -/

theorem Change.heldIn_le {base L : Nat} {l l' : Ledger} {move : Move} (change : l.Change move l')
    (sound : l.Sound base) (limit : l.limit = L) (pos : 0 < L) (fits : l.Fits move)
    (h : ∀ cycle, l.held (Reservation.bytesIn cycle) ≤ L) (cycle : Nat) :
    l'.held (Reservation.bytesIn cycle) ≤ L := by
  subst limit
  have before := h cycle
  cases change with
  | none => exact before
  | book size admits =>
    have room := add_le_limit admits fits pos
    have covered : l.held (Reservation.bytesIn l.cycle) ≤ l.sent := sound.2.covered
    rw [held_book, Reservation.bytesIn]
    split
    · rename_i own
      obtain rfl : l.cycle = cycle := own
      rw [Reservation.bytes_mk]
      omega
    · omega
  | settle r hr =>
    rw [held_settle _ hr]
    exact before
  | giveBack r hr =>
    have := held_giveBack (Reservation.bytesIn cycle) hr
    omega
  | advance u => exact before

/-- The count covers what is held of the cycle throughout a run exactly if no payload of an earlier
cycle is returned while anything is counted; and then no cycle holds more than a limit that stays. -/
theorem covered_iff_timely (m : Monitor) (moves : List Move) (fits : Along after Fits (of m) moves) :
    ((of m).run moves).Gives ((of m).afterAll moves) ∧
      ((∀ first, first <+: moves →
        let l := (of m).afterAll first
        l.held (Reservation.bytesIn l.cycle) ≤ l.sent) ↔ Along after Timely (of m) moves) ∧
      (Along after Timely (of m) moves → ∀ L, 0 < L → m.meter.policy.dataLimit.toNat = L →
        (∀ move ∈ moves, ∀ p, move.policy? = some p → p.dataLimit.toNat = L) →
        ∀ cycle, ((of m).afterAll moves).held (Reservation.bytesIn cycle) ≤ L) := by
  refine ⟨run_gives _ moves, covered_along_iff (sound_of m) fits, fun timely L pos limit fixed => ?_⟩
  have kept := ((fits.and timely).and (Along.of_forall fixed (of m))).invariant
    (I := fun l => l.Sound m.meter.sent.toNat ∧ l.limit = L ∧
      ∀ cycle, l.held (Reservation.bytesIn cycle) ≤ L)
    (fun {l move} ⟨sound, limit, h⟩ ⟨⟨fits, timely⟩, fixed⟩ =>
      have change := l.change_after move
      ⟨sound_after sound fits timely, change.limit fixed limit,
        change.heldIn_le sound limit pos fits h⟩)
    ⟨sound_of m, limit, fun _ => Nat.zero_le _⟩
  exact kept.2.2

/-- A payload of the first cycle comes back in the second before anything is counted there. -/
theorem covered_iff_timely_empty :
    let m : Monitor :=
      { store := ⟨"/state"⟩, meter := { policy := { dataLimit := 100, resetDay := 15 } } }
    let moves : List Move :=
      [.keepUp (.check ⟨2024, 3, 14⟩), .reserve 60, .keepUp (.check ⟨2024, 3, 15⟩),
        .release ⟨60, 0⟩, .reserve 100, .deliver ⟨100, 1⟩]
    Along after Fits (of m) moves ∧ Along after Timely (of m) moves ∧
      (∀ first, first <+: moves →
        let l := (of m).afterAll first
        l.held (Reservation.bytesIn l.cycle) ≤ l.sent) ∧
      ((of m).afterAll moves).held (Reservation.bytesIn 1) ≤ 100 := by
  intro m moves
  have fits : Along after Fits (of m) moves := by decide +kernel
  have timely : Along after Timely (of m) moves := by decide +kernel
  obtain ⟨-, covered, within⟩ := covered_iff_timely m moves fits
  refine ⟨fits, timely, covered.mpr timely, within timely 100 (by decide) rfl (fun move h p hp => ?_) 1⟩
  simp only [moves, List.mem_cons, List.not_mem_nil, or_false] at h
  rcases h with rfl | rfl | rfl | rfl | rfl | rfl <;> cases hp

/-- A payload of the first cycle that comes back in the second, which has used up its limit, makes
room for another: 160 bytes go out under a limit of 100, and 100 are counted. -/
theorem late_return_uncovers :
    let m : Monitor :=
      { store := ⟨"/state"⟩, meter := { policy := { dataLimit := 100, resetDay := 15 } } }
    let first : List Move :=
      [.keepUp (.check ⟨2024, 3, 14⟩), .reserve 60, .keepUp (.check ⟨2024, 3, 15⟩), .reserve 100,
        .deliver ⟨100, 1⟩, .release ⟨60, 0⟩]
    let moves := first ++ [.reserve 60, .deliver ⟨60, 1⟩]
    let l := (of m).afterAll first
    Along after Fits (of m) moves ∧ ((of m).run first).Gives l ∧
      ¬ l.held (Reservation.bytesIn l.cycle) ≤ l.sent ∧
      ((of m).run moves).Gives ((of m).afterAll moves) ∧
      ¬ (((of m).afterAll moves).delivered.map (Reservation.bytesIn 1)).sum ≤ 100 := by
  intro m first moves l
  exact ⟨by decide +kernel, run_gives _ first, by decide +kernel, run_gives _ moves, by decide +kernel⟩

end Ledger

end CrashReporter.Usage
