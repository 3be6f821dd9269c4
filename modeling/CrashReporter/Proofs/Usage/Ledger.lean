import CrashReporter.Proofs.Along
import CrashReporter.Proofs.Usage.Action
import CrashReporter.Proofs.Usage.Admission
import Mathlib.Algebra.BigOperators.Group.List.Basic
import Mathlib.Algebra.GroupWithZero.Nat

/-!
# The ledger of a monitor

Sends that are under way at the same time take their steps in any order: each has its payload
counted, and later either has it delivered or has its count returned. A ledger is a monitor together
with the payloads that it admitted and that are in flight or delivered; each is booked with its cycle.

* `Ledger.run_gives`: a ledger's moves through the monitor and its files end in the ledger that
  `Ledger.afterAll` computes, whatever the files;
* `Ledger.change_after`: the five things that a move may do to a ledger;
* `Ledger.held_book`, `Ledger.held_settle`, `Ledger.held_giveBack`: what a move does to any sum
  over the payloads;
* `Ledger.Change.accounts`, `Ledger.Change.held_le`: as long as no cycle begins, the count is what it
  was before and the payloads on top, and a limit bounds them.
-/

namespace CrashReporter.Usage

/-- A payload that was counted. -/
structure Reservation where
  size : Int64
  /-- How many cycles had begun before. -/
  cycle : Nat
  deriving DecidableEq

/-- The bytes of a payload. -/
def Reservation.bytes (r : Reservation) : Nat := r.size.toInt.toNat

@[simp] theorem Reservation.bytes_mk (size : Int64) (cycle : Nat) :
    Reservation.bytes ⟨size, cycle⟩ = size.toInt.toNat := rfl

/-- A monitor, and the payloads that it admitted. -/
structure Ledger where
  monitor : Monitor
  /-- How many cycles have begun. -/
  cycle : Nat := 0
  /-- What is admitted, but neither delivered nor returned. -/
  inFlight : List Reservation := []
  delivered : List Reservation := []

/-- A step of a send, or of what keeps the monitor up to date. -/
inductive Move where
  | reserve (size : Int64)
  | deliver (r : Reservation)
  | release (r : Reservation)
  | keepUp (u : Upkeep)

/-- The policy that may come into force. -/
def Move.policy? : Move → Option Policy
  | .keepUp u => u.policy?
  | _ => none

namespace Ledger

/-- The ledger of a monitor that has not been asked for anything. -/
def of (m : Monitor) : Ledger := { monitor := m }

/-- The bytes that are counted. -/
def sent (l : Ledger) : Nat := l.monitor.meter.sent.toNat

/-- The limit in force. -/
def limit (l : Ledger) : Nat := l.monitor.meter.policy.dataLimit.toNat

/-- A sum over what is in flight or delivered. -/
def held (f : Reservation → Nat) (l : Ledger) : Nat :=
  (l.inFlight.map f).sum + (l.delivered.map f).sum

/-- Whether a cycle begins with a move. -/
def begins (l : Ledger) : Move → Bool
  | .keepUp u => l.monitor.meter.begins u
  | _ => false

/-- The bytes of a payload that asks to be counted can be added to the count. -/
def Fits (l : Ledger) : Move → Prop
  | .reserve size => l.sent + size.toInt.toNat < UInt64.size
  | _ => True

instance (l : Ledger) : (move : Move) → Decidable (l.Fits move)
  | .reserve size => inferInstanceAs (Decidable (l.sent + size.toInt.toNat < UInt64.size))
  | .deliver _ | .release _ | .keepUp _ => inferInstanceAs (Decidable True)

/-- The ledger with another meter. -/
def withMeter (l : Ledger) (meter : Meter) : Ledger :=
  { l with monitor := { l.monitor with meter } }

/-- The ledger with a payload counted and in flight. -/
def book (l : Ledger) (size : Int64) : Ledger :=
  { l.withMeter (l.monitor.meter.count (bytesOf size)) with
    inFlight := ⟨size, l.cycle⟩ :: l.inFlight }

/-- The ledger once a payload in flight is delivered. -/
def settle (l : Ledger) (r : Reservation) : Ledger :=
  { l with inFlight := l.inFlight.erase r, delivered := r :: l.delivered }

/-- The ledger once a payload in flight is given up and its count returned. -/
def giveBack (l : Ledger) (r : Reservation) : Ledger :=
  { l.withMeter ((l.monitor.meter.release? r.size).getD l.monitor.meter) with
    inFlight := l.inFlight.erase r }

/-- The ledger kept up to date. -/
def advance (l : Ledger) (u : Upkeep) : Ledger :=
  { l.withMeter (l.monitor.meter.keepUp u) with
    cycle := if l.monitor.meter.begins u then l.cycle + 1 else l.cycle }

/-- The ledger after a move. Only a payload in flight is delivered or returned. -/
def step (l : Ledger) : Move → Disk Ledger
  | .reserve size => do
    let (admitted, monitor) ← l.monitor.reserve size
    let inFlight := if admitted then ⟨size, l.cycle⟩ :: l.inFlight else l.inFlight
    return { l with monitor, inFlight }
  | .deliver r => return if r ∈ l.inFlight then l.settle r else l
  | .release r =>
    if r ∈ l.inFlight then do
      return { l with monitor := ← l.monitor.release r.size, inFlight := l.inFlight.erase r }
    else return l
  | .keepUp u => do
    let cycle := if l.monitor.meter.begins u then l.cycle + 1 else l.cycle
    return { l with monitor := ← l.monitor.keepUp u, cycle }

/-- The ledger after moves, one after the other. -/
def run (l : Ledger) (moves : List Move) : Disk Ledger := moves.foldlM step l

/-- The ledger after a move, without a look at the files. -/
def after (l : Ledger) : Move → Ledger
  | .reserve size => if l.monitor.meter.refuses size then l else l.book size
  | .deliver r => if r ∈ l.inFlight then l.settle r else l
  | .release r => if r ∈ l.inFlight then l.giveBack r else l
  | .keepUp u => l.advance u

/-- The ledger after moves, without a look at the files. -/
def afterAll (l : Ledger) (moves : List Move) : Ledger := moves.foldl after l

theorem step_gives (l : Ledger) (move : Move) : (l.step move).Gives (l.after move) := by
  cases move with
  | reserve size =>
    simp only [step, after]
    cases h : l.monitor.meter.refuses size with
    | true => rw [Monitor.reserve_of_refuses h]; exact Disk.gives_pure _
    | false => exact (Monitor.reserve_of_admits h).bind (Disk.gives_pure _)
  | deliver r => exact Disk.gives_pure _
  | release r =>
    simp only [step, after]
    split
    · exact (l.monitor.release_gives r.size).bind (Disk.gives_pure _)
    · exact Disk.gives_pure _
  | keepUp u => exact (l.monitor.keepUp_gives u).bind (Disk.gives_pure _)

/-- A run through the monitor and its files ends as computed, whatever the files. -/
theorem run_gives (l : Ledger) (moves : List Move) : (l.run moves).Gives (l.afterAll moves) :=
  Disk.gives_foldlM step_gives l moves

/-! ## What a move does -/

/-- What a move makes of a ledger. -/
inductive Change (l : Ledger) : Move → Ledger → Prop where
  | none (move : Move) : Change l move l
  | book (size : Int64) (admits : l.monitor.meter.refuses size = false) :
    Change l (.reserve size) (l.book size)
  | settle (r : Reservation) (hr : r ∈ l.inFlight) : Change l (.deliver r) (l.settle r)
  | giveBack (r : Reservation) (hr : r ∈ l.inFlight) : Change l (.release r) (l.giveBack r)
  | advance (u : Upkeep) : Change l (.keepUp u) (l.advance u)

theorem change_after (l : Ledger) (move : Move) : l.Change move (l.after move) := by
  cases move with
  | reserve size =>
    rw [after]
    split
    · exact .none _
    · rename_i admits
      exact .book size (Bool.eq_false_iff.mpr admits)
  | deliver r =>
    rw [after]
    split
    · rename_i hr
      exact .settle r hr
    · exact .none _
  | release r =>
    rw [after]
    split
    · rename_i hr
      exact .giveBack r hr
    · exact .none _
  | keepUp u => exact .advance u

/-! ## What a move does to the count and to a sum over the payloads -/

section

variable (f : Reservation → Nat) {l : Ledger} {r : Reservation} {size : Int64} {u : Upkeep}

theorem held_book : (l.book size).held f = f ⟨size, l.cycle⟩ + l.held f := by
  simp only [held, book, withMeter, List.map_cons, List.sum_cons, Nat.add_assoc]

theorem held_settle (h : r ∈ l.inFlight) : (l.settle r).held f = l.held f := by
  have := List.sum_map_erase f h
  simp only [held, settle, List.map_cons, List.sum_cons]
  omega

theorem held_giveBack (h : r ∈ l.inFlight) : f r + (l.giveBack r).held f = l.held f := by
  have := List.sum_map_erase f h
  simp only [held, giveBack, withMeter]
  omega

theorem held_advance : (l.advance u).held f = l.held f := rfl

theorem sent_book (h : l.sent + size.toInt.toNat < UInt64.size) :
    (l.book size).sent = l.sent + size.toInt.toNat :=
  Meter.toNat_sent_count _ size h

theorem sent_settle : (l.settle r).sent = l.sent := rfl

theorem sent_giveBack : (l.giveBack r).sent = l.sent - r.bytes :=
  Meter.toNat_sent_release _ r.size

theorem sent_advance : (l.advance u).sent = if l.monitor.meter.begins u then 0 else l.sent := by
  simp only [sent, advance, withMeter, Meter.sent_keepUp]
  split <;> rfl

end

/-! ## The count of one cycle -/

/-- The count is `base` and what the ledger holds. -/
def Accounts (base : Nat) (l : Ledger) : Prop := l.sent = base + l.held Reservation.bytes

theorem Change.accounts {base : Nat} {l l' : Ledger} {move : Move} (change : l.Change move l')
    (fits : l.Fits move) (quiet : l.begins move = false) (h : l.Accounts base) :
    l'.Accounts base := by
  unfold Accounts at *
  cases change with
  | none => exact h
  | book size admits =>
    rw [sent_book fits, held_book, h, Reservation.bytes_mk]
    omega
  | settle r hr => rw [sent_settle, held_settle _ hr, h]
  | giveBack r hr =>
    have := held_giveBack Reservation.bytes hr
    rw [sent_giveBack]
    omega
  | advance u =>
    rw [sent_advance, show l.monitor.meter.begins u = false from quiet, held_advance, h]
    rfl

/-- A limit that every policy has stays in force. -/
theorem Change.limit {L : Nat} {l l' : Ledger} {move : Move} (change : l.Change move l')
    (fixed : ∀ p, move.policy? = some p → p.dataLimit.toNat = L) (h : l.limit = L) :
    l'.limit = L := by
  cases change with
  | none => exact h
  | book size admits => exact h
  | settle r hr => exact h
  | giveBack r hr =>
    unfold Ledger.limit Ledger.giveBack withMeter Meter.release?
    split <;> exact h
  | advance u =>
    rcases l.monitor.meter.policy_keepUp u with same | new
    · exact (congrArg (fun p : Policy => p.dataLimit.toNat) same).trans h
    · exact fixed _ new

/-- What a payload that is admitted leaves of the limit. -/
theorem add_le_limit {l : Ledger} {size : Int64} (admits : l.monitor.meter.refuses size = false)
    (fits : l.sent + size.toInt.toNat < UInt64.size) (h : 0 < l.limit) :
    l.sent + size.toInt.toNat ≤ l.limit := by
  rcases ((Meter.refuses_eq_false_iff fits).mp admits).2 with zero | le
  · exact absurd zero (Nat.ne_of_gt h)
  · exact le

theorem Change.held_le {base L : Nat} {l l' : Ledger} {move : Move} (change : l.Change move l')
    (accounts : l.Accounts base) (limit : l.limit = L) (pos : 0 < L) (fits : l.Fits move)
    (h : base + l.held Reservation.bytes ≤ L) : base + l'.held Reservation.bytes ≤ L := by
  subst limit
  cases change with
  | none => exact h
  | book size admits =>
    have := add_le_limit admits fits pos
    rw [held_book, Reservation.bytes_mk]
    rw [accounts] at this
    omega
  | settle r hr =>
    rw [held_settle _ hr]
    exact h
  | giveBack r hr =>
    have := held_giveBack Reservation.bytes hr
    omega
  | advance u => exact h

/-- Exact accounting. Whatever happens to a monitor while no cycle begins and the count stays below
2⁶⁴: the count is what it was at first and the admitted payloads that were not returned; a payload is
admitted exactly if it has a byte and the limit in force, unless it is zero, has room for it, and one
that is refused changes nothing; and under one limit that the first count is within, what is in flight
or delivered stays within what that count leaves of it. -/
theorem exact_accounting (m : Monitor) (moves : List Move) (fits : Along after Fits (of m) moves)
    (quiet : Along after (fun l move => l.begins move = false) (of m) moves) :
    let l := (of m).afterAll moves
    ((of m).run moves).Gives l ∧
      l.sent = m.meter.sent.toNat + l.held Reservation.bytes ∧
      (∀ size : Int64, l.sent + size.toInt.toNat < UInt64.size →
        ∃ admitted m', (l.monitor.reserve size).Gives (admitted, m') ∧
          (admitted = true ↔
            1 ≤ size.toInt ∧ (l.limit = 0 ∨ l.sent + size.toInt.toNat ≤ l.limit)) ∧
          (admitted = true ↔ l.monitor.meter.refuses size = false) ∧
          (admitted = false → l.monitor.reserve size = pure (false, l.monitor))) ∧
      ∀ L, 0 < L → m.meter.sent.toNat ≤ L → m.meter.policy.dataLimit.toNat = L →
        (∀ move ∈ moves, ∀ p, move.policy? = some p → p.dataLimit.toNat = L) →
        l.held Reservation.bytes ≤ L - m.meter.sent.toNat := by
  intro l
  refine ⟨run_gives _ moves, ?_, fun size room => ?_, fun L pos le limit fixed => ?_⟩
  · exact (fits.and quiet).invariant (I := Accounts m.meter.sent.toNat)
      (fun h ⟨fits, quiet⟩ => (change_after _ _).accounts fits quiet h) rfl
  · refine ⟨_, _, l.monitor.reserve_gives size, ?_, Bool.not_eq_true' _ ▸ Iff.rfl, fun refused => ?_⟩
    · rw [Bool.not_eq_true']
      exact Meter.refuses_eq_false_iff room
    · exact Monitor.reserve_of_refuses ((Bool.not_eq_false' _).mp refused)
  · have kept := ((fits.and quiet).and (Along.of_forall fixed (of m))).invariant
      (I := fun l => l.Accounts m.meter.sent.toNat ∧ l.limit = L ∧
        m.meter.sent.toNat + l.held Reservation.bytes ≤ L)
      (fun {l move} ⟨accounts, limit, h⟩ ⟨⟨fits, quiet⟩, fixed⟩ =>
        have change := l.change_after move
        ⟨change.accounts fits quiet accounts, change.limit fixed limit,
          change.held_le accounts limit pos fits h⟩)
      ⟨rfl, limit, le⟩
    exact Nat.le_sub_of_add_le' kept.2.2

/-- Two payloads that the limit has room for one of; the first comes back, and a greater one goes
out. -/
theorem exact_accounting_in_turn :
    let m : Monitor :=
      { store := ⟨"/state"⟩, meter := { policy := { dataLimit := 1000 }, sent := 900 } }
    let moves : List Move :=
      [.reserve 60, .reserve 60, .release ⟨60, 0⟩, .reserve 100, .deliver ⟨100, 0⟩]
    Along after Fits (of m) moves ∧ Along after (fun l move => l.begins move = false) (of m) moves ∧
      ((of m).run moves).Gives ((of m).afterAll moves) ∧
      ((of m).afterAll moves).sent = 900 + ((of m).afterAll moves).held Reservation.bytes ∧
      ((of m).afterAll moves).held Reservation.bytes ≤ 1000 - 900 := by
  intro m moves
  have fits : Along after Fits (of m) moves := by decide +kernel
  have quiet : Along after (fun l move => l.begins move = false) (of m) moves := by decide +kernel
  obtain ⟨gives, sent, -, within⟩ := exact_accounting m moves fits quiet
  refine ⟨fits, quiet, gives, sent, within 1000 (by decide) (by decide) rfl fun move h p hp => ?_⟩
  simp only [moves, List.mem_cons, List.not_mem_nil, or_false] at h
  rcases h with rfl | rfl | rfl | rfl | rfl <;> cases hp

end Ledger

end CrashReporter.Usage
