import CrashReporter.Proofs.Disk
import CrashReporter.Proofs.Usage.Admission
import CrashReporter.Usage.Monitor

/-!
# What a monitor is asked for in the course of time

A monitor counts payloads, and in between it is kept up: policies come in, days go by, and now and
then its process begins anew. What all of this does to the meter does not depend on the files, with
one exception: a process that begins anew takes its count from them.

* `Monitor.reserve_of_refuses`, `Monitor.reserve_of_admits`, `Monitor.release_gives`,
  `Monitor.add_gives`: counting;
* `Monitor.keepUp_gives`: being kept up;
* `Monitor.fresh_run`: beginning anew;
* `Monitor.perform_run`: every action, as one that `Meter.perform` does to the meter.
-/

namespace CrashReporter.Usage

/-- What keeps a meter's policy and its cycle up to date. -/
inductive Upkeep where
  /-- Another policy. -/
  | setPolicy (p : Policy)
  /-- The remote API's answer to the question for a policy. -/
  | refresh (answer : Except Failure Policy)
  /-- A tick, and the answer if it asks for a policy. -/
  | tick (answer : Except Failure Policy)
  /-- The sight of a day. -/
  | check (today : Date)
  /-- Another writing of the count. -/
  | persist

/-- What may happen to a monitor. -/
inductive Action where
  | reserve (size : Int64)
  | release (size : Int64)
  | add (size : Int64)
  | keepUp (u : Upkeep)
  /-- The process ends, and another begins with the same store and policy. -/
  | restart

namespace Upkeep

/-- The policy that may come into force. -/
def policy? : Upkeep → Option Policy
  | .setPolicy p => some p
  | .refresh answer => answer.toOption
  | .tick answer => answer.toOption
  | .check _ => none
  | .persist => none

/-- The day that is seen. -/
def day? : Upkeep → Option Date
  | .check today => some today
  | _ => none

end Upkeep

namespace Action

/-- The policy that may come into force. -/
def policy? : Action → Option Policy
  | .keepUp u => u.policy?
  | _ => none

/-- The day that is seen. -/
def day? : Action → Option Date
  | .keepUp u => u.day?
  | _ => none

/-- Whether another process begins. -/
def isRestart : Action → Bool
  | .restart => true
  | _ => false

end Action

namespace Meter

/-- The meter under the policy of an answer, if there is one in it. -/
def takeOver (m : Meter) : Except Failure Policy → Meter
  | .ok p => m.setPolicy p
  | .error _ => m

/-- The meter kept up to date. -/
def keepUp (m : Meter) : Upkeep → Meter
  | .setPolicy p => m.setPolicy p
  | .refresh answer => m.takeOver answer
  | .tick answer => if m.tick.2 then m.tick.1.takeOver answer else m.tick.1
  | .check today => m.check today
  | .persist => m

/-- The meter after an action, if a process that begins anew finds `kept` in its store. -/
def perform (m : Meter) (kept : UInt64) : Action → Meter
  | .reserve size => (m.reserve? size).getD m
  | .release size => (m.release? size).getD m
  | .add size => (m.add? size).getD m
  | .keepUp u => m.keepUp u
  | .restart => { policy := m.policy, sent := kept }

/-- Whether a cycle begins while the meter is kept up to date. -/
def begins (m : Meter) (u : Upkeep) : Bool := u.day?.any m.resetsOn

variable (m : Meter)

theorem sent_check (today : Date) :
    (m.check today).sent = if m.resetsOn today then 0 else m.sent := by
  unfold check resetsOn
  by_cases day : today.day = m.cycleDay today <;> cases waits : m.awaitingReset <;> simp [day, restart]

theorem policy_check (today : Date) : (m.check today).policy = m.policy := by
  unfold check
  split
  · rfl
  · split <;> rfl

/-- A day is waited for from any other day on. -/
theorem awaitingReset_check (today : Date) :
    (m.check today).awaitingReset = (today.day != m.cycleDay today) := by
  unfold check
  by_cases day : today.day = m.cycleDay today <;> cases waits : m.awaitingReset <;> simp [day, waits]

theorem sent_takeOver (answer : Except Failure Policy) : (m.takeOver answer).sent = m.sent := by
  cases answer <;> rfl

theorem awaitingReset_takeOver (answer : Except Failure Policy) :
    (m.takeOver answer).awaitingReset = m.awaitingReset := by
  cases answer <;> rfl

theorem policy_takeOver (answer : Except Failure Policy) :
    (m.takeOver answer).policy = m.policy ∨ answer.toOption = some (m.takeOver answer).policy := by
  cases answer
  · exact .inl rfl
  · exact .inr rfl

/-- A tick changes nothing but the number of ticks. -/
theorem tick_fst : ∃ ticks, m.tick.1 = { m with ticks } := by
  unfold tick
  split <;> exact ⟨_, rfl⟩

theorem sent_keepUp (u : Upkeep) : (m.keepUp u).sent = if m.begins u then 0 else m.sent := by
  cases u with
  | setPolicy p => rfl
  | refresh answer => exact m.sent_takeOver answer
  | tick answer =>
    obtain ⟨ticks, h⟩ := m.tick_fst
    simp only [keepUp, h]
    split
    · exact sent_takeOver _ answer
    · rfl
  | check today => exact m.sent_check today
  | persist => rfl

theorem policy_keepUp (u : Upkeep) :
    (m.keepUp u).policy = m.policy ∨ u.policy? = some (m.keepUp u).policy := by
  cases u with
  | setPolicy p => exact .inr rfl
  | refresh answer => exact m.policy_takeOver answer
  | tick answer =>
    obtain ⟨ticks, h⟩ := m.tick_fst
    simp only [keepUp, h]
    split
    · exact policy_takeOver { m with ticks } answer
    · exact .inl rfl
  | check today => exact .inl (m.policy_check today)
  | persist => exact .inl rfl

theorem awaitingReset_keepUp (u : Upkeep) :
    (m.keepUp u).awaitingReset =
      u.day?.elim m.awaitingReset fun today => today.day != m.cycleDay today := by
  cases u with
  | setPolicy p => rfl
  | refresh answer => exact m.awaitingReset_takeOver answer
  | tick answer =>
    obtain ⟨ticks, h⟩ := m.tick_fst
    simp only [keepUp, h]
    split
    · exact awaitingReset_takeOver _ answer
    · rfl
  | check today => exact m.awaitingReset_check today
  | persist => rfl

end Meter

namespace Monitor

/-- Keeps the monitor up to date. -/
def keepUp (m : Monitor) : Upkeep → Disk Monitor
  | .setPolicy p => pure (m.setPolicy p)
  | .refresh answer => do return (← m.refresh answer).toOption.getD m
  | .tick answer => do return (← m.tick answer).2
  | .check today => m.check today
  | .persist => do
    m.persist
    return m

/-- The monitor of a process that begins with a store and a policy. -/
def fresh (store : Store) (policy : Policy) : Disk Monitor := do
  return (← ofStore store).setPolicy policy

/-- The monitor after an action. -/
def perform (m : Monitor) : Action → Disk Monitor
  | .reserve size => do return (← m.reserve size).2
  | .release size => m.release size
  | .add size => m.add size
  | .keepUp u => m.keepUp u
  | .restart => fresh m.store m.meter.policy

/-- The monitor after actions, one after the other. -/
def run (m : Monitor) (actions : List Action) : Disk Monitor := actions.foldlM perform m

/-! ## Counting -/

theorem persist_gives (m : Monitor) : m.persist.Gives () :=
  Disk.Gives.attempt_bind _ fun _ => Disk.gives_pure _

theorem update_gives (m : Monitor) (meter : Meter) : (m.update meter).Gives { m with meter } :=
  (persist_gives _).bind (Disk.gives_pure _)

theorem updateIf_gives (m : Monitor) (next : Option Meter) :
    (m.updateIf next).Gives { m with meter := next.getD m.meter } := by
  cases next with
  | some meter => exact m.update_gives meter
  | none => exact Disk.gives_pure m

/-- A payload that is refused leaves the monitor and the files as they are. -/
theorem reserve_of_refuses {m : Monitor} {size : Int64} (h : m.meter.refuses size = true) :
    m.reserve size = pure (false, m) := by
  rw [reserve, Meter.reserve?_of_refuses h]
  rfl

theorem reserve_of_admits {m : Monitor} {size : Int64} (h : m.meter.refuses size = false) :
    (m.reserve size).Gives (true, { m with meter := m.meter.count (bytesOf size) }) := by
  rw [reserve, Meter.reserve?_of_admits h]
  exact (m.updateIf_gives _).bind (Disk.gives_pure _)

theorem reserve_gives (m : Monitor) (size : Int64) :
    (m.reserve size).Gives
      (!m.meter.refuses size, { m with meter := (m.meter.reserve? size).getD m.meter }) := by
  rw [← Meter.isSome_reserve]
  exact (m.updateIf_gives _).bind (Disk.gives_pure _)

theorem release_gives (m : Monitor) (size : Int64) :
    (m.release size).Gives { m with meter := (m.meter.release? size).getD m.meter } :=
  m.updateIf_gives _

theorem add_gives (m : Monitor) (size : Int64) :
    (m.add size).Gives { m with meter := (m.meter.add? size).getD m.meter } :=
  m.updateIf_gives _

/-! ## Being kept up -/

theorem refresh_gives (m : Monitor) (answer : Except Failure Policy) :
    (m.refresh answer).Gives (m.setPolicy <$> answer) := by
  cases answer with
  | error f => exact Disk.gives_pure _
  | ok p => exact Disk.Gives.attempt_bind _ fun _ => Disk.gives_pure _

theorem tick_gives (m : Monitor) (answer : Except Failure Policy) :
    (m.tick answer).Gives
      (m.meter.tick.2, { m with meter := m.meter.keepUp (.tick answer) }) := by
  unfold tick
  simp only [Meter.keepUp]
  by_cases due : m.meter.tick.2 = true
  · rw [if_pos due, if_pos due]
    refine (refresh_gives _ answer).bind ?_
    cases answer with
    | error f => rw [due]; exact Disk.gives_pure _
    | ok p => rw [due]; exact Disk.gives_pure _
  · rw [if_neg due, if_neg due, Bool.eq_false_iff.mpr due]
    exact Disk.gives_pure _

theorem check_gives (m : Monitor) (today : Date) :
    (m.check today).Gives { m with meter := m.meter.check today } := by
  unfold check
  split
  · exact m.update_gives _
  · exact Disk.gives_pure _

theorem keepUp_gives (m : Monitor) (u : Upkeep) :
    (m.keepUp u).Gives { m with meter := m.meter.keepUp u } := by
  cases u with
  | setPolicy p => exact Disk.gives_pure _
  | refresh answer =>
    refine (m.refresh_gives answer).bind ?_
    cases answer <;> exact Disk.gives_pure _
  | tick answer => exact (m.tick_gives answer).bind (Disk.gives_pure _)
  | check today => exact m.check_gives today
  | persist => exact m.persist_gives.bind (Disk.gives_pure _)

/-! ## Beginning anew -/

/-- A monitor begins with some count, whatever the files, and leaves them as they are. -/
theorem ofStore_run (store : Store) (t : FileTree) :
    ∃ sent, ofStore store t = .ok { store, meter := { sent } } t := by
  obtain ⟨count, h⟩ := store.load_run countRecord.shape countName t
  unfold ofStore storedCount
  simp only [bind_assoc, pure_bind]
  exact ⟨_, Disk.bind_run h⟩

theorem ofStore_store {store : Store} {m : Monitor} {t t' : FileTree}
    (h : ofStore store t = .ok m t') : m.store = store := by
  obtain ⟨sent, run⟩ := ofStore_run store t
  have same := h.symm.trans run
  simp only [EStateM.Result.ok.injEq] at same
  exact same.1 ▸ rfl

theorem fresh_run (store : Store) (policy : Policy) (t : FileTree) :
    ∃ sent t', fresh store policy t = .ok { store, meter := { policy, sent } } t' := by
  obtain ⟨sent, h⟩ := ofStore_run store t
  exact ⟨sent, t, Disk.bind_run h⟩

/-- Every action is carried out, and does to the meter what it does without the files. -/
theorem perform_run (m : Monitor) (a : Action) (t : FileTree) :
    ∃ kept t', m.perform a t = .ok { m with meter := m.meter.perform kept a } t' := by
  cases a with
  | reserve size =>
    have gives : (m.perform (.reserve size)).Gives _ :=
      (m.reserve_gives size).bind (Disk.gives_pure _)
    exact ⟨0, gives t⟩
  | release size => exact ⟨0, m.release_gives size t⟩
  | add size => exact ⟨0, m.add_gives size t⟩
  | keepUp u => exact ⟨0, m.keepUp_gives u t⟩
  | restart => exact fresh_run m.store m.meter.policy t

end Monitor

end CrashReporter.Usage
