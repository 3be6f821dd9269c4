import CrashReporter.Lifecycle
import CrashReporter.Proofs.Agent.Startup
import CrashReporter.Proofs.Agent.Steps
import CrashReporter.Proofs.Along
import CrashReporter.Proofs.Usage.Admission
import Mathlib.Algebra.GroupWithZero.Nat
import Mathlib.Algebra.Order.BigOperators.Group.List
import Mathlib.Algebra.Order.Group.Nat

/-!
# What an agent's deliveries leave counted

The deliveries of an agent take their steps in any order, the transport answers them or panics, and a
stop gives up those that are left (`Agent.Move`, `Agent.halt`). As long as no cycle begins, the count is
what it was and the payloads that are counted at the moment (`Agent.Balanced`): a step of a delivery
adds to the count what its payload comes to count (`Delivery.afterStep_balanced`), and so every move
keeps the balance (`Agent.Balanced.after`).

After a stop that is the payloads that were delivered, and those that were lost: the transport panicked
with them, or its answer was not waited for (`Agent.count_of_halted`).
-/

namespace CrashReporter

namespace Delivery

/-- Whether a payload's bytes are counted. -/
def Stage.counts : Stage → Bool
  | .reserved | .underway | .failed | .ended .delivered | .ended .lost => true
  | _ => false

@[simp] theorem Stage.counts_giveUp (s : Stage) : s.giveUp.counts = s.counts := by
  cases s <;> rfl

theorem Stage.counts_afterAnswer (o : Outcome Unit) : (afterAnswer o).counts = true := by
  cases o <;> rfl

/-- A payload that is counted has bytes, and as many as are counted for it. -/
def Sized (d : Delivery) : Prop :=
  d.stage.counts = true → 0 < d.payload.length ∧ d.size.toInt.toNat = d.payload.length

/-- The bytes of a payload, if its delivery is at a stage of some kind. -/
def bytes (kind : Stage → Bool) (d : Delivery) : Nat := if kind d.stage then d.payload.length else 0

/-- What a step of a delivery adds to the count is what its payload comes to count, and what it takes off
is what the payload no longer counts. -/
theorem afterStep_balanced {d : Delivery} (sink : Sink) {m : Usage.Meter} (sized : d.Sized)
    (fits : d.stage = .admitted → m.sent.toNat + d.payload.length < UInt64.size)
    (counted : d.bytes Stage.counts ≤ m.sent.toNat) :
    let d' := { d with stage := (d.afterStep sink m).1 }
    (d.afterStep sink m).2.1.sent.toNat + d.bytes Stage.counts =
      m.sent.toNat + d'.bytes Stage.counts ∧ d'.Sized := by
  unfold afterStep
  cases stage : d.stage with
  | queued =>
    simp only [bytes, stage]
    cases sink.closed <;> exact ⟨rfl, by simp [Sized, Stage.counts]⟩
  | admitted =>
    have room := fits stage
    simp only [bytes, stage, Usage.Meter.reserve?]
    cases refused : m.refuses d.size with
    | true => exact ⟨rfl, by simp [Sized, Stage.counts]⟩
    | false =>
      have pos : 1 ≤ d.size.toInt := ((Usage.exceedsLimit_eq_false_iff _ _ _).mp refused).1
      have size := toNat_size (by omega) pos
      have sent := m.toNat_sent_count d.size (by omega)
      have filled : 0 < d.payload.length := by omega
      rw [size] at sent
      exact ⟨sent, fun _ => ⟨filled, size⟩⟩
  | reserved =>
    have whole := sized (by rw [stage]; rfl)
    simp only [bytes, stage]
    split <;> exact ⟨rfl, fun _ => whole⟩
  | underway =>
    have whole := sized (by rw [stage]; rfl)
    simp only [bytes, stage]
    exact ⟨trivial, fun _ => whole⟩
  | failed =>
    have whole := sized (by rw [stage]; rfl)
    have sent := m.toNat_sent_release d.size
    simp only [bytes, stage] at counted ⊢
    rw [whole.2] at sent
    refine ⟨?_, by simp [Sized, Stage.counts]⟩
    rw [sent]
    exact Nat.sub_add_cancel counted
  | ended fate =>
    simp only [bytes, stage]
    exact ⟨trivial, fun h => sized (by rw [stage]; exact h)⟩

end Delivery

namespace Agent

open Delivery

/-- What happens to an agent that runs or is being stopped. -/
inductive Move where
  | dispatch (e : Event) (stack : List Frame) (id : String) (readings : Readings)
  /-- Delivery `i` takes a step. -/
  | step (i : Nat)
  /-- The transport answers delivery `i`. -/
  | answer (i : Nat) (o : Outcome Unit)
  | keepUp (u : Usage.Upkeep)
  /-- The scheduler is closed. -/
  | close
  /-- The sink is closed. -/
  | closeSink

/-- The agent after a move. -/
def move (a : Agent) : Move → Disk Agent
  | .dispatch e stack id readings => return (a.dispatch e stack id readings).toOption.getD a
  | .step i => do return (← a.step i).1
  | .answer i o => return a.answer i o
  | .keepUp u => a.keepUp u
  | .close => return a.close?.getD a
  | .closeSink => return a.closeSink.2

/-- The agent after moves, one after the other. -/
def run (a : Agent) (moves : List Move) : Disk Agent := moves.foldlM move a

/-- The agent after a move, without a look at the files. -/
def after (a : Agent) : Move → Agent
  | .dispatch e stack id readings => (a.dispatch e stack id readings).toOption.getD a
  | .step i => (a.afterStep i).1
  | .answer i o => a.answer i o
  | .keepUp u => { a with monitor := { a.monitor with meter := a.monitor.meter.keepUp u } }
  | .close => a.close?.getD a
  | .closeSink => a.closeSink.2

theorem move_gives (a : Agent) (m : Move) : (a.move m).Gives (a.after m) := by
  cases m with
  | step i => exact (a.step_gives i).bind (Disk.gives_pure _)
  | keepUp u => exact a.keepUp_gives u
  | _ => exact Disk.gives_pure _

theorem run_gives (a : Agent) (moves : List Move) : (a.run moves).Gives (moves.foldl after a) :=
  Disk.gives_foldlM move_gives a moves

/-- The bytes that are counted. -/
def sent (a : Agent) : Nat := a.monitor.meter.sent.toNat

/-- The bytes of all payloads whose deliveries are at a stage of some kind. -/
def tally (a : Agent) (kind : Stage → Bool) : Nat := (a.deliveries.map (·.bytes kind)).sum

/-- Whether a cycle begins with a move. -/
def begins (a : Agent) : Move → Bool
  | .keepUp u => a.monitor.meter.begins u
  | _ => false

/-- The bytes of a payload that asks to be counted can be added to the count. -/
def Fits (a : Agent) : Move → Prop
  | .step i => ∀ d ∈ a.deliveries[i]?, d.stage = .admitted →
      a.sent + d.payload.length < UInt64.size
  | _ => True

instance (a : Agent) : (m : Move) → Decidable (a.Fits m)
  | .step i => inferInstanceAs (Decidable (∀ d ∈ a.deliveries[i]?, d.stage = .admitted →
      a.sent + d.payload.length < UInt64.size))
  | .dispatch _ _ _ _ | .answer _ _ | .keepUp _ | .close | .closeSink =>
    inferInstanceAs (Decidable True)

/-- The count is `base` and the payloads that are counted. -/
structure Balanced (base : Nat) (a : Agent) : Prop where
  sent : a.sent = base + a.tally Stage.counts
  sized : ∀ d ∈ a.deliveries, d.Sized

theorem sum_set (f : Delivery → Nat) {deliveries : List Delivery} {i : Nat} {d : Delivery}
    (found : deliveries[i]? = some d) (d' : Delivery) :
    ((deliveries.set i d').map f).sum + f d = (deliveries.map f).sum + f d' := by
  induction deliveries generalizing i with
  | nil => cases found
  | cons e rest ih =>
    cases i with
    | zero =>
      cases found
      simp only [List.set_cons_zero, List.map_cons, List.sum_cons]
      omega
    | succ i =>
      have := ih found
      simp only [List.set_cons_succ, List.map_cons, List.sum_cons]
      omega

variable {a : Agent} {base i : Nat} {d : Delivery} {kind : Stage → Bool}

theorem bytes_le_tally (found : a.deliveries[i]? = some d) : d.bytes kind ≤ a.tally kind :=
  List.single_le_sum (fun _ _ => Nat.zero_le _) _
    (List.mem_map_of_mem (List.mem_of_getElem? found))

/-- A delivery comes to another stage, and the count follows. -/
theorem Balanced.setStage (h : a.Balanced base) (found : a.deliveries[i]? = some d)
    (meter : Usage.Meter) {stage : Stage}
    (sent : meter.sent.toNat + d.bytes Stage.counts =
      a.sent + ({ d with stage } : Delivery).bytes Stage.counts)
    (sized : ({ d with stage } : Delivery).Sized) :
    (({ a with monitor := { a.monitor with meter } } : Agent).setStage i d stage).Balanced base where
  sent := by
    have moved := sum_set (·.bytes Stage.counts) found { d with stage }
    have before := h.sent
    simp only [Agent.setStage, Agent.sent, tally] at sent before ⊢
    omega
  sized e he := by
    rcases List.mem_or_eq_of_mem_set he with old | rfl
    · exact h.sized e old
    · exact sized

theorem Balanced.step (h : a.Balanced base) (fits : a.Fits (.step i)) :
    (a.afterStep i).1.Balanced base := by
  unfold afterStep
  cases found : a.deliveries[i]? with
  | none => exact h
  | some d =>
    have counted : d.bytes Stage.counts ≤ a.monitor.meter.sent.toNat := by
      have sent := h.sent
      have part : d.bytes Stage.counts ≤ a.tally Stage.counts := bytes_le_tally found
      simp only [Agent.sent] at sent
      omega
    obtain ⟨sent, sized⟩ := afterStep_balanced a.sink
      (h.sized d (List.mem_of_getElem? found)) (fits d found) counted
    exact h.setStage found _ sent sized

theorem Balanced.answer (h : a.Balanced base) (i : Nat) (o : Outcome Unit) :
    (a.answer i o).Balanced base := by
  unfold Agent.answer
  cases found : a.deliveries[i]? with
  | none => exact h
  | some d =>
    simp only
    split
    · next underway =>
      have counts : d.stage.counts = true := by rw [underway]; rfl
      have whole := h.sized d (List.mem_of_getElem? found) counts
      refine h.setStage found a.monitor.meter ?_ fun _ => whole
      simp only [bytes, counts, Stage.counts_afterAnswer]
      rfl
    · exact h

theorem Balanced.keepUp (h : a.Balanced base) {u : Usage.Upkeep}
    (quiet : a.monitor.meter.begins u = false) :
    ({ a with monitor := { a.monitor with meter := a.monitor.meter.keepUp u } } :
      Agent).Balanced base where
  sent := by
    have same := a.monitor.meter.sent_keepUp u
    rw [quiet] at same
    exact (congrArg UInt64.toNat same).trans h.sent
  sized := h.sized

/-- A payload that comes in is not counted yet. -/
theorem Balanced.dispatch (h : a.Balanced base) {a' : Agent} {e : Event} {stack : List Frame}
    {id : String} {readings : Readings} (dispatched : a.dispatch e stack id readings = .ok a') :
    a'.Balanced base := by
  obtain ⟨scheduler, payload, -, -, rfl⟩ := dispatch_ok dispatched
  refine ⟨?_, fun d hd => ?_⟩
  · have := h.sent
    simp only [Agent.sent, tally, List.map_append, List.sum_append] at this ⊢
    simpa [bytes, Stage.counts] using this
  · rcases List.mem_append.mp hd with old | new
    · exact h.sized d old
    · rw [List.mem_singleton.mp new]
      simp [Sized, Stage.counts]

/-- What every move keeps while no cycle begins. -/
theorem Balanced.after (h : a.Balanced base) {m : Move} (fits : a.Fits m)
    (quiet : a.begins m = false) : (a.after m).Balanced base := by
  cases m with
  | dispatch e stack id readings =>
    simp only [Agent.after]
    cases dispatched : a.dispatch e stack id readings with
    | error f => exact h
    | ok a' => exact h.dispatch dispatched
  | step i => exact h.step fits
  | answer i o => exact h.answer i o
  | keepUp u => exact h.keepUp quiet
  | close =>
    simp only [Agent.after, close?]
    cases a.scheduler.close? with
    | none => exact h
    | some scheduler => exact ⟨h.sent, h.sized⟩
  | closeSink => exact ⟨h.sent, h.sized⟩

theorem store_after (a : Agent) (m : Move) : (a.after m).monitor.store = a.monitor.store := by
  cases m with
  | dispatch e stack id readings =>
    simp only [after]
    cases dispatched : a.dispatch e stack id readings with
    | error f => rfl
    | ok a' => exact (alike_dispatch dispatched).store
  | step i => exact (a.alike_afterStep i).store
  | answer i o => exact (a.alike_answer i o).store
  | keepUp u => rfl
  | close =>
    simp only [after, close?]
    cases a.scheduler.close? <;> rfl
  | closeSink => rfl

/-! ## The end -/

theorem monitor_cancel (a : Agent) (i : Nat) : (a.cancel i).monitor = a.monitor := by
  unfold cancel
  split <;> rfl

theorem getElem?_cancel (a : Agent) (i j : Nat) : (a.cancel i).deliveries[j]? =
    if i = j then a.deliveries[j]?.map fun d => { d with stage := d.stage.giveUp }
    else a.deliveries[j]? := by
  unfold cancel
  cases found : a.deliveries[i]? with
  | none =>
    show a.deliveries[j]? = _
    split
    · next same => rw [← same, found]; rfl
    · rfl
  | some d =>
    have inside := (List.getElem?_eq_some_iff.mp found).1
    simp only [setStage, List.getElem?_set, inside, if_true]
    split
    · next same => rw [← same, found]; rfl
    · rfl

/-- A stop gives up all that is left, and leaves the count as it is. -/
theorem halt_eq (a : Agent) : a.halt.monitor = a.monitor ∧
    a.halt.deliveries = a.deliveries.map fun d => { d with stage := d.stage.giveUp } := by
  have cancels : ∀ n, ((List.range n).foldl cancel a).monitor = a.monitor ∧ ∀ j,
      ((List.range n).foldl cancel a).deliveries[j]? =
        if j < n then a.deliveries[j]?.map fun d => { d with stage := d.stage.giveUp }
        else a.deliveries[j]? := by
    intro n
    induction n with
    | zero => simp
    | succ n ih =>
      rw [List.range_succ, List.foldl_append]
      refine ⟨(monitor_cancel _ n).trans ih.1, fun j => ?_⟩
      simp only [List.foldl_cons, List.foldl_nil, getElem?_cancel, ih.2]
      grind
  refine ⟨(cancels _).1, List.ext_getElem? fun j => ?_⟩
  refine ((cancels _).2 j).trans ?_
  split
  · rw [List.getElem?_map]
  · simp_all

/-- Whether the transport took a payload. -/
def delivered : Stage → Bool := (· == .ended .delivered)

/-- Whether a delivery was given up after its bytes were counted: the transport panicked, or its answer
was not waited for. -/
def lost : Stage → Bool := (· == .ended .lost)

theorem Balanced.halt (h : a.Balanced base) : a.halt.Balanced base where
  sent := by
    obtain ⟨monitor, deliveries⟩ := a.halt_eq
    have before := h.sent
    simp only [Agent.sent, tally, monitor, deliveries, List.map_map] at before ⊢
    rw [before]
    congr 3
    funext d
    simp [bytes]
  sized := by
    rw [a.halt_eq.2]
    intro e he
    obtain ⟨d, hd, rfl⟩ := List.mem_map.mp he
    exact fun counts => h.sized d hd (by simpa using counts)

/-- After a stop all deliveries are over. -/
theorem isOver_halt (a : Agent) : ∀ d ∈ a.halt.deliveries, d.isOver = true := by
  rw [a.halt_eq.2]
  intro e he
  obtain ⟨d, -, rfl⟩ := List.mem_map.mp he
  cases d.stage <;> simp [isOver, Stage.giveUp]

/-- Of the deliveries that are over, those count that were made or lost. -/
theorem tally_over (finished : ∀ d ∈ a.deliveries, d.isOver = true) :
    a.tally Stage.counts = a.tally delivered + a.tally lost := by
  rw [tally, tally, tally, ← List.sum_map_add]
  congr 1
  refine List.map_congr_left fun d hd => ?_
  have ended := finished d hd
  unfold isOver at ended
  cases stage : d.stage with
  | ended fate => cases fate <;> simp [bytes, stage, delivered, lost, Stage.counts]
  | _ => simp [stage] at ended

/-- A payload that was delivered counts. -/
theorem tally_delivered_le (a : Agent) : a.tally delivered ≤ a.tally Stage.counts := by
  refine List.sum_le_sum fun d _ => ?_
  unfold bytes delivered
  cases stage : d.stage with
  | ended fate => cases fate <;> simp [Stage.counts]
  | _ => simp

/-- Nothing is counted for lost payloads exactly if there are none. -/
theorem tally_lost (sized : ∀ d ∈ a.deliveries, d.Sized) :
    a.tally lost = 0 ↔ ∀ d ∈ a.deliveries, d.stage ≠ .ended .lost := by
  rw [tally, List.sum_eq_zero_iff]
  simp only [List.mem_map, forall_exists_index, and_imp, forall_apply_eq_imp_iff₂]
  refine forall₂_congr fun d hd => ?_
  by_cases stage : d.stage = .ended .lost
  · have filled := List.ne_nil_of_length_pos (sized d hd (by rw [stage]; rfl)).1
    simp [bytes, lost, stage, filled]
  · simp [bytes, lost, stage]

/-- Once an agent that was brought up is stopped, its count is what its store held, the payloads that
were delivered, and those that were lost; and so is the count that the shutdown writes last. It is the
delivered payloads alone exactly if nothing was lost. -/
theorem count_of_halted {settings : Settings} {candidates : List String} {custom : Bool}
    {nonce : Gcm.Nonce} {answers : Startup.Answers} {calls : List Call} {t t' : FileTree}
    (up : Startup.run settings candidates custom false nonce answers t = .ok (calls, .ok a) t')
    (moves : List Move) (fits : Along after Fits a moves)
    (quiet : Along after (fun a m => a.begins m = false) a moves) :
    ∃ store m t₀ a', Store.openFirst candidates t = .ok (some store) t₀ ∧
      Usage.Monitor.ofStore store t₀ = .ok m t₀ ∧ (a.run moves).Gives a' ∧
      let loaded := m.meter.sent.toNat
      let h := a'.halt
      (∀ d ∈ h.deliveries, d.isOver = true) ∧
      h.sent = loaded + h.tally delivered + h.tally lost ∧
      (∀ l : Lifecycle, l.agent = some h → l.finishShutdown = do
        let _ ← Disk.attempt (store.save Usage.Monitor.countName (Usage.Monitor.countJson
          (UInt64.ofNat (loaded + h.tally delivered + h.tally lost))))
        return ({ l with phase := .uninitialized } : Lifecycle).release) ∧
      (h.sent = loaded + h.tally delivered ↔ ∀ d ∈ h.deliveries, d.stage ≠ .ended .lost) := by
  obtain ⟨fresh, store, m, t₀, opened, counted, kept, sent⟩ := (Startup.ends_of_run up).fresh
  have start : a.Balanced m.meter.sent.toNat ∧ a.monitor.store = store := by
    refine ⟨⟨?_, ?_⟩, kept.trans (Usage.Monitor.ofStore_store counted)⟩
    · simp [Agent.sent, tally, fresh.deliveries, sent]
    · simp [fresh.deliveries]
  obtain ⟨balanced, here⟩ := (fits.and quiet).invariant
    (I := fun a => a.Balanced m.meter.sent.toNat ∧ a.monitor.store = store)
    (fun ⟨h, here⟩ ⟨fits, quiet⟩ => ⟨h.after fits quiet, (store_after _ _).trans here⟩) start
  refine ⟨store, m, t₀, moves.foldl after a, opened, counted, a.run_gives moves, ?_⟩
  generalize moves.foldl after a = b at balanced here
  have finished := b.isOver_halt
  have sum : b.halt.sent =
      m.meter.sent.toNat + b.halt.tally delivered + b.halt.tally lost := by
    rw [balanced.halt.sent, tally_over finished, Nat.add_assoc]
  refine ⟨finished, sum, ?_, ?_⟩
  · intro l there
    rw [← sum, Agent.sent, UInt64.ofNat_toNat]
    simp only [Lifecycle.finishShutdown, there, Usage.Monitor.persist, b.alike_halt.store, here,
      bind_assoc, pure_bind]
  · rw [sum, ← tally_lost balanced.halt.sized]
    omega

/-- One payload is delivered, and the transport panics with the other. -/
theorem count_of_halted_panicked :
    let settings : Settings := .least
    let answers : Startup.Answers := .obliging
    let sends (i : Nat) : List Move :=
      [.dispatch { excType := "boom" } [] "id" default, .step i, .step i, .step i]
    let moves :=
      sends 0 ++ sends 1 ++ [.answer 0 (.ok ()), .close, .answer 1 .panicked, .closeSink]
    ∃ calls a t', Startup.run settings ["/state"] true false default answers {} =
        .ok (calls, .ok a) t' ∧
      Along after Fits a moves ∧ Along after (fun a m => a.begins m = false) a moves ∧
      ∃ store m t₀ a', Store.openFirst ["/state"] {} = .ok (some store) t₀ ∧
        Usage.Monitor.ofStore store t₀ = .ok m t₀ ∧ (a.run moves).Gives a' ∧
        a'.halt.sent = m.meter.sent.toNat + a'.halt.tally delivered + a'.halt.tally lost := by
  intro settings answers sends moves
  have sound : ((Startup.run settings ["/state"] true false default answers).answer? {}).any
      (fun asked => asked.2.value?.any fun a => Along after Fits a moves ∧
        Along after (fun a m => a.begins m = false) a moves) = true := by decide +kernel
  obtain ⟨calls, a, t', run, passes⟩ := Startup.up_of_any sound
  obtain ⟨fits, quiet⟩ := of_decide_eq_true passes
  obtain ⟨store, m, t₀, a', opened, counted, gives, -, sum, -⟩ := count_of_halted run moves fits quiet
  exact ⟨calls, a, t', run, fits, quiet, store, m, t₀, a', opened, counted, gives, sum⟩

/-- What is kept of the count of an agent that sent one payload, depending on the transport's answer: a
payload stays counted if the transport panics, and if its answer is not waited for, as if it had been
delivered. -/
theorem lost_stays_counted :
    let count (answer : Option (Outcome Unit)) : Option UInt64 := do
      let l ← (({} : Lifecycle).begin .least [] true).toOption
      let life : Disk UInt64 := do
        let (_, _, l) ← l.bringUpOn (fun _ => some ["/state"]) default .obliging
        let (l, _) ← (l.send { excType := "boom" } [] "id" default).deliver 0 fun _ => answer
        let _ ← l.shutdown 0
        Usage.Monitor.storedCount ⟨"/state"⟩
      life.answer? {}
    count (some (.ok ())) = some 132 ∧ count (some (.failed (.transport "down"))) = some 0 ∧
      count (some .panicked) = some 132 ∧ count none = some 132 := by
  decide +kernel

end Agent

end CrashReporter
