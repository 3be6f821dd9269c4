import CrashReporter.Agent
import CrashReporter.Proofs.Transport
import CrashReporter.Proofs.Usage.Action

/-!
# Steps of an agent

A step of a delivery comes to the same on all files (`Delivery.step_gives`), and so does a step of the
agent (`Agent.step_gives`). What the threads of an agent do changes neither its settings, its store nor
its sink, and does not open its scheduler again (`Agent.Alike`); and they tell a transport neither to
begin nor to end (`Agent.afterStep_call`).
-/

namespace CrashReporter

namespace Scheduler

variable {s s' : Scheduler}

@[simp] theorem closed_finish (s : Scheduler) (i : Nat) : (s.finish i).closed = s.closed := by
  unfold finish
  split
  · split <;> rfl
  · rfl

@[simp] theorem closed_finishWhere (s : Scheduler) (p : Task → Bool) :
    (s.finishWhere p).closed = s.closed := by
  unfold finishWhere
  induction List.range s.tasks.length generalizing s with
  | nil => rfl
  | cons i rest ih =>
    rw [List.foldl_cons]
    split
    · exact (ih _).trans (s.closed_finish i)
    · exact ih s

theorem closed_submit {kind : Kind} (h : s.submit kind = .ok s') :
    s.closed = false ∧ s'.closed = false := by
  cases closed : s.closed with
  | true => simp [submit, ensureOpen, closed, bind, Except.bind] at h
  | false =>
    simp only [submit, ensureOpen, closed, bind, Except.bind, pure, Except.pure, Except.ok.injEq,
      Bool.false_eq_true, if_false] at h
    subst h
    exact ⟨rfl, closed⟩

end Scheduler

namespace Delivery

/-- A payload that may be sent counts with all its bytes, unless there are more than can be counted. -/
theorem toNat_size {d : Delivery} (fits : d.payload.length < UInt64.size) (pos : 1 ≤ d.size.toInt) :
    d.size.toInt.toNat = d.payload.length := by
  have wraps : d.size.toInt = (d.payload.length : Int).bmod 18446744073709551616 :=
    Int64.toInt_ofNat'
  have : UInt64.size = 18446744073709551616 := rfl
  rw [Int.bmod_def] at wraps
  split at wraps <;> omega

/-- A step of a delivery without a look at the files. -/
def afterStep (d : Delivery) (sink : Sink) (m : Usage.Meter) : Stage × Usage.Meter × Option Call :=
  match d.stage with
  | .queued => (if sink.closed then .ended .dropped else .admitted, m, none)
  | .admitted =>
    (if m.refuses d.size then .ended .refused else .reserved, (m.reserve? d.size).getD m, none)
  | .reserved =>
    match sink.transport.request d.payload with
    | .ok call => (.underway, m, some call)
    | .error _ => (.failed, m, none)
  | .underway => (.underway, m, none)
  | .failed => (.ended .returned, (m.release? d.size).getD m, none)
  | .ended fate => (.ended fate, m, none)

theorem step_gives (d : Delivery) (sink : Sink) (monitor : Usage.Monitor) :
    (d.step sink monitor).Gives
      ((d.afterStep sink monitor.meter).1,
        { monitor with meter := (d.afterStep sink monitor.meter).2.1 },
        (d.afterStep sink monitor.meter).2.2) := by
  unfold step afterStep
  cases d.stage with
  | queued => exact Disk.gives_pure _
  | admitted =>
    refine (monitor.reserve_gives d.size).bind ?_
    cases monitor.meter.refuses d.size <;> exact Disk.gives_pure _
  | reserved =>
    simp only
    cases sink.transport.request d.payload <;> exact Disk.gives_pure _
  | underway => exact Disk.gives_pure _
  | failed => exact (monitor.release_gives d.size).bind (Disk.gives_pure _)
  | ended fate => exact Disk.gives_pure _

/-- A step of a delivery tells a transport neither to begin nor to end. -/
theorem afterStep_call {d : Delivery} {sink : Sink} {m : Usage.Meter} {call : Call}
    (h : (d.afterStep sink m).2.2 = some call) : call.opens = false ∧ call.closes = false := by
  unfold afterStep at h
  split at h
  · cases h
  · cases h
  · split at h
    · next asked =>
      cases h
      exact Transport.request_ok asked
    · cases h
  · cases h
  · cases h
  · cases h

end Delivery

namespace Agent

/-- Keeps the agent's monitor up to date. -/
def keepUp (a : Agent) (u : Usage.Upkeep) : Disk Agent := do
  return { a with monitor := ← a.monitor.keepUp u }

/-- A step of delivery `i` without a look at the files. -/
def afterStep (a : Agent) (i : Nat) : Agent × Option Call :=
  match a.deliveries[i]? with
  | none => (a, none)
  | some d =>
    let (stage, meter, call) := d.afterStep a.sink a.monitor.meter
    ({ a with monitor := { a.monitor with meter } }.setStage i d stage, call)

theorem step_gives (a : Agent) (i : Nat) : (a.step i).Gives (a.afterStep i) := by
  unfold step afterStep
  cases a.deliveries[i]? with
  | none => exact Disk.gives_pure _
  | some d => exact (d.step_gives a.sink a.monitor).bind (Disk.gives_pure _)

theorem keepUp_gives (a : Agent) (u : Usage.Upkeep) :
    (a.keepUp u).Gives
      { a with monitor := { a.monitor with meter := a.monitor.meter.keepUp u } } :=
  (a.monitor.keepUp_gives u).bind (Disk.gives_pure _)

/-- A step of an agent tells a transport neither to begin nor to end. -/
theorem afterStep_call {a : Agent} {i : Nat} {call : Call} (h : (a.afterStep i).2 = some call) :
    call.opens = false ∧ call.closes = false := by
  unfold afterStep at h
  split at h
  · cases h
  · exact Delivery.afterStep_call h

/-! ## What stays -/

/-- Two states of an agent between which neither its settings, its store nor its sink have changed, nor
whether its scheduler is closed. -/
structure Alike (a a' : Agent) : Prop where
  settings : a'.settings = a.settings
  store : a'.monitor.store = a.monitor.store
  sink : a'.sink = a.sink
  closed : a'.scheduler.closed = a.scheduler.closed

theorem Alike.refl (a : Agent) : a.Alike a := ⟨rfl, rfl, rfl, rfl⟩

theorem alike_setStage (a : Agent) (i : Nat) (d : Delivery) (stage : Delivery.Stage) :
    a.Alike (a.setStage i d stage) := by
  refine ⟨rfl, rfl, rfl, ?_⟩
  unfold setStage
  simp only
  split
  · exact Scheduler.closed_finish _ _
  · rfl

theorem alike_afterStep (a : Agent) (i : Nat) : a.Alike (a.afterStep i).1 := by
  unfold afterStep
  split
  · exact .refl a
  · next d found =>
    obtain ⟨stage, meter, call⟩ := d.afterStep a.sink a.monitor.meter
    have alike := alike_setStage { a with monitor := { a.monitor with meter } } i d stage
    exact ⟨alike.settings, alike.store, alike.sink, alike.closed⟩

theorem alike_answer (a : Agent) (i : Nat) (o : Outcome Unit) : a.Alike (a.answer i o) := by
  unfold answer
  split
  · split
    · exact a.alike_setStage i _ _
    · exact .refl a
  · exact .refl a

theorem Alike.trans {a b c : Agent} (h : a.Alike b) (h' : b.Alike c) : a.Alike c :=
  ⟨h'.settings.trans h.settings, h'.store.trans h.store, h'.sink.trans h.sink,
    h'.closed.trans h.closed⟩

theorem alike_cancel (a : Agent) (i : Nat) : a.Alike (a.cancel i) := by
  unfold cancel
  split
  · exact a.alike_setStage i _ _
  · exact .refl a

theorem alike_halt (a : Agent) : a.Alike a.halt := by
  have cancels : ∀ is : List Nat, a.Alike (is.foldl cancel a) := by
    intro is
    induction is generalizing a with
    | nil => exact .refl a
    | cons i is ih => exact (a.alike_cancel i).trans (ih (a.cancel i))
  have all := cancels (List.range a.deliveries.length)
  exact ⟨all.settings, all.store, all.sink, (Scheduler.closed_finishWhere _ _).trans all.closed⟩

/-- An event is handed over if the scheduler takes another task and the event can be packed. -/
theorem dispatch_ok {a a' : Agent} {e : Event} {stack : List Frame} {id : String} {readings : Readings}
    (h : a.dispatch e stack id readings = .ok a') :
    ∃ scheduler payload, a.scheduler.submit .once = .ok scheduler ∧
      a.sink.pack (e.resolve stack) id readings = .ok payload ∧
      a' = { a with
        scheduler
        deliveries := a.deliveries ++ [{ payload, task := a.scheduler.tasks.length }] } := by
  unfold dispatch at h
  simp only [bind, Except.bind] at h
  split at h
  · cases h
  · next scheduler submitted =>
    split at h
    · cases h
    · next payload packed =>
      cases h
      exact ⟨scheduler, payload, submitted, packed, rfl⟩

/-- The agent with another payload on its way. -/
def queue (a : Agent) (payload : Bytes) : Agent :=
  { a with
    scheduler := a.scheduler.enter .once
    deliveries := a.deliveries ++ [{ payload, task := a.scheduler.tasks.length }] }

theorem alike_queue (a : Agent) (payload : Bytes) : a.Alike (a.queue payload) := ⟨rfl, rfl, rfl, rfl⟩

/-- An agent whose scheduler takes tasks, and whose sink was started, takes each event. -/
theorem dispatch_open {a : Agent} {origin : Origin} (unclosed : a.scheduler.closed = false)
    (started : a.sink.origin = some origin) (e : Event) (stack : List Frame) (id : String)
    (readings : Readings) :
    a.dispatch e stack id readings = .ok (a.queue ((e.resolve stack).payload id origin readings)) := by
  have submitted : a.scheduler.submit .once = .ok (a.scheduler.enter .once) := by
    simp only [Scheduler.submit, Scheduler.ensureOpen, unclosed, Bool.false_eq_true, if_false]
    rfl
  have packed : a.sink.pack (e.resolve stack) id readings =
      .ok ((e.resolve stack).payload id origin readings) := by
    simp only [Sink.pack, started]
  simp only [dispatch, submitted, packed]
  rfl

theorem alike_dispatch {a a' : Agent} {e : Event} {stack : List Frame} {id : String}
    {readings : Readings} (h : a.dispatch e stack id readings = .ok a') : a.Alike a' := by
  obtain ⟨scheduler, payload, submitted, -, rfl⟩ := dispatch_ok h
  have closed := Scheduler.closed_submit submitted
  exact ⟨rfl, rfl, rfl, closed.2.trans closed.1.symm⟩

end Agent

end CrashReporter
