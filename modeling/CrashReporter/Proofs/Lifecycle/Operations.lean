import CrashReporter.Lifecycle
import CrashReporter.Proofs.Agent.Startup
import CrashReporter.Proofs.Agent.Steps

/-!
# Operations on a lifecycle

What each operation does to where a process stands with its agent: asking for an agent (`begin_ok`),
bringing it up (`bringUpOn_run`, `bringUpOn_outcome`), handing an event over (`dispatch_alike`), letting go of it
(`release_eq`) and shutting it down (`shutdown_of_stopAgent`).
-/

namespace CrashReporter

/-- An agent once it was stopped. -/
def Agent.stopped (a : Agent) : Agent := (a.close?.getD a).closeSink.2.halt

theorem Agent.closed_closeSink (a : Agent) : a.closeSink.2.sink.closed = true := by
  simp only [closeSink, Sink.close]
  split
  · assumption
  · rfl

theorem Agent.closed_stopped (a : Agent) : a.stopped.sink.closed = true := by
  rw [stopped, (alike_halt _).sink, closed_closeSink]

namespace Lifecycle

open Startup

variable {l l' : Lifecycle} {o : Options} {env : Environment} {custom : Bool} {settings : Settings}

/-! ## Asking for an agent -/

theorem begin_idle (idle : l.phase = .uninitialized) (accepted : o.resolve env custom = .ok settings) :
    l.begin o env custom = .ok { l with phase := .starting, pending := some (settings, custom) } := by
  simp only [begin, idle, accepted, ne_eq, not_true_eq_false, if_false, bind, Except.bind]
  rfl

/-- Where there is an agent, or one is on its way, nobody gets another. -/
theorem begin_taken (taken : l.phase ≠ .uninitialized) (o : Options) (env : Environment)
    (custom : Bool) : l.begin o env custom = .error .alreadyInitialized := by
  simp only [begin, ne_eq, taken, not_false_eq_true, if_true, bind, Except.bind]
  rfl

/-- An agent is asked for only where there is none, with options that make settings. -/
theorem begin_ok (h : l.begin o env custom = .ok l') :
    l.phase = .uninitialized ∧ ∃ settings, o.resolve env custom = .ok settings ∧
      l' = { l with phase := .starting, pending := some (settings, custom) } := by
  by_cases idle : l.phase = .uninitialized
  · refine ⟨idle, ?_⟩
    cases resolved : o.resolve env custom with
    | error f =>
      simp only [begin, idle, resolved, ne_eq, not_true_eq_false, if_false, bind, Except.bind] at h
      cases h
    | ok settings =>
      rw [begin_idle idle resolved] at h
      exact ⟨settings, rfl, (Except.ok.inj h).symm⟩
  · rw [begin_taken idle] at h
    cases h

/-! ## Bringing it up -/

/-- Bringing up the agent that was asked for comes to what its parts come to. -/
theorem bringUpOn_run {paths : Option String → Option (List String)} {candidates : List String}
    {nonce : Gcm.Nonce} {answers : Answers} {calls : List Call} {o : Outcome Agent} {t t' : FileTree}
    (asked : l.pending = some (settings, custom)) (placed : paths settings.configDir = some candidates)
    (ends : Ends settings candidates custom l.agent.isSome nonce answers t calls o t') :
    l.bringUpOn paths nonce answers t = .ok (calls, report o, l.conclude settings o) t' := by
  unfold bringUpOn
  simp only [asked, placed]
  exact Disk.bind_run ends.run

/-- The host's paths panic. -/
theorem bringUpOn_lost {paths : Option String → Option (List String)} (nonce : Gcm.Nonce)
    (answers : Answers) (asked : l.pending = some (settings, custom))
    (lost : paths settings.configDir = none) :
    l.bringUpOn paths nonce answers = pure ([], report .panicked, l.conclude settings .panicked) := by
  unfold bringUpOn
  simp only [asked, lost]

/-- What an agent comes to that was asked for: it panics exactly if the host's paths or another who was
asked does, and one that is brought up is fresh. -/
theorem bringUpOn_outcome (asked : l.pending = some (settings, custom))
    (paths : Option String → Option (List String)) (nonce : Gcm.Nonce) (answers : Answers)
    (t : FileTree) :
    ∃ calls o t', l.bringUpOn paths nonce answers t =
        .ok (calls, report o, l.conclude settings o) t' ∧
      (o.isPanicked = true ↔
        paths settings.configDir = none ∨ ∃ call ∈ calls, answers.panicsAt call = true) ∧
      ∀ a, o = .ok a → Fresh a settings calls := by
  cases placed : paths settings.configDir with
  | none =>
    refine ⟨[], .panicked, t, ?_, by simp, fun _ h => nomatch h⟩
    rw [bringUpOn_lost nonce answers asked placed]
    rfl
  | some candidates =>
    obtain ⟨calls, o, t', ends⟩ :=
      exists_ends settings candidates custom l.agent.isSome nonce answers t
    refine ⟨calls, o, t', bringUpOn_run asked placed ends, by simp [ends.isPanicked], ?_⟩
    rintro a rfl
    exact ends.fresh.1

/-- What an agent came to decides the phase, unless one who was asked has panicked. -/
theorem conclude_phase {o : Outcome Agent} (quiet : o.isPanicked = false) :
    (l.conclude settings o).phase = match report o with
      | .ok _ => .running
      | .error _ => .uninitialized := by
  cases o with
  | ok a => rfl
  | failed f => rfl
  | panicked => cases quiet

/-! ## Sending through it -/

theorem dispatch_alike (l : Lifecycle) (e : Event) (stack : List Frame) (id : String)
    (readings : Readings) {a : Agent} (here : l.agent = some a) :
    ∃ a', l.dispatch e stack id readings = { l with agent := some a' } ∧ a.Alike a' := by
  refine ⟨(a.dispatch e stack id readings).toOption.getD a, ?_, ?_⟩
  · simp only [dispatch, here]
    rfl
  · cases dispatched : a.dispatch e stack id readings with
    | error f => exact .refl a
    | ok a' => exact Agent.alike_dispatch dispatched

theorem dispatch_none (none : l.agent = none) (e : Event) (stack : List Frame) (id : String)
    (readings : Readings) : l.dispatch e stack id readings = l := by
  simp only [dispatch, none]
  cases l
  simp_all

/-- A thread that sends while senders find the agent has let go of it in the end. -/
theorem send_found (found : l.hasAgent = true) {e : Event} (filled : e.isEmpty = false)
    (stack : List Frame) (id : String) (readings : Readings) :
    l.send e stack id readings = l.dispatch e stack id readings := by
  have offered : l.offered = true := (Bool.and_eq_true .. |>.mp found).1
  simp only [send, filled, Bool.false_eq_true, if_false, take?, found, if_true, letGo, release, dispatch,
    offered, true_or, Nat.add_sub_cancel]

/-! ## Letting go of it -/

/-- The agent of the process may be used: senders find it, or it is being shut down, or a thread holds it. -/
def InUse (l : Lifecycle) : Prop := l.offered = true ∨ l.phase = .shuttingDown ∨ 0 < l.holders

/-- The agent stays as long as it may be used. -/
theorem release_eq (l : Lifecycle) : ∃ agent, l.release = { l with agent } ∧
    (agent.isSome = true ↔ l.agent.isSome = true ∧ l.InUse) ∧ ∀ a, agent = some a → l.agent = some a := by
  unfold release
  split
  · next used => exact ⟨l.agent, rfl, iff_self_and.mpr fun _ => used, fun _ h => h⟩
  · next unused => exact ⟨none, rfl, iff_of_false nofun fun h => unused h.2, fun _ h => nomatch h⟩

/-! ## Shutting it down -/

/-- Where no agent runs, none is shut down. -/
theorem shutdown_idle (idle : l.phase ≠ .running) (now : Nat) : l.shutdown now = pure ([], l) := by
  simp only [shutdown, ne_eq, idle, not_false_eq_true, if_true]

theorem finishShutdown_gives (l : Lifecycle) :
    l.finishShutdown.Gives ({ l with phase := .uninitialized } : Lifecycle).release := by
  unfold finishShutdown
  cases l.agent with
  | none => exact Disk.gives_pure _
  | some a => exact a.monitor.persist_gives.bind (Disk.gives_pure _)

/-- An agent that runs can be closed; what it sends with stays. -/
theorem close?_of_open {a : Agent} (unstopped : a.scheduler.closed = false) :
    ∃ c, a.close? = some c ∧ c.settings = a.settings ∧ c.sink = a.sink := by
  simp only [Agent.close?, Scheduler.close?, unstopped, Bool.false_eq_true, if_false, Option.map_some]
  exact ⟨_, rfl, rfl, rfl⟩

theorem closed_of_close? {a c : Agent} (closes : a.close? = some c) : c.scheduler.closed = true := by
  unfold Agent.close? at closes
  obtain ⟨scheduler, closes, rfl⟩ := Option.map_eq_some_iff.mp closes
  unfold Scheduler.close? at closes
  split at closes
  · cases closes
  · cases closes
    exact Scheduler.closed_finishWhere ..

/-- When the agent is stopped, everything else stays. -/
theorem stopAgent_frame (l : Lifecycle) (now : Nat) :
    ∃ agent, (l.stopAgent now).2 = { l with agent } ∧ agent.isSome = l.agent.isSome := by
  unfold stopAgent
  split
  · exact ⟨l.agent, rfl, rfl⟩
  · next a closes =>
    have here : l.agent.isSome = true := by
      cases agent : l.agent with
      | none => simp [agent] at closes
      | some _ => rfl
    split <;> exact ⟨some _, rfl, here.symm⟩

/-- Who still holds an agent that was stopped finds it closed. -/
theorem closed_stopAgent {a : Agent} {now : Nat} (stopped : (l.stopAgent now).2.agent = some a) :
    a.scheduler.closed = true := by
  unfold stopAgent at stopped
  split at stopped
  · next open? =>
    rw [stopped] at open?
    simpa [Agent.close?, Scheduler.close?] using open?
  · next c closes =>
    obtain ⟨b, -, closes⟩ := Option.bind_eq_some_iff.mp closes
    have closed := closed_of_close? closes
    split at stopped
    · obtain rfl := Option.some.inj stopped
      exact c.closeSink.2.alike_halt.closed.trans closed
    · obtain rfl := Option.some.inj stopped
      exact c.alike_halt.closed.trans closed

/-- An agent is stopped, and its transport told to end, if the end of its grace can be named. -/
theorem stopAgent_eq {a : Agent} {now : Nat} (here : l.agent = some a)
    (unstopped : a.scheduler.closed = false) (unclosed : a.sink.closed = false)
    (waits : canWait now a.settings.shutdownGrace = true) :
    l.stopAgent now = (a.sink.transport.stop.1, { l with agent := some a.stopped }) := by
  obtain ⟨c, closed, settings, sink⟩ := close?_of_open unstopped
  have told : c.closeSink.1 = a.sink.transport.stop.1 := by
    simp [Agent.closeSink, Sink.close, sink, unclosed]
  simp only [stopAgent, here, Option.bind_some, closed, settings, waits, if_true, Agent.stopped,
    Option.getD_some, told]

/-- A shutdown comes to what stopping the agent comes to. -/
theorem shutdown_of_stopAgent {now : Nat} {calls : List Call} (runs : l.phase = .running)
    (stops : l.beginShutdown.stopAgent now = (calls, l')) :
    (l.shutdown now).Gives (calls, ({ l' with phase := .uninitialized } : Lifecycle).release) := by
  unfold shutdown
  simp only [runs, ne_eq, not_true_eq_false, if_false, stops]
  exact (finishShutdown_gives _).bind (Disk.gives_pure _)

/-- Once the agent that ran was stopped, its shutdown leaves all but where the process stands with it. -/
theorem stopped_eq {now : Nat} {calls : List Call} (stops : l.beginShutdown.stopAgent now = (calls, l')) :
    ∃ agent, ({ l' with phase := .uninitialized } : Lifecycle).release =
        { l with phase := .uninitialized, offered := false, agent } ∧
      ∀ a, agent = some a → l'.agent = some a := by
  obtain ⟨agent, stopped, -⟩ := l.beginShutdown.stopAgent_frame now
  obtain rfl : l' = { l.beginShutdown with agent } := by rw [← stopped, stops]
  obtain ⟨kept, released, -, same⟩ := release_eq { l.beginShutdown with agent, phase := .uninitialized }
  exact ⟨kept, released, same⟩

end Lifecycle

end CrashReporter
