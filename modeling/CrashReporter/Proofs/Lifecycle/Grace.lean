import CrashReporter.Proofs.Lifecycle.Process

/-!
# Graces that the clock cannot name

A shutdown waits until a grace is over, whose end the clock has to name. Whatever a process has been
through, the agent that runs was told to begin and not to end (`Process.Lively.run`). Shutting it down ends
in the same phase for every grace; but its sink is closed, and its transport told to end, exactly if the
end of the grace can be named (`Process.told_iff_canWait`). Options are accepted with any grace, so there
are some with which a transport is never told (`Process.endless_grace_untold`).
-/

namespace CrashReporter

namespace Process

open Startup

variable {p : Process}

/-- Whatever a process has been through: the agent that runs has settings that some accepted options make,
and its transport was not told to end. Its shutdown leaves no agent running, whatever its grace is; but
before that, its sink is closed and its transport told to end once for its connection exactly if the clock
can name the end of the grace, and not at all otherwise. -/
theorem told_iff_canWait {moves : List Move} {t t' : FileTree}
    (reached : ({} : Process).run moves t = .ok p t') (running : p.life.phase = .running) (now : Nat) :
    ∃ a calls stopped, p.life.agent = some a ∧ AskedFor moves a.settings ∧
      a.sink.closed = false ∧ count Call.closes p.latest p.log = 0 ∧
      p.life.beginShutdown.stopAgent now = (calls, { p.life.beginShutdown with agent := some stopped }) ∧
      stopped.sink.closed = Lifecycle.canWait now a.settings.shutdownGrace ∧
      calls.countP Call.closes =
        (if Lifecycle.canWait now a.settings.shutdownGrace then a.sink.transport.links else 0) ∧
      (p.step (.shutdown now)).Ensures fun p' =>
        p'.life.phase = .uninitialized ∧ p'.log = p.log ++ calls.map fun call => (p.latest, call) := by
  obtain ⟨q, u, reached', lively⟩ := Lively.run moves t
  cases reached.symm.trans reached'
  obtain ⟨a, here, untold⟩ := lively.agent running
  obtain ⟨calls, stopped, stops, closed, -, told⟩ :=
    untold.stopAgent (l := p.life.beginShutdown) here now
  refine ⟨a, calls, stopped, here, untold.settings, untold.unclosed, untold.closes, stops, closed, told, ?_⟩
  obtain ⟨agent, ended, -⟩ := Lifecycle.stopped_eq stops
  exact (step_shutdown running stops).ensures ⟨by rw [ended], rfl⟩

/-- A host's own transport, and a grace of a minute that the environment names. -/
theorem told_iff_canWait_minute :
    let o : Options := .least
    let env : Environment := [("FAULTLINE_SHUTDOWN_GRACE_SECS", Text.utf8 "60")]
    let moves : List Move :=
      [.act (.begin o env true), .act (.bringUp (fun _ => some ["/state"]) default .obliging)]
    ∃ p t, ({} : Process).run moves {} = .ok p t ∧ p.life.phase = .running ∧
      count Call.closes p.latest p.log = 0 ∧ (p.step (.shutdown 0)).Ensures fun p' =>
        p'.life.phase = .uninitialized ∧ count Call.closes p.latest p'.log = 1 := by
  intro o env moves
  have ran : ((({} : Process).run moves).answer? {}).map (fun p => (p.life.phase,
      p.life.agent.map fun a => (a.settings.shutdownGrace, a.sink.transport))) =
        some (.running, some (.ofSeconds 60, .custom)) := by
    decide +kernel
  obtain ⟨p, t, reached, -⟩ := Lively.run moves {}
  simp only [Disk.answer?_ok reached, Option.map_some, Option.some.injEq, Prod.mk.injEq] at ran
  obtain ⟨a, calls, stopped, here, -, -, before, -, -, told, ends⟩ := told_iff_canWait reached ran.1 0
  obtain ⟨grace, own⟩ : a.settings.shutdownGrace = .ofSeconds 60 ∧ a.sink.transport = .custom := by
    simpa only [here, Option.map_some, Option.some.injEq, Prod.mk.injEq] using ran.2
  have waits : Lifecycle.canWait 0 (.ofSeconds 60) = true := by decide
  refine ⟨p, t, reached, ran.1, before, ends.mono fun p' ended => ⟨ended.1, ?_⟩⟩
  rw [ended.2, count_more, before, told, grace, own, waits]
  rfl

/-- An agent with an accepted grace that no clock can name the end of: its transport is told to begin, and
the shutdown leaves no agent running, but the transport is never told to end. -/
theorem endless_grace_untold :
    let o : Options := { Options.least with shutdownGrace := some (.ofSeconds 0xFFFFFFFFFFFFFFFF) }
    (o.resolve [] true).isOk = true ∧
      ((({} : Process).run [.act (.begin o [] true), .act (.bringUp (fun _ => some ["/state"]) default .obliging),
        .shutdown 0]).answer? {}).map
          (fun p => (p.life.phase, count Call.opens 1 p.log, count Call.closes 1 p.log)) =
        some (.uninitialized, 1, 0) := by
  decide +kernel

end Process

end CrashReporter
