import CrashReporter.Proofs.Lifecycle.Holders

/-!
# Hooks and the agent that runs

The hooks of a process outlive the agents that register them. Each is registered at most once, and one
that acts is registered (`Hooks.Sound`, kept by `Hooks.Sound.install`). While agents are brought up, used
and shut down, senders find one only if the hooks act as its own settings ask (`Lifecycle.Hooked`): any
move but bringing one up leaves the hooks as they are, and to senders the agent that they found
(`Lifecycle.Held.stays`), and so does a panic (`Lifecycle.Hooked.onPanic`).

So whatever happens, a panic is reported exactly if the agent that runs asks for it, and the process's exit
shuts that agent down exactly if it asks for that (`Lifecycle.hooks_act_for_current`).
-/

namespace CrashReporter

namespace Hooks

variable {h : Hooks}

/-- Each hook is registered at most once. -/
structure Once (h : Hooks) : Prop where
  exitCallbacks : h.exitCallbacks = if h.exitInstalled then 1 else 0
  panicHook : h.panicHook = if h.panicInstalled then .reporting .found else .found

/-- Beyond that, a hook that acts is registered. -/
structure Sound (h : Hooks) : Prop extends Once h where
  exits : h.shutsDownOnExit = true → h.exitInstalled = true
  reports : h.reportsPanics = true → h.panicInstalled = true

theorem sound_empty : ({} : Hooks).Sound := ⟨⟨rfl, rfl⟩, nofun, nofun⟩

theorem Once.registerExit (once : h.Once) : h.registerExit.Once := by
  unfold Hooks.registerExit
  split
  · exact once
  · next fresh => exact ⟨by simp [once.exitCallbacks, fresh], once.panicHook⟩

theorem Once.registerPanic (once : h.Once) : h.registerPanic.Once := by
  unfold Hooks.registerPanic
  split
  · exact once
  · next fresh => exact ⟨once.exitCallbacks, by simp [once.panicHook, fresh]⟩

section

variable (h : Hooks) (s : Settings)

@[simp] theorem install_exitInstalled :
    (h.install s).exitInstalled = (h.exitInstalled || s.autoShutdown) := by
  unfold install registerExit registerPanic
  grind

@[simp] theorem install_panicInstalled :
    (h.install s).panicInstalled = (h.panicInstalled || s.panicHook) := by
  unfold install registerExit registerPanic
  grind

@[simp] theorem install_shutsDownOnExit : (h.install s).shutsDownOnExit = s.autoShutdown := by
  unfold install registerExit registerPanic
  grind

@[simp] theorem install_reportsPanics : (h.install s).reportsPanics = s.panicHook := by
  unfold install registerExit registerPanic
  grind

end

/-- Whatever the settings of the next agent that runs. -/
theorem Sound.install (sound : h.Sound) (s : Settings) : (h.install s).Sound := by
  have flagged : Once { h with shutsDownOnExit := s.autoShutdown, reportsPanics := s.panicHook } :=
    ⟨sound.exitCallbacks, sound.panicHook⟩
  refine ⟨?_, by simp +contextual, by simp +contextual⟩
  unfold Hooks.install
  dsimp only
  split <;> split
  · exact flagged.registerExit.registerPanic
  · exact flagged.registerPanic
  · exact flagged.registerExit
  · exact flagged

/-- The hooks act as the settings of an agent ask, which takes events. -/
structure Serve (h : Hooks) (a : Agent) : Prop where
  exit : h.shutsDownOnExit = a.settings.autoShutdown
  panic : h.reportsPanics = a.settings.panicHook
  unclosed : a.scheduler.closed = false
  started : a.sink.origin.isSome = true

theorem Serve.alike {a a' : Agent} (serve : h.Serve a) (alike : a.Alike a') : h.Serve a' where
  exit := serve.exit.trans (by rw [alike.settings])
  panic := serve.panic.trans (by rw [alike.settings])
  unclosed := alike.closed.trans serve.unclosed
  started := alike.sink ▸ serve.started

/-- They do for an agent that was just brought up. -/
theorem serve_install (h : Hooks) {s : Settings} {a : Agent} {calls : List Call}
    (fresh : Startup.Fresh a s calls) : (h.install s).Serve a where
  exit := by simp [fresh.settings]
  panic := by simp [fresh.settings]
  unclosed := by rw [fresh.scheduler]
  started := fresh.origin

end Hooks

/-- The event of a panic. -/
def Panic.event (p : Panic) : Event := .ofPanic (Lifecycle.panicMessage p.text) p.location p.now

/-- It is never empty: its stack is not known yet. -/
theorem Panic.isEmpty_event (p : Panic) : p.event.isEmpty = false := by
  simp [Event.isEmpty, event, Event.ofPanic, Event.captured]

namespace Lifecycle

open Startup

variable {l l' : Lifecycle}

/-- The agent that senders find. -/
def current (l : Lifecycle) : Option Agent := if l.offered then l.agent else none

theorem hasAgent_eq (l : Lifecycle) : l.hasAgent = l.current.isSome := by
  unfold hasAgent current
  cases l.offered <;> rfl

theorem current_eq_some {a : Agent} : l.current = some a ↔ l.offered = true ∧ l.agent = some a := by
  unfold current
  split <;> simp_all

/-- Senders find an agent exactly if one runs. -/
theorem Held.current_isSome (h : l.Held) : l.current.isSome = true ↔ l.phase = .running := by
  unfold current
  split
  · next offered => exact iff_of_true (h.alive.mpr (.inl offered)) (h.offered.mp offered)
  · next hidden => simp [← h.offered, hidden]

/-! ## What stays -/

/-- Between two states the hooks have not changed, and senders find no agent but the one that they found
before. -/
structure Stays (l l' : Lifecycle) : Prop where
  hooks : l'.hooks = l.hooks
  current : ∀ a', l'.current = some a' → ∃ a, l.current = some a ∧ a.Alike a'

theorem stays_of_same (hooks : l'.hooks = l.hooks) (offered : l'.offered = l.offered)
    (agent : l'.agent = l.agent) : l.Stays l' := by
  refine ⟨hooks, fun a here => ⟨a, ?_, .refl a⟩⟩
  rwa [current, offered, agent] at here

theorem Stays.refl (l : Lifecycle) : l.Stays l := stays_of_same rfl rfl rfl

theorem Stays.trans {l₁ l₂ l₃ : Lifecycle} (h : l₁.Stays l₂) (h' : l₂.Stays l₃) : l₁.Stays l₃ := by
  refine ⟨h'.hooks.trans h.hooks, fun c here => ?_⟩
  obtain ⟨b, there, alike'⟩ := h'.current c here
  obtain ⟨a, found, alike⟩ := h.current b there
  exact ⟨a, found, alike.trans alike'⟩

theorem stays_hidden (hooks : l'.hooks = l.hooks) (hidden : l'.offered = false) : l.Stays l' :=
  ⟨hooks, fun a here => by simp [current, hidden] at here⟩

theorem stays_withAgent {a a' : Agent} (here : l.agent = some a) (alike : a.Alike a') :
    l.Stays { l with agent := some a' } := by
  refine ⟨rfl, fun b found => ?_⟩
  obtain ⟨offered, rfl⟩ : l.offered = true ∧ a' = b := by simpa [current_eq_some] using found
  exact ⟨a, current_eq_some.mpr ⟨offered, here⟩, alike⟩

theorem stays_release (l : Lifecycle) : l.Stays l.release := by
  unfold release
  split
  · exact .refl l
  · next lost => exact stays_hidden rfl (by simp_all)

theorem stays_of_tended {a : Act} {calls : List Call} (tended : l.Tended a calls l') : l.Stays l' := by
  refine ⟨tended.hooks, fun b here => ?_⟩
  obtain ⟨offered, there⟩ := current_eq_some.mp here
  obtain ⟨b', found, alike⟩ := tended.agent b there
  exact ⟨b', current_eq_some.mpr ⟨tended.offered ▸ offered, found⟩, alike⟩

/-- A move that brings no agent up leaves the hooks, and to senders the agent that they found. -/
theorem Held.stays (h : l.Held) {m : Move} (other : m.bringsUp = false) :
    (l.move m).Ensures l.Stays := by
  have hidden (stopping : l.phase = .shuttingDown) : l.offered = false := by
    simpa [stopping] using h.offered
  cases m with
  | act a =>
    refine (l.acted_act a).bind fun ⟨calls, l'⟩ acted => Disk.ensures_pure ?_
    cases acted with
    | refused | unasked => exact .refl _
    | begun idle resolved => exact stays_of_same rfl rfl rfl
    | ended asked panicked fresh => cases other
    | tended tends tended => exact stays_of_tended tended
  | leave =>
    refine Disk.ensures_pure ?_
    split
    · exact stays_hidden rfl rfl
    · exact .refl l
  | stop now =>
    refine Disk.ensures_pure ?_
    split
    · next stopping =>
      obtain ⟨agent, stopped, -⟩ := l.stopAgent_frame now
      rw [stopped]
      exact stays_hidden rfl (hidden stopping)
    · exact .refl l
  | finish =>
    simp only [Lifecycle.move]
    split
    · have same : l.Stays { l with phase := .uninitialized } := stays_of_same rfl rfl rfl
      exact l.finishShutdown_gives.ensures (same.trans (stays_release _))
    · exact Disk.ensures_pure (.refl l)

/-! ## The invariant -/

/-- The hooks of a process are registered at most once, and act for the agent that senders find. -/
structure Hooked (l : Lifecycle) : Prop where
  held : l.Held
  sound : l.hooks.Sound
  serve : ∀ a, l.current = some a → l.hooks.Serve a

theorem hooked_empty : ({} : Lifecycle).Hooked := ⟨held_empty, Hooks.sound_empty, fun _ h => nomatch h⟩

theorem Hooked.of_stays (h : l.Hooked) (held : l'.Held) (stays : l.Stays l') : l'.Hooked := by
  refine ⟨held, stays.hooks ▸ h.sound, fun a' here => ?_⟩
  obtain ⟨a, found, alike⟩ := stays.current a' here
  exact stays.hooks ▸ (h.serve a found).alike alike

/-- Once an agent is brought up the hooks act for it; if that fails, they stay as they are. -/
theorem Hooked.conclude (h : l.Hooked) (starting : l.phase = .starting) {settings : Settings}
    {o : Outcome Agent} (fresh : ∀ a, o = .ok a → ∃ calls, Fresh a settings calls) :
    (l.conclude settings o).Hooked := by
  have held := h.held.conclude starting settings o
  cases o with
  | ok a =>
    obtain ⟨calls, fresh⟩ := fresh a rfl
    refine ⟨held, h.sound.install settings, fun b here => ?_⟩
    obtain rfl : a = b := Option.some.inj here
    exact Hooks.serve_install _ fresh
  | failed f => exact h.of_stays held (stays_of_same rfl rfl rfl)
  | panicked => exact h.of_stays held (stays_of_same rfl rfl rfl)

theorem Hooked.move (h : l.Hooked) (m : Move) : (l.move m).Ensures Hooked := by
  have kept (other : m.bringsUp = false) : (l.move m).Ensures Hooked :=
    ((h.held.move m).and (h.held.stays other)).mono fun _ ⟨held, stays⟩ => h.of_stays held stays
  cases m with
  | act a =>
    cases up : a.bringsUp with
    | false => exact kept up
    | true =>
      refine (l.acted_act a).bind fun ⟨calls, l'⟩ acted => Disk.ensures_pure ?_
      cases acted with
      | refused | unasked => exact h
      | begun idle resolved => cases up
      | ended asked panicked fresh =>
        exact h.conclude (h.held.pending (by rw [asked]; rfl)) fun a here => ⟨_, fresh a here⟩
      | tended tends tended => exact h.of_stays (h.held.tended tended) (stays_of_tended tended)
  | leave | stop | finish => exact kept rfl

/-! ## Panics -/

variable {a : Agent} {p : Panic}

/-- The hook that reports acts exactly if the agent that senders find asks for it, and the thread is not
one of its own. -/
theorem Hooked.reports_iff (h : l.Hooked) (thread : Option String) :
    (l.hasAgent && l.hooks.reports thread) = true ↔
      ∃ a, l.current = some a ∧ a.settings.panicHook = true ∧ thread ≠ some Scheduler.threadName := by
  rw [hasAgent_eq]
  cases here : l.current with
  | none => simp
  | some a => simp [Hooks.reports, (h.serve a here).panic]

/-- Whether it is registered or not, it acts if it ought to; and the hook that the process came with runs
once. -/
theorem Hooked.onPanic_eq (h : l.Hooked) (p : Panic) : l.onPanic p = (1, l.reportPanic p) := by
  rw [onPanic, h.sound.panicHook]
  cases installed : l.hooks.panicInstalled with
  | true => rfl
  | false =>
    have mute : l.hooks.reportsPanics = false := by
      simpa [installed] using h.sound.reports
    simp [PanicHook.run, reportPanic, panicEvent?, Hooks.reports, mute]

theorem Hooked.onPanic_ignored (h : l.Hooked)
    (ignored : ∀ a, l.current = some a → a.settings.panicHook = true →
      p.thread = some Scheduler.threadName) : l.onPanic p = (1, l) := by
  have unreported : ¬(l.hasAgent && l.hooks.reports p.thread) = true := by
    rw [h.reports_iff]
    rintro ⟨a, here, asked, other⟩
    exact other (ignored a here asked)
  rw [h.onPanic_eq, reportPanic, panicEvent?, if_neg unreported]
  rfl

theorem Hooked.onPanic_reported (h : l.Hooked) (here : l.current = some a)
    (asked : a.settings.panicHook = true) (other : p.thread ≠ some Scheduler.threadName) :
    ∃ origin, a.sink.origin = some origin ∧ l.onPanic p =
      (1, { l with agent := some (a.queue ((p.event.resolve p.stack).payload p.id origin p.readings)) }) := by
  have reported := (h.reports_iff p.thread).mpr ⟨a, here, asked, other⟩
  have found : l.hasAgent = true := by rw [hasAgent_eq, here]; rfl
  obtain ⟨-, there⟩ := current_eq_some.mp here
  have serve := h.serve a here
  obtain ⟨origin, started⟩ := Option.isSome_iff_exists.mp serve.started
  have sent := Agent.dispatch_open serve.unclosed started p.event p.stack p.id p.readings
  have made : l.panicEvent? p.thread p.text p.location p.now = some p.event := if_pos reported
  refine ⟨origin, started, ?_⟩
  rw [h.onPanic_eq, reportPanic, made, Option.elim_some, send_found found p.isEmpty_event, dispatch,
    there, Option.map_some, sent]
  rfl

/-- A panic leaves the hooks, and to senders the agent that they found. -/
theorem Hooked.onPanic (h : l.Hooked) (p : Panic) : (l.onPanic p).2.Hooked := by
  by_cases reported : ∃ a, l.current = some a ∧ a.settings.panicHook = true ∧
      p.thread ≠ some Scheduler.threadName
  · obtain ⟨a, here, asked, other⟩ := reported
    obtain ⟨-, there⟩ := current_eq_some.mp here
    obtain ⟨origin, -, panicked⟩ := h.onPanic_reported here asked other
    rw [panicked]
    exact h.of_stays (h.held.withAgent (by simp [there])) (stays_withAgent there (a.alike_queue _))
  · rw [h.onPanic_ignored fun a here asked => by_contra fun other => reported ⟨a, here, asked, other⟩]
    exact h

/-! ## The process's exit -/

variable {now : Nat}

/-- Where no agent runs, no callback does anything. -/
theorem callBack_idle (idle : l.phase ≠ .running) (now n : Nat) : callBack now n l = pure ([], l) := by
  have still : l.onExit now = pure ([], l) := by
    unfold onExit
    split
    · exact shutdown_idle idle now
    · rfl
  induction n with
  | zero => rfl
  | succ n ih => simp only [callBack, still, pure_bind, ih, List.append_nil]

theorem callBack_one (l : Lifecycle) (now : Nat) : callBack now 1 l = l.onExit now := by
  simp [callBack]

theorem Hooked.exit_of_asked (h : l.Hooked) (here : l.current = some a)
    (asked : a.settings.autoShutdown = true) : l.exit now = l.shutdown now := by
  have acts : l.hooks.shutsDownOnExit = true := (h.serve a here).exit.trans asked
  rw [exit, h.sound.exitCallbacks, if_pos (h.sound.exits acts), callBack_one, onExit, if_pos acts]

theorem Hooked.exit_of_unasked (h : l.Hooked)
    (unasked : ∀ a, l.current = some a → a.settings.autoShutdown = false) :
    l.exit now = pure ([], l) := by
  by_cases running : l.phase = .running
  · obtain ⟨a, here⟩ := Option.isSome_iff_exists.mp (h.held.current_isSome.mpr running)
    have mute : l.hooks.shutsDownOnExit = false := (h.serve a here).exit.trans (unasked a here)
    rw [exit, h.sound.exitCallbacks]
    split
    · rw [callBack_one, onExit, mute]
      rfl
    · rfl
  · exact callBack_idle running now _

/-- A shutdown ends where no agent runs; senders find none, and one that is still held is closed. -/
theorem shutdown_ends (running : l.phase = .running) (now : Nat) :
    (l.shutdown now).Ensures fun r => r.2.phase = .uninitialized ∧ r.2.current = none ∧
      ∀ a, r.2.agent = some a → a.scheduler.closed = true := by
  obtain ⟨agent, ended, same⟩ := stopped_eq (rfl : l.beginShutdown.stopAgent now = _)
  refine (shutdown_of_stopAgent running rfl).ensures ?_
  rw [ended]
  exact ⟨rfl, rfl, fun a here => closed_stopAgent (same a here)⟩

/-! ## Whatever happens -/

/-- What may happen in a process next. -/
inductive Happening where
  /-- A thread asks for an agent, brings it up, uses it or shuts it down. -/
  | move (m : Move)
  /-- A thread panics. -/
  | panic (p : Panic)

/-- The process after something has happened. -/
def happen (l : Lifecycle) : Happening → Disk Lifecycle
  | .move m => l.move m
  | .panic p => return (l.onPanic p).2

theorem Hooked.happen (h : l.Hooked) (x : Happening) : (l.happen x).Ensures Hooked := by
  cases x with
  | move m => exact h.move m
  | panic p => exact Disk.ensures_pure (h.onPanic p)

theorem Hooked.foldlM (h : l.Hooked) (happenings : List Happening) :
    (happenings.foldlM Lifecycle.happen l).Ensures Hooked :=
  Disk.ensures_foldlM (fun h x _ => h.happen x) h

/-- What the hooks of a process do next: they act for the agent that senders find, and for no other. -/
structure HooksActForCurrent (l : Lifecycle) : Prop where
  /-- Each hook is registered at most once. -/
  once : l.hooks.exitCallbacks ≤ 1 ∧
    (l.hooks.panicHook = .found ∨ l.hooks.panicHook = .reporting .found)
  /-- At each panic the hook that the process came with runs once. -/
  replaced : ∀ p, (l.onPanic p).1 = 1
  /-- The event of a panic goes on its way, if the agent asks for it and the thread is not one of its own. -/
  reported : ∀ p a, l.current = some a → a.settings.panicHook = true →
    p.thread ≠ some "faultline-worker" → ∃ origin, a.sink.origin = some origin ∧ (l.onPanic p).2 =
      { l with agent := some (a.queue ((p.event.resolve p.stack).payload p.id origin p.readings)) }
  /-- Any other panic changes nothing. -/
  ignored : ∀ p, (∀ a, l.current = some a → a.settings.panicHook = true →
    p.thread = some "faultline-worker") → (l.onPanic p).2 = l
  /-- The process's exit shuts the agent down that runs, if it asks for that. -/
  exited : ∀ now a, l.phase = .running → l.current = some a → a.settings.autoShutdown = true →
    l.exit now = l.shutdown now ∧ (l.shutdown now).Ensures fun r => r.2.phase = .uninitialized ∧
      r.2.current = none ∧ ∀ a, r.2.agent = some a → a.scheduler.closed = true
  /-- Otherwise it changes nothing. -/
  left : ∀ now, (l.phase = .running → ∀ a, l.current = some a → a.settings.autoShutdown = false) →
    l.exit now = pure ([], l)
  /-- Nor does it after a shutdown. -/
  ended : ∀ now later, (l.shutdown now).Ensures fun r => r.2.exit later = pure ([], r.2)

theorem Hooked.actForCurrent (h : l.Hooked) : l.HooksActForCurrent where
  once := by
    rw [h.sound.exitCallbacks, h.sound.panicHook]
    constructor
    · split <;> decide
    · split <;> simp
  replaced p := congrArg Prod.fst (h.onPanic_eq p)
  reported p a here asked other := by
    obtain ⟨origin, started, panicked⟩ := h.onPanic_reported here asked other
    exact ⟨origin, started, congrArg Prod.snd panicked⟩
  ignored p unasked := congrArg Prod.snd (h.onPanic_ignored unasked)
  exited now a running here asked := ⟨h.exit_of_asked here asked, shutdown_ends running now⟩
  left now unasked := h.exit_of_unasked fun a here =>
    unasked (h.held.current_isSome.mp (by simp [here])) a here
  ended now later := by
    by_cases running : l.phase = .running
    · exact (shutdown_ends running now).mono fun r ⟨idle, _⟩ => callBack_idle (by simp [idle]) later _
    · rw [shutdown_idle running]
      exact Disk.ensures_pure (callBack_idle running later _)

/-- Whatever happens in a process, and whatever the settings of its agents: each hook is registered at most
once, the hooks act for the agent that runs exactly as its own settings ask, and after a shutdown there is
nothing left to do at the exit. -/
theorem hooks_act_for_current (happenings : List Happening) :
    (happenings.foldlM happen {}).Ensures HooksActForCurrent :=
  (hooked_empty.foldlM happenings).mono fun _ h => h.actForCurrent

/-- One agent asks for both hooks, and the next one, in the same process, for neither. -/
example :
    let asks (b : Bool) : Options := { Options.least with autoShutdown := some b, panicHook := some b }
    let runs (dir : String) (b : Bool) : List Happening :=
      [.move (.act (.begin (asks b) [] true)), .move (.act (.bringUp (fun _ => some [dir]) default .obliging))]
    let stops : List Happening := [.move .leave, .move (.stop 0), .move .finish]
    let panics : List Happening := [.panic ⟨some "main", some "boom", none, 0, [], "id", default⟩]
    let after (happenings : List Happening) : Option (Nat × Nat × Phase) := Disk.answer? (do
      let l ← happenings.foldlM happen {}
      let (_, ended) ← l.exit 0
      return (l.hooks.exitCallbacks, l.deliveries.length, ended.phase)) {}
    after (runs "/state" true ++ panics) = some (1, 1, .uninitialized) ∧
      after (runs "/state" true ++ stops ++ runs "/other" false ++ panics) = some (1, 0, .running) := by
  decide +kernel

end Lifecycle

end CrashReporter
