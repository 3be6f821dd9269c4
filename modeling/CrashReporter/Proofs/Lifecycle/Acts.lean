import CrashReporter.Proofs.Lifecycle.Operations

/-!
# What goes on around an agent

Threads ask for an agent, take hold of it, send through it and let go of it; it is brought up in the
background, its deliveries take steps, and its monitor is kept up to date. Each of these is an act
(`Lifecycle.Act`), which comes to another state of the process and to what was asked for on the way. All there
is besides is a shutdown.

* `Lifecycle.acted_act`: what an act may come to (`Lifecycle.Acted`);
* `Lifecycle.tended_act`: most acts are around the agent that there is, leave the phase as it is, and ask for nothing
  that begins or ends a connection (`Lifecycle.Tended`);
* `Lifecycle.Held.acted`: every act keeps how a process, its agent and those who hold it belong together.
-/

namespace CrashReporter.Lifecycle

open Startup

/-- What may go on in a process, but for a shutdown. -/
inductive Act where
  /-- A thread asks for an agent. -/
  | begin (o : Options) (env : Environment) (custom : Bool)
  /-- The agent that was asked for is brought up, or fails. -/
  | bringUp (paths : Option String → Option (List String)) (nonce : Gcm.Nonce) (answers : Answers)
  /-- A thread that sends takes hold of the agent, if it finds one. -/
  | take
  /-- A thread that holds the agent hands its event over. -/
  | dispatch (e : Event) (stack : List Frame) (id : String) (readings : Readings)
  /-- A thread that holds the agent lets go of it. -/
  | letGo
  /-- A delivery takes a step. -/
  | work (i : Nat)
  /-- The transport answers a delivery. -/
  | answer (i : Nat) (o : Outcome Unit)
  /-- The agent's monitor is kept up to date. -/
  | keepUp (u : Usage.Upkeep)

namespace Act

/-- Whether an agent is brought up. -/
def bringsUp : Act → Bool
  | .bringUp _ _ _ => true
  | _ => false

/-- Whether an act is around the agent that there is. -/
def tends : Act → Bool
  | .begin _ _ _ | .bringUp _ _ _ => false
  | _ => true

/-- Whether a thread lets go of the agent. -/
def letsGo : Act → Bool
  | .letGo => true
  | _ => false

end Act

/-- The process after its agent has done something, with what the agent has asked for. -/
def withAgent (l : Lifecycle) (does : Agent → Disk (List Call × Agent)) : Disk (List Call × Lifecycle) :=
  match l.agent with
  | none => return ([], l)
  | some a => do
    let (calls, a) ← does a
    return (calls, { l with agent := some a })

/-- The process after an act, with what was asked for. A thread hands an event to an agent that it holds, and only
an agent that was asked for is brought up. -/
def act (l : Lifecycle) : Act → Disk (List Call × Lifecycle)
  | .begin o env custom => return ([], (l.begin o env custom).toOption.getD l)
  | .bringUp paths nonce answers =>
    if l.pending.isSome then do
      let (calls, _, l) ← l.bringUpOn paths nonce answers
      return (calls, l)
    else return ([], l)
  | .take => return ([], l.take?.getD l)
  | .dispatch e stack id readings =>
    return ([], if 0 < l.holders then l.dispatch e stack id readings else l)
  | .letGo => return ([], if 0 < l.holders then l.letGo else l)
  | .work i => l.withAgent fun a => do
    let (a, call) ← a.step i
    return (call.toList, a)
  | .answer i o => l.withAgent fun a => return ([], a.answer i o)
  | .keepUp u => l.withAgent fun a => return ([], ← a.keepUp u)

variable {l l' : Lifecycle} {calls : List Call}

/-- Where there is an agent, or one is on its way, nobody who asks for one changes anything. -/
theorem act_begin_taken (taken : l.phase ≠ .uninitialized) (o : Options) (env : Environment) (custom : Bool) :
    l.act (.begin o env custom) = pure ([], l) := by
  simp only [act, begin_taken taken]
  rfl

/-! ## Acts around the agent that there is -/

/-- What an act around the agent that there is leaves as it was. -/
structure Tended (l : Lifecycle) (a : Act) (calls : List Call) (l' : Lifecycle) : Prop where
  phase : l'.phase = l.phase
  offered : l'.offered = l.offered
  pending : l'.pending = l.pending
  hooks : l'.hooks = l.hooks
  /-- Nobody takes hold of an agent that senders do not find. -/
  holders : l.hasAgent = false → l'.holders = l.holders - if a.letsGo then 1 else 0
  /-- There is no agent but the one that there was. -/
  agent : ∀ a', l'.agent = some a' → ∃ a, l.agent = some a ∧ a.Alike a'
  /-- It stays as long as it may be used, and no longer. -/
  alive : (l.agent.isSome = true ↔ l.InUse) → (l'.agent.isSome = true ↔ l'.InUse)
  /-- Nothing is asked for that begins or ends a connection. -/
  opens : calls.countP Call.opens = 0
  closes : calls.countP Call.closes = 0

theorem Tended.refl (l : Lifecycle) {a : Act} (keeps : a.letsGo = false) : l.Tended a [] l where
  phase := rfl
  offered := rfl
  pending := rfl
  hooks := rfl
  holders _ := by rw [keeps]; rfl
  agent b here := ⟨b, here, .refl b⟩
  alive h := h
  opens := rfl
  closes := rfl

/-- The agent does something that leaves it alike. -/
theorem Tended.withAgent {act : Act} (keeps : act.letsGo = false) {a a' : Agent} (here : l.agent = some a)
    (alike : a.Alike a') (opens : calls.countP Call.opens = 0) (closes : calls.countP Call.closes = 0) :
    l.Tended act calls { l with agent := some a' } :=
  { Tended.refl l keeps with
    agent := by
      rintro _ ⟨⟩
      exact ⟨a, here, alike⟩
    alive := by
      rw [here]
      exact id
    opens
    closes }

/-- Whatever an agent does that leaves it alike and asks for nothing of that kind. -/
theorem withAgent_tended {act : Act} (keeps : act.letsGo = false) {does : Agent → Disk (List Call × Agent)}
    (alike : ∀ a, ∃ calls a', (does a).Gives (calls, a') ∧ a.Alike a' ∧
      calls.countP Call.opens = 0 ∧ calls.countP Call.closes = 0) :
    (l.withAgent does).Ensures fun r => l.Tended act r.1 r.2 := by
  unfold Lifecycle.withAgent
  cases here : l.agent with
  | none => exact Disk.ensures_pure (.refl l keeps)
  | some a =>
    obtain ⟨calls, a', gives, alike, opens, closes⟩ := alike a
    exact gives.bind_ensures (Disk.ensures_pure (.withAgent keeps here alike opens closes))

theorem tended_take (l : Lifecycle) : l.Tended .take [] (l.take?.getD l) := by
  unfold take?
  split
  · next found =>
    have here : l.agent.isSome = true := (Bool.and_eq_true .. |>.mp found).2
    exact {
      Tended.refl l (a := .take) rfl with
      holders := fun unfound => absurd found (by simp [unfound])
      alive := fun _ => iff_of_true here (.inr (.inr (Nat.succ_pos _))) }
  · exact .refl l rfl

theorem tended_letGo (l : Lifecycle) : l.Tended .letGo [] (if 0 < l.holders then l.letGo else l) := by
  -- Of all that is kept only `holders` tells one act from another, so the rest is that of any act.
  split
  · next held =>
    obtain ⟨agent, released, stays, same⟩ := release_eq { l with holders := l.holders - 1 }
    rw [letGo, released]
    exact {
      Tended.refl l (a := .take) rfl with
      holders := fun _ => rfl
      agent := fun a here => ⟨a, same a here, .refl a⟩
      alive := fun h => stays.trans (and_iff_right (h.mpr (.inr (.inr held)))) }
  · next unheld =>
    exact {
      Tended.refl l (a := .take) rfl with
      holders := fun _ => by simp only [Act.letsGo, if_true]; omega }

theorem tended_act (l : Lifecycle) {a : Act} (tends : a.tends = true) :
    (l.act a).Ensures fun r => l.Tended a r.1 r.2 := by
  cases a with
  | begin o env custom => cases tends
  | bringUp paths nonce answers => cases tends
  | take => exact Disk.ensures_pure l.tended_take
  | dispatch e stack id readings =>
    refine Disk.ensures_pure ?_
    split
    · cases here : l.agent with
      | none =>
        rw [dispatch_none here]
        exact .refl l rfl
      | some a =>
        obtain ⟨a', dispatched, alike⟩ := l.dispatch_alike e stack id readings here
        rw [dispatched]
        exact .withAgent rfl here alike rfl rfl
    · exact .refl l rfl
  | letGo => exact Disk.ensures_pure l.tended_letGo
  | work i =>
    refine withAgent_tended rfl fun a => ?_
    refine ⟨(a.afterStep i).2.toList, _, (a.step_gives i).bind (Disk.gives_pure _), a.alike_afterStep i, ?_⟩
    cases asked : (a.afterStep i).2 with
    | none => exact ⟨rfl, rfl⟩
    | some call =>
      obtain ⟨opens, closes⟩ := Agent.afterStep_call asked
      simp [opens, closes]
  | answer i o => exact withAgent_tended rfl fun a => ⟨_, _, Disk.gives_pure _, a.alike_answer i o, rfl, rfl⟩
  | keepUp u =>
    exact withAgent_tended rfl fun a =>
      ⟨_, _, (a.keepUp_gives u).bind (Disk.gives_pure _), ⟨rfl, rfl, rfl, rfl⟩, rfl, rfl⟩

/-! ## Any act -/

/-- What an act may come to. -/
inductive Acted (l : Lifecycle) : Act → List Call → Lifecycle → Prop where
  /-- An agent is not to be had. -/
  | refused {o : Options} {env : Environment} {custom : Bool} {f : Failure} (refused : l.begin o env custom = .error f) :
    Acted l (.begin o env custom) [] l
  /-- None was asked for. -/
  | unasked {paths : Option String → Option (List String)} {nonce : Gcm.Nonce} {answers : Answers}
      (free : l.pending = none) : Acted l (.bringUp paths nonce answers) [] l
  /-- An agent is asked for where there is none, with options that make settings. -/
  | begun {o : Options} {env : Environment} {custom : Bool} {settings : Settings} (idle : l.phase = .uninitialized)
      (resolved : o.resolve env custom = .ok settings) :
    Acted l (.begin o env custom) [] { l with phase := .starting, pending := some (settings, custom) }
  /-- The agent that was asked for comes to an end: it panics exactly if the host's paths or another who was asked
  does, and one that is brought up is fresh. -/
  | ended {paths : Option String → Option (List String)} {nonce : Gcm.Nonce} {answers : Answers}
      {settings : Settings} {custom : Bool} {calls : List Call} {o : Outcome Agent}
      (asked : l.pending = some (settings, custom))
      (panicked : o.isPanicked = true ↔
        paths settings.configDir = none ∨ ∃ call ∈ calls, answers.panicsAt call = true)
      (fresh : ∀ a, o = .ok a → Fresh a settings calls) :
    Acted l (.bringUp paths nonce answers) calls (l.conclude settings o)
  /-- An act is around the agent that there is. -/
  | tended {a : Act} {calls : List Call} {l' : Lifecycle} (tends : a.tends = true) (tended : l.Tended a calls l') :
    Acted l a calls l'

/-- Every act comes to one of these. -/
theorem acted_act (l : Lifecycle) (a : Act) : (l.act a).Ensures fun r => l.Acted a r.1 r.2 := by
  have around (tends : a.tends = true) : (l.act a).Ensures fun r => l.Acted a r.1 r.2 :=
    (l.tended_act tends).mono fun _ tended => .tended tends tended
  cases a with
  | begin o env custom =>
    refine Disk.ensures_pure ?_
    cases begun : l.begin o env custom with
    | error f => exact .refused begun
    | ok l' =>
      obtain ⟨idle, settings, resolved, rfl⟩ := begin_ok begun
      exact .begun idle resolved
  | bringUp paths nonce answers =>
    simp only [act]
    split
    · next busy =>
      obtain ⟨⟨settings, custom⟩, asked⟩ := Option.isSome_iff_exists.mp busy
      intro t
      obtain ⟨calls, o, t', run, panicked, fresh⟩ := bringUpOn_outcome asked paths nonce answers t
      exact ⟨_, t', Disk.bind_run run, .ended asked panicked fresh⟩
    · next free => exact Disk.ensures_pure (.unasked (Option.not_isSome_iff_eq_none.mp free))
  | take | dispatch | letGo | work | answer | keepUp => exact around rfl

/-! ## Who belongs together -/

/-- How a process, its agent and those who hold it belong together. -/
structure Held (l : Lifecycle) : Prop where
  offered : l.offered = true ↔ l.phase = .running
  alive : l.agent.isSome = true ↔ l.InUse
  pending : l.pending.isSome = true → l.phase = .starting

theorem Held.free (h : l.Held) (settled : l.phase ≠ .starting) : l.pending = none :=
  Option.not_isSome_iff_eq_none.mp fun busy => settled (h.pending busy)

theorem held_empty : ({} : Lifecycle).Held := ⟨by simp, by simp [InUse], by simp⟩

theorem Held.withAgent (h : l.Held) {agent : Option Agent} (same : agent.isSome = l.agent.isSome) :
    ({ l with agent } : Lifecycle).Held :=
  ⟨h.offered, same ▸ h.alive, h.pending⟩

theorem Held.starts (h : l.Held) (idle : l.phase = .uninitialized) (pending : Option (Settings × Bool)) :
    ({ l with phase := .starting, pending } : Lifecycle).Held := by
  refine ⟨?_, ?_, fun _ => rfl⟩
  · simpa [idle] using h.offered
  · simpa [idle, InUse] using h.alive

/-- However bringing an agent up ends, also if one who is asked panics. -/
theorem Held.conclude (h : l.Held) (starting : l.phase = .starting) (settings : Settings)
    (o : Outcome Agent) : (l.conclude settings o).Held := by
  have offered := h.offered
  have alive := h.alive
  cases o with
  | ok a => exact ⟨by simp [Lifecycle.conclude], by simp [Lifecycle.conclude, InUse], by simp [Lifecycle.conclude]⟩
  | failed f =>
    refine ⟨?_, ?_, by simp [Lifecycle.conclude]⟩
    · simpa [Lifecycle.conclude, starting] using offered
    · simpa [Lifecycle.conclude, InUse, starting] using alive
  | panicked => exact ⟨offered, alive, by simp [Lifecycle.conclude]⟩

theorem Held.tended {a : Act} (h : l.Held) (tended : l.Tended a calls l') : l'.Held where
  offered := by rw [tended.offered, tended.phase, h.offered]
  alive := tended.alive h.alive
  pending := by rw [tended.pending, tended.phase]; exact h.pending

/-- Every act keeps it. -/
theorem Held.acted {a : Act} (h : l.Held) (acted : l.Acted a calls l') : l'.Held := by
  cases acted with
  | refused | unasked => exact h
  | begun idle resolved => exact h.starts idle _
  | ended asked panicked fresh => exact h.conclude (h.pending (by rw [asked]; rfl)) _ _
  | tended tends tended => exact h.tended tended

theorem Held.leave (h : l.Held) (running : l.phase = .running) : l.beginShutdown.Held := by
  have alive := h.alive
  have pending := h.pending
  refine ⟨by simp [beginShutdown], ?_, ?_⟩
  · simpa [beginShutdown, InUse, running, h.offered] using alive
  · simpa [beginShutdown, running] using pending

theorem Held.stop (h : l.Held) (now : Nat) : (l.stopAgent now).2.Held := by
  obtain ⟨agent, stopped, same⟩ := l.stopAgent_frame now
  rw [stopped]
  exact h.withAgent same

/-- An agent that nobody may use any more goes away when its shutdown ends. -/
theorem Held.finish (h : l.Held) (ending : l.phase = .shuttingDown) :
    ({ l with phase := .uninitialized } : Lifecycle).release.Held := by
  obtain ⟨agent, released, stays, -⟩ := release_eq { l with phase := .uninitialized }
  have offered := h.offered
  have pending := h.pending
  rw [released]
  refine ⟨?_, stays.trans (and_iff_right (h.alive.mpr (.inr (.inl ending)))), ?_⟩
  · simpa [ending] using offered
  · simpa [ending] using pending

/-- A shutdown keeps it. -/
theorem Held.stopped (h : l.Held) (running : l.phase = .running) {now : Nat}
    (stops : l.beginShutdown.stopAgent now = (calls, l')) :
    ({ l' with phase := .uninitialized } : Lifecycle).release.Held := by
  have held := (h.leave running).stop now
  obtain ⟨agent, stopped, -⟩ := l.beginShutdown.stopAgent_frame now
  rw [stops] at held stopped
  exact held.finish (by rw [stopped]; rfl)

end CrashReporter.Lifecycle
