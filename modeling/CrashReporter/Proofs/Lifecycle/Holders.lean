import CrashReporter.Proofs.Identity.History
import CrashReporter.Proofs.Lifecycle.Acts
import CrashReporter.Proofs.Settings.Usable

/-!
# Threads that hold an agent

A thread that sends takes hold of the agent, hands its event over and lets go (`Lifecycle.run_send`), and while
it does so the agent may be shut down, which takes several steps as well (`Lifecycle.run_shutdown`). What there is
in between is told by the phase and by how many hold the agent (`Lifecycle.Held`, kept by every move:
`Lifecycle.Held.move`).

So the one who asks for an agent where there is none, with options that are accepted, waits, and meanwhile
nobody takes hold of one (`Lifecycle.Waits.move`). In the end those decide who hold the agent that was shut
down before (`Lifecycle.running_unless_held`).
-/

namespace CrashReporter

namespace Startup

/-- Everybody does what they are asked for when an agent is brought up: a directory can be used, the
machine's address is told, the device is identified, a policy is handed out, and the transport starts. -/
structure Succeeds (settings : Settings) (candidates : List String) (nonce : Gcm.Nonce) (answers : Answers)
    (t : FileTree) : Prop where
  address : ∃ address, answers.address = .ok address
  identified : ∃ store t₁ calls i t₂, Store.openFirst candidates t = .ok (some store) t₁ ∧
    Identified (.ofApp store settings.appId) settings.appId nonce answers.credentials t₁ calls i t₂
  policy : ∃ p, answers.policy = .ok p
  custom : answers.transport.custom = .ok ()
  port : answers.transport.port = .ok ()
  broker : ∃ broker, answers.transport.broker = .ok broker
  session : answers.transport.session = .ok ()

variable {settings : Settings} {candidates : List String} {custom : Bool} {nonce : Gcm.Nonce}
  {answers : Answers} {t t' : FileTree} {credentials : Outcome Credentials}

theorem Identified.complete {v : Vault} {appId : String} {calls : List Call} {i : Identity}
    (h : Identified v appId nonce credentials t calls i t') : i.isComplete = true := by
  cases h with
  | stored loaded => exact Registration.complete_of_load loaded
  | registered unknown answer complete saved => exact Identity.isComplete_ofCredentials complete

/-- Every transport starts, if everybody does what they are asked for. -/
theorem Succeeds.start (h : Succeeds settings candidates nonce answers t) (transport : Transport)
    {i : Identity} (complete : i.isComplete = true) :
    ∃ started, (transport.start i answers.transport).2 = .ok started := by
  cases transport with
  | custom => exact ⟨_, by rw [Transport.start, h.custom]; rfl⟩
  | https installation => exact ⟨_, by rw [Transport.start, complete]; rfl⟩
  | serial port isOpen => exact ⟨_, by rw [Transport.start, h.port]⟩
  | mqtt session =>
    obtain ⟨broker, found⟩ := h.broker
    exact ⟨_, by simp only [Transport.start, found, Transport.openSession, h.session]; rfl⟩

/-- Options that are accepted name a transport. -/
theorem transportOf_resolve {o : Options} {env : Environment} (accepted : o.resolve env custom = .ok settings) :
    ∃ transport, transportOf settings custom = .ok transport := by
  cases custom with
  | true => exact ⟨.custom, rfl⟩
  | false =>
    have made := Options.resolve_eq_ok.mp accepted
    obtain ⟨-, transport, served, -⟩ := Settings.exists_transport made.portOfSerial
    exact ⟨transport, served⟩

/-- If everybody does what they are asked for, an agent is brought up. -/
theorem Succeeds.ends (h : Succeeds settings candidates nonce answers t) {transport : Transport}
    (served : transportOf settings custom = .ok transport) :
    ∃ calls a t', Ends settings candidates custom false nonce answers t calls (.ok a) t' := by
  obtain ⟨address, told⟩ := h.address
  obtain ⟨store, t₁, calls, i, t₂, opened, identified⟩ := h.identified
  obtain ⟨p, policy⟩ := h.policy
  have asked : lookUp answers = ([.lookUpAddress], .ok address) := by simp only [lookUp, told]
  obtain ⟨sent, counted⟩ := Usage.Monitor.ofStore_run store t₁
  obtain ⟨r, t₃, copied⟩ := Disk.attempt_run (store.save Usage.Monitor.policyName p.toJson) t₂
  obtain ⟨started, begun⟩ := h.start transport identified.complete
  have governed : Governed { store, meter := { sent } } answers.policy t₂ _ t₃ := .fetched policy copied
  have starts : Starts settings { transport } { store, meter := { sent } } nonce answers t₁ _ _ t₃ :=
    .transport asked identified governed
  simp only [Sink.start, begun, Outcome.mapFailure, Outcome.map] at starts
  exact ⟨_, _, t₃, .ended opened rfl served counted starts (by simp)⟩

end Startup

namespace Lifecycle

open Startup

/-- What may happen to a process's agent next. -/
inductive Move where
  /-- Something goes on but for a shutdown. -/
  | act (a : Act)
  /-- A thread begins to shut the agent down, if it runs. -/
  | leave
  /-- The agent that is shut down is stopped, when the clock shows `now`. -/
  | stop (now : Nat)
  /-- The shutdown ends. -/
  | finish

/-- Whether an agent is brought up. -/
def Move.bringsUp : Move → Bool
  | .act a => a.bringsUp
  | _ => false

/-- Whether a thread lets go of the agent. -/
def Move.letsGo : Move → Bool
  | .act a => a.letsGo
  | _ => false

/-- The process after a move. -/
def move (l : Lifecycle) : Move → Disk Lifecycle
  | .act a => return (← l.act a).2
  | .leave => return if l.phase = .running then l.beginShutdown else l
  | .stop now => return if l.phase = .shuttingDown then (l.stopAgent now).2 else l
  | .finish => if l.phase = .shuttingDown then l.finishShutdown else return l

/-- The process after moves, one after the other. -/
def run (l : Lifecycle) (moves : List Move) : Disk Lifecycle := moves.foldlM move l

variable {l : Lifecycle}

/-- Every move keeps how a process, its agent and those who hold it belong together. -/
theorem Held.move (h : l.Held) (m : Move) : (l.move m).Ensures Held := by
  cases m with
  | act a => exact (l.acted_act a).bind fun _ acted => Disk.ensures_pure (h.acted acted)
  | leave =>
    refine Disk.ensures_pure ?_
    split
    · next running => exact h.leave running
    · exact h
  | stop now =>
    refine Disk.ensures_pure ?_
    split
    · exact h.stop now
    · exact h
  | finish =>
    simp only [Lifecycle.move]
    split
    · next ending => exact l.finishShutdown_gives.ensures (h.finish ending)
    · exact Disk.ensures_pure h

/-- Whatever the moves. -/
theorem Held.run (h : l.Held) (moves : List Move) : (l.run moves).Ensures Held :=
  Disk.ensures_foldlM (fun h m _ => h.move m) h

/-! ## What nothing interrupts -/

/-- A thread that sends an event takes hold of the agent, hands the event over and lets go. -/
theorem run_send (found : l.hasAgent = true) {e : Event} (filled : e.isEmpty = false) (stack : List Frame)
    (id : String) (readings : Readings) :
    l.run [.act .take, .act (.dispatch e stack id readings), .act .letGo] =
      pure (l.send e stack id readings) := by
  have taken : l.take? = some { l with holders := l.holders + 1 } := by
    simp only [take?, found, if_true]
  simp only [run, List.foldlM_cons, List.foldlM_nil, move, act, taken, Option.getD_some, pure_bind, Nat.succ_pos,
    if_true, send, filled, Bool.false_eq_true, if_false]
  rfl

/-- A shutdown takes three moves. -/
theorem run_shutdown (unlocked : l.phase ≠ .shuttingDown) (now : Nat) :
    l.run [.leave, .stop now, .finish] = do return (← l.shutdown now).2 := by
  by_cases running : l.phase = .running
  · have begun : l.beginShutdown.phase = .shuttingDown := rfl
    obtain ⟨agent, stopped, -⟩ := l.beginShutdown.stopAgent_frame now
    have stopping : (l.beginShutdown.stopAgent now).2.phase = .shuttingDown := by rw [stopped]; rfl
    simp [run, move, shutdown, running, begun, stopping]
  · simp [run, move, shutdown_idle running, running, unlocked]

/-! ## Waiting for an agent -/

/-- An agent is asked for, and `n` threads hold one that was shut down before. -/
structure Waits (settings : Settings) (custom : Bool) (n : Nat) (l : Lifecycle) : Prop where
  held : l.Held
  starting : l.phase = .starting
  asked : l.pending = some (settings, custom)
  holders : l.holders = n

variable {n : Nat}

/-- Until the agent is brought up, nobody takes hold of one. -/
theorem Waits.move (h : Waits settings custom n l) {m : Move} (other : m.bringsUp = false) :
    (l.move m).Ensures (Waits settings custom (n - if m.letsGo then 1 else 0)) := by
  have idle : l.phase ≠ .running := by simp [h.starting]
  have unlocked : l.phase ≠ .shuttingDown := by simp [h.starting]
  have same : l.phase = .starting ∧ l.pending = some (settings, custom) ∧ l.holders = n :=
    ⟨h.starting, h.asked, h.holders⟩
  have unfound : l.hasAgent = false := by simp [hasAgent, h.held.offered, h.starting]
  have frame : (l.move m).Ensures fun l' => l'.phase = .starting ∧ l'.pending = some (settings, custom) ∧
      l'.holders = n - if m.letsGo then 1 else 0 := by
    cases m with
    | act a =>
      refine (l.acted_act a).bind fun ⟨calls, l'⟩ acted => Disk.ensures_pure ?_
      cases acted with
      | refused | unasked => exact same
      | begun free resolved => exact absurd (h.starting.symm.trans free) nofun
      | ended asked panicked fresh => cases other
      | tended tends tended =>
        exact ⟨tended.phase.trans h.starting, tended.pending.trans h.asked, h.holders ▸ tended.holders unfound⟩
    | leave =>
      simp only [Lifecycle.move, idle, if_false]
      exact Disk.ensures_pure same
    | stop now =>
      simp only [Lifecycle.move, unlocked, if_false]
      exact Disk.ensures_pure same
    | finish =>
      simp only [Lifecycle.move, unlocked, if_false]
      exact Disk.ensures_pure same
  refine ((h.held.move m).and frame).mono ?_
  rintro _ ⟨held, starting, asked, holders⟩
  exact ⟨held, starting, asked, holders⟩

theorem Waits.run (h : Waits settings custom n l) {moves : List Move}
    (other : ∀ m ∈ moves, m.bringsUp = false) :
    (l.run moves).Ensures (Waits settings custom (n - moves.countP Move.letsGo)) := by
  induction moves generalizing l n with
  | nil => exact Disk.ensures_pure h
  | cons m moves ih =>
    refine (h.move (other m List.mem_cons_self)).bind fun l' h' => ?_
    have counted : n - (m :: moves).countP Move.letsGo =
        n - (if m.letsGo then 1 else 0) - moves.countP Move.letsGo := by
      rw [List.countP_cons]
      omega
    exact counted ▸ ih h' fun m hm => other m (List.mem_cons_of_mem _ hm)

/-- The one who waits gets an agent, unless one that was shut down is still held. -/
theorem Waits.bringUp (h : Waits settings custom n l) {o : Options} {env : Environment}
    (accepted : o.resolve env custom = .ok settings)
    {paths : Option String → Option (List String)} {candidates : List String} {nonce : Gcm.Nonce}
    {answers : Answers} {t : FileTree} (placed : paths settings.configDir = some candidates)
    (succeeds : Succeeds settings candidates nonce answers t) :
    (n = 0 → ∃ calls l' t', l.bringUpOn paths nonce answers t = .ok (calls, .ok (), l') t' ∧
      l'.phase = .running ∧ l'.hasAgent = true) ∧
    (0 < n → ∃ t', l.bringUpOn paths nonce answers t =
      .ok ([], .error .alreadyInitialized, { l with phase := .uninitialized, pending := none }) t') := by
  have alive : l.agent.isSome = true ↔ 0 < n := by
    simpa [InUse, h.held.offered, h.starting, h.holders] using h.held.alive
  constructor
  · rintro rfl
    obtain ⟨transport, served⟩ := transportOf_resolve accepted
    obtain ⟨calls, a, t', ends⟩ := succeeds.ends served
    have free : l.agent.isSome = false := by simpa using alive
    rw [← free] at ends
    exact ⟨calls, _, t', bringUpOn_run h.asked placed ends, rfl, rfl⟩
  · intro held
    obtain ⟨store, t', -, -, -, opened, -⟩ := succeeds.identified
    exact ⟨t', bringUpOn_run h.asked placed (.refused opened (alive.mpr held))⟩

/-- Whatever has happened, where there is no agent one is asked for with options that are accepted, and
whatever happens until it is brought up: if everybody does what they are asked for, it runs, unless a
thread has not let go of one that was shut down before. Then nobody is asked for anything, and there is
no agent, as before. -/
theorem running_unless_held {moves between : List Move} {l : Lifecycle} {o : Options} {env : Environment}
    {paths : Option String → Option (List String)} {candidates : List String} {t t₁ : FileTree}
    (reached : ({} : Lifecycle).run moves t = .ok l t₁) (idle : l.phase = .uninitialized)
    (accepted : o.resolve env custom = .ok settings) (placed : paths settings.configDir = some candidates)
    (other : ∀ m ∈ between, m.bringsUp = false) (nonce : Gcm.Nonce) (answers : Answers) :
    ∃ l₁ l₂ t₂, l.begin o env custom = .ok l₁ ∧ l₁.run between t₁ = .ok l₂ t₂ ∧
      (Succeeds settings candidates nonce answers t₂ →
        (l.holders ≤ between.countP Move.letsGo → ∃ calls l₃ t₃,
          l₂.bringUpOn paths nonce answers t₂ = .ok (calls, .ok (), l₃) t₃ ∧
            l₃.phase = .running ∧ l₃.hasAgent = true) ∧
        (between.countP Move.letsGo < l.holders → ∃ t₃,
          l₂.bringUpOn paths nonce answers t₂ = .ok ([], .error .alreadyInitialized,
            { l₂ with phase := .uninitialized, pending := none }) t₃)) := by
  obtain ⟨_, _, run, held⟩ := held_empty.run moves t
  cases reached.symm.trans run
  have begun := begin_idle idle accepted
  have waits : Waits settings custom l.holders
      { l with phase := .starting, pending := some (settings, custom) } :=
    ⟨held.starts idle _, rfl, rfl, rfl⟩
  obtain ⟨l₂, t₂, meanwhile, waits⟩ := waits.run other t₁
  refine ⟨_, l₂, t₂, begun, meanwhile, fun succeeds => ?_⟩
  obtain ⟨free, refused⟩ := waits.bringUp accepted placed succeeds
  exact ⟨fun all => free (by omega), fun few => refused (by omega)⟩

/-- A thread holds the agent while it is shut down. The next one that is asked for, in another
directory, runs if the thread lets go in time, and is refused if it does not. -/
theorem running_unless_held_overtaken :
    let o : Options := .least
    let paths (dir : String) : Option String → Option (List String) := fun _ => some [dir]
    let answers : Answers := .obliging
    let moves : List Move :=
      [.act (.begin o [] true), .act (.bringUp (paths "/state") default answers), .act .take, .leave, .stop 0, .finish]
    ∃ settings l t, o.resolve [] true = .ok settings ∧
      paths "/other" settings.configDir = some ["/other"] ∧
      ({} : Lifecycle).run moves {} = .ok l t ∧ l.phase = .uninitialized ∧ l.holders = 1 ∧
      (∀ m ∈ [Move.act .letGo], m.bringsUp = false) ∧ Succeeds settings ["/other"] default answers t ∧
      (∃ l₁ l₂ t₂, l.begin o [] true = .ok l₁ ∧ l₁.run [.act .letGo] t = .ok l₂ t₂ ∧ ∃ calls l₃ t₃,
        l₂.bringUpOn (paths "/other") default answers t₂ = .ok (calls, .ok (), l₃) t₃ ∧
          l₃.phase = .running) ∧
      ∃ l₁ l₃ t₃, l.begin o [] true = .ok l₁ ∧
        l₁.bringUpOn (paths "/other") default answers t =
          .ok ([], .error .alreadyInitialized, l₃) t₃ ∧ l₃.phase = .uninitialized := by
  intro o paths answers moves
  let settings : Settings := .least
  have accepted : o.resolve [] true = .ok settings := Options.resolve_least true
  have placed : paths "/other" settings.configDir = some ["/other"] := rfl
  let i : Identity := ⟨"org", "client", "id", "secret"⟩
  have ended : (({} : Lifecycle).run moves >>= fun l => Store.openFirst ["/other"] >>= fun store =>
      match store with
      | some store => Registration.kept (.ofApp store "app") >>= fun known =>
        (Vault.ofApp store "app").save default i >>= fun _ =>
          pure (l.phase, l.holders, known.isNone)
      | none => pure (l.phase, l.holders, false)).answer? {} = some (.uninitialized, 1, true) := by
    decide +kernel
  obtain ⟨l, t, reached, ended⟩ := Disk.answer?_bind.mp ended
  obtain ⟨store, t₁, opened, ended⟩ := Disk.answer?_bind.mp ended
  cases store with
  | none =>
    have lost := Option.some.inj ended
    simp at lost
  | some store =>
    obtain ⟨known, t₂, kept, ended⟩ := Disk.answer?_bind.mp ended
    obtain ⟨⟨⟩, t₃, saved, ended⟩ := Disk.answer?_bind.mp ended
    obtain ⟨idle, held, unknown⟩ : l.phase = .uninitialized ∧ l.holders = 1 ∧ known = none := by
      simpa using Option.some.inj ended
    subst unknown
    obtain ⟨_, _, loaded, kept', -⟩ := Registration.kept_run (.ofApp store "app") t₁
    cases kept.symm.trans kept'
    have identified : Identified (.ofApp store "app") "app" default answers.credentials t₁
        [.register "app"] i t₃ := .registered ⟨loaded, kept⟩ rfl rfl saved
    have succeeds : Succeeds settings ["/other"] default answers t :=
      ⟨⟨_, rfl⟩, ⟨store, t₁, _, i, t₃, opened, identified⟩, ⟨_, rfl⟩, rfl, rfl, ⟨_, rfl⟩, rfl⟩
    have other : ∀ m ∈ [Move.act .letGo], m.bringsUp = false := by simp [Move.bringsUp, Act.bringsUp]
    obtain ⟨l₁, l₂, t', begun, lets, runs⟩ :=
      running_unless_held reached idle accepted placed other default answers
    have same : t' = t := by
      cases lets
      rfl
    obtain ⟨calls, l₃, t₄, up, running, -⟩ := (runs (same ▸ succeeds)).1 (Nat.le_of_eq held)
    have meanwhile : ∀ m ∈ ([] : List Move), m.bringsUp = false := fun _ h => nomatch h
    obtain ⟨l₀, _, _, begun', ⟨⟩, refused⟩ :=
      running_unless_held reached idle accepted placed meanwhile default answers
    obtain ⟨t₅, unmade⟩ := (refused succeeds).2 (by rw [held]; decide)
    exact ⟨settings, l, t, accepted, placed, reached, idle, held, other, succeeds,
      ⟨l₁, l₂, t', begun, lets, calls, l₃, t₄, up, running⟩, l₀, _, t₅, begun', unmade, rfl⟩

/-- A thread holds the agent while it is shut down, and an agent is asked for while there is none: it is
refused, though everybody does what they are asked for. -/
theorem refused_while_held :
    let o : Options := .least
    let paths (dir : String) : Option String → Option (List String) := fun _ => some [dir]
    let answers : Answers := .obliging
    let moves : List Move :=
      [.act (.begin o [] true), .act (.bringUp (paths "/state") default answers), .act .take, .leave, .stop 0, .finish]
    let asked (between : List Move) : Option (Phase × Option Failure × Phase) :=
      Disk.answer? (do
        let l ← ({} : Lifecycle).run moves
        let l₂ ← l.run (.act (.begin o [] true) :: between)
        match ← l₂.bringUpOn (paths "/other") default answers with
        | (_, .ok _, l₃) => return (l.phase, none, l₃.phase)
        | (_, .error f, l₃) => return (l.phase, some f, l₃.phase)) {}
    asked [.act .letGo] = some (.uninitialized, none, .running) ∧
      asked [] = some (.uninitialized, some .alreadyInitialized, .uninitialized) := by
  decide +kernel

end Lifecycle

end CrashReporter
