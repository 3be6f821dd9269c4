import CrashReporter.Proofs.Lifecycle.Process

/-!
# Agents whose start panics

One who is asked for an agent's sake may panic. The one who asked for the agent is told so, but the phase
stays as it was (`Lifecycle.starting_iff_panicked`): the process is starting, though nothing is being
brought up any more, and no move gets it out of that (`Process.Stuck.run`).
-/

namespace CrashReporter

namespace Process

/-- The process is starting, though no agent is being brought up. -/
structure Stuck (p : Process) : Prop where
  starting : p.life.phase = .starting
  free : p.life.pending = none

variable {p : Process}

theorem Stuck.step (h : p.Stuck) (m : Move) : (p.step m).Ensures Stuck := by
  have idle : p.life.phase ≠ .running := by simp [h.starting]
  cases m with
  | act a =>
    refine (p.step_act a).mono ?_
    rintro _ ⟨calls, life, acted, rfl⟩
    cases acted with
    | refused refused =>
      rw [record_refused refused]
      exact h
    | unasked free =>
      rw [record_unasked free]
      exact h
    | begun free resolved => exact absurd (h.starting.symm.trans free) nofun
    | ended asked panicked fresh => exact absurd (h.free.symm.trans asked) nofun
    | tended tends tended =>
      rw [record_tended tends]
      exact ⟨tended.phase.trans h.starting, tended.pending.trans h.free⟩
  | shutdown now =>
    rw [step_shutdown_idle idle]
    exact Disk.ensures_pure h

/-- Whatever the moves, the process goes on starting, and nobody gets an agent. -/
theorem Stuck.run (h : p.Stuck) (moves : List Move) : (p.run moves).Ensures Stuck :=
  Disk.ensures_foldlM (fun h m _ => h.step m) h

end Process

namespace Lifecycle

open Startup

variable {l l₁ : Lifecycle} {o : Options} {env : Environment} {custom : Bool} {settings : Settings}

/-- A panic leaves a process that is starting as it is; a failure takes it back to where it was. -/
theorem conclude_starting (idle : l.phase = .uninitialized) (outcome : Outcome Agent) :
    let l₂ := ({ l with phase := .starting, pending := some (settings, custom) } :
      Lifecycle).conclude settings outcome
    (l₂.phase = .starting ↔ outcome.isPanicked = true) ∧ l₂.pending = none ∧
      (l₂.phase = .starting → report outcome = .error .schedulerClosed) ∧
      (l₂.phase ≠ .starting → report outcome = .ok () ∧ l₂.phase = .running ∨
        ∃ f, report outcome = .error f ∧ l₂ = { l with pending := none }) := by
  cases outcome with
  | ok a => simp [conclude, report]
  | failed f =>
    have back : ({ l with phase := .uninitialized, pending := none } : Lifecycle) =
        { l with pending := none } := by rw [← idle]
    simp [conclude, report, back, idle]
  | panicked => simp [conclude, report]

/-- Once the one who asked for an agent is told what became of it, the process is still starting
exactly if the host's paths or another who was asked has panicked; then it starts for ever, and every
other one who asks for an agent is told that there is one. Otherwise the agent runs, or the process is
as it was before it was asked for one. -/
theorem starting_iff_panicked (begun : l.begin o env custom = .ok l₁)
    (paths : Option String → Option (List String)) (nonce : Gcm.Nonce) (answers : Answers)
    (t : FileTree) :
    ∃ settings calls result l₂ t', o.resolve env custom = .ok settings ∧
      l₁.bringUpOn paths nonce answers t = .ok (calls, result, l₂) t' ∧
      (l₂.phase = .starting ↔
        paths settings.configDir = none ∨ ∃ call ∈ calls, answers.panicsAt call = true) ∧
      (l₂.phase = .starting → result = .error .schedulerClosed ∧
        ∀ p : Process, p.life = l₂ → ∀ moves, (p.run moves).Ensures fun p' =>
          p'.life.phase = .starting ∧
            ∀ o env custom, p'.life.begin o env custom = .error .alreadyInitialized) ∧
      (l₂.phase ≠ .starting → result = .ok () ∧ l₂.phase = .running ∨
        ∃ f, result = .error f ∧ l₂ = { l with pending := none }) := by
  obtain ⟨idle, settings, resolved, rfl⟩ := begin_ok begun
  have asked : ({ l with phase := .starting, pending := some (settings, custom) } :
    Lifecycle).pending = some (settings, custom) := rfl
  obtain ⟨calls, outcome, t', run, panicked, -⟩ := bringUpOn_outcome asked paths nonce answers t
  obtain ⟨starting, free, told, otherwise⟩ := conclude_starting idle outcome
  refine ⟨settings, calls, _, _, t', resolved, run, starting.trans panicked, ?_, otherwise⟩
  intro stays
  refine ⟨told stays, ?_⟩
  intro p life moves
  refine (Process.Stuck.run ⟨life ▸ stays, life ▸ free⟩ moves).mono fun p' stuck => ⟨stuck.starting, ?_⟩
  exact begin_taken (by simp [stuck.starting])

/-- The question for the machine's address panics. -/
theorem starting_iff_panicked_address :
    let o : Options := .least
    let answers : Answers := { Answers.obliging with address := .panicked }
    ∃ l₁, ({} : Lifecycle).begin o [] true = .ok l₁ ∧
      ∃ settings calls result l₂ t', o.resolve [] true = .ok settings ∧
        l₁.bringUpOn (fun _ => some ["/state"]) default answers {} = .ok (calls, result, l₂) t' ∧
        (l₂.phase = .starting ↔ ∃ call ∈ calls, answers.panicsAt call = true) := by
  intro o answers
  obtain ⟨settings, resolved⟩ : ∃ settings, o.resolve [] true = .ok settings := ⟨_, rfl⟩
  have begun := begin_idle (l := {}) rfl resolved
  refine ⟨_, begun, ?_⟩
  obtain ⟨settings, calls, result, l₂, t', resolved, run, starting, -⟩ :=
    starting_iff_panicked begun (fun _ => some ["/state"]) default answers {}
  exact ⟨settings, calls, result, l₂, t', resolved, run, by simpa using starting⟩

/-- The host's transport panics at its start. The one who asked for the agent is told, but the process
goes on starting, and the next one who asks is refused. -/
theorem panic_keeps_starting :
    let o : Options := .least
    let answers : Answers := { Answers.obliging with transport := { custom := .panicked } }
    (do
      let l ← (({} : Lifecycle).begin o [] true).toOption
      match (l.bringUpOn (fun _ => some ["/state"]) default answers).answer? {} with
      | some (_, .error f, l) =>
        match l.begin o [] true with
        | .error refusal => some (f, l.phase, refusal)
        | .ok _ => none
      | _ => none) = some (.schedulerClosed, .starting, .alreadyInitialized) := by
  decide +kernel

end Lifecycle

end CrashReporter
