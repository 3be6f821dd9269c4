import CrashReporter.Proofs.Agent.Steps
import CrashReporter.Proofs.Along
import CrashReporter.Scheduler.Shared

/-!
# Tasks in flight

The scheduler's count is that of the tasks that run once and have not ended (`Scheduler.Exact`): it goes up where one
begins and down where one ends, which is then among those counted (`Scheduler.Exact.inFlight_finish`).

Where threads share the scheduler, the steps of their calls and of the tasks come in any order. What each of them
needs and changes is said once (`Scheduler.Shared.Takes`). The count stays exact, and only the first shutdown finds
the scheduler open (`Scheduler.Shared.Sound.after`); a task that ends leaves all others as they are
(`Scheduler.Shared.spares_endTask`). So it is after every run (`Scheduler.Shared.in_flight_exact`).
-/

namespace CrashReporter

namespace Scheduler

/-! ## The count -/

/-- Whether a task is one that is counted. -/
def Task.isLive (t : Task) : Bool := t.kind = .once && !t.ended

/-- Whether the count is that of the tasks that run once and have not ended. -/
def Exact (s : Scheduler) : Prop := s.inFlight = s.tasks.countP Task.isLive

variable {s : Scheduler} {i : Nat} {t : Task}

theorem Exact.enter (h : s.Exact) (kind : Kind) : (s.enter kind).Exact := by
  unfold Exact at h ⊢
  simp only [Scheduler.enter, List.countP_append, List.countP_singleton, Task.isLive, ← h]
  cases kind <;> simp

theorem tasks_finish (here : s.tasks[i]? = some t) (lives : t.ended = false) :
    (s.finish i).tasks = s.tasks.set i { t with ended := true } := by
  unfold finish
  rw [here]
  simp [lives]

/-- A task that ends is no longer counted, and it was counted before if it runs once. -/
theorem Exact.inFlight_finish (h : s.Exact) (here : s.tasks[i]? = some t) (lives : t.ended = false) :
    (s.finish i).inFlight + (if t.kind = .once then 1 else 0) = s.inFlight := by
  unfold finish
  rw [here]
  simp only [lives, Bool.false_eq_true, if_false]
  split
  · next once =>
    have counted : 0 < s.tasks.countP Task.isLive :=
      List.countP_pos_iff.mpr ⟨t, List.mem_of_getElem? here, by simp [Task.isLive, once, lives]⟩
    rw [← h] at counted
    omega
  · rfl

theorem Exact.finish (h : s.Exact) (i : Nat) : (s.finish i).Exact := by
  cases here : s.tasks[i]? with
  | none =>
    unfold Scheduler.finish
    rw [here]
    exact h
  | some t =>
    cases lives : t.ended with
    | true =>
      unfold Scheduler.finish
      rw [here]
      simpa [lives] using h
    | false =>
      have count := h.inFlight_finish here lives
      obtain ⟨inside, rfl⟩ := List.getElem?_eq_some_iff.mp here
      unfold Exact
      rw [tasks_finish here lives, List.countP_set inside]
      rw [h] at count
      simp only [Task.isLive, lives] at count ⊢
      by_cases once : s.tasks[i].kind = .once
      · simp [once] at count ⊢
        omega
      · simp [once] at count ⊢
        omega

/-! ## What a step does -/

namespace Shared

variable {s s' : Shared} {m : Move}

/-- The ways in which a step is possible, and what it changes. -/
inductive Takes (s : Shared) : Move → Shared → Prop where
  | found {d : Demand} {taken : Scheduler} (accepts : d.submit s.scheduler = .ok taken) :
    Takes s (.ask d) { s with submissions := s.submissions ++ [.found d] }
  | answered {d : Demand} {f : Failure} (refuses : d.submit s.scheduler = .error f) :
    Takes s (.ask d) { s with submissions := s.submissions ++ [.answered (.error f)] }
  | enter {c : Nat} {d : Demand} (here : s.submissions[c]? = some (.found d)) :
    Takes s (.enter c) { s with
      scheduler := s.scheduler.enter d.kind
      progress := s.progress ++ [{}]
      submissions := s.submissions.set c (.holding s.scheduler.tasks.length) }
  | handOver {c i : Nat} {p : Progress} (here : s.submissions[c]? = some (.holding i))
      (there : s.progress[i]? = some p) (held : p.stage = .held) :
    Takes s (.handOver c) { s.advance i p .queued with submissions := s.submissions.set c (.answered (.ok i)) }
  | start {i : Nat} {p : Progress} (there : s.progress[i]? = some p) (queued : p.stage = .queued) :
    Takes s (.start i) (s.advance i p .running)
  | cancel {i : Nat} {p : Progress} (there : s.progress[i]? = some p) (handed : p.stage ≠ .held) :
    Takes s (.cancel i) { s with progress := s.progress.set i { p with cancelled := true } }
  | finish {i : Nat} {p : Progress} {how : Ending} (there : s.progress[i]? = some p)
      (allowed : s.allows p how = true) : Takes s (.finish i how) (s.endTask i p how)
  | tick {i : Nat} {p : Progress} (there : s.progress[i]? = some p) (kind : s.kind? i = some .repeating)
      (running : p.stage = .running) :
    Takes s (.tick i) { s.advance i p (.awaiting s.runs.length) with runs := s.runs ++ [none] }
  | endRun {r : Nat} {how : Ending} (there : s.runs[r]? = some none) :
    Takes s (.endRun r how) { s with runs := s.runs.set r (some how) }
  | resume {i r : Nat} {p : Progress} (there : s.progress[i]? = some p) (kind : s.kind? i = some .repeating)
      (awaits : p.stage = .awaiting r) : Takes s (.resume i) (s.advance i p .running)
  /-- The run was dropped, and the repeating task goes with it. -/
  | giveUp {i r : Nat} {p : Progress} (there : s.progress[i]? = some p) (kind : s.kind? i = some .repeating)
      (awaits : p.stage = .awaiting r) : Takes s (.resume i) (s.endTask i p .done)
  | late (closed : s.scheduler.closed = true) :
    Takes s .close { s with shutdowns := s.shutdowns ++ [.refused] }
  | close (closed : s.scheduler.closed = false) :
    Takes s .close { s with
      scheduler := { s.scheduler with closed := true }
      shutdowns := s.shutdowns ++ [.marked] }
  | launch {k : Nat} (here : s.shutdowns[k]? = some .marked) :
    Takes s (.launch k) { s with shutdowns := s.shutdowns.set k .closing }
  | abandon {k : Nat} (here : s.shutdowns[k]? = some .marked) :
    Takes s (.abandon k) { s with shutdowns := s.shutdowns.set k .failed, stopped := true }
  | conclude {k : Nat} (here : s.shutdowns[k]? = some .closing) :
    Takes s (.conclude k) { s with shutdowns := s.shutdowns.set k .over, stopped := true }
  | retire : Takes s .retire { s with stopped := true }

theorem takes_of_step (possible : s.step? m = some s') : Takes s m s' := by
  cases m <;> simp only [step?, Option.bind_eq_bind] at possible
  case ask d =>
    cases possible
    split
    · next accepts => exact .found accepts
    · next refuses => exact .answered refuses
  case enter c =>
    split at possible
    · next here =>
      cases possible
      exact .enter here
    · cases possible
  case handOver c =>
    split at possible
    · next here =>
      obtain ⟨p, there, possible⟩ := Option.bind_eq_some_iff.mp possible
      obtain ⟨held, ⟨⟩⟩ := Option.ite_none_right_eq_some.mp possible
      exact .handOver here there held
    · cases possible
  case resume i =>
    obtain ⟨p, there, possible⟩ := Option.bind_eq_some_iff.mp possible
    split at possible
    · next kind awaits =>
      split at possible
      · cases possible
        exact .giveUp there kind awaits
      · cases possible
        exact .resume there kind awaits
      · cases possible
    · cases possible
  case start i =>
    obtain ⟨p, there, possible⟩ := Option.bind_eq_some_iff.mp possible
    obtain ⟨queued, ⟨⟩⟩ := Option.ite_none_right_eq_some.mp possible
    exact .start there queued
  case cancel i =>
    obtain ⟨p, there, possible⟩ := Option.bind_eq_some_iff.mp possible
    obtain ⟨handed, ⟨⟩⟩ := Option.ite_none_left_eq_some.mp possible
    exact .cancel there handed
  case finish i how =>
    obtain ⟨p, there, possible⟩ := Option.bind_eq_some_iff.mp possible
    obtain ⟨allowed, ⟨⟩⟩ := Option.ite_none_right_eq_some.mp possible
    exact .finish there allowed
  case tick i =>
    obtain ⟨p, there, possible⟩ := Option.bind_eq_some_iff.mp possible
    obtain ⟨ready, ⟨⟩⟩ := Option.ite_none_right_eq_some.mp possible
    exact .tick there ready.1 ready.2
  case endRun r how =>
    obtain ⟨ready, ⟨⟩⟩ := Option.ite_none_right_eq_some.mp possible
    exact .endRun ready.1
  case close =>
    split at possible
    · next closed =>
      cases possible
      exact .late closed
    · next closed =>
      cases possible
      exact .close (Bool.eq_false_iff.mpr closed)
  case launch k =>
    obtain ⟨here, ⟨⟩⟩ := Option.ite_none_right_eq_some.mp possible
    exact .launch here
  case abandon k =>
    obtain ⟨here, ⟨⟩⟩ := Option.ite_none_right_eq_some.mp possible
    exact .abandon here
  case conclude k =>
    obtain ⟨here, ⟨⟩⟩ := Option.ite_none_right_eq_some.mp possible
    exact .conclude here
  case retire =>
    cases possible
    exact .retire

/-! ## What holds after every step -/

/-- What holds of a scheduler and its calls wherever steps lead. -/
structure Sound (s : Shared) : Prop where
  exact : s.scheduler.Exact
  /-- The scheduler's own record says of each task whether it has ended. -/
  agree : s.scheduler.tasks.map (·.ended) = s.progress.map (·.stage.isEnded)
  closed : s.scheduler.closed = true ↔ s.shutdowns ≠ []
  /-- Only the first shutdown has found the scheduler open. -/
  refused : ∀ u ∈ s.shutdowns.tail, u = .refused

theorem sound_empty : Sound {} where
  exact := rfl
  agree := rfl
  closed := by simp
  refused := nofun

/-- A task has ended for one if it has for the other. -/
theorem Sound.exists_task (h : s.Sound) {i : Nat} {p : Progress} (there : s.progress[i]? = some p) {b : Bool}
    (ended : p.stage.isEnded = b) : ∃ t, s.scheduler.tasks[i]? = some t ∧ t.ended = b := by
  have flags := congrArg (·[i]?) h.agree
  simp only [List.getElem?_map, there, Option.map_some, ended, Option.map_eq_some_iff] at flags
  exact flags

/-- Neither says of a task that goes on that it has ended. -/
theorem Sound.agree_set (h : s.Sound) {i : Nat} {p q : Progress} (there : s.progress[i]? = some p)
    (same : q.stage.isEnded = p.stage.isEnded) :
    s.scheduler.tasks.map (·.ended) = (s.progress.set i q).map (·.stage.isEnded) := by
  obtain ⟨inside, rfl⟩ := List.getElem?_eq_some_iff.mp there
  have here : i < (s.progress.map (·.stage.isEnded)).length := by simpa using inside
  have kept := List.set_getElem_self here
  rw [List.getElem_map] at kept
  rw [List.map_set, same, kept, h.agree]

/-- Only the first shutdown goes on. -/
theorem Sound.tail_set (h : s.Sound) {k : Nat} {u v : Shutdown} (here : s.shutdowns[k]? = some u)
    (goesOn : u ≠ .refused) : (s.shutdowns.set k v).tail = s.shutdowns.tail := by
  have refused := h.refused
  cases shutdowns : s.shutdowns with
  | nil => rfl
  | cons first rest =>
    rw [shutdowns] at here refused
    cases k with
    | zero => rfl
    | succ k => exact absurd (refused u (List.mem_of_getElem? here)) goesOn

theorem isUnderway_of_allows {p : Progress} {how : Ending} (allowed : s.allows p how = true) :
    p.stage.isEnded = false := by
  cases stage : p.stage with
  | ended how' => cases how <;> simp [allows, stage, Stage.isUnderway] at allowed
  | held | queued | running | awaiting => rfl

theorem Sound.endTask (h : s.Sound) {i : Nat} {p : Progress} (there : s.progress[i]? = some p)
    (lives : p.stage.isEnded = false) (how : Ending) : (s.endTask i p how).Sound := by
  obtain ⟨t, here, going⟩ := h.exists_task there lives
  exact {
    exact := h.exact.finish i
    agree := by
      simp only [Shared.endTask]
      rw [tasks_finish here going, List.map_set, List.map_set, h.agree]
      rfl
    closed := by simpa [Shared.endTask] using h.closed
    refused := h.refused }

theorem Sound.advance (h : s.Sound) {i : Nat} {p : Progress} (there : s.progress[i]? = some p)
    (lives : p.stage.isEnded = false) {stage : Stage} (goesOn : stage.isEnded = false) :
    (s.advance i p stage).Sound :=
  { h with agree := h.agree_set there (goesOn.trans lives.symm) }

/-- Every step keeps it so. -/
theorem Sound.after (h : s.Sound) (taken : Takes s m s') : s'.Sound := by
  cases taken with
  | found | answered | endRun | retire => exact { h with }
  | enter =>
    exact { h with
      exact := h.exact.enter _
      agree := by
        simp only [Scheduler.enter, List.map_append, h.agree]
        rfl }
  | handOver _ there held =>
    have moved : (s.advance _ _ .queued).Sound := h.advance there (by rw [held]; rfl) rfl
    exact { moved with }
  | start there queued => exact h.advance there (by rw [queued]; rfl) rfl
  | cancel there _ => exact { h with agree := h.agree_set there rfl }
  | finish there allowed => exact h.endTask there (isUnderway_of_allows allowed) _
  | tick there _ running =>
    have moved : (s.advance _ _ (.awaiting s.runs.length)).Sound := h.advance there (by rw [running]; rfl) rfl
    exact { moved with }
  | resume there _ awaits => exact h.advance there (by rw [awaits]; rfl) rfl
  | giveUp there _ awaits => exact h.endTask there (by rw [awaits]; rfl) _
  | late closed =>
    have some := h.closed.mp closed
    exact { h with
      closed := by simp [closed]
      refused := by
        intro u later
        rw [List.tail_append_of_ne_nil some, List.mem_append] at later
        rcases later with later | last
        · exact h.refused u later
        · exact List.mem_singleton.mp last }
  | close closed =>
    have none : s.shutdowns = [] := by
      have := h.closed
      simpa [closed] using this
    exact { h with
      closed := by simp
      refused := by simp [none] }
  | launch here | abandon here | conclude here =>
    exact { h with
      closed := by simpa using h.closed
      refused := by
        intro u later
        rw [h.tail_set here nofun] at later
        exact h.refused u later }

theorem Sound.run {moves : List Move} (h : s.Sound) (ran : s.run? moves = some s') : s'.Sound :=
  invariant_of_foldlM (fun h taken => h.after (takes_of_step taken)) ran h

/-! ## The count, and what a step leaves alone -/

/-- How many tasks run once and have not ended, by how far they have come. -/
def live (s : Shared) : Nat :=
  (s.scheduler.tasks.zip s.progress).countP fun (t, p) => t.kind = .once && !p.stage.isEnded

/-- Whether a step is the beginning of a task that runs once. -/
def begins (s : Shared) : Move → Bool
  | .enter c =>
    match s.submissions[c]? with
    | some (.found .once) => true
    | _ => false
  | _ => false

/-- Whether a step is the end of a task that runs once. -/
def ends (s : Shared) : Move → Bool
  | .finish i _ => s.kind? i = some .once
  | _ => false

theorem countP_zip {tasks : List Task} {progress : List Progress}
    (agree : tasks.map (·.ended) = progress.map (·.stage.isEnded)) :
    (tasks.zip progress).countP (fun (t, p) => t.kind = .once && !p.stage.isEnded) = tasks.countP Task.isLive := by
  induction tasks generalizing progress with
  | nil => rfl
  | cons t tasks ih =>
    cases progress with
    | nil => cases agree
    | cons p progress =>
      obtain ⟨same, agree⟩ := List.cons.inj agree
      rw [List.zip_cons_cons, List.countP_cons, List.countP_cons, ih agree, Task.isLive, show t.ended = _ from same]

theorem Sound.inFlight_eq (h : s.Sound) : s.scheduler.inFlight = s.live :=
  h.exact.trans (countP_zip h.agree).symm

theorem Sound.inFlight_endTask (h : s.Sound) {i : Nat} {p : Progress} (there : s.progress[i]? = some p)
    (lives : p.stage.isEnded = false) (how : Ending) :
    (s.endTask i p how).scheduler.inFlight + (if s.kind? i = some .once then 1 else 0) = s.scheduler.inFlight := by
  obtain ⟨t, here, going⟩ := h.exists_task there lives
  have count := h.exact.inFlight_finish here going
  simpa [Shared.endTask, kind?, here] using count

/-- The count goes up where a task that runs once begins, down where one ends, and nowhere else. -/
theorem Sound.inFlight_after (h : s.Sound) (taken : Takes s m s') :
    s'.scheduler.inFlight + (s.ends m).toNat = s.scheduler.inFlight + (s.begins m).toNat := by
  cases taken with
  | enter here =>
    next d =>
    simp only [ends, begins, here, Scheduler.enter]
    cases d <;> rfl
  | @finish i p how there allowed =>
    have count := h.inFlight_endTask there (isUnderway_of_allows allowed) how
    simp only [ends, begins, Bool.toNat_false, Nat.add_zero]
    rw [← count]
    split <;> simp [*]
  | giveUp there kind awaits =>
    have count := h.inFlight_endTask there (by rw [awaits]; rfl) .done
    simpa [kind, ends, begins] using count
  | found | answered | handOver | start | cancel | tick | endRun | resume | late | close | launch | abandon
  | conclude | retire => rfl

/-- Whether all is as it was, but for one task and the count. -/
structure Spares (i : Nat) (s s' : Shared) : Prop where
  tasks : ∀ j, j ≠ i → s'.scheduler.tasks[j]? = s.scheduler.tasks[j]? ∧ s'.progress[j]? = s.progress[j]?
  closed : s'.scheduler.closed = s.scheduler.closed
  runs : s'.runs = s.runs
  submissions : s'.submissions = s.submissions
  shutdowns : s'.shutdowns = s.shutdowns
  stopped : s'.stopped = s.stopped

theorem getElem?_finish_ne (s : Scheduler) {i j : Nat} (other : j ≠ i) : (s.finish i).tasks[j]? = s.tasks[j]? := by
  unfold Scheduler.finish
  split
  · split
    · rfl
    · exact List.getElem?_set_ne (Ne.symm other)
  · rfl

theorem spares_endTask (s : Shared) (i : Nat) (p : Progress) (how : Ending) : Spares i s (s.endTask i p how) where
  tasks _ other := ⟨getElem?_finish_ne s.scheduler other, List.getElem?_set_ne (Ne.symm other)⟩
  closed := closed_finish _ i
  runs := rfl
  submissions := rfl
  shutdowns := rfl
  stopped := rfl

theorem submit_closed {s : Scheduler} (closed : s.closed = true) (d : Demand) :
    d.submit s = .error .schedulerClosed := by
  cases d <;> simp [Demand.submit, submit, submitRepeating, ensureOpen, closed, bind, Except.bind]

/-- Wherever the steps of any number of calls and tasks lead: the count is that of the tasks that run once and
have not ended, and a step changes it only where such a task begins or ends; the end of a task, or of a run of a
repeating one, leaves all others as they are; once a shutdown has begun, every submission is refused and changes
nothing; and every shutdown but the first has returned nothing. -/
theorem in_flight_exact {moves : List Move} (ran : ({} : Shared).run? moves = some s) :
    s.scheduler.inFlight = s.live ∧
      (∀ m s', s.step? m = some s' →
        s'.scheduler.inFlight + (s.ends m).toNat = s.scheduler.inFlight + (s.begins m).toNat) ∧
      (∀ i how s', s.step? (.finish i how) = some s' → Spares i s s') ∧
      (∀ r how s', s.step? (.endRun r how) = some s' → s' = { s with runs := s.runs.set r (some how) }) ∧
      (s.shutdowns ≠ [] → ∀ d, s.step? (.ask d) =
        some { s with submissions := s.submissions ++ [.answered (.error .schedulerClosed)] }) ∧
      ∀ u ∈ s.shutdowns.tail, u = .refused := by
  have sound := sound_empty.run ran
  refine ⟨sound.inFlight_eq, fun m s' possible => sound.inFlight_after (takes_of_step possible), ?_, ?_, ?_,
    sound.refused⟩
  · intro i how s' possible
    cases takes_of_step possible with
    | finish => exact spares_endTask s i _ how
  · intro r how s' possible
    cases takes_of_step possible with
    | endRun => rfl
  · intro begun d
    have refused := submit_closed (sound.closed.mpr begun) d
    simp only [step?, refused]

/-- A task is cancelled before its first turn; then another and a repeating one run, and a run of the latter panics
after two threads have shut the scheduler down. -/
theorem in_flight_exact_cancelled :
    let s : Shared := {
      scheduler := {
        closed := true
        inFlight := 1
        tasks := [{ kind := .once, ended := true }, { kind := .once }, { kind := .repeating }] }
      progress := [{ stage := .ended .cancelled, cancelled := true }, { stage := .running }, { stage := .running }]
      runs := [some .panicked]
      submissions := [.answered (.ok 0), .answered (.ok 1), .answered (.ok 2)]
      shutdowns := [.marked, .refused] }
    ({} : Shared).run? [.ask .once, .enter 0, .handOver 0, .cancel 0, .finish 0 .cancelled, .ask .once, .enter 1,
        .ask (.repeating "tick" 5), .enter 2, .handOver 1, .handOver 2, .start 1, .start 2, .tick 2, .close, .close,
        .endRun 0 .panicked, .resume 2] = some s ∧
      s.scheduler.inFlight = s.live ∧
      (∀ m s', s.step? m = some s' →
        s'.scheduler.inFlight + (s.ends m).toNat = s.scheduler.inFlight + (s.begins m).toNat) ∧
      (∀ i how s', s.step? (.finish i how) = some s' → Spares i s s') ∧
      (∀ r how s', s.step? (.endRun r how) = some s' → s' = { s with runs := s.runs.set r (some how) }) ∧
      (s.shutdowns ≠ [] → ∀ d, s.step? (.ask d) =
        some { s with submissions := s.submissions ++ [.answered (.error .schedulerClosed)] }) ∧
      ∀ u ∈ s.shutdowns.tail, u = .refused := by
  intro s
  have ran : ({} : Shared).run? [.ask .once, .enter 0, .handOver 0, .cancel 0, .finish 0 .cancelled, .ask .once,
      .enter 1, .ask (.repeating "tick" 5), .enter 2, .handOver 1, .handOver 2, .start 1, .start 2, .tick 2, .close,
      .close, .endRun 0 .panicked, .resume 2] = some s := rfl
  exact ⟨ran, in_flight_exact ran⟩

end Shared

end Scheduler

end CrashReporter
