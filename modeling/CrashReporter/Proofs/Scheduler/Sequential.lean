import CrashReporter.Proofs.Scheduler.InFlight

/-!
# The scheduler's operations as runs of steps

A submission that nobody interrupts comes to what submitting a task in one go comes to
(`Scheduler.Shared.run_submit`), and so does a shutdown that gives up all tasks at once
(`Scheduler.Shared.run_shutdown`). So what holds of the steps in any order holds of these operations.
-/

namespace CrashReporter

namespace Scheduler

namespace Shared

variable {s s' : Shared}

theorem run?_cons (s : Shared) (m : Move) (moves : List Move) :
    s.run? (m :: moves) = (s.step? m).bind fun s' => s'.run? moves :=
  List.foldlM_cons

theorem run?_append (s : Shared) (moves more : List Move) :
    s.run? (moves ++ more) = (s.run? moves).bind fun s' => s'.run? more :=
  List.foldlM_append

theorem Sound.length_progress (h : s.Sound) : s.progress.length = s.scheduler.tasks.length := by
  have lengths := congrArg List.length h.agree
  simpa using lengths.symm

/-- What a submission that finds the scheduler open does to it. -/
theorem submit_eq_ok {s taken : Scheduler} {d : Demand} (accepts : d.submit s = .ok taken) :
    taken = s.enter d.kind := by
  cases closed : s.closed with
  | true =>
    rw [submit_closed closed] at accepts
    cases accepts
  | false =>
    cases d with
    | once | service =>
      simp only [Demand.submit, submit, ensureOpen, closed, bind, Except.bind, pure, Except.pure,
        Bool.false_eq_true, if_false] at accepts
      cases accepts
      rfl
    | repeating name period =>
      simp only [Demand.submit, submitRepeating, ensureOpen, closed, bind, Except.bind, pure, Except.pure,
        Bool.false_eq_true, if_false] at accepts
      split at accepts
      · cases accepts
      · cases accepts
        rfl

/-- The steps of a submission, one right after the other. -/
theorem run_submit (h : s.Sound) {d : Demand} {taken : Scheduler} (accepts : d.submit s.scheduler = .ok taken) :
    ∃ s', s.run? [.ask d, .enter s.submissions.length, .handOver s.submissions.length] = some s' ∧
      s'.scheduler = taken := by
  obtain rfl := submit_eq_ok accepts
  have asked : s.step? (.ask d) = some { s with submissions := s.submissions ++ [.found d] } := by
    simp only [step?, accepts]
  have entered : ({ s with submissions := s.submissions ++ [.found d] } : Shared).step? (.enter s.submissions.length) =
      some { s with
        scheduler := s.scheduler.enter d.kind
        progress := s.progress ++ [{}]
        submissions := s.submissions ++ [.holding s.progress.length] } := by
    simp [step?, h.length_progress]
  have handed : ({ s with
      scheduler := s.scheduler.enter d.kind
      progress := s.progress ++ [{}]
      submissions := s.submissions ++ [.holding s.progress.length] } : Shared).step?
        (.handOver s.submissions.length) =
      some { s with
        scheduler := s.scheduler.enter d.kind
        progress := s.progress ++ [{ stage := .queued }]
        submissions := s.submissions ++ [.answered (.ok s.progress.length)] } := by
    simp [step?, advance]
  refine ⟨{ s with
    scheduler := s.scheduler.enter d.kind
    progress := s.progress ++ [{ stage := .queued }]
    submissions := s.submissions ++ [.answered (.ok s.progress.length)] }, ?_, rfl⟩
  rw [run?_cons, asked, Option.bind_some, run?_cons, entered, Option.bind_some, run?_cons, handed]
  rfl

/-! ## Giving up tasks -/

theorem finish_of_ended {s : Scheduler} {i : Nat} {t : Task} (here : s.tasks[i]? = some t) (ended : t.ended = true) :
    s.finish i = s := by
  unfold Scheduler.finish
  rw [here]
  simp [ended]

/-- Whether the threads that submitted them have handed over all tasks. -/
def HandedOver (s : Shared) : Prop := ∀ p ∈ s.progress, p.stage ≠ .held

/-- A task that has not ended is cancelled, and ends. -/
theorem run_cancelled {i : Nat} {p : Progress} (there : s.progress[i]? = some p) (handed : p.stage ≠ .held)
    (lives : p.stage.isEnded = false) :
    s.run? [.cancel i, .finish i .cancelled] = some (s.endTask i { p with cancelled := true } .cancelled) := by
  have inside := (List.getElem?_eq_some_iff.mp there).1
  have underway : p.stage.isUnderway = true := by
    cases stage : p.stage with
    | held => exact absurd stage handed
    | ended how => simp [stage, Stage.isEnded] at lives
    | queued | running | awaiting => rfl
  have asked : s.step? (.cancel i) = some { s with progress := s.progress.set i { p with cancelled := true } } := by
    simp [step?, there, handed]
  have ended : ({ s with progress := s.progress.set i { p with cancelled := true } } : Shared).step?
      (.finish i .cancelled) = some (s.endTask i { p with cancelled := true } .cancelled) := by
    simp [step?, inside, allows, underway, endTask]
  rw [run?_cons, asked, Option.bind_some, run?_cons, ended]
  rfl

/-- A task is given up, if there is one that has not ended. -/
theorem run_finish (h : s.Sound) (handed : s.HandedOver) (i : Nat) :
    ∃ moves s', s.run? moves = some s' ∧ s'.HandedOver ∧ s'.shutdowns = s.shutdowns ∧
      s'.scheduler = s.scheduler.finish i := by
  cases there : s.progress[i]? with
  | none =>
    refine ⟨[], s, rfl, handed, rfl, ?_⟩
    have missing : s.scheduler.tasks[i]? = none := by
      rw [List.getElem?_eq_none_iff] at there ⊢
      rwa [← h.length_progress]
    simp [Scheduler.finish, missing]
  | some p =>
    cases lives : p.stage.isEnded with
    | true =>
      obtain ⟨t, here, ended⟩ := h.exists_task there lives
      exact ⟨[], s, rfl, handed, rfl, (finish_of_ended here ended).symm⟩
    | false =>
      refine ⟨_, _, run_cancelled there (handed p (List.mem_of_getElem? there)) lives, ?_, rfl, rfl⟩
      intro q mem
      rcases List.mem_or_eq_of_mem_set mem with mem | rfl
      · exact handed q mem
      · exact nofun

/-- Tasks are given up, one after the other. -/
theorem run_finishWhere (h : s.Sound) (handed : s.HandedOver) (p : Task → Bool) :
    ∃ moves s', s.run? moves = some s' ∧ s'.HandedOver ∧ s'.shutdowns = s.shutdowns ∧
      s'.scheduler = s.scheduler.finishWhere p := by
  unfold finishWhere
  induction List.range s.scheduler.tasks.length generalizing s with
  | nil => exact ⟨[], s, rfl, handed, rfl, rfl⟩
  | cons i rest ih =>
    rw [List.foldl_cons]
    split
    · obtain ⟨moves, s₁, ran, handed₁, same₁, gone⟩ := run_finish h handed i
      obtain ⟨more, s₂, ran₂, handed₂, same₂, all⟩ := ih (h.run ran) handed₁
      refine ⟨moves ++ more, s₂, ?_, handed₂, same₂.trans same₁, ?_⟩
      · rw [run?_append, ran, Option.bind_some, ran₂]
      · rw [all, gone]
    · exact ih h handed

/-- The steps of a shutdown after which all tasks are given up. -/
theorem run_shutdown (h : s.Sound) (handed : s.HandedOver) {closed : Scheduler}
    (closes : s.scheduler.close? = some closed) :
    ∃ moves s', s.run? moves = some s' ∧ s'.shutdowns = [.over] ∧ s'.scheduler = closed.stop := by
  unfold close? at closes
  split at closes
  · cases closes
  next unclosed =>
  cases closes
  have first : s.shutdowns = [] := by
    have shut := h.closed
    simpa [unclosed] using shut
  have begun : s.step? .close = some { s with
      scheduler := { s.scheduler with closed := true }
      shutdowns := [.marked] } := by
    simp [step?, unclosed, first]
  obtain ⟨moves, s₁, ran₁, handed₁, same₁, repeating⟩ :=
    run_finishWhere (h.after (takes_of_step begun)) handed fun t => t.kind = .repeating
  have launched : s₁.step? (.launch 0) = some { s₁ with shutdowns := [.closing] } := by
    simp [step?, same₁]
  have concluded : ({ s₁ with shutdowns := [.closing] } : Shared).step? (.conclude 0) =
      some { s₁ with shutdowns := [.over], stopped := true } := by
    simp [step?]
  have sound := ((h.after (takes_of_step begun)).run ran₁).after (takes_of_step launched) |>.after
    (takes_of_step concluded)
  obtain ⟨more, s₂, ran₂, -, same₂, all⟩ := run_finishWhere sound handed₁ fun _ => true
  refine ⟨.close :: (moves ++ .launch 0 :: .conclude 0 :: more), s₂, ?_, same₂, ?_⟩
  · rw [run?_cons, begun, Option.bind_some, run?_append, ran₁, Option.bind_some, run?_cons, launched,
      Option.bind_some, run?_cons, concluded, Option.bind_some, ran₂]
  · rw [all, repeating]
    rfl

end Shared

end Scheduler

end CrashReporter
