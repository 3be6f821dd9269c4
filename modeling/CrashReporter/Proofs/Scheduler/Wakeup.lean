import CrashReporter.Proofs.Along
import CrashReporter.Scheduler.Drain

/-!
# The drain comes to its end

A waiter that has read that tasks are left, and that was not told since it asked, is still owed a word: a task is
left, or one that has ended is about to tell (`Drain.Owed`). Every step of tasks and waiter keeps it so
(`Drain.Owed.after`), in whatever order they come, because the waiter asks to be told before it reads the count.

Each step but the beginning of a task leaves less to do (`Drain.work_lt`), and one is always possible until the
waiter is done (`Drain.done_of_stuck`). So a waiter is never asleep over a scheduler without tasks, and the drain
ends once no more of them begin (`Drain.never_asleep_when_idle`).
-/

namespace CrashReporter.Scheduler

/-- How many steps the waiter may still take until it is asleep or done. -/
def Waiter.work : Waiter → Nat
  | .done | .parked false => 0
  | .parking false => 1
  | .listening false => 2
  | .away => 3
  | .parked true => 4
  | .parking true => 5
  | .listening true => 6

theorem Waiter.work_tell (w : Waiter) : w.tell.work ≤ w.work + 4 := by
  cases w with
  | away | done => simp [tell]
  | listening told | parking told | parked told => cases told <;> simp [tell, work]

theorem Waiter.tell_aware (w : Waiter) : w.tell ≠ .parking false ∧ w.tell ≠ .parked false := by
  cases w <;> simp [tell]

namespace Drain

variable {d d' : Drain}

/-! ## Steps -/

/-- The ways in which a step is possible, and what it changes. -/
inductive Takes (d : Drain) : Step → Drain → Prop where
  | enter : Takes d .enter { d with count := d.count + 1 }
  | leave {n : Nat} (count : d.count = n + 2) : Takes d .leave { d with count := n + 1 }
  /-- The last task ends. -/
  | leaveLast (count : d.count = 1) : Takes d .leave { d with count := 0, telling := d.telling + 1 }
  | tell {n : Nat} (telling : d.telling = n + 1) : Takes d .tell { d with telling := n, waiter := d.waiter.tell }
  | listen (waiter : d.waiter = .away) : Takes d .listen { d with waiter := .listening false }
  | readIdle {told : Bool} (waiter : d.waiter = .listening told) (count : d.count = 0) :
    Takes d .read { d with waiter := .done }
  | readBusy {told : Bool} (waiter : d.waiter = .listening told) (count : 0 < d.count) :
    Takes d .read { d with waiter := .parking told }
  | park {told : Bool} (waiter : d.waiter = .parking told) : Takes d .park { d with waiter := .parked told }
  | wake (waiter : d.waiter = .parked true) : Takes d .wake { d with waiter := .away }

theorem takes_of_step {step : Step} (possible : d.step? step = some d') : Takes d step d' := by
  cases step <;> simp only [step?] at possible
  case enter =>
    cases possible
    exact .enter
  case leave =>
    split at possible
    · cases possible
    · next one =>
      cases possible
      exact .leaveLast one
    · next n more =>
      cases possible
      exact .leave more
  case tell =>
    split at possible
    · cases possible
    · next n telling =>
      cases possible
      exact .tell telling
  case listen =>
    obtain ⟨away, ⟨⟩⟩ := Option.ite_none_right_eq_some.mp possible
    exact .listen away
  case read =>
    split at possible
    · next told listening =>
      cases possible
      split
      · next idle => exact .readIdle listening idle
      · next busy => exact .readBusy listening (Nat.pos_of_ne_zero busy)
    · cases possible
  case park =>
    split at possible
    · next told parking =>
      cases possible
      exact .park parking
    · cases possible
  case wake =>
    obtain ⟨parked, ⟨⟩⟩ := Option.ite_none_right_eq_some.mp possible
    exact .wake parked

theorem run?_cons (d : Drain) (step : Step) (steps : List Step) :
    d.run? (step :: steps) = (d.step? step).bind fun d' => d'.run? steps :=
  List.foldlM_cons

/-! ## What the waiter is owed -/

/-- Whether the waiter goes by a count that it has read before, and was not told since it asked. -/
def Unaware (d : Drain) : Prop := d.waiter = .parking false ∨ d.waiter = .parked false

/-- Whether a waiter that is not told yet has a task left, or one that is about to tell. -/
def Owed (d : Drain) : Prop := d.Unaware → 0 < d.count ∨ 0 < d.telling

theorem owed_start : Owed {} := by
  rintro (waiter | waiter) <;> cases waiter

theorem Owed.after {step : Step} (h : d.Owed) (taken : Takes d step d') : d'.Owed := by
  cases taken with
  | enter => exact fun _ => .inl (Nat.succ_pos _)
  | leave => exact fun _ => .inl (Nat.succ_pos _)
  | leaveLast => exact fun _ => .inr (Nat.succ_pos _)
  | tell =>
    rintro (waiter | waiter)
    · exact absurd waiter (Waiter.tell_aware _).1
    · exact absurd waiter (Waiter.tell_aware _).2
  | readBusy _ count => exact fun _ => .inl count
  | park waiter =>
    rintro (parked | parked) <;> cases parked
    exact h (.inl waiter)
  | listen | readIdle | wake => rintro (waiter | waiter) <;> cases waiter

theorem Owed.run {steps : List Step} (h : d.Owed) (ran : d.run? steps = some d') : d'.Owed :=
  invariant_of_foldlM (fun h taken => h.after (takes_of_step taken)) ran h

/-! ## The end -/

/-- The waiter is done once it reads that no task is left, and at no other step. -/
theorem done_iff {step : Step} (taken : Takes d step d') (waits : d.waiter ≠ .done) :
    d'.waiter = .done ↔ step = .read ∧ d.count = 0 := by
  cases taken with
  | enter | leave | leaveLast => simp [waits]
  | tell => cases waiter : d.waiter <;> simp_all [Waiter.tell]
  | readIdle _ count => simp [count]
  | readBusy _ count => simp [Nat.ne_of_gt count]
  | listen | park | wake => simp

/-- A waiter that is owed a word is done where no step is possible but the beginning of a task. -/
theorem done_of_stuck (h : d.Owed) (stuck : ∀ step, step ≠ .enter → d.step? step = none) : d.waiter = .done := by
  have idle : d.count = 0 := by
    have left := stuck .leave nofun
    simp only [step?] at left
    split at left <;> simp_all
  have quiet : d.telling = 0 := by
    have told := stuck .tell nofun
    simp only [step?] at told
    split at told <;> simp_all
  have aware : ¬ d.Unaware := fun unaware => by
    rcases h unaware with left | telling <;> omega
  cases waiter : d.waiter with
  | done => rfl
  | away => simpa [step?, waiter] using stuck .listen nofun
  | listening told => simpa [step?, waiter] using stuck .read nofun
  | parking told => simpa [step?, waiter] using stuck .park nofun
  | parked told =>
    cases told with
    | false => exact absurd (.inr waiter) aware
    | true => simpa [step?, waiter] using stuck .wake nofun

/-- How many steps are possible at most while no task begins. The waiter begins anew at each word. -/
def work (d : Drain) : Nat := 6 * d.count + 5 * d.telling + d.waiter.work

theorem work_lt {step : Step} (taken : Takes d step d') (ends : step ≠ .enter) : d'.work < d.work := by
  cases taken with
  | enter => exact absurd rfl ends
  | leave count | leaveLast count =>
    simp only [work, count]
    omega
  | tell telling =>
    have woken := d.waiter.work_tell
    simp only [work, telling]
    omega
  | @readIdle told waiter _ | @readBusy told waiter _ | @park told waiter =>
    simp only [work, waiter]
    cases told <;> simp [Waiter.work]
  | listen waiter | wake waiter => simp [work, waiter, Waiter.work]

theorem length_le_work {steps : List Step} (ran : d.run? steps = some d') (ends : .enter ∉ steps) :
    steps.length ≤ d.work := by
  induction steps generalizing d with
  | nil => exact Nat.zero_le _
  | cons step steps ih =>
    rw [run?_cons, Option.bind_eq_some_iff] at ran
    obtain ⟨d₁, first, rest⟩ := ran
    rw [List.mem_cons, not_or] at ends
    exact Nat.lt_of_le_of_lt (ih rest ends.2) (work_lt (takes_of_step first) (Ne.symm ends.1))

/-- Wherever the steps of tasks and waiter lead, the waiter is not asleep untold with no task left and none about to
tell it; it is done at the very step at which it reads that no task is left; and while no task begins, only so
many steps are possible, at the end of which it is done. -/
theorem never_asleep_when_idle {steps : List Step} (ran : ({} : Drain).run? steps = some d) :
    ¬ (d.waiter = .parked false ∧ d.count = 0 ∧ d.telling = 0) ∧
      (∀ step d', d.step? step = some d' → d.waiter ≠ .done →
        (d'.waiter = .done ↔ step = .read ∧ d.count = 0)) ∧
      ∀ rest d', d.run? rest = some d' → .enter ∉ rest →
        rest.length ≤ d.work ∧ ((∀ step, step ≠ .enter → d'.step? step = none) → d'.waiter = .done) := by
  have owed : d.Owed := owed_start.run ran
  refine ⟨?_, fun step d' possible => done_iff (takes_of_step possible), fun rest d' went ends => ?_⟩
  · rintro ⟨asleep, idle, quiet⟩
    rcases owed (.inr asleep) with left | telling <;> omega
  · exact ⟨length_le_work went ends, done_of_stuck (owed.run went)⟩

/-- The only task ends between the waiter's look at the count and its sleep. -/
theorem never_asleep_when_idle_overtaken :
    let d : Drain := { count := 0, telling := 1, waiter := .parked false }
    ({} : Drain).run? [.enter, .listen, .read, .leave, .park] = some d ∧
      ¬ (d.waiter = .parked false ∧ d.count = 0 ∧ d.telling = 0) ∧
      (∀ step d', d.step? step = some d' → d.waiter ≠ .done →
        (d'.waiter = .done ↔ step = .read ∧ d.count = 0)) ∧
      ∀ rest d', d.run? rest = some d' → .enter ∉ rest →
        rest.length ≤ d.work ∧ ((∀ step, step ≠ .enter → d'.step? step = none) → d'.waiter = .done) := by
  have ran : ({} : Drain).run? [.enter, .listen, .read, .leave, .park] =
      some { count := 0, telling := 1, waiter := .parked false } := by decide
  exact ⟨ran, never_asleep_when_idle ran⟩

end Drain

end CrashReporter.Scheduler
