import CrashReporter.Proofs.Usage.Copy
import CrashReporter.Proofs.Usage.Reload
import Mathlib.Algebra.BigOperators.Group.List.Basic
import Mathlib.Algebra.GroupWithZero.Nat

/-!
# When the remote API is asked

Each 24th tick of a monitor raises a question for a policy (`Inquiry`). Some time after, it fails, or a policy
is handed out, which is copied, as far as the system lets it, and then comes into force. Between any two of
these steps the monitor may be asked for something else, there may be further ticks, and others may change
whatever they like on the disk.

* `Inquiries.step_run`: what one step does (`Inquiries.Proper`), if the ticks were counted right
  (`Inquiries.Counts`);
* `Inquiries.run_counts`: the ticks are counted right along every run;
* `Inquiries.run_whole`: a tick with nothing in between is a run of its steps, and what becomes of the policy
  in force and of its copy (`Inquiries.Answered`).
-/

namespace CrashReporter.Usage

open FileTree Store Monitor

/-- What has become of a question for a policy. -/
inductive Inquiry where
  | waiting
  | answered (p : Policy)
  | copied (p : Policy)
  | adopted (p : Policy)
  | failed (f : Failure)

/-- A question with its answer. -/
def Inquiry.ofAnswer : Except Failure Policy → Inquiry
  | .ok p => .answered p
  | .error f => .failed f

/-- A monitor, and the questions that its ticks have raised, the earliest first. -/
structure Inquiries where
  monitor : Monitor
  made : List Inquiry := []

/-- A request that sets no policy changes the count and whether a cycle is waited for, and nothing else. -/
theorem Meter.serve_of_other (m : Meter) {r : Request} (other : ∀ p, r ≠ .setPolicy p) :
    ∃ sent awaitingReset, m.serve r = { m with sent, awaitingReset } := by
  cases r with
  | reserve size =>
    rw [serve, reserve?]
    split <;> exact ⟨_, _, rfl⟩
  | release size =>
    rw [serve, release?]
    split <;> exact ⟨_, _, rfl⟩
  | add size =>
    rw [serve, add?]
    split <;> exact ⟨_, _, rfl⟩
  | setPolicy p => exact absurd rfl (other p)
  | check today =>
    rw [serve, check]
    split
    · exact ⟨_, _, rfl⟩
    · split <;> exact ⟨_, _, rfl⟩
  | persist => exact ⟨_, _, rfl⟩

theorem Meter.ticks_serve (m : Meter) (r : Request) : (m.serve r).ticks = m.ticks := by
  by_cases sets : ∃ p, r = .setPolicy p
  · obtain ⟨p, rfl⟩ := sets
    rfl
  · obtain ⟨sent, awaitingReset, served⟩ := m.serve_of_other fun p same => sets ⟨p, same⟩
    rw [served]

namespace Inquiries

/-- A step: a tick, what happens to one of the questions, or something else that the monitor is asked for. -/
inductive Move where
  | tick
  | answer (k : Nat) (a : Except Failure Policy)
  | copy (k : Nat)
  | adopt (k : Nat)
  | ask (r : Request)

/-- The question that something happens to. -/
def Move.inquiry? : Move → Option Nat
  | .answer k _ | .copy k | .adopt k => some k
  | .tick | .ask _ => none

/-- How many ticks a step is. -/
def Move.ticks : Move → Nat
  | .tick => 1
  | _ => 0

/-- One step; nothing happens to a question that is not at that point. -/
def step (s : Inquiries) : Move → Disk Inquiries
  | .tick =>
    let (meter, due) := s.monitor.meter.tick
    return { monitor := { s.monitor with meter }, made := if due then s.made ++ [.waiting] else s.made }
  | .answer k a =>
    match s.made[k]? with
    | some .waiting => return { s with made := s.made.set k (.ofAnswer a) }
    | _ => return s
  | .copy k =>
    match s.made[k]? with
    | some (.answered p) => do
      let _ ← Disk.attempt (s.monitor.store.save policyName p.toJson)
      return { s with made := s.made.set k (.copied p) }
    | _ => return s
  | .adopt k =>
    match s.made[k]? with
    | some (.copied p) => return { monitor := s.monitor.setPolicy p, made := s.made.set k (.adopted p) }
    | _ => return s
  | .ask r => do
    let asked ← s.monitor.ask r
    return { s with monitor := asked.2 }

/-- A step, and what others do on the disk before. -/
structure Turn where
  before : FileTree → FileTree
  move : Move

/-- Steps, one after the other. -/
def run (s : Inquiries) : List Turn → Disk Inquiries
  | [] => return s
  | turn :: rest => do
    modify turn.before
    let s' ← s.step turn.move
    s'.run rest

/-- How many ticks there are in a run. -/
def ticksIn (turns : List Turn) : Nat := (turns.map fun turn => turn.move.ticks).sum

/-- Whether there was a question on each 24th of `n` ticks. -/
structure Counts (n : Nat) (s : Inquiries) : Prop where
  made : s.made.length = n / 24
  ticks : s.monitor.meter.ticks = n % 24

/-- What is expected of a step after `n` ticks. -/
structure Proper (n : Nat) (s : Inquiries) (move : Move) (t : FileTree) (s' : Inquiries) (t' : FileTree) : Prop where
  /-- The remote API is asked on a tick if 24 divides its number, and at no other time. -/
  asks : s'.made.length = s.made.length + if 24 ∣ n + 1 then move.ticks else 0
  /-- Ticks are counted up to 24, and then from zero again. -/
  ticks : s'.monitor.meter.ticks = (n + move.ticks) % 24
  /-- Nothing but a request changes the count, or whether a cycle is waited for. -/
  counts : (∀ r, move ≠ .ask r) → s'.monitor.meter.sent = s.monitor.meter.sent ∧
    s'.monitor.meter.awaitingReset = s.monitor.meter.awaitingReset
  /-- A question waits for what is to happen to it. -/
  waits : ∀ k i, s.made[k]? = some i → move.inquiry? ≠ some k → s'.made[k]? = some i
  /-- An answer, be it a policy or a failure, leaves the monitor and the files as they were. -/
  answers : ∀ k a, s.made[k]? = some .waiting → move = .answer k a →
    s'.made[k]? = some (.ofAnswer a) ∧ s'.monitor = s.monitor ∧ t' = t
  /-- Nothing comes of a failure afterwards. -/
  ends : ∀ k f, s.made[k]? = some (.failed f) → move.inquiry? = some k → s' = s ∧ t' = t
  /-- A policy that is handed out is on its way whether or not it can be copied. -/
  copies : ∀ k p, s.made[k]? = some (.answered p) → move = .copy k →
    s'.made[k]? = some (.copied p) ∧ s'.monitor = s.monitor ∧
      s.monitor.store.content? policyName t' =
        if s.monitor.copies t p then some (written p.toJson) else s.monitor.store.content? policyName t
  /-- It takes the place of the whole policy in force, and of nothing else. -/
  adopts : ∀ k p, s.made[k]? = some (.copied p) → move = .adopt k →
    s'.made[k]? = some (.adopted p) ∧
      s'.monitor = { s.monitor with meter := { s.monitor.meter with policy := p } } ∧ t' = t
  /-- So does one that a request sets. -/
  sets : ∀ p, move = .ask (.setPolicy p) →
    s'.made = s.made ∧ s'.monitor = { s.monitor with meter := { s.monitor.meter with policy := p } } ∧ t' = t
  /-- Nothing else changes the policy in force, but for a request to do so. -/
  policy : (∀ k, move ≠ .adopt k) → (∀ p, move ≠ .ask (.setPolicy p)) →
    s'.monitor.meter.policy = s.monitor.meter.policy
  /-- Nothing else changes the copy. -/
  file : (∀ k, move ≠ .copy k) → s.monitor.store.content? policyName t' = s.monitor.store.content? policyName t

variable {n : Nat} {s : Inquiries} {t : FileTree}

/-! ## One step -/

/-- A tick raises a question if 24 divides its number. -/
theorem tick_of_counts (counts : Counts n s) :
    s.monitor.meter.tick = ({ s.monitor.meter with ticks := (n + 1) % 24 }, decide (24 ∣ n + 1)) := by
  unfold Meter.tick
  rw [counts.ticks]
  by_cases due : 24 ∣ n + 1
  · have reached : Meter.ticksPerFetch ≤ n % 24 + 1 := by
      simp only [Meter.ticksPerFetch]
      omega
    rw [if_pos reached, decide_eq_true due, Nat.mod_eq_zero_of_dvd due]
  · have early : ¬ Meter.ticksPerFetch ≤ n % 24 + 1 := by
      simp only [Meter.ticksPerFetch]
      omega
    rw [if_neg early, decide_eq_false due]
    congr 2
    omega

theorem step_tick (counts : Counts n s) :
    s.step .tick = return {
      monitor := { s.monitor with meter := { s.monitor.meter with ticks := (n + 1) % 24 } }
      made := if 24 ∣ n + 1 then s.made ++ [.waiting] else s.made } := by
  simp only [step, tick_of_counts counts, decide_eq_true_eq]

/-- Whether a question is ready for what is to happen to it. -/
def Ready (s : Inquiries) : Move → Prop
  | .answer k _ => s.made[k]? = some .waiting
  | .copy k => ∃ p, s.made[k]? = some (.answered p)
  | .adopt k => ∃ p, s.made[k]? = some (.copied p)
  | .tick | .ask _ => True

/-- A question that something is to happen to has not failed. -/
theorem inquiry_of_ready {move : Move} {k : Nat} (ready : s.Ready move) (about : move.inquiry? = some k) :
    ∃ i, s.made[k]? = some i ∧ ∀ f, i ≠ .failed f := by
  cases move with
  | tick | ask r => cases about
  | answer k a =>
    cases about
    exact ⟨_, ready, nofun⟩
  | copy k | adopt k =>
    cases about
    obtain ⟨p, ready⟩ := ready
    exact ⟨_, ready, nofun⟩

theorem step_of_not_ready {move : Move} (early : ¬ s.Ready move) : s.step move = return s := by
  cases move with
  | tick | ask r => exact absurd trivial early
  | answer k a =>
    simp only [step]
    split
    · next waiting => exact absurd waiting early
    · rfl
  | copy k =>
    simp only [step]
    split
    · next answered => exact absurd ⟨_, answered⟩ early
    · rfl
  | adopt k =>
    simp only [step]
    split
    · next copied => exact absurd ⟨_, copied⟩ early
    · rfl

theorem proper_of_not_ready (counts : Counts n s) {move : Move} (early : ¬ s.Ready move) : Proper n s move t s t := by
  have none : move.ticks = 0 := by
    cases move with
    | tick => exact absurd trivial early
    | _ => rfl
  exact {
    asks := by rw [none, ite_self, Nat.add_zero]
    ticks := by rw [none, Nat.add_zero, counts.ticks]
    counts := fun _ => ⟨rfl, rfl⟩
    waits := fun _ _ there _ => there
    answers := fun _ _ waiting same => absurd (same ▸ waiting) early
    ends := fun _ _ _ _ => ⟨rfl, rfl⟩
    copies := fun _ p answered same => absurd (same ▸ ⟨p, answered⟩) early
    adopts := fun _ p copied same => absurd (same ▸ ⟨p, copied⟩) early
    sets := fun _ same => absurd (same ▸ trivial) early
    policy := fun _ _ => rfl
    file := fun _ => rfl }

theorem tick_proper (counts : Counts n s) :
    ∃ s', s.step .tick t = .ok s' t ∧ Proper n s .tick t s' t := by
  rw [step_tick counts]
  refine ⟨_, rfl, {
    asks := ?_, ticks := rfl, waits := fun k i there _ => ?_
    counts := fun _ => ⟨rfl, rfl⟩, policy := fun _ _ => rfl, file := fun _ => rfl
    answers := nofun, ends := nofun, copies := nofun, adopts := nofun, sets := nofun }⟩
  · by_cases due : 24 ∣ n + 1
    · simp only [if_pos due, Move.ticks, List.length_append, List.length_singleton]
    · simp only [if_neg due, Nat.add_zero]
  · by_cases due : 24 ∣ n + 1
    · simp only [if_pos due]
      rw [List.getElem?_append_left (List.getElem?_eq_some_iff.mp there).1, there]
    · simp only [if_neg due, there]

/-- While something happens to one question, the others wait. -/
theorem getElem?_set_made {move : Move} {k k' : Nat} {i j : Inquiry} (about : move.inquiry? = some k)
    (there : s.made[k']? = some i) (other : move.inquiry? ≠ some k') : (s.made.set k j)[k']? = some i := by
  rw [List.getElem?_set_ne (fun same : k = k' => other (same ▸ about)), there]

section

variable {k : Nat} {p : Policy} (a : Except Failure Policy)

theorem step_answer (due : s.made[k]? = some .waiting) :
    s.step (.answer k a) = return { s with made := s.made.set k (.ofAnswer a) } := by
  simp only [step, due]

theorem step_copy (due : s.made[k]? = some (.answered p)) :
    s.step (.copy k) = do
      let _ ← Disk.attempt (s.monitor.store.save policyName p.toJson)
      return { s with made := s.made.set k (.copied p) } := by
  simp only [step, due]

theorem step_adopt (due : s.made[k]? = some (.copied p)) :
    s.step (.adopt k) = return { monitor := s.monitor.setPolicy p, made := s.made.set k (.adopted p) } := by
  simp only [step, due]

theorem answer_proper (counts : Counts n s) (due : s.made[k]? = some .waiting) :
    ∃ s', s.step (.answer k a) t = .ok s' t ∧ Proper n s (.answer k a) t s' t := by
  have inside := (List.getElem?_eq_some_iff.mp due).1
  rw [step_answer a due]
  exact ⟨_, rfl, {
    asks := by simp only [List.length_set, Move.ticks, ite_self, Nat.add_zero]
    ticks := counts.ticks
    waits := fun _ _ there other => getElem?_set_made rfl there other
    answers := fun _ _ _ same => by
      cases same
      exact ⟨List.getElem?_set_self inside, rfl, rfl⟩
    ends := fun _ _ failed about => by
      cases about
      cases due.symm.trans failed
    counts := fun _ => ⟨rfl, rfl⟩, policy := fun _ _ => rfl, file := fun _ => rfl
    copies := nofun, adopts := nofun, sets := nofun }⟩

theorem copy_proper (counts : Counts n s) (due : s.made[k]? = some (.answered p)) :
    ∃ s' t', s.step (.copy k) t = .ok s' t' ∧ Proper n s (.copy k) t s' t' := by
  have inside := (List.getElem?_eq_some_iff.mp due).1
  obtain ⟨r, t', saved, -, content⟩ := s.monitor.attempt_copy t p
  rw [step_copy due, Disk.bind_run saved]
  exact ⟨_, _, rfl, {
    asks := by simp only [List.length_set, Move.ticks, ite_self, Nat.add_zero]
    ticks := counts.ticks
    waits := fun _ _ there other => getElem?_set_made rfl there other
    copies := fun _ _ answered same => by
      cases same
      cases due.symm.trans answered
      exact ⟨List.getElem?_set_self inside, rfl, content⟩
    ends := fun _ _ failed about => by
      cases about
      cases due.symm.trans failed
    counts := fun _ => ⟨rfl, rfl⟩, policy := fun _ _ => rfl
    file := fun other => absurd rfl (other k)
    answers := nofun, adopts := nofun, sets := nofun }⟩

theorem adopt_proper (counts : Counts n s) (due : s.made[k]? = some (.copied p)) :
    ∃ s', s.step (.adopt k) t = .ok s' t ∧ Proper n s (.adopt k) t s' t := by
  have inside := (List.getElem?_eq_some_iff.mp due).1
  rw [step_adopt due]
  exact ⟨_, rfl, {
    asks := by simp only [List.length_set, Move.ticks, ite_self, Nat.add_zero]
    ticks := counts.ticks
    waits := fun _ _ there other => getElem?_set_made rfl there other
    adopts := fun _ _ copied same => by
      cases same
      cases due.symm.trans copied
      exact ⟨List.getElem?_set_self inside, rfl, rfl⟩
    ends := fun _ _ failed about => by
      cases about
      cases due.symm.trans failed
    counts := fun _ => ⟨rfl, rfl⟩
    policy := fun other => absurd rfl (other k)
    file := fun _ => rfl
    answers := nofun, copies := nofun, sets := nofun }⟩

end

theorem ask_proper (counts : Counts n s) (r : Request) :
    ∃ s' t', s.step (.ask r) t = .ok s' t' ∧ Proper n s (.ask r) t s' t' := by
  obtain ⟨t', asked, confined, -⟩ := ask_run s.monitor r t
  refine ⟨_, t', Disk.bind_run asked, {
    asks := by simp only [Move.ticks, ite_self, Nat.add_zero]
    ticks := (Meter.ticks_serve _ r).trans counts.ticks
    waits := fun _ _ there _ => there
    counts := fun other => absurd rfl (other r)
    policy := fun _ other => ?_
    file := fun _ => content?_of_confined plain_policyName.1 confined (by decide)
    sets := ?_
    answers := nofun, ends := nofun, copies := nofun, adopts := nofun }⟩
  · rintro p ⟨⟩
    cases asked
    exact ⟨rfl, rfl, rfl⟩
  · obtain ⟨sent, awaitingReset, served⟩ := s.monitor.meter.serve_of_other fun p same => other p (same ▸ rfl)
    simp only [served]

/-- Every step is what is expected of it, on every tree. -/
theorem step_run (counts : Counts n s) (move : Move) (t : FileTree) :
    ∃ s' t', s.step move t = .ok s' t' ∧ Proper n s move t s' t' := by
  by_cases ready : s.Ready move
  · cases move with
    | tick =>
      obtain ⟨s', run, proper⟩ := tick_proper counts (t := t)
      exact ⟨s', t, run, proper⟩
    | answer k a =>
      obtain ⟨s', run, proper⟩ := answer_proper a counts ready (t := t)
      exact ⟨s', t, run, proper⟩
    | copy k =>
      obtain ⟨p, due⟩ := ready
      exact copy_proper counts due
    | adopt k =>
      obtain ⟨p, due⟩ := ready
      obtain ⟨s', run, proper⟩ := adopt_proper counts due (t := t)
      exact ⟨s', t, run, proper⟩
    | ask r => exact ask_proper counts r
  · rw [step_of_not_ready ready]
    exact ⟨s, t, rfl, proper_of_not_ready counts ready⟩

theorem Proper.toCounts {move : Move} {s' : Inquiries} {t' : FileTree} (counts : Counts n s)
    (proper : Proper n s move t s' t') : Counts (n + move.ticks) s' where
  made := by
    rw [proper.asks, counts.made]
    cases move with
    | tick => exact Nat.succ_div.symm
    | _ => simp only [Move.ticks, ite_self, Nat.add_zero]
  ticks := proper.ticks

/-! ## One after the other -/

theorem run_cons {turn : Turn} {s' : Inquiries} {t' : FileTree} (first : s.step turn.move (turn.before t) = .ok s' t')
    (rest : List Turn) : s.run (turn :: rest) t = s'.run rest t' := by
  have changed : (modify turn.before : Disk Unit) t = .ok () (turn.before t) := rfl
  rw [run, Disk.bind_run changed, Disk.bind_run first]

/-- The ticks are counted right, by induction on the steps. -/
theorem run_counts (counts : Counts n s) (turns : List Turn) (t : FileTree) :
    ∃ s' t', s.run turns t = .ok s' t' ∧ Counts (n + ticksIn turns) s' := by
  induction turns generalizing n s t with
  | nil => exact ⟨s, t, rfl, counts⟩
  | cons turn turns ih =>
    obtain ⟨s₁, t₁, first, proper⟩ := step_run counts turn.move (turn.before t)
    obtain ⟨s', t', others, counted⟩ := ih (proper.toCounts counts) t₁
    refine ⟨s', t', (run_cons first turns).trans others, ?_⟩
    rwa [ticksIn, List.map_cons, List.sum_cons, ← ticksIn, ← Nat.add_assoc]

theorem run_of_not_ready {turn : Turn} (rest : List Turn) (early : ¬ s.Ready turn.move)
    (undisturbed : turn.before t = t) : s.run (turn :: rest) t = s.run rest t := by
  refine run_cons ?_ rest
  rw [step_of_not_ready early, undisturbed]
  rfl

/-- A step with nothing before it. -/
def Move.alone (move : Move) : Turn := ⟨id, move⟩

/-- The steps of a tick, with nothing in between. -/
def whole (s : Inquiries) (answer : Except Failure Policy) : List Turn :=
  [.tick, .answer s.made.length answer, .copy s.made.length, .adopt s.made.length].map Move.alone

/-- What becomes of a monitor and of the tree it finds once a question of its has its answer: a policy that is
handed out takes the place of the whole policy in force, whether or not it can be copied, and a failure
changes nothing. -/
structure Answered (m : Monitor) (answer : Except Failure Policy) (t : FileTree) (m' : Monitor) (t' : FileTree) :
    Prop where
  /-- A policy comes into force, and all else in the monitor stays. -/
  policy : ∀ p, answer = .ok p → m' = { m with meter := { m.meter with policy := p } }
  /-- Its copy takes the place of the one there was, if the system lets it. -/
  copy : ∀ p, answer = .ok p → m.store.content? policyName t' =
    if m.copies t p then some (written p.toJson) else m.store.content? policyName t
  failure : ∀ f, answer = .error f → m' = m ∧ t' = t

/-- What happens to a question that has its answer is what a refresh does. -/
theorem run_answered {k : Nat} {answer : Except Failure Policy} (there : s.made[k]? = some (.ofAnswer answer))
    (t : FileTree) :
    ∃ s' t', s.run ([.copy k, .adopt k].map Move.alone) t = .ok s' t' ∧
      s.monitor.refresh answer t = .ok ((fun _ => s'.monitor) <$> answer) t' ∧
      Answered s.monitor answer t s'.monitor t' := by
  cases answer with
  | error f =>
    have early {move : Move} (about : move.inquiry? = some k) : ¬ s.Ready move := by
      intro ready
      obtain ⟨i, going, unfailed⟩ := inquiry_of_ready ready about
      exact unfailed f (Option.some.inj (going.symm.trans there))
    refine ⟨s, t, ?_, rfl, nofun, nofun, fun _ _ => ⟨rfl, rfl⟩⟩
    rw [List.map_cons, run_of_not_ready _ (early rfl) rfl, List.map_cons, run_of_not_ready _ (early rfl) rfl]
    rfl
  | ok p =>
    obtain ⟨r, t', attempted, -, content⟩ := s.monitor.attempt_copy t p
    let s₁ : Inquiries := { s with made := s.made.set k (.copied p) }
    have copied : s.step (.copy k) t = .ok s₁ t' := by
      rw [step_copy there, Disk.bind_run attempted]
      rfl
    have ready : s₁.made[k]? = some (.copied p) :=
      List.getElem?_set_self (List.getElem?_eq_some_iff.mp there).1
    have answered : Answered s.monitor (.ok p) t (s.monitor.setPolicy p) t' := {
      policy := by
        rintro _ ⟨⟩
        rfl
      copy := by
        rintro _ ⟨⟩
        exact content
      failure := nofun }
    refine ⟨⟨s.monitor.setPolicy p, s₁.made.set k (.adopted p)⟩, t', ?_, Disk.bind_run attempted, answered⟩
    rw [List.map_cons, run_cons copied, List.map_cons, run_cons (congrFun (step_adopt ready) t')]
    rfl

/-- A tick with nothing in between comes to the same as its steps, one after the other. If the remote API is not
asked, it is nothing but a tick. -/
theorem run_whole (counts : Counts n s) (answer : Except Failure Policy) (t : FileTree) :
    let ticked : Monitor := { s.monitor with meter := { s.monitor.meter with ticks := (n + 1) % 24 } }
    ∃ s' t', s.run (s.whole answer) t = .ok s' t' ∧
      s.monitor.tick answer t = .ok (decide (24 ∣ n + 1), s'.monitor) t' ∧
      (24 ∣ n + 1 → Answered ticked answer t s'.monitor t') ∧
      (¬ 24 ∣ n + 1 → s'.monitor = ticked ∧ t' = t) := by
  intro m
  have ticked := step_tick counts
  have meter := tick_of_counts counts
  let k := s.made.length
  -- A question that is raised is the last one made, and the steps behind the tick are about it; if none is
  -- raised, they are about one that does not exist.
  by_cases due : 24 ∣ n + 1
  · rw [if_pos due] at ticked
    have asks : s.monitor.meter.tick.2 = true := by
      rw [meter]
      exact decide_eq_true due
    let s₁ : Inquiries := ⟨m, s.made ++ [.waiting]⟩
    have first : s.step .tick t = .ok s₁ t := congrFun ticked t
    have waiting : s₁.made[k]? = some .waiting := List.getElem?_concat_length ..
    let s₂ : Inquiries := { s₁ with made := s₁.made.set k (.ofAnswer answer) }
    have second : s₁.step (.answer k answer) t = .ok s₂ t := congrFun (step_answer answer waiting) t
    have there : s₂.made[k]? = some (.ofAnswer answer) :=
      List.getElem?_set_self (List.getElem?_eq_some_iff.mp waiting).1
    obtain ⟨s', t', run, refreshed, answered⟩ := run_answered there t
    refine ⟨s', t', ?_, ?_, fun _ => answered, fun idle => absurd due idle⟩
    · rw [whole, List.map_cons, run_cons first, List.map_cons, run_cons second]
      exact run
    · rw [tick_of_due asks, meter, Disk.bind_run refreshed, decide_eq_true due]
      cases answer with
      | ok p => rfl
      | error f =>
        rw [(answered.failure f rfl).1]
        rfl
  · rw [if_neg due] at ticked
    have idle : s.monitor.meter.tick.2 = false := by
      rw [meter]
      exact decide_eq_false due
    let s₁ : Inquiries := ⟨m, s.made⟩
    have first : s.step .tick t = .ok s₁ t := congrFun ticked t
    have missing : s₁.made[k]? = none := List.getElem?_eq_none (Nat.le_refl _)
    have early {move : Move} (about : move.inquiry? = some k) : ¬ s₁.Ready move := by
      intro ready
      obtain ⟨i, there, -⟩ := inquiry_of_ready ready about
      cases missing.symm.trans there
    refine ⟨s₁, t, ?_, ?_, fun asked => absurd asked due, fun _ => ⟨rfl, rfl⟩⟩
    · rw [whole, List.map_cons, run_cons first, List.map_cons,
        run_of_not_ready _ (early rfl) rfl, List.map_cons, run_of_not_ready _ (early rfl) rfl, List.map_cons,
        run_of_not_ready _ (early rfl) rfl]
      rfl
    · rw [tick_of_idle idle, meter, decide_eq_false due]
      rfl

/-- From a monitor that begins anew on, whatever happens in which order, and whatever others do on the disk:
the remote API is asked once for every 24 ticks, on the tick that completes them, and the ticks counted since
stay below 24. Whatever comes next, on whatever tree, is as expected (`Proper`): an answer changes nothing yet;
nothing comes of a failure; a policy that is handed out takes the place of the whole policy in force, and of
nothing else, whether or not it can be copied; and only requests change the count, or whether a cycle is waited
for. A tick that is carried out in one go comes to its steps (`Answered`). -/
theorem refresh_cadence (store : Store) (turns : List Turn) (t : FileTree) :
    ∃ m s t', ofStore store t = .ok m t ∧ run ⟨m, []⟩ turns t = .ok s t' ∧
      s.made.length = ticksIn turns / 24 ∧ s.monitor.meter.ticks < 24 ∧
      (∀ move t₁, ∃ s₁ t₂, s.step move t₁ = .ok s₁ t₂ ∧ Proper (ticksIn turns) s move t₁ s₁ t₂) ∧
      ∀ answer t₁,
        let ticked : Monitor :=
          { s.monitor with meter := { s.monitor.meter with ticks := (ticksIn turns + 1) % 24 } }
        ∃ s₁ t₂, s.run (s.whole answer) t₁ = .ok s₁ t₂ ∧
          s.monitor.tick answer t₁ = .ok (decide (24 ∣ ticksIn turns + 1), s₁.monitor) t₂ ∧
          (24 ∣ ticksIn turns + 1 → Answered ticked answer t₁ s₁.monitor t₂) ∧
          (¬ 24 ∣ ticksIn turns + 1 → s₁.monitor = ticked ∧ t₂ = t₁) := by
  obtain ⟨sent, begun⟩ := ofStore_run store t
  have fresh : Counts 0 ⟨{ store, meter := { sent } }, []⟩ := ⟨rfl, rfl⟩
  obtain ⟨s, t', run, counts⟩ := run_counts fresh turns t
  rw [Nat.zero_add] at counts
  have below : s.monitor.meter.ticks < 24 := by
    rw [counts.ticks]
    exact Nat.mod_lt _ (by decide)
  exact ⟨_, s, t', begun, run, counts.made, below, step_run counts, run_whole counts⟩

/-- On the 24th tick under a policy that was set, another one is handed out, which takes its place; the
question of the 48th fails, and that one stays in force. -/
theorem refresh_cadence_two_days :
    let old : Policy := { dataLimit := 1000, resetDay := 15, emissionPeriod := 60 }
    let new : Policy := { dataLimit := 2000, storageLimit := 7 }
    let day : List Turn := List.replicate 23 Move.tick.alone
    let first : List Turn := Move.alone (.ask (.setPolicy old)) :: day
    let second : List Turn := first ++ [.tick, .answer 0 (.ok new), .copy 0, .adopt 0].map Move.alone ++ day
    ∃ m s t s₁ t₁ s' t' s₂,
      ofStore ⟨"/state"⟩ {} = .ok m {} ∧
      run ⟨m, []⟩ first {} = .ok s t ∧ s.made.length = 0 ∧ s.monitor.meter = { policy := old, ticks := 23 } ∧
      s.monitor.tick (.ok new) t = .ok (true, s₁) t₁ ∧ s₁.meter = { policy := new } ∧
      run ⟨m, []⟩ second {} = .ok s' t' ∧ s'.made.length = 1 ∧
      s'.monitor.meter = { policy := new, ticks := 23 } ∧
      s'.monitor.tick (.error .schedulerClosed) t' = .ok (true, s₂) t' ∧ s₂.meter = { policy := new } := by
  intro old new day first second
  obtain ⟨m, s, t, begun, ran, made, -, -, whole⟩ := refresh_cadence ⟨"/state"⟩ first {}
  obtain ⟨m', s', t', begun', ran', made', -, -, whole'⟩ := refresh_cadence ⟨"/state"⟩ second {}
  cases begun.symm.trans begun'
  rw [show ticksIn first = 23 from by decide] at made whole
  rw [show ticksIn second = 47 from by decide] at made' whole'
  have meter {turns : List Turn} {s : Inquiries} {t : FileTree} (ran : run ⟨m, []⟩ turns {} = .ok s t) :
      ((ofStore ⟨"/state"⟩ >>= fun m => run ⟨m, []⟩ turns).answer? {}).map (·.monitor.meter) =
        some s.monitor.meter := by
    rw [Disk.answer?_ok ((Disk.bind_run begun).trans ran), Option.map_some]
  have under : s.monitor.meter = { policy := old, ticks := 23 } :=
    Option.some.inj ((meter ran).symm.trans (by decide +kernel))
  have under' : s'.monitor.meter = { policy := new, ticks := 23 } :=
    Option.some.inj ((meter ran').symm.trans (by decide +kernel))
  obtain ⟨s₁, t₁, -, ticked, answered, -⟩ := whole (.ok new) t
  obtain ⟨s₂, t₂, -, ticked', answered', -⟩ := whole' (.error .schedulerClosed) t'
  obtain ⟨same, rfl⟩ := (answered' (by decide)).failure _ rfl
  refine ⟨m, s, t, s₁.monitor, t₁, s', t₂, s₂.monitor, begun, ran, made, under, ticked, ?_, ran', made', under',
    ticked', ?_⟩
  · rw [(answered (by decide)).policy new rfl, under]
  · rw [same, under']

end Inquiries

end CrashReporter.Usage
