import CrashReporter.Proofs.Usage.Copy

/-!
# The policy from one session to the next

A session asks the remote API for a policy when it begins, and again now and then; the next session may have
to do without an answer. As long as policies can be copied, the copy is the policy that was handed out last, in
whichever session, and so is the policy in force.

* `Monitor.tickMoment_run`, `Monitor.beginMoment_run`: what one step of a session comes to;
* `Monitor.tickMoments_run`, `Session.moments_run`: what its steps come to, one after the other;
* `policy_continues`: what all sessions come to.
-/

namespace CrashReporter.Usage

open FileTree Store Monitor

/-- A session: the answer of the remote API that it begins with, and those that its ticks would get. -/
structure Session where
  first : Except Failure Policy
  ticks : List (Except Failure Policy)

/-- What is seen of a step of a session. -/
structure Moment where
  /-- Whether the session begins with it. -/
  begins : Bool
  /-- What the remote API answered, if it was asked. -/
  answer : Option (Except Failure Policy)
  /-- Whether the policy of the answer could be copied, if there was one. -/
  copied : Option Bool
  /-- Why the session has begun without a policy, if it has. -/
  failure : Option Failure
  /-- The monitor and the files before. -/
  old : Monitor
  found : FileTree
  /-- The monitor and the files afterwards. -/
  monitor : Monitor
  left : FileTree

/-- The policy that was handed out. -/
def Moment.handedOut? (s : Moment) : Option Policy := s.answer.bind (·.toOption)

namespace Monitor

/-- The beginning of a session. -/
def beginMoment (m : Monitor) (answer : Except Failure Policy) : Disk Moment := do
  let found ← get
  let outcome ← m.begin answer
  let left ← get
  return {
    begins := true
    answer := some answer
    copied := answer.toOption.map (m.copies found)
    failure := match outcome with
      | .error f => some f
      | .ok _ => none
    old := m
    found
    monitor := outcome.toOption.getD m
    left }

/-- A tick of a session, which has begun with a failure or without. -/
def tickMoment (m : Monitor) (failure : Option Failure) (answer : Except Failure Policy) : Disk Moment := do
  let found ← get
  let ticked ← m.tick answer
  let left ← get
  return {
    begins := false
    answer := if ticked.1 then some answer else none
    copied := if ticked.1 then answer.toOption.map (m.copies found) else none
    failure
    old := m
    found
    monitor := ticked.2
    left }

/-- The ticks of a session, one after the other. -/
def tickMoments (m : Monitor) (failure : Option Failure) : List (Except Failure Policy) → Disk (List Moment)
  | [] => return []
  | answer :: rest => do
    let s ← m.tickMoment failure answer
    return s :: (← s.monitor.tickMoments failure rest)

end Monitor

/-- A session with a new monitor of the store. -/
def Session.moments (store : Store) (session : Session) : Disk (List Moment) := do
  let m ← ofStore store
  let s ← m.beginMoment session.first
  return s :: (← s.monitor.tickMoments s.failure session.ticks)

/-- Sessions over a store, one after the other. -/
def history (store : Store) : List Session → Disk (List Moment)
  | [] => return []
  | session :: rest => do return (← session.moments store) ++ (← history store rest)

/-- The policy that was handed out last, or else the one that there was a copy of at first. -/
def latest (cached : Option Policy) (moments : List Moment) : Option Policy :=
  (moments.filterMap Moment.handedOut?).getLast?.or cached

/-- Whether every policy that was handed out could be copied. -/
def AllCopied (moments : List Moment) : Prop := ∀ s ∈ moments, s.copied ≠ some false

namespace Moment

/-- What is expected of a step, if `seen` is what was seen in this session and all others before. -/
structure Sound (store : Store) (cached : Option Policy) (seen : List Moment) (s : Moment) : Prop where
  /-- A session begins with a failure exactly if there is neither an answer nor a copy. -/
  fails : s.begins = true → ∀ f, s.failure = some f ↔
    ∃ e, s.answer = some (.error e) ∧ policyOf (store.content? policyName s.found) = none ∧ f = unavailable e
  /-- Then it leaves everything as it was. -/
  unchanged : s.begins = true → s.failure ≠ none → s.monitor = s.old ∧ s.left = s.found
  /-- If it does not, the policy in force is the one handed out last, or else the one copied at first. -/
  continues : s.failure = none → AllCopied seen →
    latest cached (seen ++ [s]) = some s.monitor.meter.policy

end Moment

/-! ## What was handed out last -/

/-- Whether the copy is the policy handed out last, or else the one copied at first, if every one was copied. -/
def Kept (store : Store) (cached : Option Policy) (seen : List Moment) (t : FileTree) : Prop :=
  AllCopied seen → policyOf (store.content? policyName t) = latest cached seen

theorem latest_concat (cached : Option Policy) (seen : List Moment) (s : Moment) :
    latest cached (seen ++ [s]) = s.handedOut?.or (latest cached seen) := by
  unfold latest
  rw [List.filterMap_append, List.filterMap_cons]
  cases s.handedOut? with
  | none => rw [List.filterMap_nil, List.append_nil, Option.none_or]
  | some p => rw [List.filterMap_nil, List.getLast?_concat, Option.some_or, Option.some_or]

/-! ## One step -/

/-- A later step in which nothing is handed out, if the policy in force is the one that it was. -/
theorem Moment.Sound.silent {store : Store} {cached : Option Policy} {seen : List Moment} {s : Moment}
    (later : s.begins = false) (silent : s.handedOut? = none)
    (kept : s.failure = none → AllCopied seen → latest cached seen = some s.monitor.meter.policy) :
    s.Sound store cached seen where
  fails begins := nomatch later.symm.trans begins
  unchanged begins := nomatch later.symm.trans begins
  continues begun all := by rw [latest_concat, silent, Option.none_or, kept begun all]

/-- What becomes of the copy when a policy may be handed out: if it is not copied, that is seen. -/
structure Copies (store : Store) (handedOut : Option Policy) (copied : Option Bool) (t t' : FileTree) : Prop where
  confined : Confined [draftName policyName, policyName] t t'
  stored : copied ≠ some false →
    policyOf (store.content? policyName t') = handedOut.or (policyOf (store.content? policyName t))
  works : Copyable store t → copied ≠ some false

theorem copies_none (store : Store) (t : FileTree) : Copies store none none t t :=
  ⟨.refl _ t, fun _ => Option.none_or.symm, fun _ => nofun⟩

namespace Monitor

variable (m : Monitor) (t : FileTree)

/-- A policy that is handed out is copied, or that is seen. -/
theorem refresh_copies (p : Policy) :
    ∃ t', m.refresh (.ok p) t = .ok (.ok (m.setPolicy p)) t' ∧
      Copies m.store (some p) (some (m.copies t p)) t t' := by
  obtain ⟨t', run, confined, content⟩ := m.refresh_run t p
  refine ⟨t', run, confined, fun wrote => ?_, fun copyable failed => ?_⟩
  · have wrote : m.copies t p = true := by simpa using wrote
    rw [content, if_pos wrote, policyOf_written, Option.some_or]
  · rw [copies_of_copyable copyable] at failed
    cases failed

/-- The first step of a session. -/
theorem beginMoment_run (answer : Except Failure Policy) :
    ∃ s t', m.beginMoment answer t = .ok s t' ∧ Copies m.store s.handedOut? s.copied t t' ∧
      s.monitor.store = m.store ∧
      ∀ cached seen, Kept m.store cached seen t → s.Sound m.store cached seen := by
  have look (t : FileTree) : (get : Disk FileTree) t = .ok t t := rfl
  unfold beginMoment
  rw [Disk.bind_run (look t)]
  cases answer with
  | ok p =>
    obtain ⟨t', run, copies⟩ := m.refresh_copies t p
    rw [Disk.bind_run (m.begin_ok t p run), Disk.bind_run (look t')]
    refine ⟨_, t', rfl, copies, rfl, fun cached seen _ => ⟨fun _ f => ?_, fun _ failed => absurd rfl failed, ?_⟩⟩
    · exact ⟨nofun, fun ⟨e, answered, _⟩ => nomatch answered⟩
    · exact fun _ _ => latest_concat ..
  | error f =>
    have begun := m.begin_error t f
    cases copy : policyOf (m.store.content? policyName t) with
    | some p =>
      rw [copy] at begun
      have begun : m.begin (.error f) t = .ok (.ok (m.setPolicy p)) t := begun
      rw [Disk.bind_run begun, Disk.bind_run (look t)]
      refine ⟨_, t, rfl, copies_none m.store t, rfl,
        fun cached seen kept => ⟨fun _ g => ?_, fun _ failed => absurd rfl failed, fun _ all => ?_⟩⟩
      · exact ⟨nofun, fun ⟨_, _, missing, _⟩ => nomatch copy.symm.trans missing⟩
      · exact (latest_concat ..).trans (Option.none_or.trans ((kept all).symm.trans copy))
    | none =>
      rw [copy] at begun
      have begun : m.begin (.error f) t = .ok (.error (unavailable f)) t := begun
      rw [Disk.bind_run begun, Disk.bind_run (look t)]
      refine ⟨_, t, rfl, copies_none m.store t, rfl,
        fun cached seen _ => ⟨fun _ g => ⟨fun same => ?_, fun h => ?_⟩, fun _ _ => ⟨rfl, rfl⟩, nofun⟩⟩
      · exact ⟨f, rfl, copy, (Option.some.inj same).symm⟩
      · obtain ⟨e, answered, -, same⟩ := h
        cases answered
        exact congrArg some same.symm

/-- Each other step. -/
theorem tickMoment_run (failure : Option Failure) (answer : Except Failure Policy) :
    ∃ s t', m.tickMoment failure answer t = .ok s t' ∧ Copies m.store s.handedOut? s.copied t t' ∧
      s.monitor.store = m.store ∧ s.failure = failure ∧
      ∀ cached seen, (failure = none → AllCopied seen → latest cached seen = some m.meter.policy) →
        s.Sound m.store cached seen := by
  have look (t : FileTree) : (get : Disk FileTree) t = .ok t t := rfl
  obtain ⟨ticks, ticked⟩ := m.meter.tick_fst
  let m' : Monitor := { m with meter := m.meter.tick.1 }
  have policy : m'.meter.policy = m.meter.policy := by simp only [m', ticked]
  unfold tickMoment
  rw [Disk.bind_run (look t)]
  cases due : m.meter.tick.2 with
  | false =>
    have idle : m.tick answer t = .ok (false, m') t := by
      rw [tick_of_idle due]
      rfl
    rw [Disk.bind_run idle, Disk.bind_run (look t)]
    exact ⟨_, t, rfl, copies_none m.store t, rfl, rfl, fun cached seen kept =>
      .silent rfl rfl fun begun all => (kept begun all).trans (congrArg some policy.symm)⟩
  | true =>
    rw [tick_of_due due]
    cases answer with
    | error f =>
      have asked : m'.refresh (.error f) t = .ok (.error f) t := rfl
      rw [bind_assoc, Disk.bind_run asked, pure_bind, Disk.bind_run (look t)]
      exact ⟨_, t, rfl, copies_none m.store t, rfl, rfl, fun cached seen kept =>
        .silent rfl rfl fun begun all => (kept begun all).trans (congrArg some policy.symm)⟩
    | ok p =>
      obtain ⟨t', run, copies⟩ := m'.refresh_copies t p
      rw [bind_assoc, Disk.bind_run run, pure_bind, Disk.bind_run (look t')]
      exact ⟨_, t', rfl, copies, rfl, rfl, fun cached seen _ => ⟨nofun, nofun, fun _ _ => latest_concat ..⟩⟩

end Monitor

/-! ## One after the other -/

/-- Steps that are what is expected of them, after `seen` was seen. -/
structure Continues (store : Store) (cached : Option Policy) (seen moments : List Moment) (t t' : FileTree) :
    Prop where
  sound : ∀ before s after, moments = before ++ s :: after → s.Sound store cached (seen ++ before)
  kept : Kept store cached (seen ++ moments) t'
  works : Copyable store t → Copyable store t' ∧ AllCopied moments

section

variable {store : Store} {cached : Option Policy} {seen : List Moment} {t t₁ t' : FileTree}

theorem Continues.none (kept : Kept store cached seen t) : Continues store cached seen [] t t where
  sound _ _ _ split := by simp at split
  kept := (List.append_nil seen).symm ▸ kept
  works copyable := ⟨copyable, fun _ => nofun⟩

theorem Continues.one {s : Moment} (kept : Kept store cached seen t)
    (copies : Copies store s.handedOut? s.copied t t') (sound : s.Sound store cached seen) :
    Continues store cached seen [s] t t' where
  sound before s' after split := by
    obtain ⟨rfl, rfl, -⟩ : before = [] ∧ s = s' ∧ after = [] := by
      cases before <;> simp_all
    rwa [List.append_nil]
  kept all := by
    rw [copies.stored (all s (List.mem_append_right _ List.mem_cons_self)), latest_concat,
      kept fun r hr => all r (List.mem_append_left _ hr)]
  works copyable := ⟨(copyable_of_confined copies.confined).mpr copyable, by
    simpa [AllCopied] using copies.works copyable⟩

theorem Continues.append {earlier later : List Moment} (first : Continues store cached seen earlier t t₁)
    (rest : Continues store cached (seen ++ earlier) later t₁ t') :
    Continues store cached seen (earlier ++ later) t t' where
  sound before s after split := by
    rcases List.append_eq_append_iff.mp split with ⟨before', rfl, behind⟩ | ⟨after', rfl, behind⟩
    · rw [← List.append_assoc]
      exact rest.sound before' s after behind
    · -- The step stands in the earlier part, unless nothing is left of that behind `before`.
      cases after' with
      | nil =>
        have begun := rest.sound [] s after behind.symm
        rwa [List.append_nil, List.append_nil] at begun
      | cons s' after' =>
        obtain ⟨rfl, -⟩ := List.cons.inj behind
        exact first.sound before s after' rfl
  kept := List.append_assoc .. ▸ rest.kept
  works copyable := by
    obtain ⟨copyable₁, all⟩ := first.works copyable
    obtain ⟨copyable', all'⟩ := rest.works copyable₁
    exact ⟨copyable', List.forall_mem_append.mpr ⟨all, all'⟩⟩

end

/-- The ticks of a session, by induction on them: the policy in force is the one handed out last. -/
theorem Monitor.tickMoments_run (m : Monitor) {failure : Option Failure} (answers : List (Except Failure Policy))
    {cached : Option Policy} {seen : List Moment} {t : FileTree} (kept : Kept m.store cached seen t)
    (inForce : failure = none → AllCopied seen → latest cached seen = some m.meter.policy) :
    ∃ moments t', m.tickMoments failure answers t = .ok moments t' ∧
      Continues m.store cached seen moments t t' := by
  induction answers generalizing m seen t with
  | nil => exact ⟨[], t, rfl, .none kept⟩
  | cons answer answers ih =>
    obtain ⟨s, t₁, ticked, copies, store, begun, sound⟩ := m.tickMoment_run t failure answer
    have sound := sound cached seen inForce
    have first := Continues.one kept copies sound
    obtain ⟨moments, t', others, rest⟩ := ih s.monitor (store ▸ first.kept) fun unfailed all =>
      sound.continues (begun.trans unfailed) fun r hr => all r (List.mem_append_left _ hr)
    refine ⟨s :: moments, t', ?_, first.append (store ▸ rest)⟩
    rw [tickMoments, Disk.bind_run ticked]
    exact Disk.bind_run others

theorem Session.moments_run (store : Store) (session : Session) {cached : Option Policy} {seen : List Moment}
    {t : FileTree} (kept : Kept store cached seen t) :
    ∃ moments t', session.moments store t = .ok moments t' ∧ Continues store cached seen moments t t' := by
  let m : Monitor := { store, meter := { sent := countOf (store.content? countName t) } }
  obtain ⟨s, t₁, begun, copies, same, sound⟩ := m.beginMoment_run t session.first
  have same : s.monitor.store = store := same
  have sound := sound cached seen kept
  have first := Continues.one kept copies sound
  obtain ⟨moments, t', others, rest⟩ := s.monitor.tickMoments_run session.ticks (same ▸ first.kept) fun unfailed all =>
    sound.continues unfailed fun r hr => all r (List.mem_append_left _ hr)
  refine ⟨s :: moments, t', ?_, first.append (same ▸ rest)⟩
  rw [Session.moments, Disk.bind_run (ofStore_eq store t), Disk.bind_run begun]
  exact Disk.bind_run others

theorem history_run (store : Store) (sessions : List Session) {cached : Option Policy} {seen : List Moment}
    {t : FileTree} (kept : Kept store cached seen t) :
    ∃ moments t', history store sessions t = .ok moments t' ∧ Continues store cached seen moments t t' := by
  induction sessions generalizing seen t with
  | nil => exact ⟨[], t, rfl, .none kept⟩
  | cons session sessions ih =>
    obtain ⟨earlier, t₁, run, first⟩ := session.moments_run store kept
    obtain ⟨later, t', others, rest⟩ := ih first.kept
    refine ⟨earlier ++ later, t', ?_, first.append rest⟩
    rw [history, Disk.bind_run run]
    exact Disk.bind_run others

/-- Whatever the remote API answers, and whatever the numbers and features of its policies are: a session begins
with a failure exactly if there is neither an answer nor a copy that can be read, and that changes nothing.
Otherwise the policy in force, from its beginning on, is the one handed out last in this session or any before,
or else the one that there was a copy of at first, as long as every policy could be copied; and every policy is
copied if no directory is in the way at first. -/
theorem policy_continues (store : Store) (sessions : List Session) (t : FileTree) :
    ∃ moments t', history store sessions t = .ok moments t' ∧
      (∀ before s after, moments = before ++ s :: after →
        s.Sound store (policyOf (store.content? policyName t)) before) ∧
      (Copyable store t → AllCopied moments) := by
  have begun : Kept store (policyOf (store.content? policyName t)) [] t := fun _ => rfl
  obtain ⟨moments, t', run, continues⟩ := history_run store sessions begun
  exact ⟨moments, t', run, continues.sound, fun copyable => (continues.works copyable).2⟩

/-- A session begins without a policy, one is handed out, and the last session has to do without an answer. -/
example :
    let store : Store := ⟨"/state"⟩
    let t := ({} : FileTree).put ["state"] .directory
    let p : Policy := {
      dataLimit := 18446744073709551615, resetDay := 40, features := .ofList [("a \"b\"", true), ("\t", false)] }
    let offline : Except Failure Policy := .error (.io "offline")
    Disk.answer? (do
      let moments ← history store [⟨offline, []⟩, ⟨.ok p, [offline]⟩, ⟨offline, []⟩]
      return moments.map fun s => (s.failure.isSome, s.monitor.meter.policy)) t =
      some [(true, {}), (false, p), (false, p), (false, p)] := by
  decide +kernel

end CrashReporter.Usage
