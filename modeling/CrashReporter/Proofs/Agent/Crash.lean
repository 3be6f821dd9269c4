import CrashReporter.Proofs.Agent.Accounts
import CrashReporter.Proofs.Usage.Stored

/-!
# What a crash leaves counted

Saving the count takes several steps: some of the document is written to a file beside it, perhaps not
all, and only a complete one takes the document's place. The process may die between any two of them, and
between any two steps of its deliveries, of which one at a time has the monitor (`Agent.Midway`,
`Agent.Midway.move`). Taken together, the steps of a save are the move of the agent that it belongs to
(`Agent.Midway.run_whole`).

While no cycle begins, the count on disk is at any moment what it was at first and the payloads whose
deliveries have come so far on disk that they count (`Agent.Midway.Sound`, kept by every step:
`Agent.Midway.Sound.move`). So it never misses a payload that was delivered, and holds none that was never
admitted (`Agent.Midway.count_after_crash`).
-/

namespace CrashReporter

open Usage (Monitor Meter)

namespace Delivery

/-- Whether a delivery needs the monitor for its next step. -/
def asks (d : Delivery) : Bool := d.stage == .admitted || d.stage == .failed

/-- What the next step of a delivery makes of the count, if it changes the count. -/
def change? (d : Delivery) (m : Meter) : Option Meter :=
  match d.stage with
  | .admitted => m.reserve? d.size
  | .failed => m.release? d.size
  | _ => none

variable {d : Delivery} {m meter : Meter}

theorem asks_of_change (h : d.change? m = some meter) : d.asks = true := by
  unfold change? at h
  unfold asks
  split at h
  · next here => rw [here]; rfl
  · next here => rw [here]; rfl
  · cases h

/-- The meter after a step. -/
theorem meter_afterStep (d : Delivery) (sink : Sink) (m : Meter) :
    (d.afterStep sink m).2.1 = (d.change? m).getD m := by
  unfold afterStep change?
  cases d.stage with
  | reserved =>
    simp only
    cases sink.transport.request d.payload <;> rfl
  | _ => rfl

/-- A step that changes the count saves it. -/
theorem step_of_change (sink : Sink) {monitor : Monitor} (h : d.change? monitor.meter = some meter) :
    d.step sink monitor = do
      let _ ← Disk.attempt (monitor.store.save Monitor.countName (Monitor.countJson meter.sent))
      return ((d.afterStep sink monitor.meter).1, { monitor with meter }, none) := by
  unfold change? at h
  unfold step afterStep
  cases here : d.stage with
  | admitted =>
    simp only [here] at h
    have admitted : monitor.meter.refuses d.size = false := by
      simpa [h] using monitor.meter.isSome_reserve d.size
    simp only [Monitor.reserve, h, Monitor.updateIf, Monitor.update, Monitor.persist, admitted, bind_assoc,
      pure_bind]
    rfl
  | failed =>
    simp only [here] at h
    simp only [Monitor.release, h, Monitor.updateIf, Monitor.update, Monitor.persist, bind_assoc, pure_bind]
  | _ => simp [here] at h

/-- A step that leaves the count as it is writes nothing. -/
theorem step_of_unchanged (sink : Sink) {monitor : Monitor} (h : d.change? monitor.meter = none) :
    d.step sink monitor =
      pure ((d.afterStep sink monitor.meter).1, monitor, (d.afterStep sink monitor.meter).2.2) := by
  unfold change? at h
  unfold step afterStep
  cases here : d.stage with
  | admitted =>
    simp only [here] at h
    have refused : monitor.meter.refuses d.size = true := by
      simpa [h] using monitor.meter.isSome_reserve d.size
    simp only [Monitor.reserve_of_refuses refused, refused, if_true]
    rfl
  | failed =>
    simp only [here] at h
    simp only [Monitor.release, h, Monitor.updateIf]
    rfl
  | reserved =>
    simp only
    cases sink.transport.request d.payload <;> rfl
  | queued => rfl
  | underway => rfl
  | ended fate => rfl

end Delivery

namespace Agent

open Delivery

/-- Whether a move needs the monitor. -/
def asks (a : Agent) : Agent.Move → Bool
  | .step i => a.deliveries[i]?.any Delivery.asks
  | .keepUp _ => true
  | _ => false

/-- The count that a move saves, if it saves it. -/
def saves? (a : Agent) : Agent.Move → Option UInt64
  | .step i => (a.deliveries[i]?.bind (·.change? a.monitor.meter)).map Meter.sent
  | .keepUp (.check today) => if a.monitor.meter.resetsOn today then some 0 else none
  | .keepUp .persist => some a.monitor.meter.sent
  | _ => none

variable {a : Agent} {m : Agent.Move} {sent : UInt64} {t : FileTree}

/-- The step of a delivery that saves the count changes it. -/
theorem change_of_saves {i : Nat} (h : a.saves? (.step i) = some sent) :
    ∃ d meter, a.deliveries[i]? = some d ∧ d.change? a.monitor.meter = some meter ∧
      (d.afterStep a.sink a.monitor.meter).2.1 = meter ∧ meter.sent = sent := by
  obtain ⟨meter, changes, same⟩ := Option.map_eq_some_iff.mp h
  obtain ⟨d, found, change⟩ := Option.bind_eq_some_iff.mp changes
  refine ⟨d, meter, found, change, ?_, same⟩
  rw [d.meter_afterStep, change, Option.getD_some]

/-- A sight of a day that saves the count begins a cycle. -/
theorem resets_of_saves {today : Date} (h : a.saves? (.keepUp (.check today)) = some sent) :
    a.monitor.meter.resetsOn today = true ∧ (a.monitor.meter.check today).sent = sent := by
  simp only [saves?] at h
  split at h
  · next resets =>
    rw [Meter.sent_check, if_pos resets]
    exact ⟨resets, Option.some.inj h⟩
  · cases h

/-- The count after a move that saves it is the one that is saved. -/
theorem sent_of_saves (h : a.saves? m = some sent) : (a.after m).monitor.meter.sent = sent := by
  cases m with
  | step i =>
    obtain ⟨d, meter, found, -, changed, same⟩ := change_of_saves h
    rw [after, afterStep, found]
    exact (congrArg Meter.sent changed).trans same
  | keepUp u =>
    cases u with
    | check today => exact (resets_of_saves h).2
    | persist => exact Option.some.inj h
    | _ => cases h
  | _ => cases h

/-- A move that saves the count does nothing else on disk. -/
theorem move_of_saves (h : a.saves? m = some sent) : a.move m = do
    let _ ← Disk.attempt (a.monitor.store.save Monitor.countName (Monitor.countJson sent))
    return a.after m := by
  cases m with
  | step i =>
    obtain ⟨d, meter, found, change, changed, rfl⟩ := change_of_saves h
    simp only [move, step, after, afterStep, found, step_of_change a.sink change, changed, bind_assoc,
      pure_bind]
  | keepUp u =>
    cases u with
    | check today =>
      obtain ⟨resets, checked⟩ := resets_of_saves h
      simp only [move, keepUp, Monitor.keepUp, Monitor.check, resets, if_true, Monitor.update,
        Monitor.persist, checked, bind_assoc, pure_bind]
      rfl
    | persist =>
      cases h
      simp only [move, keepUp, Monitor.keepUp, Monitor.persist, bind_assoc, pure_bind]
      rfl
    | _ => cases h
  | _ => cases h

/-- Two states of an agent between which the monitor has not changed, nor any delivery that needs it. -/
structure Stays (a a' : Agent) : Prop where
  monitor : a'.monitor = a.monitor
  deliveries : ∀ {i : Nat} {d : Delivery}, a.deliveries[i]? = some d → d.asks = true → a'.deliveries[i]? = some d

theorem Stays.refl (a : Agent) : a.Stays a := ⟨rfl, fun found _ => found⟩

theorem stays_setStage {i : Nat} {d : Delivery} (found : a.deliveries[i]? = some d) (calm : d.asks = false)
    (stage : Stage) : a.Stays (a.setStage i d stage) := by
  refine ⟨rfl, fun {j e} there asks => ?_⟩
  have apart : i ≠ j := by
    rintro rfl
    rw [found] at there
    cases there
    rw [calm] at asks
    cases asks
  exact (List.getElem?_set_ne apart).trans there

/-- A move that does not need the monitor. -/
theorem stays_after (calm : a.asks m = false) : a.Stays (a.after m) := by
  cases m with
  | dispatch e stack id readings =>
    simp only [after]
    cases dispatched : a.dispatch e stack id readings with
    | error f => exact .refl a
    | ok a' =>
      obtain ⟨scheduler, payload, -, -, rfl⟩ := dispatch_ok dispatched
      refine ⟨rfl, fun {i d} found _ => ?_⟩
      have inside := (List.getElem?_eq_some_iff.mp found).1
      exact (List.getElem?_append_left inside).trans found
  | step i =>
    simp only [after, afterStep]
    cases found : a.deliveries[i]? with
    | none => exact .refl a
    | some d =>
      rw [asks, found] at calm
      have same := d.meter_afterStep a.sink a.monitor.meter
      cases change : d.change? a.monitor.meter with
      | some meter =>
        rw [Option.any_some, asks_of_change change] at calm
        cases calm
      | none =>
        rw [change, Option.getD_none] at same
        simp only [same]
        exact stays_setStage found calm _
  | answer i o =>
    simp only [after, answer]
    cases found : a.deliveries[i]? with
    | none => exact .refl a
    | some d =>
      simp only
      split
      · next underway => exact stays_setStage found (by rw [Delivery.asks, underway]; rfl) _
      · exact .refl a
  | keepUp u => cases calm
  | close =>
    simp only [after, close?]
    cases a.scheduler.close? with
    | none => exact .refl a
    | some scheduler => exact ⟨rfl, fun found _ => found⟩
  | closeSink => exact ⟨rfl, fun found _ => found⟩

/-- A move that does not save the count leaves it as it is, and all files but those of the policy. -/
theorem run_of_unsaved (h : a.saves? m = none) (t : FileTree) : ∃ t', a.move m t = .ok (a.after m) t' ∧
    FileTree.Confined [Store.draftName Monitor.policyName, Monitor.policyName] t t' ∧
    (a.after m).monitor.meter.sent = a.monitor.meter.sent := by
  cases m with
  | step i =>
    cases found : a.deliveries[i]? with
    | none =>
      refine ⟨t, ?_, .refl _ t, ?_⟩
      · simp only [move, step, after, afterStep, found]
        rfl
      · simp only [after, afterStep, found]
    | some d =>
      simp only [saves?, found, Option.bind_some, Option.map_eq_none_iff] at h
      have same := d.meter_afterStep a.sink a.monitor.meter
      rw [h, Option.getD_none] at same
      refine ⟨t, ?_, .refl _ t, ?_⟩
      · simp only [move, step, after, afterStep, found, step_of_unchanged a.sink h, same, pure_bind]
        rfl
      · simp only [after, afterStep, found, same, setStage]
  | keepUp u =>
    -- What a policy is copied to lies beside the count.
    have leaves : (a.move (.keepUp u)).Leaves
        (FileTree.Confined [Store.draftName Monitor.policyName, Monitor.policyName]) := by
      refine Disk.Leaves.bind ?_ fun _ => (Disk.keeps_pure _).leaves
      cases u with
      | setPolicy p => exact (Disk.keeps_pure _).leaves
      | refresh answer => exact (a.monitor.leaves_refresh answer).bind fun _ => (Disk.keeps_pure _).leaves
      | tick answer => exact (a.monitor.leaves_tick answer).bind fun _ => (Disk.keeps_pure _).leaves
      | check today =>
        have stays : ¬ a.monitor.meter.resetsOn today = true := by
          intro resets
          simp [saves?, resets] at h
        rw [Monitor.keepUp, Monitor.check, if_neg stays]
        exact (Disk.keeps_pure _).leaves
      | persist => cases h
    obtain ⟨t', run⟩ := a.move_gives (.keepUp u) t
    refine ⟨t', run, leaves.of_run run, (a.monitor.meter.sent_keepUp u).trans (if_neg fun begins => ?_)⟩
    cases u with
    | check today =>
      have resets : a.monitor.meter.resetsOn today = true := begins
      simp [saves?, resets] at h
    | _ => cases begins
  | _ => exact ⟨t, rfl, .refl _ t, by rw [(stays_after rfl).monitor]⟩

/-! ## Steps of a save -/

/-- A save of the count that is under way. -/
structure Saving where
  /-- The move that it belongs to. -/
  cause : Agent.Move
  /-- The count that is saved. -/
  sent : UInt64
  /-- Whether the draft is complete. -/
  whole : Bool := false

/-- The document that is saved. -/
def Saving.document (v : Saving) : Bytes := Store.written (Monitor.countJson v.sent)

/-- An agent between two steps of its process, and the save that is under way. As long as it is, nobody
else sees the monitor: the agent is as it was before the move that the save belongs to. -/
structure Midway where
  agent : Agent
  saving : Option Saving := none

namespace Midway

/-- A step that the process takes. -/
inductive Move where
  /-- A move of the agent, or the first step of one that saves the count. One that needs the monitor
  waits while a save is under way. -/
  | act (m : Agent.Move)
  /-- The draft holds the first `n` bytes of the document. -/
  | write (n : Nat)
  /-- A complete draft takes the document's place. -/
  | commit

/-- The agent after a step. -/
def move (s : Midway) : Move → Disk Midway
  | .act m =>
    if s.saving.isSome && s.agent.asks m then return s
    else match s.agent.saves? m with
      | some sent => return { s with saving := some { cause := m, sent } }
      | none => do return { s with agent := ← s.agent.move m }
  | .write n =>
    match s.saving with
    | none => return s
    | some v => do
      s.agent.monitor.store.overwrite (Store.draftName Monitor.countName) (v.document.take n)
      return { s with saving := some { v with whole := decide (v.document.length ≤ n) } }
  | .commit =>
    match s.saving with
    | none => return s
    | some v =>
      if v.whole then do
        s.agent.monitor.store.commitDraft Monitor.countName
        return { agent := s.agent.after v.cause }
      else return s

/-- The agent after steps, one after the other. -/
def run (s : Midway) (moves : List Move) : Disk Midway := moves.foldlM move s

/-- The agent after a step, if everything that is written can be. -/
def after (s : Midway) : Move → Midway
  | .act m =>
    if s.saving.isSome && s.agent.asks m then s
    else match s.agent.saves? m with
      | some sent => { s with saving := some { cause := m, sent } }
      | none => { s with agent := s.agent.after m }
  | .write n =>
    match s.saving with
    | none => s
    | some v => { s with saving := some { v with whole := decide (v.document.length ≤ n) } }
  | .commit =>
    match s.saving with
    | none => s
    | some v => if v.whole then { agent := s.agent.after v.cause } else s

/-- The bytes of a payload that asks to be counted can be added to the count. -/
def Fits (s : Midway) : Move → Prop
  | .act m => s.agent.Fits m
  | _ => True

instance (s : Midway) : (m : Move) → Decidable (s.Fits m)
  | .act m => inferInstanceAs (Decidable (s.agent.Fits m))
  | .write _ | .commit => inferInstanceAs (Decidable True)

/-- Whether a cycle begins with a step. -/
def begins (s : Midway) : Move → Bool
  | .act m => s.agent.begins m
  | _ => false

/-- The bytes of a payload that is being counted: the save of its count is under way. -/
def reserving (s : Midway) : Nat :=
  match s.saving with
  | some ⟨.step i, _, _⟩ => (s.agent.deliveries[i]?.map (·.bytes (· == .admitted))).getD 0
  | _ => 0

/-- The bytes of all payloads that were admitted and whose return is not on disk. -/
def admitted (s : Midway) : Nat := s.agent.tally Stage.counts + s.reserving

variable {s : Midway} {m : Move} {base : Nat} {store : Store} {t' : FileTree}

theorem act_of_saves {m : Agent.Move} {sent : UInt64} (h : a.saves? m = some sent) :
    (⟨a, none⟩ : Midway).move (.act m) = pure ⟨a, some { cause := m, sent }⟩ := by
  simp only [move, h, Option.isSome_none, Bool.false_and, Bool.false_eq_true, if_false]

/-- The steps of a save, taken together, are the move of the agent that it belongs to. -/
theorem run_whole {m : Agent.Move} {sent : UInt64} (h : a.saves? m = some sent)
    (writable : Monitor.Writable a.monitor.store t) {n : Nat}
    (whole : (Store.written (Monitor.countJson sent)).length ≤ n) :
    (⟨a, none⟩ : Midway).run [.act m, .write n, .commit] t =
      (do return ⟨← a.move m, none⟩ : Disk Midway) t := by
  -- The draft is the whole document, so the last step finds what a save would have written.
  have names := Monitor.plain_countName
  obtain ⟨-, t₁, wrote, confined, drafted⟩ | ⟨refused, -⟩ :=
    a.monitor.store.overwrite_run names.2 (Store.written (Monitor.countJson sent)) t
  · have taken : a.monitor.store.Takes Monitor.countName t₁ :=
      (Store.takes_of_confined names.1 confined).mpr writable.2
    obtain ⟨-, t₂, committed, -, -⟩ | ⟨refused, -⟩ :=
      a.monitor.store.commitDraft_run names.1 names.2 drafted
    · have saved : a.monitor.store.save Monitor.countName (Monitor.countJson sent) t = .ok () t₂ := by
        rw [Store.save, Store.writeDraft_eq, Disk.bind_run wrote, committed]
      have moved : a.move m t = .ok (a.after m) t₂ := by
        rw [move_of_saves h]
        exact Disk.bind_run (Disk.attempt_ok saved)
      rw [Disk.bind_run moved, run, List.foldlM_cons, act_of_saves h, pure_bind, List.foldlM_cons]
      simp only [move, Saving.document, List.take_of_length_le whole, whole, decide_true, bind_assoc,
        pure_bind, List.foldlM_cons, List.foldlM_nil, if_true]
      rw [Disk.bind_run wrote, Disk.bind_run committed]
    · exact absurd taken refused
  · exact absurd writable.1 refused

/-! ## What every step keeps -/

/-- A save is under way that its move asks for, and if the draft is complete, it is the document. -/
structure Due (v : Saving) (a : Agent) (t : FileTree) : Prop where
  saves : a.saves? v.cause = some v.sent
  fits : a.Fits v.cause
  quiet : a.begins v.cause = false
  drafted : v.whole = true →
    a.monitor.store.content? (Store.draftName Monitor.countName) t = some v.document

/-- The count is `base` and the payloads that are counted, and it is the one on disk. -/
structure Sound (base : Nat) (store : Store) (s : Midway) (t : FileTree) : Prop where
  store : s.agent.monitor.store = store
  balanced : s.agent.Balanced base
  counted : s.agent.monitor.Counted t
  due : ∀ v ∈ s.saving, Due v s.agent t

/-- A save goes on while others do what does not need the monitor. -/
theorem Due.stays {v : Saving} {a' : Agent} (h : Due v a t) (stays : a.Stays a')
    (draft : a.monitor.store.content? (Store.draftName Monitor.countName) t' =
      a.monitor.store.content? (Store.draftName Monitor.countName) t) : Due v a' t' := by
  obtain ⟨saves, fits, quiet, drafted⟩ := h
  have same := stays.monitor
  have drafted' : v.whole = true →
      a'.monitor.store.content? (Store.draftName Monitor.countName) t' = some v.document := by
    intro whole
    rw [same, draft, drafted whole]
  -- Only a delivery at its turn and the keeping up save the count, and neither looks at what has changed.
  cases cause : v.cause with
  | step i =>
    rw [cause] at saves fits quiet
    obtain ⟨d, meter, found, change, -, -⟩ := change_of_saves saves
    have found' := stays.deliveries found (asks_of_change change)
    refine ⟨?_, ?_, ?_, drafted'⟩
    · rw [cause, ← saves, saves?, saves?, found', same, found]
    · rw [cause]
      intro e he admitted
      rw [found', ← found] at he
      rw [Agent.sent, same]
      exact fits e he admitted
    · rw [cause]
      rfl
  | keepUp u =>
    rw [cause] at saves fits quiet
    refine ⟨?_, ?_, ?_, drafted'⟩
    · rw [cause, ← saves]
      cases u <;> simp only [saves?, same]
    · rw [cause]
      trivial
    · rw [cause, Agent.begins, same]
      exact quiet
  | _ =>
    rw [cause] at saves
    cases saves

/-- Whether the file of the count holds what it held, or a complete document. -/
def Renewed (store : Store) (t t' : FileTree) : Prop :=
  store.content? Monitor.countName t' = store.content? Monitor.countName t ∨
    ∃ sent, store.content? Monitor.countName t' = some (Store.written (Monitor.countJson sent))

theorem Renewed.trans {t'' : FileTree} (h : Renewed store t t') (h' : Renewed store t' t'') :
    Renewed store t t'' := by
  rcases h' with same | written
  · rw [Renewed, same]
    exact h
  · exact .inr written

/-- A move that does not save the count. -/
theorem Sound.unsaved {m : Agent.Move} (h : s.Sound base store t) (fits : s.agent.Fits m)
    (quiet : s.agent.begins m = false) (unsaved : s.agent.saves? m = none)
    (free : s.saving.isSome = true → s.agent.asks m = false) :
    ∃ t', s.agent.move m t = .ok (s.agent.after m) t' ∧
      Sound base store { s with agent := s.agent.after m } t' ∧ Renewed store t t' := by
  obtain ⟨t', run, confined, sent⟩ := run_of_unsaved unsaved t
  have names := Monitor.plain_countName
  have here := s.agent.store_after m
  have content : s.agent.monitor.store.content? Monitor.countName t' =
      s.agent.monitor.store.content? Monitor.countName t :=
    Store.content?_of_confined names.1 confined (by decide)
  have draft : s.agent.monitor.store.content? (Store.draftName Monitor.countName) t' =
      s.agent.monitor.store.content? (Store.draftName Monitor.countName) t :=
    Store.content?_of_confined names.2 confined (by decide)
  refine ⟨t', run, ⟨here.trans h.store, h.balanced.after fits quiet, ⟨?_, ?_⟩, ?_⟩, .inl ?_⟩
  · rw [here]
    exact (Monitor.writable_of_confined confined).mpr h.counted.writable
  · rw [here, content, sent, h.counted.stored]
  · intro v there
    exact (h.due v there).stays (stays_after (free (by rw [Option.mem_def.mp there]; rfl))) draft
  · rw [← h.store, content]

/-- Some of the document is written beside it. -/
theorem Sound.drafted {v : Saving} (h : s.Sound base store t) (saving : s.saving = some v) (n : Nat) :
    ∃ t', s.agent.monitor.store.overwrite (Store.draftName Monitor.countName) (v.document.take n) t =
        .ok () t' ∧
      Sound base store { s with saving := some { v with whole := decide (v.document.length ≤ n) } } t' ∧
      Renewed store t t' := by
  have names := Monitor.plain_countName
  obtain ⟨-, t', wrote, confined, drafted⟩ | ⟨refused, -⟩ :=
    s.agent.monitor.store.overwrite_run names.2 (v.document.take n) t
  · have content : s.agent.monitor.store.content? Monitor.countName t' =
        s.agent.monitor.store.content? Monitor.countName t :=
      Store.content?_of_confined names.1 confined (by decide)
    have due := h.due v saving
    refine ⟨t', wrote, ⟨h.store, h.balanced, ⟨?_, ?_⟩, ?_⟩, .inl ?_⟩
    · exact (Monitor.writable_of_confined confined).mpr h.counted.writable
    · rw [content, h.counted.stored]
    · rintro _ ⟨⟩
      refine ⟨due.saves, due.fits, due.quiet, fun whole => ?_⟩
      rw [drafted, List.take_of_length_le (of_decide_eq_true whole)]
      rfl
    · rw [← h.store, content]
  · exact absurd h.counted.writable.1 refused

/-- A complete draft takes the document's place. -/
theorem Sound.committed {v : Saving} (h : s.Sound base store t) (saving : s.saving = some v)
    (whole : v.whole = true) :
    ∃ t', s.agent.monitor.store.commitDraft Monitor.countName t = .ok () t' ∧
      Sound base store { agent := s.agent.after v.cause } t' ∧ Renewed store t t' := by
  have names := Monitor.plain_countName
  have due := h.due v saving
  obtain ⟨-, t', committed, confined, content⟩ | ⟨refused, -⟩ :=
    s.agent.monitor.store.commitDraft_run names.1 names.2 (due.drafted whole)
  · have here := s.agent.store_after v.cause
    refine ⟨t', committed, ⟨here.trans h.store, h.balanced.after due.fits due.quiet, ⟨?_, ?_⟩,
      fun w there => nomatch there⟩, .inr ⟨v.sent, ?_⟩⟩
    · rw [here]
      exact (Monitor.writable_of_confined confined).mpr h.counted.writable
    · rw [here, content, sent_of_saves due.saves]
      exact Monitor.countOf_written v.sent
    · rw [← h.store, content]
      rfl
  · exact absurd h.counted.writable.2 refused

/-- What every step keeps while no cycle begins. -/
theorem Sound.move (h : s.Sound base store t) (fits : s.Fits m) (quiet : s.begins m = false) :
    ∃ t', s.move m t = .ok (s.after m) t' ∧ (s.after m).Sound base store t' ∧ Renewed store t t' := by
  cases m with
  | act m =>
    simp only [Midway.move, after]
    cases waits : s.saving.isSome && s.agent.asks m with
    | true => exact ⟨t, rfl, h, .inl rfl⟩
    | false =>
      simp only [Bool.false_eq_true, if_false]
      cases saves : s.agent.saves? m with
      | some sent =>
        refine ⟨t, rfl, ⟨h.store, h.balanced, h.counted, ?_⟩, .inl rfl⟩
        rintro _ ⟨⟩
        exact ⟨saves, fits, quiet, fun whole => nomatch whole⟩
      | none =>
        -- While a save is under way, only moves come here that leave the monitor alone.
        have free : s.saving.isSome = true → s.agent.asks m = false := by
          intro under
          rwa [under, Bool.true_and] at waits
        obtain ⟨t', run, sound, renewed⟩ := h.unsaved fits quiet saves free
        exact ⟨t', Disk.bind_run run, sound, renewed⟩
  | write n =>
    simp only [Midway.move, after]
    cases saving : s.saving with
    | none => exact ⟨t, rfl, h, .inl rfl⟩
    | some v =>
      obtain ⟨t', wrote, sound, renewed⟩ := h.drafted saving n
      exact ⟨t', Disk.bind_run wrote, sound, renewed⟩
  | commit =>
    simp only [Midway.move, after]
    cases saving : s.saving with
    | none => exact ⟨t, rfl, h, .inl rfl⟩
    | some v =>
      simp only
      cases whole : v.whole with
      | false => exact ⟨t, rfl, h, .inl rfl⟩
      | true =>
        obtain ⟨t', committed, sound, renewed⟩ := h.committed saving whole
        exact ⟨t', Disk.bind_run committed, sound, renewed⟩

theorem Sound.run {moves : List Move} (h : s.Sound base store t) (fits : Along after Fits s moves)
    (quiet : Along after (fun s m => s.begins m = false) s moves) :
    ∃ t', s.run moves t = .ok (moves.foldl after s) t' ∧ (moves.foldl after s).Sound base store t' ∧
      Renewed store t t' := by
  induction moves generalizing s t with
  | nil => exact ⟨t, rfl, h, .inl rfl⟩
  | cons m moves ih =>
    obtain ⟨t₁, first, sound, renewed⟩ := h.move fits.1 quiet.1
    obtain ⟨t', rest, sound', renewed'⟩ := ih sound fits.2 quiet.2
    exact ⟨t', (Disk.bind_run first).trans rest, sound', renewed.trans renewed'⟩

/-! ## After a crash -/

/-- An agent begins with the count that it finds, and nothing is counted yet of what waits. -/
theorem sound_start (loaded : Monitor.ofStore store t = .ok a.monitor t)
    (waiting : ∀ d ∈ a.deliveries, d.stage = .queued) (writable : Monitor.Writable store t) :
    Sound a.sent store ⟨a, none⟩ t := by
  have here : a.monitor.store = store := Monitor.ofStore_store loaded
  refine ⟨here, ⟨?_, fun d hd => ?_⟩, Monitor.counted_ofStore (here ▸ writable) (here ▸ loaded),
    fun v there => nomatch there⟩
  · have none : a.tally Stage.counts = 0 := by
      refine List.sum_eq_zero fun n hn => ?_
      obtain ⟨d, hd, rfl⟩ := List.mem_map.mp hn
      simp [bytes, waiting d hd, Stage.counts]
    rw [none, Nat.add_zero]
  · intro counts
    rw [waiting d hd] at counts
    cases counts

/-- However far the process has come when it dies, the count that the next one loads is what it was at
first and the payloads whose deliveries have come so far on disk that they count: none that was delivered
is missing, and none counts that was not admitted. Its file holds what it held at first, or a complete
document. -/
theorem count_after_crash {a : Agent} {t : FileTree} (loaded : Monitor.ofStore store t = .ok a.monitor t)
    (waiting : ∀ d ∈ a.deliveries, d.stage = .queued) (writable : Monitor.Writable store t)
    (moves : List Move) (fits : Along after Fits ⟨a, none⟩ moves)
    (quiet : Along after (fun s m => s.begins m = false) ⟨a, none⟩ moves) :
    ∃ s t' m, (⟨a, none⟩ : Midway).run moves t = .ok s t' ∧ Monitor.ofStore store t' = .ok m t' ∧
      m.meter.sent.toNat = a.sent + s.agent.tally Stage.counts ∧
      a.sent + s.agent.tally delivered ≤ m.meter.sent.toNat ∧
      m.meter.sent.toNat ≤ a.sent + s.admitted ∧
      Renewed store t t' := by
  obtain ⟨t', run, sound, renewed⟩ := (sound_start loaded waiting writable).run fits quiet
  generalize moves.foldl after ⟨a, none⟩ = s at run sound
  have stored := sound.counted.stored
  rw [sound.store] at stored
  have sum : s.agent.monitor.meter.sent.toNat = a.sent + s.agent.tally Stage.counts :=
    sound.balanced.sent
  have least := s.agent.tally_delivered_le
  refine ⟨s, t', _, run, Monitor.ofStore_eq store t', ?_⟩
  simp only [stored]
  refine ⟨sum, by omega, ?_, renewed⟩
  rw [sum, admitted]
  omega

/-- The first payload is delivered. The transport fails with the second, and the process dies while the
return of its bytes is being saved: they stay counted, and those of the third do not. -/
theorem count_after_crash_returning :
    let store : Store := ⟨"/state"⟩
    let t := (({} : FileTree).put ["state"] .directory).put ["state", "usage.json"]
      (.file (Store.written (Monitor.countJson 7)))
    let a : Agent := { Agent.least with
      monitor := { store, meter := { sent := 7 } }
      deliveries := [{ payload := List.replicate 40 1, task := 0 },
        { payload := List.replicate 30 2, task := 1 }, { payload := List.replicate 20 3, task := 2 }] }
    let send (i : Nat) (o : Outcome Unit) : List Move :=
      [.act (.step i), .act (.step i), .write 5, .write 100, .commit, .act (.step i), .act (.answer i o)]
    let moves := send 0 (.ok ()) ++ send 1 (.failed (.transport "down")) ++
      [.act (.step 2), .act (.step 1), .act (.step 2), .write 9]
    ∃ s t' m, (⟨a, none⟩ : Midway).run moves t = .ok s t' ∧ Monitor.ofStore store t' = .ok m t' ∧
      m.meter.sent.toNat = 7 + s.agent.tally Stage.counts ∧
      7 + s.agent.tally delivered ≤ m.meter.sent.toNat ∧ m.meter.sent.toNat ≤ 7 + s.admitted ∧
      s.agent.tally delivered = 40 ∧ s.agent.tally Stage.counts = 70 := by
  intro store t a send moves
  obtain ⟨writable, loaded⟩ : Monitor.Writable store t ∧
      Monitor.ofStore store t = .ok { store, meter := { sent := 7 } } t :=
    Monitor.begins_of_file (p := ["state", "usage.json"]) (q := ["state", "usage.json.tmp"])
      (by decide +kernel) rfl (by decide +kernel) (by decide +kernel)
  have waiting : ∀ d ∈ a.deliveries, d.stage = .queued := by decide
  have fits : Along after Fits ⟨a, none⟩ moves := by decide +kernel
  have quiet : Along after (fun s m => s.begins m = false) ⟨a, none⟩ moves := by decide +kernel
  obtain ⟨s, t', m, run, begun, sum, least, most, -⟩ :=
    count_after_crash loaded waiting writable moves fits quiet
  have sizes : (((⟨a, none⟩ : Midway).run moves).answer? t).map
      (fun s => (s.agent.tally delivered, s.agent.tally Stage.counts)) = some (40, 70) := by decide +kernel
  rw [Disk.answer?, run] at sizes
  obtain ⟨delivered, counts⟩ := Prod.mk.inj (Option.some.inj sizes)
  exact ⟨s, t', m, run, begun, sum, least, most, delivered, counts⟩

end Midway

end Agent

end CrashReporter
