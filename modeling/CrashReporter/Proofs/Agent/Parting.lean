import CrashReporter.Proofs.Agent.Accounts

/-!
# Deliveries while a sink is closed

A sink is closed in two steps: it is marked closed, and then its transport is told to end. Whoever closes
it once more finds the mark and leaves. Between any two steps of that there may be others: of deliveries,
and of the threads that hand events over (`Agent.Parting`).

What is seen of a delivery is told by its stage (`Delivery.history?`, kept by every step:
`Parting.history_after`), and everything that is seen fits what was seen before (`Parting.Seen.after`,
`Parting.Seen.run`). So a payload that is handed over after the transport was told to end had found the
sink open (`Parting.handed_after_told`), and one that was taken is handed over, unless the policy does not
allow it or its delivery begins too late (`Parting.history_of_taken`).
-/

namespace CrashReporter

namespace Agent

/-- An agent, and whether its sink was marked closed and the transport is still to be told. -/
structure Parting where
  agent : Agent
  telling : Bool := false

namespace Parting

/-- A step of the agent, or of someone who closes its sink. -/
inductive Move where
  | act (m : Agent.Move)
  /-- Someone marks the sink closed. Only the first goes on. -/
  | mark
  /-- The transport is told to end. -/
  | tell

/-- Something that can be seen. -/
inductive Note where
  /-- Delivery `i` begins, and finds the sink closed or open. -/
  | begun (i : Nat) (closed : Bool)
  /-- The policy does not allow the payload of delivery `i`. -/
  | refused (i : Nat)
  /-- The transport is given the payload of delivery `i`. -/
  | handed (i : Nat) (payload : Bytes)
  /-- The sink is marked closed. -/
  | closed
  /-- The transport is told to end. -/
  | told
  deriving DecidableEq

/-- Whether a note is of delivery `i`. -/
def Note.isOf (i : Nat) : Note → Bool
  | .begun j _ | .refused j | .handed j _ => j == i
  | .closed | .told => false

end Parting

end Agent

namespace Delivery

open Agent.Parting (Note)

/-- What can be seen of the next step of delivery `i`. -/
def notes (d : Delivery) (i : Nat) (sink : Sink) (m : Usage.Meter) : List Note :=
  match d.stage with
  | .queued => [.begun i sink.closed]
  | .admitted => if m.refuses d.size then [.refused i] else []
  | .reserved => [.handed i d.payload]
  | _ => []

/-- What was seen of delivery `i`, unless it was given up. -/
def history? (d : Delivery) (i : Nat) : Option (List Note) :=
  match d.stage with
  | .queued => some []
  | .admitted | .reserved => some [.begun i false]
  | .underway | .failed => some [.begun i false, .handed i d.payload]
  | .ended .delivered | .ended .returned | .ended .lost => some [.begun i false, .handed i d.payload]
  | .ended .refused => some [.begun i false, .refused i]
  | .ended .dropped => some [.begun i true]
  | .ended .cancelled => none

/-- A step adds what can be seen of it. -/
theorem history_afterStep (d : Delivery) (i : Nat) (sink : Sink) (m : Usage.Meter) :
    ({ d with stage := (d.afterStep sink m).1 } : Delivery).history? i =
      (d.history? i).map (· ++ d.notes i sink m) := by
  unfold history? notes afterStep
  cases stage : d.stage with
  | queued => cases sink.closed <;> rfl
  | admitted => cases m.refuses d.size <;> rfl
  | reserved =>
    simp only
    cases sink.transport.request d.payload <;> rfl
  | underway | failed => rfl
  | ended fate => cases fate <;> rfl

/-- The transport's answer is not noted. -/
theorem history_afterAnswer {d : Delivery} (underway : d.stage = .underway) (i : Nat) (o : Outcome Unit) :
    ({ d with stage := .afterAnswer o } : Delivery).history? i = d.history? i := by
  unfold history?
  rw [underway]
  cases o <;> rfl

/-- What can be seen of a step is of its delivery. -/
theorem isOf_notes {d : Delivery} {i : Nat} {sink : Sink} {m : Usage.Meter} {n : Note}
    (h : n ∈ d.notes i sink m) (j : Nat) : n.isOf j = (i == j) := by
  unfold notes at h
  split at h
  · rw [List.mem_singleton.mp h]
    rfl
  · split at h
    · rw [List.mem_singleton.mp h]
      rfl
    · cases h
  · rw [List.mem_singleton.mp h]
    rfl
  · cases h

end Delivery

namespace Agent.Parting

open Delivery

/-- What can be seen of a step. -/
def notes (s : Parting) : Move → List Note
  | .act (.step i) => (s.agent.deliveries[i]?.map (·.notes i s.agent.sink s.agent.monitor.meter)).getD []
  | .act .closeSink => if s.agent.sink.closed then [] else [.closed, .told]
  | .act _ => []
  | .mark => if s.agent.sink.closed then [] else [.closed]
  | .tell => if s.telling then [.told] else []

/-- The agent's sink, marked closed. -/
def marked (s : Parting) : Parting :=
  if s.agent.sink.closed then s
  else { agent := { s.agent with sink := { s.agent.sink with closed := true } }, telling := true }

/-- The transport once it was told. -/
def told (s : Parting) : Parting :=
  if s.telling then
    { agent := { s.agent with sink := { s.agent.sink with transport := s.agent.sink.transport.stop.2 } } }
  else s

/-- The agent after a step. -/
def move (s : Parting) : Move → Disk Parting
  | .act m => do return { s with agent := ← s.agent.move m }
  | .mark => return s.marked
  | .tell => return s.told

/-- The agent after a step, without a look at the files. -/
def after (s : Parting) : Move → Parting
  | .act m => { s with agent := s.agent.after m }
  | .mark => s.marked
  | .tell => s.told

/-- The agent after steps, one after the other, and what was seen of them. -/
def run (s : Parting) : List Move → Disk (List Note × Parting)
  | [] => return ([], s)
  | m :: moves => do
    let (log, last) ← (← s.move m).run moves
    return (s.notes m ++ log, last)

/-- What is seen of steps, without a look at the files. -/
def log (s : Parting) : List Move → List Note
  | [] => []
  | m :: moves => s.notes m ++ (s.after m).log moves

theorem run_gives (s : Parting) (moves : List Move) :
    (s.run moves).Gives (s.log moves, moves.foldl after s) := by
  induction moves generalizing s with
  | nil => exact Disk.gives_pure _
  | cons m moves ih =>
    have moved : (s.move m).Gives (s.after m) := by
      cases m with
      | act m => exact (s.agent.move_gives m).bind (Disk.gives_pure _)
      | mark | tell => exact Disk.gives_pure _
    exact moved.bind ((ih (s.after m)).bind (Disk.gives_pure _))

/-- Whoever closes a sink takes both steps. -/
theorem told_marked {s : Parting} (quiet : s.telling = false) :
    s.marked.told = s.after (.act .closeSink) := by
  obtain ⟨a, telling⟩ := s
  obtain rfl : telling = false := quiet
  unfold marked told after Agent.after Agent.closeSink Sink.close
  cases closed : a.sink.closed <;> simp

/-! ## What is seen of a delivery -/

/-- What was seen of delivery `i`; nothing, if there is none yet. -/
def history? (s : Parting) (i : Nat) : Option (List Note) :=
  s.agent.deliveries[i]?.elim (some []) (·.history? i)

variable {s : Parting} {m : Move} {seen : List Note}

theorem history_of_deliveries {s' : Parting} (same : s'.agent.deliveries = s.agent.deliveries) (i : Nat) :
    s'.history? i = s.history? i := by
  rw [history?, history?, same]

/-- A step of one delivery is seen of that delivery. -/
theorem history_step (s : Parting) (i j : Nat) :
    (s.after (.act (.step j))).history? i =
      (s.history? i).map (· ++ (s.notes (.act (.step j))).filter (·.isOf i)) := by
  simp only [after, Agent.after, afterStep, notes]
  cases found : s.agent.deliveries[j]? with
  | none => simp [history?]
  | some d =>
    have inside := (List.getElem?_eq_some_iff.mp found).1
    simp only [history?, setStage, Option.map_some, Option.getD_some]
    by_cases own : j = i
    · subst own
      have all : (d.notes j s.agent.sink s.agent.monitor.meter).filter (·.isOf j) =
          d.notes j s.agent.sink s.agent.monitor.meter :=
        List.filter_eq_self.mpr fun n hn => (isOf_notes hn j).trans (beq_self_eq_true j)
      rw [List.getElem?_set_self inside, found, all]
      exact d.history_afterStep j _ _
    · have none : (d.notes j s.agent.sink s.agent.monitor.meter).filter (·.isOf i) = [] :=
        List.filter_eq_nil_iff.mpr fun n hn => by simp [isOf_notes hn i, own]
      rw [List.getElem?_set_ne own, none]
      simp

/-- Nothing is seen of a delivery that waits. -/
theorem history_dispatch {a' : Agent} {e : Event} {stack : List Frame} {id : String} {readings : Readings}
    (dispatched : s.agent.dispatch e stack id readings = .ok a') (i : Nat) :
    ({ s with agent := a' } : Parting).history? i = s.history? i := by
  obtain ⟨scheduler, payload, -, -, rfl⟩ := dispatch_ok dispatched
  simp only [history?]
  rcases Nat.lt_trichotomy i s.agent.deliveries.length with old | rfl | beyond
  · rw [List.getElem?_append_left old]
  · rw [List.getElem?_concat_length, List.getElem?_eq_none (Nat.le_refl _)]
    rfl
  · have more (d : Delivery) : (s.agent.deliveries ++ [d]).length ≤ i := by
      rw [List.length_append]
      exact beyond
    rw [List.getElem?_eq_none (more _), List.getElem?_eq_none (Nat.le_of_lt beyond)]

theorem history_answer (s : Parting) (i j : Nat) (o : Outcome Unit) :
    ({ s with agent := s.agent.answer j o } : Parting).history? i = s.history? i := by
  unfold Agent.answer
  split
  · next d found =>
    split
    · next underway =>
      simp only [history?, setStage]
      by_cases own : j = i
      · subst own
        rw [List.getElem?_set_self (List.getElem?_eq_some_iff.mp found).1, found]
        exact history_afterAnswer underway j o
      · rw [List.getElem?_set_ne own]
    · rfl
  · rfl

theorem deliveries_marked (s : Parting) : s.marked.agent.deliveries = s.agent.deliveries := by
  unfold marked
  split <;> rfl

theorem deliveries_told (s : Parting) : s.told.agent.deliveries = s.agent.deliveries := by
  unfold told
  split <;> rfl

theorem deliveries_close (a : Agent) : (a.close?.getD a).deliveries = a.deliveries := by
  unfold Agent.close?
  cases a.scheduler.close? <;> rfl

/-- A step adds what can be seen of it. -/
theorem history_after (s : Parting) (m : Move) (i : Nat) :
    (s.after m).history? i = (s.history? i).map (· ++ (s.notes m).filter (·.isOf i)) := by
  have quiet (same : (s.after m).history? i = s.history? i) (unseen : (s.notes m).filter (·.isOf i) = []) :
      (s.after m).history? i = (s.history? i).map (· ++ (s.notes m).filter (·.isOf i)) := by
    rw [same, unseen]
    simp
  cases m with
  | act m =>
    cases m with
    | step j => exact s.history_step i j
    | dispatch e stack id readings =>
      refine quiet ?_ rfl
      simp only [after, Agent.after]
      cases dispatched : s.agent.dispatch e stack id readings with
      | error f => rfl
      | ok a' => exact history_dispatch dispatched i
    | answer j o => exact quiet (s.history_answer i j o) rfl
    | keepUp u => exact quiet rfl rfl
    | close => exact quiet (history_of_deliveries (deliveries_close s.agent) i) rfl
    | closeSink =>
      refine quiet (history_of_deliveries rfl i) ?_
      simp only [notes]
      split <;> rfl
  | mark =>
    refine quiet (history_of_deliveries s.deliveries_marked i) ?_
    simp only [notes]
    split <;> rfl
  | tell =>
    refine quiet (history_of_deliveries s.deliveries_told i) ?_
    simp only [notes]
    split <;> rfl

/-! ## What is seen of everything -/

/-- Whether a note may come after others. -/
def Note.Fits (past : List Note) : Note → Prop
  | .begun i shut => past.filter (·.isOf i) = [] ∧ (shut = true ↔ .closed ∈ past)
  | .refused i | .handed i _ => past.filter (·.isOf i) = [.begun i false]
  | .closed => .closed ∉ past
  | .told => .closed ∈ past ∧ .told ∉ past

/-- Whether each note fits those before it. -/
def Orderly (seen : List Note) : Prop := ∀ past n rest, seen = past ++ n :: rest → n.Fits past

theorem orderly_nil : Orderly [] := fun _ _ _ h => absurd h (by simp)

theorem Orderly.concat (h : Orderly seen) {n : Note} (fits : n.Fits seen) : Orderly (seen ++ [n]) := by
  intro past n' rest split
  rcases List.eq_nil_or_concat' rest with rfl | ⟨rest, last, rfl⟩
  · obtain ⟨rfl, same⟩ := List.append_inj' split rfl
    cases same
    exact fits
  · rw [← List.cons_append, ← List.append_assoc] at split
    exact h past n' rest (List.append_inj' split rfl).1

/-- What can be seen of a delivery's next step fits what was seen of it. -/
theorem fits_notes {d : Delivery} {i : Nat} {sink : Sink} (meter : Usage.Meter)
    (history : d.history? i = some (seen.filter (·.isOf i)))
    (closed : sink.closed = true ↔ Note.closed ∈ seen) :
    d.notes i sink meter = [] ∨ ∃ n, d.notes i sink meter = [n] ∧ n.Fits seen := by
  unfold Delivery.notes
  unfold Delivery.history? at history
  cases stage : d.stage with
  | queued =>
    rw [stage] at history
    exact .inr ⟨_, rfl, (Option.some.inj history).symm, closed⟩
  | admitted =>
    rw [stage] at history
    cases meter.refuses d.size with
    | true => exact .inr ⟨_, rfl, (Option.some.inj history).symm⟩
    | false => exact .inl rfl
  | reserved =>
    rw [stage] at history
    exact .inr ⟨_, rfl, (Option.some.inj history).symm⟩
  | _ => exact .inl rfl

/-- What was seen up to a state: of each delivery its history, and of the sink what it has become. -/
structure Seen (s : Parting) (seen : List Note) : Prop where
  history : ∀ i, s.history? i = some (seen.filter (·.isOf i))
  closed : s.agent.sink.closed = true ↔ .closed ∈ seen
  told : .told ∈ seen → .closed ∈ seen
  telling : s.telling = true → .closed ∈ seen ∧ .told ∉ seen
  orderly : Orderly seen

theorem Seen.history_after (h : s.Seen seen) (m : Move) (i : Nat) :
    (s.after m).history? i = some ((seen ++ s.notes m).filter (·.isOf i)) := by
  rw [s.history_after, h.history, List.filter_append]
  rfl

/-- A step that leaves the sink as it is. -/
theorem Seen.act (h : s.Seen seen) {m : Agent.Move}
    (same : (s.agent.after m).sink.closed = s.agent.sink.closed)
    (notes : s.notes (.act m) = [] ∨ ∃ n i, s.notes (.act m) = [n] ∧ n.isOf i = true ∧ n.Fits seen) :
    (s.after (.act m)).Seen (seen ++ s.notes (.act m)) := by
  have history := h.history_after (.act m)
  rcases notes with none | ⟨n, i, one, own, fits⟩
  · rw [none, List.append_nil] at history ⊢
    exact ⟨history, (Bool.eq_iff_iff.mp same).trans h.closed, h.told, h.telling, h.orderly⟩
  · have other (n' : Note) (unowned : n'.isOf i = false) : n' ∈ seen ++ [n] ↔ n' ∈ seen := by
      have apart : n' ≠ n := by
        rintro rfl
        rw [own] at unowned
        cases unowned
      simp [apart]
    rw [one] at history ⊢
    refine ⟨history, ?_, ?_, ?_, h.orderly.concat fits⟩
    · rw [other _ rfl]
      exact (Bool.eq_iff_iff.mp same).trans h.closed
    · rw [other _ rfl, other _ rfl]
      exact h.told
    · rw [other _ rfl, other _ rfl]
      exact h.telling

theorem Seen.step (h : s.Seen seen) (i : Nat) :
    (s.after (.act (.step i))).Seen (seen ++ s.notes (.act (.step i))) := by
  refine h.act (congrArg Sink.closed (s.agent.alike_afterStep i).sink) ?_
  simp only [Parting.notes]
  cases found : s.agent.deliveries[i]? with
  | none => exact .inl rfl
  | some d =>
    have history := h.history i
    rw [history?, found] at history
    rcases fits_notes s.agent.monitor.meter history h.closed with none | ⟨n, one, fits⟩
    · exact .inl none
    · have own : n ∈ d.notes i s.agent.sink s.agent.monitor.meter := one ▸ List.mem_cons_self
      exact .inr ⟨n, i, one, (isOf_notes own i).trans (beq_self_eq_true i), fits⟩

/-- Someone marks the sink closed. -/
theorem Seen.mark (h : s.Seen seen) : (s.after .mark).Seen (seen ++ s.notes .mark) := by
  have history := h.history_after .mark
  unfold after marked Parting.notes at *
  cases closed : s.agent.sink.closed with
  | true =>
    simp only [closed, if_true, List.append_nil] at history ⊢
    exact ⟨history, h.closed, h.told, h.telling, h.orderly⟩
  | false =>
    have unclosed : Note.closed ∉ seen := fun shut => by simp [h.closed.mpr shut] at closed
    have untold : Note.told ∉ seen := fun told => unclosed (h.told told)
    simp only [closed, Bool.false_eq_true, if_false] at history ⊢
    exact ⟨history, by simp, by simp, by simp [untold], h.orderly.concat unclosed⟩

/-- The transport is told. -/
theorem Seen.tell (h : s.Seen seen) : (s.after .tell).Seen (seen ++ s.notes .tell) := by
  have history := h.history_after .tell
  unfold after Parting.told Parting.notes at *
  cases telling : s.telling with
  | true =>
    obtain ⟨shut, untold⟩ := h.telling telling
    simp only [telling, if_true] at history ⊢
    exact ⟨history, by simpa using h.closed, by simp [shut], by simp, h.orderly.concat ⟨shut, untold⟩⟩
  | false =>
    simp only [telling, Bool.false_eq_true, if_false, List.append_nil] at history ⊢
    exact ⟨history, h.closed, h.told, h.telling, h.orderly⟩

/-- Someone closes the sink in one go. -/
theorem Seen.closeSink (h : s.Seen seen) :
    (s.after (.act .closeSink)).Seen (seen ++ s.notes (.act .closeSink)) := by
  cases closed : s.agent.sink.closed with
  | true =>
    refine h.act ?_ (.inl (if_pos closed))
    simp only [Agent.after, Agent.closeSink, Sink.close, closed, if_true]
  | false =>
    have quiet : s.telling = false := by
      refine Bool.eq_false_iff.mpr fun telling => ?_
      rw [h.closed.mpr (h.telling telling).1] at closed
      cases closed
    have noted : s.notes .mark ++ (s.after .mark).notes .tell = s.notes (.act .closeSink) := by
      simp [Parting.notes, Parting.after, marked, closed]
    rw [← told_marked quiet, ← noted, ← List.append_assoc]
    exact h.mark.tell

theorem Seen.after (h : s.Seen seen) (m : Move) : (s.after m).Seen (seen ++ s.notes m) := by
  cases m with
  | act m =>
    cases m with
    | step i => exact h.step i
    | dispatch e stack id readings =>
      refine h.act ?_ (.inl rfl)
      simp only [Agent.after]
      cases dispatched : s.agent.dispatch e stack id readings with
      | error f => rfl
      | ok a' => exact congrArg Sink.closed (alike_dispatch dispatched).sink
    | answer i o => exact h.act (congrArg Sink.closed (s.agent.alike_answer i o).sink) (.inl rfl)
    | keepUp u => exact h.act rfl (.inl rfl)
    | close =>
      refine h.act ?_ (.inl rfl)
      simp only [Agent.after, Agent.close?]
      cases s.agent.scheduler.close? <;> rfl
    | closeSink => exact h.closeSink
  | mark => exact h.mark
  | tell => exact h.tell

theorem Seen.run (h : s.Seen seen) (moves : List Move) :
    (moves.foldl Parting.after s).Seen (seen ++ s.log moves) := by
  induction moves generalizing s seen with
  | nil =>
    rw [log, List.append_nil]
    exact h
  | cons m moves ih =>
    rw [log, ← List.append_assoc]
    exact ih (h.after m)

/-- Nothing is seen at first of an agent whose deliveries wait and whose sink is open. -/
theorem seen_start {a : Agent} (waiting : ∀ d ∈ a.deliveries, d.stage = .queued)
    (unclosed : a.sink.closed = false) : Seen ⟨a, false⟩ [] where
  history i := by
    unfold history?
    cases found : a.deliveries[i]? with
    | none => rfl
    | some d =>
      have stage := waiting d (List.mem_of_getElem? found)
      simp [Delivery.history?, stage]
  closed := by simp [unclosed]
  told h := nomatch h
  telling h := nomatch h
  orderly := orderly_nil

/-! ## After the sink is closed -/

/-- The transport is told to end once at most. -/
theorem Orderly.count_told (h : Orderly seen) : seen.count .told ≤ 1 := by
  by_cases told : Note.told ∈ seen
  · obtain ⟨past, rest, rfl⟩ := List.append_of_mem told
    have first : Note.told ∉ past := (h past .told rest rfl).2
    have last : Note.told ∉ rest := by
      intro again
      obtain ⟨between, rest, rfl⟩ := List.append_of_mem again
      have split : past ++ Note.told :: (between ++ Note.told :: rest) =
          (past ++ Note.told :: between) ++ Note.told :: rest := by simp
      exact (h _ .told rest split).2 (by simp)
    simp [List.count_eq_zero.mpr first, List.count_eq_zero.mpr last]
  · rw [List.count_eq_zero.mpr told]
    exact Nat.zero_le 1

/-- What the transport is given after the sink was closed has found the sink open before. -/
theorem Orderly.begun_before_closed (h : Orderly seen) {past rest : List Note} {i : Nat} {payload : Bytes}
    (split : seen = past ++ .handed i payload :: rest) (closed : .closed ∈ past) :
    ∃ before between, past = before ++ .closed :: between ∧ .begun i false ∈ before := by
  have history : past.filter (·.isOf i) = [.begun i false] := h past _ rest split
  obtain ⟨before, between, rfl⟩ := List.append_of_mem closed
  refine ⟨before, between, rfl, ?_⟩
  have begun : Note.begun i false ∈ before ++ .closed :: between := by
    have only : Note.begun i false ∈ (before ++ Note.closed :: between).filter (·.isOf i) := by simp [history]
    exact (List.mem_filter.mp only).1
  rcases List.mem_append.mp begun with early | late
  · exact early
  · rcases List.mem_cons.mp late with same | late
    · cases same
    -- A delivery that begins after the mark finds it.
    obtain ⟨first, second, rfl⟩ := List.append_of_mem late
    have later : seen = (before ++ .closed :: first) ++ .begun i false ::
        (second ++ .handed i payload :: rest) := by simp [split]
    exact nomatch (h _ _ _ later).2.mpr (by simp)

/-- The transport is given a payload once at most. -/
theorem Orderly.handed_once (h : Orderly seen) {past rest : List Note} {i : Nat} {payload : Bytes}
    (split : seen = past ++ .handed i payload :: rest) : ∀ other, Note.handed i other ∉ past := by
  intro other again
  have history : past.filter (·.isOf i) = [.begun i false] := h past _ rest split
  have noted : Note.handed i other ∈ past.filter (·.isOf i) :=
    List.mem_filter.mpr ⟨again, beq_self_eq_true i⟩
  rw [history] at noted
  simp at noted

/-- However deliveries and those who close the sink take turns: the transport is told to end once at most,
and given each payload once at most. After that it is given only payloads whose deliveries had found the
sink open before it was marked closed, and had not handed them over; so if there are none of these at the
mark, it is given nothing any more. -/
theorem handed_after_told {a : Agent} (waiting : ∀ d ∈ a.deliveries, d.stage = .queued)
    (unclosed : a.sink.closed = false) (moves : List Move) :
    ∃ log last, (run ⟨a, false⟩ moves).Gives (log, last) ∧ log.count .told ≤ 1 ∧
      (∀ past i payload rest, log = past ++ .handed i payload :: rest →
        (∀ other, .handed i other ∉ past) ∧
          (.told ∈ past → ∃ before between, past = before ++ .closed :: between ∧ .begun i false ∈ before)) ∧
      ((∀ before between, log = before ++ .closed :: between → ∀ i, .begun i false ∈ before →
          .refused i ∈ before ∨ ∃ payload, .handed i payload ∈ before) →
        ∀ past i payload rest, log = past ++ .handed i payload :: rest → .told ∉ past) := by
  have seen : (moves.foldl after ⟨a, false⟩).Seen (log ⟨a, false⟩ moves) :=
    (seen_start waiting unclosed).run moves
  have orderly := seen.orderly
  have earlier : ∀ past i payload rest, log ⟨a, false⟩ moves = past ++ .handed i payload :: rest →
      .told ∈ past → ∃ before between, past = before ++ .closed :: between ∧ .begun i false ∈ before := by
    intro past i payload rest split told
    obtain ⟨first, second, rfl⟩ := List.append_of_mem told
    have closed : Note.closed ∈ first := (orderly first .told _ (split.trans (List.append_assoc ..))).1
    exact orderly.begun_before_closed split (List.mem_append_left _ closed)
  refine ⟨_, _, run_gives _ moves, orderly.count_told,
    fun past i payload rest split => ⟨orderly.handed_once split, earlier past i payload rest split⟩, ?_⟩
  intro settled past i payload rest split told
  obtain ⟨before, between, rfl, begun⟩ := earlier past i payload rest split told
  have history : (before ++ .closed :: between).filter (·.isOf i) = [.begun i false] :=
    orderly _ _ rest split
  have here {n : Note} (early : n ∈ before) (own : n.isOf i = true) : n = .begun i false := by
    have noted : n ∈ (before ++ Note.closed :: between).filter (·.isOf i) :=
      List.mem_filter.mpr ⟨List.mem_append_left _ early, own⟩
    rw [history] at noted
    exact List.mem_singleton.mp noted
  rcases settled before _ (split.trans (List.append_assoc ..)) i begun with refused | ⟨other, handed⟩
  · exact nomatch here refused (beq_self_eq_true i)
  · exact nomatch here handed (beq_self_eq_true i)

/-- The second payload is handed over before the sink is closed. The first has found it open, and comes
after. -/
theorem handed_after_told_overtaken :
    let a : Agent := { Agent.least with
      deliveries := [{ payload := [1], task := 0 }, { payload := [2], task := 1 }, { payload := [3], task := 2 }] }
    let moves : List Move := [.act (.step 0), .act (.step 1), .act (.step 1), .act (.step 1), .mark, .mark,
      .tell, .act (.step 2), .act (.step 0), .act (.step 0)]
    let past : List Note := [.begun 0 false, .begun 1 false, .handed 1 [2], .closed, .told, .begun 2 true]
    (∀ d ∈ a.deliveries, d.stage = .queued) ∧ a.sink.closed = false ∧
      ∃ log last, (run ⟨a, false⟩ moves).Gives (log, last) ∧ log = past ++ [.handed 0 [1]] ∧
        log.count .told ≤ 1 ∧
        ∃ before between, past = before ++ .closed :: between ∧ .begun 0 false ∈ before := by
  intro a moves past
  have waiting : ∀ d ∈ a.deliveries, d.stage = .queued := by decide
  obtain ⟨log, last, gives, once, earlier, -⟩ := handed_after_told waiting rfl moves
  obtain ⟨t, run⟩ := gives {}
  obtain ⟨t', same⟩ := run_gives ⟨a, false⟩ moves {}
  cases run.symm.trans same
  have seen : log ⟨a, false⟩ moves = past ++ [.handed 0 [1]] := by decide +kernel
  exact ⟨waiting, rfl, _, _, gives, seen, once, (earlier past 0 [1] [] seen).2 (by decide)⟩

/-- The only payload is handed over after the transport was told to end: its delivery had found the sink
open. -/
theorem told_before_handed :
    let a : Agent := { Agent.least with deliveries := [{ payload := [1], task := 0 }] }
    let moves : List Move := [.act (.step 0), .mark, .tell, .act (.step 0), .act (.step 0)]
    ((run ⟨a, false⟩ moves).answer? {}).map Prod.fst =
      some [.begun 0 false, .closed, .told, .handed 0 [1]] := by
  decide +kernel

/-! ## An event that was taken -/

/-- A move leaves an agent's deliveries as they are, takes one of them to another stage, or adds one. -/
theorem deliveries_after (a : Agent) (m : Agent.Move) :
    (a.after m).deliveries = a.deliveries ∨
      (∃ j d stage, a.deliveries[j]? = some d ∧
        (a.after m).deliveries = a.deliveries.set j { d with stage }) ∨
      ∃ d, (a.after m).deliveries = a.deliveries ++ [d] := by
  cases m with
  | step j =>
    simp only [Agent.after, afterStep]
    cases there : a.deliveries[j]? with
    | none => exact .inl rfl
    | some d => exact .inr (.inl ⟨j, d, _, there, rfl⟩)
  | dispatch e stack id readings =>
    simp only [Agent.after]
    cases dispatched : a.dispatch e stack id readings with
    | error f => exact .inl rfl
    | ok a' =>
      obtain ⟨scheduler, payload, -, -, rfl⟩ := dispatch_ok dispatched
      exact .inr (.inr ⟨_, rfl⟩)
  | answer j o =>
    simp only [Agent.after, Agent.answer]
    cases there : a.deliveries[j]? with
    | none => exact .inl rfl
    | some d =>
      simp only
      split
      · exact .inr (.inl ⟨j, d, _, there, rfl⟩)
      · exact .inl rfl
  | keepUp u => exact .inl rfl
  | close => exact .inl (deliveries_close a)
  | closeSink => exact .inl rfl

/-- A delivery keeps its payload. -/
theorem payload_after {i : Nat} {d : Delivery} (found : s.agent.deliveries[i]? = some d) (m : Move) :
    ∃ d', (s.after m).agent.deliveries[i]? = some d' ∧ d'.payload = d.payload := by
  cases m with
  | act m =>
    rcases deliveries_after s.agent m with same | ⟨j, e, stage, there, moved⟩ | ⟨e, added⟩
    · exact ⟨d, by rw [after, same, found], rfl⟩
    · by_cases own : j = i
      · subst own
        rw [there] at found
        cases found
        have inside := (List.getElem?_eq_some_iff.mp there).1
        exact ⟨{ d with stage }, by rw [after, moved, List.getElem?_set_self inside], rfl⟩
      · exact ⟨d, by rw [after, moved, List.getElem?_set_ne own, found], rfl⟩
    · have inside := (List.getElem?_eq_some_iff.mp found).1
      exact ⟨d, by rw [after, added, List.getElem?_append_left inside, found], rfl⟩
  | mark => exact ⟨d, by rw [after, deliveries_marked, found], rfl⟩
  | tell => exact ⟨d, by rw [after, deliveries_told, found], rfl⟩

theorem payload_run {i : Nat} {d : Delivery} (found : s.agent.deliveries[i]? = some d) (moves : List Move) :
    ∃ d', (moves.foldl after s).agent.deliveries[i]? = some d' ∧ d'.payload = d.payload := by
  induction moves generalizing s d with
  | nil => exact ⟨d, found, rfl⟩
  | cons m moves ih =>
    obtain ⟨d₁, found₁, same₁⟩ := payload_after found m
    obtain ⟨d', found', same'⟩ := ih found₁
    exact ⟨d', found', same'.trans same₁⟩

/-- What is seen of a delivery that is over and was not given up. -/
theorem history_of_isOver {d : Delivery} {i : Nat} {notes : List Note} (done : d.isOver = true)
    (history : d.history? i = some notes) :
    notes = [.begun i false, .handed i d.payload] ∨ notes = [.begun i false, .refused i] ∨
      notes = [.begun i true] := by
  unfold Delivery.isOver at done
  unfold Delivery.history? at history
  cases stage : d.stage with
  | ended fate =>
    cases fate <;> simp only [stage, Option.some.injEq, reduceCtorEq] at history <;> simp [← history]
  | _ => simp [stage] at done

/-- An event that an agent took, whose deliveries all come to their end: its delivery began once. If the
sink was open then, the transport was given the event's payload, or the policy did not allow it; if it had
been marked closed before, the payload was dropped. -/
theorem history_of_taken {settings : Settings} {candidates : List String} {custom : Bool}
    {nonce : Gcm.Nonce} {answers : Startup.Answers} {calls : List Call} {a a' : Agent} {t t' : FileTree}
    (up : Startup.run settings candidates custom false nonce answers t = .ok (calls, .ok a) t')
    {moves before later : List Move} {e : Event} {stack : List Frame} {id : String} {readings : Readings}
    (split : moves = before ++ .act (.dispatch e stack id readings) :: later)
    (taken : (before.foldl after ⟨a, false⟩).agent.dispatch e stack id readings = .ok a')
    (finished : ∀ d ∈ (moves.foldl after ⟨a, false⟩).agent.deliveries, d.isOver = true) :
    let i := (before.foldl after ⟨a, false⟩).agent.deliveries.length
    ∃ log last payload, (run ⟨a, false⟩ moves).Gives (log, last) ∧
      (before.foldl after ⟨a, false⟩).agent.sink.pack (e.resolve stack) id readings = .ok payload ∧
      (log.filter (·.isOf i) = [.begun i false, .handed i payload] ∨
        log.filter (·.isOf i) = [.begun i false, .refused i] ∨
        log.filter (·.isOf i) = [.begun i true]) ∧
      ∀ past shut rest, log = past ++ .begun i shut :: rest → (shut = true ↔ .closed ∈ past) := by
  have fresh := (Startup.ends_of_run up).fresh.1
  have waiting : ∀ d ∈ a.deliveries, d.stage = .queued := by simp [fresh.deliveries]
  have seen : (moves.foldl after ⟨a, false⟩).Seen (log ⟨a, false⟩ moves) :=
    (seen_start waiting fresh.unclosed).run moves
  generalize start : before.foldl after ⟨a, false⟩ = s at taken ⊢
  intro i
  obtain ⟨scheduler, payload, -, packed, same⟩ := dispatch_ok taken
  have queued : (s.after (.act (.dispatch e stack id readings))).agent.deliveries[i]? =
      some { payload, task := s.agent.scheduler.tasks.length } := by
    simp only [after, Agent.after, taken, same]
    exact List.getElem?_concat_length
  obtain ⟨d, found, kept⟩ := payload_run queued later
  have last : later.foldl after (s.after (.act (.dispatch e stack id readings))) =
      moves.foldl after ⟨a, false⟩ := by
    rw [split, List.foldl_append, List.foldl_cons, start]
  rw [last] at found
  have history := seen.history i
  rw [history?, found] at history
  have ends := history_of_isOver (finished d (List.mem_of_getElem? found)) history
  rw [kept] at ends
  exact ⟨_, _, payload, run_gives _ moves, packed, ends, fun past shut rest split =>
    (seen.orderly past _ rest split).2⟩

/-- The first event is delivered, and the second is more than the policy allows. The delivery of the third
begins after the sink was closed. -/
theorem history_of_taken_late :
    let settings : Settings := .least
    let answers : Startup.Answers := { Startup.Answers.obliging with policy := .ok { dataLimit := 200 } }
    let e : Event := { excType := "boom" }
    let send : Move := .act (.dispatch e [] "id" default)
    let before : List Move := [send, .act (.step 0), .act (.step 0), .act (.step 0), .act (.answer 0 (.ok ())),
      send, .act (.step 1), .act (.step 1)]
    let moves := before ++ send :: [.act .close, .mark, .tell, .act (.step 2)]
    ∃ calls a t' log last payload, Startup.run settings ["/state"] true false default answers {} =
        .ok (calls, .ok a) t' ∧
      (∀ d ∈ (moves.foldl after ⟨a, false⟩).agent.deliveries, d.isOver = true) ∧
      (run ⟨a, false⟩ moves).Gives (log, last) ∧
      (before.foldl after ⟨a, false⟩).agent.sink.pack (e.resolve []) "id" default = .ok payload ∧
      log.filter (·.isOf 1) = [.begun 1 false, .refused 1] ∧ log.filter (·.isOf 2) = [.begun 2 true] ∧
      (log.filter (·.isOf 2) = [.begun 2 false, .handed 2 payload] ∨
        log.filter (·.isOf 2) = [.begun 2 false, .refused 2] ∨ log.filter (·.isOf 2) = [.begun 2 true]) := by
  intro settings answers e send before moves
  have sound : ((Startup.run settings ["/state"] true false default answers).answer? {}).any
      (fun asked => asked.2.value?.any fun a =>
        ((before.foldl after ⟨a, false⟩).agent.dispatch e [] "id" default).isOk ∧
        (∀ d ∈ (moves.foldl after ⟨a, false⟩).agent.deliveries, d.isOver = true) ∧
        (before.foldl after ⟨a, false⟩).agent.deliveries.length = 2 ∧
        (log ⟨a, false⟩ moves).filter (·.isOf 1) = [.begun 1 false, .refused 1] ∧
        (log ⟨a, false⟩ moves).filter (·.isOf 2) = [.begun 2 true]) = true := by decide +kernel
  obtain ⟨calls, a, t', up, passes⟩ := Startup.up_of_any sound
  obtain ⟨took, finished, index, second, third⟩ := of_decide_eq_true passes
  cases taken : (before.foldl after ⟨a, false⟩).agent.dispatch e [] "id" default with
  | error f => simp [taken, Except.isOk, Except.toBool] at took
  | ok a' =>
    obtain ⟨seen, last, payload, gives, packed, ends, -⟩ := history_of_taken up rfl taken finished
    obtain ⟨t₁, run⟩ := gives {}
    obtain ⟨t₂, same⟩ := run_gives ⟨a, false⟩ moves {}
    cases run.symm.trans same
    rw [index] at ends
    exact ⟨calls, a, t', _, _, payload, up, finished, gives, packed, second, third, ends⟩

/-- An event that the agent took while it ran. Its delivery waits for a thread until the sink is closed: the
payload is dropped, and the transport is not given it. -/
theorem taken_but_dropped :
    let e : Event := { excType := "boom" }
    let moves : List Move :=
      [.act (.dispatch e [] "id" default), .act .close, .mark, .tell, .act (.step 0)]
    ((Startup.run .least ["/state"] true false default .obliging).answer? {}).any
      (fun asked => asked.2.value?.any fun a => (a.dispatch e [] "id" default).isOk ∧
        (∀ d ∈ (moves.foldl after ⟨a, false⟩).agent.deliveries, d.isOver = true) ∧
        ((run ⟨a, false⟩ moves).answer? {}).map Prod.fst = some [.closed, .told, .begun 0 true]) = true := by
  decide +kernel

end Agent.Parting

end CrashReporter
