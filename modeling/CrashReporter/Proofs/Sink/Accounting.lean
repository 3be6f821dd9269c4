import CrashReporter.Delivery
import CrashReporter.Proofs.Agent.Steps
import CrashReporter.Proofs.Along
import CrashReporter.Proofs.Usage.Admission
import CrashReporter.Proofs.Usage.Stored

/-!
# Counting before or after a delivery

A sink counts a payload before it hands it to the transport, and returns the count if the transport fails
(`Outlet.deliver`). It was asked for otherwise: to see whether the policy allows the payload, to hand it
over, and to count it once the transport took it (`Outlet.deliverSpecified`). As long as payloads are sent
one after the other, nobody can tell the difference (`Outlet.refines_specified`), wherever the sink is
closed: both are what `Outlet.after` computes.

* `Outlet.advance_turns`, `Outlet.deliver_turns`: what the steps of a delivery do, and leave on disk;
* `Outlet.afterDeliver_eq`: that this is what the other way of counting does;
* `Outlet.handed_after`: what an act hands to the transport.
-/

namespace CrashReporter

open Usage (Monitor Meter Upkeep)

/-- A step of a delivery does the same wherever the count is written, and it is written after it. -/
theorem Delivery.step_counted (d : Delivery) (sink : Sink) (m : Monitor) :
    Disk.Turns m.Counted (d.step sink m)
      ((d.afterStep sink m.meter).1, { m with meter := (d.afterStep sink m.meter).2.1 },
        (d.afterStep sink m.meter).2.2)
      ({ m with meter := (d.afterStep sink m.meter).2.1 } : Monitor).Counted := by
  unfold step afterStep
  cases d.stage with
  | queued => exact Disk.turns_pure _
  | admitted =>
    refine (m.reserve_counted d.size).bind ?_
    cases m.meter.refuses d.size <;> exact Disk.turns_pure _
  | reserved =>
    simp only
    cases sink.transport.request d.payload <;> exact Disk.turns_pure _
  | underway => exact Disk.turns_pure _
  | failed => exact (m.release_counted d.size).bind (Disk.turns_pure _)
  | ended fate => exact Disk.turns_pure _

/-- Something that is seen of a sink from outside. -/
inductive Outlet.Entry where
  /-- The transport is given a payload. -/
  | handed (payload : Bytes)
  /-- The transport asks for something. -/
  | asked (call : Call)
  /-- The sink is closed. -/
  | closed
  deriving DecidableEq

/-- A sink with its monitor, what was seen of it, and how it answered those who send. -/
structure Outlet where
  sink : Sink
  monitor : Monitor
  log : List Outlet.Entry := []
  results : List (Except Failure Unit) := []

namespace Outlet

/-- A moment of a delivery. -/
inductive Moment where
  /-- It was seen whether the sink is open. -/
  | admitted
  /-- It was seen whether the policy allows the payload. -/
  | counted
  /-- The payload was handed over. -/
  | underway
  /-- The transport has answered. -/
  | answered
  deriving DecidableEq

/-- A payload that is sent, how the transport answers it, and when the sink is closed, if that happens
meanwhile. -/
structure Posting where
  payload : Bytes
  answer : Except Failure Unit := .ok ()
  closing : Option Moment := none

/-- What happens to a sink. -/
inductive Act where
  | send (p : Posting)
  /-- The monitor is kept up to date: policies come in, and days go by. -/
  | keepUp (u : Upkeep)
  | close

/-- The payload that is sent. -/
def Act.payload? : Act → Option Bytes
  | .send p => some p.payload
  | _ => none

/-- Whether a sink that was seen open is closed before it hands the payload over. -/
def Act.slips : Act → Bool
  | .send p => p.closing == some .admitted || p.closing == some .counted
  | _ => false

/-- The payload that is given to the transport. -/
def Entry.payload? : Entry → Option Bytes
  | .handed payload => some payload
  | _ => none

/-- The payloads given to the transport, in their order. -/
def handed (o : Outlet) : List Bytes := o.log.filterMap Entry.payload?

/-- The sink with more seen of it. -/
def noted (o : Outlet) (entries : List Entry) : Outlet := { o with log := o.log ++ entries }

/-- The sink with another meter. -/
def withMeter (o : Outlet) (meter : Meter) : Outlet := { o with monitor := { o.monitor with meter } }

/-- Closes the sink. -/
def close (o : Outlet) : Outlet :=
  let (calls, sink) := o.sink.close
  { o.noted ((if o.sink.closed then [] else [.closed]) ++ calls.map .asked) with sink }

/-- Closes the sink if that happens now. -/
def closeAt (o : Outlet) (p : Posting) (now : Moment) : Outlet :=
  if p.closing = some now then o.close else o

/-! ## The two ways of counting -/

/-- A step of a delivery. -/
def advance (o : Outlet) (d : Delivery) : Disk (Outlet × Delivery) := do
  let (stage, monitor, call) ← d.step o.sink o.monitor
  let handed : List Entry := if d.stage = .reserved then [.handed d.payload] else []
  return (({ o with monitor } : Outlet).noted (handed ++ call.toList.map .asked), { d with stage })

/-- A delivery once the transport has answered, if it was asked. -/
def Posting.answered (p : Posting) (d : Delivery) : Delivery :=
  if d.stage = .underway then { d with stage := .afterAnswer (.ofExcept p.answer) } else d

/-- Takes a payload through the steps of a delivery. -/
def deliver (o : Outlet) (p : Posting) : Disk Outlet := do
  let (o, d) ← o.advance { payload := p.payload, task := 0 }
  let (o, d) ← (o.closeAt p .admitted).advance d
  let (o, d) ← (o.closeAt p .counted).advance d
  let (o, _) ← ((o.closeAt p .underway).closeAt p .answered).advance (p.answered d)
  return o

/-- The size that is counted. -/
def Posting.size (p : Posting) : Int64 := Int64.ofNat p.payload.length

/-- Drops a payload if the sink is closed or the policy does not allow it, and else hands it over; tells
whether the transport took it. -/
def offer (o : Outlet) (p : Posting) : Outlet × Bool :=
  if o.sink.closed || o.monitor.meter.refuses p.size then
    ((((o.closeAt p .admitted).closeAt p .counted).closeAt p .underway).closeAt p .answered, false)
  else
    let o := (o.closeAt p .admitted).closeAt p .counted
    let request := o.sink.transport.request p.payload
    let o := o.noted (.handed p.payload :: request.toOption.toList.map .asked)
    ((o.closeAt p .underway).closeAt p .answered, request.isOk && p.answer.isOk)

/-- Offers a payload, and counts it if the transport took it. -/
def deliverSpecified (o : Outlet) (p : Posting) : Disk Outlet := do
  let (o, delivered) := o.offer p
  if delivered then return { o with monitor := ← o.monitor.add p.size } else return o

/-- The sink with one more answer. -/
def resulting (o : Outlet) (r : Except Failure Unit) : Outlet := { o with results := o.results ++ [r] }

/-- Sends a payload in one of the two ways. A sink that was not started refuses. -/
def send (way : Outlet → Posting → Disk Outlet) (o : Outlet) (p : Posting) : Disk Outlet :=
  match o.sink.admits with
  | .error f => return o.resulting (.error f)
  | .ok _ => do return (← way o p).resulting (.ok ())

/-- What an act does. -/
def act (way : Outlet → Posting → Disk Outlet) (o : Outlet) : Act → Disk Outlet
  | .send p => o.send way p
  | .keepUp u => do return { o with monitor := ← o.monitor.keepUp u }
  | .close => return o.close

/-- What acts do, one after the other. -/
def run (way : Outlet → Posting → Disk Outlet) (o : Outlet) (acts : List Act) : Disk Outlet :=
  acts.foldlM (act way) o

/-! ## Without a look at the files -/

/-- A step of a delivery. -/
def afterAdvance (o : Outlet) (d : Delivery) : Outlet × Delivery :=
  let (stage, meter, call) := d.afterStep o.sink o.monitor.meter
  let handed : List Entry := if d.stage = .reserved then [.handed d.payload] else []
  ((o.withMeter meter).noted (handed ++ call.toList.map .asked), { d with stage })

/-- A payload taken through the steps of a delivery. -/
def afterDeliver (o : Outlet) (p : Posting) : Outlet :=
  let (o, d) := o.afterAdvance { payload := p.payload, task := 0 }
  let (o, d) := (o.closeAt p .admitted).afterAdvance d
  let (o, d) := (o.closeAt p .counted).afterAdvance d
  (((o.closeAt p .underway).closeAt p .answered).afterAdvance (p.answered d)).1

/-- A payload that is offered, and counted if the transport took it. -/
def afterOffer (o : Outlet) (p : Posting) : Outlet :=
  let (o, delivered) := o.offer p
  if delivered then o.withMeter ((o.monitor.meter.add? p.size).getD o.monitor.meter) else o

/-- What an act does. -/
def after (o : Outlet) : Act → Outlet
  | .send p =>
    match o.sink.admits with
    | .error f => o.resulting (.error f)
    | .ok _ => (o.afterOffer p).resulting (.ok ())
  | .keepUp u => o.withMeter (o.monitor.meter.keepUp u)
  | .close => o.close

/-- The bytes of a payload that is sent can be added to the count. -/
def Fits (o : Outlet) : Act → Prop
  | .send p => o.monitor.meter.sent.toNat + p.payload.length < UInt64.size
  | _ => True

instance (o : Outlet) : (act : Act) → Decidable (o.Fits act)
  | .send p => inferInstanceAs (Decidable (o.monitor.meter.sent.toNat + p.payload.length < UInt64.size))
  | .keepUp _ | .close => inferInstanceAs (Decidable True)

section

variable (o : Outlet) (p : Posting) (now : Moment) (meter : Meter) (entries : List Entry)

@[simp] theorem monitor_closeAt : (o.closeAt p now).monitor = o.monitor := by
  unfold closeAt
  split <;> rfl

@[simp] theorem results_closeAt : (o.closeAt p now).results = o.results := by
  unfold closeAt
  split <;> rfl

@[simp] theorem results_noted : (o.noted entries).results = o.results := rfl

@[simp] theorem results_withMeter : (o.withMeter meter).results = o.results := rfl

@[simp] theorem monitor_noted : (o.noted entries).monitor = o.monitor := rfl

@[simp] theorem noted_nil : o.noted [] = o := by
  unfold noted
  rw [List.append_nil]

@[simp] theorem sink_withMeter : (o.withMeter meter).sink = o.sink := rfl

@[simp] theorem meter_withMeter : (o.withMeter meter).monitor.meter = meter := rfl

@[simp] theorem withMeter_meter : o.withMeter o.monitor.meter = o := rfl

@[simp] theorem withMeter_withMeter (m : Meter) : (o.withMeter m).withMeter meter = o.withMeter meter := rfl

@[simp] theorem noted_withMeter : (o.withMeter meter).noted entries = (o.noted entries).withMeter meter := rfl

theorem monitor_offer : (o.offer p).1.monitor = o.monitor := by
  unfold offer
  split <;> simp

@[simp] theorem closeAt_withMeter : (o.withMeter meter).closeAt p now = (o.closeAt p now).withMeter meter := by
  unfold closeAt
  split <;> rfl

end

/-! ## The steps of a delivery -/

theorem advance_turns (o : Outlet) (d : Delivery) :
    Disk.Turns o.monitor.Counted (o.advance d) (o.afterAdvance d) (o.afterAdvance d).1.monitor.Counted :=
  (d.step_counted o.sink o.monitor).bind (Disk.turns_pure _)

/-- What a delivery does, and that the count on disk follows. -/
theorem deliver_turns (o : Outlet) (p : Posting) :
    Disk.Turns o.monitor.Counted (o.deliver p) (o.afterDeliver p) (o.afterDeliver p).monitor.Counted := by
  have closed (o : Outlet) (now : Moment) : (o.closeAt p now).monitor.Counted = o.monitor.Counted := by
    rw [monitor_closeAt]
  unfold deliver afterDeliver
  refine (o.advance_turns _).bind ?_
  rw [← closed _ .admitted]
  refine (advance_turns _ _).bind ?_
  rw [← closed _ .counted]
  refine (advance_turns _ _).bind ?_
  rw [← closed _ .underway, ← closed _ .answered]
  exact (advance_turns _ _).bind (Disk.turns_pure _)

theorem deliverSpecified_turns (o : Outlet) (p : Posting) :
    Disk.Turns o.monitor.Counted (o.deliverSpecified p) (o.afterOffer p) (o.afterOffer p).monitor.Counted := by
  unfold deliverSpecified afterOffer
  rw [← o.monitor_offer p]
  generalize o.offer p = offered
  obtain ⟨o', delivered⟩ := offered
  cases delivered with
  | true => exact (o'.monitor.add_counted p.size).bind (Disk.turns_pure _)
  | false => exact Disk.turns_pure _

/-! ## Counting twice -/

/-- A payload that may be sent has a byte, and counts with all of them. -/
theorem size_of_admits {m : Meter} {p : Posting} (admits : m.refuses p.size = false)
    (fits : m.sent.toNat + p.payload.length < UInt64.size) :
    1 ≤ p.size.toInt ∧ m.sent.toNat + p.size.toInt.toNat < UInt64.size := by
  have pos : 1 ≤ p.size.toInt := ((Usage.exceedsLimit_eq_false_iff _ _ _).mp admits).1
  have whole := Delivery.toNat_size (d := { payload := p.payload, task := 0 })
    (Nat.lt_of_le_of_lt (Nat.le_add_left _ _) fits) pos
  refine ⟨pos, ?_⟩
  rw [show p.size.toInt.toNat = p.payload.length from whole]
  exact fits

section

variable (o : Outlet) (p : Posting) {d : Delivery}

theorem afterAdvance_queued (h : d.stage = .queued) :
    o.afterAdvance d = (o, { d with stage := if o.sink.closed then .ended .dropped else .admitted }) := by
  simp [afterAdvance, Delivery.afterStep, h]

theorem afterAdvance_admitted (h : d.stage = .admitted) : o.afterAdvance d =
    (o.withMeter ((o.monitor.meter.reserve? d.size).getD o.monitor.meter),
      { d with stage := if o.monitor.meter.refuses d.size then .ended .refused else .reserved }) := by
  simp [afterAdvance, Delivery.afterStep, h]

/-- A payload is handed over. -/
theorem afterAdvance_reserved (h : d.stage = .reserved) : o.afterAdvance d =
    (o.noted (.handed d.payload :: (o.sink.transport.request d.payload).toOption.toList.map .asked),
      { d with stage := bif (o.sink.transport.request d.payload).isOk then .underway else .failed }) := by
  simp only [afterAdvance, Delivery.afterStep, h]
  cases o.sink.transport.request d.payload <;> simp [Except.toOption, Except.isOk, Except.toBool]

theorem afterAdvance_failed (h : d.stage = .failed) : o.afterAdvance d =
    (o.withMeter ((o.monitor.meter.release? d.size).getD o.monitor.meter), { d with stage := .ended .returned }) := by
  simp [afterAdvance, Delivery.afterStep, h]

theorem afterAdvance_ended (fate : Delivery.Fate) (h : d.stage = .ended fate) : o.afterAdvance d = (o, d) := by
  obtain ⟨payload, stage, task⟩ := d
  cases h
  simp [afterAdvance, Delivery.afterStep]

/-- Once a delivery is over before the payload is handed over, nothing is left to do. -/
theorem afterAdvance_answered {fate : Delivery.Fate} (h : d.stage = .ended fate) :
    o.afterAdvance (p.answered d) = (o, d) := by
  rw [Posting.answered, if_neg (by rw [h]; exact nofun), o.afterAdvance_ended fate h]

/-- A payload that was handed over and not taken is returned. -/
theorem afterAdvance_settled {requested : Bool} :
    (o.afterAdvance (p.answered { d with stage := bif requested then .underway else .failed })).1 =
      if requested && p.answer.isOk then o
      else o.withMeter ((o.monitor.meter.release? d.size).getD o.monitor.meter) := by
  cases requested with
  | false =>
    rw [cond_false, Posting.answered, if_neg (by exact nofun), o.afterAdvance_failed rfl]
    rfl
  | true =>
    rw [cond_true, Posting.answered, if_pos rfl]
    cases answer : p.answer with
    | ok u => rw [o.afterAdvance_ended .delivered rfl]; rfl
    | error f => rw [o.afterAdvance_failed rfl]; rfl

/-- The two ways of counting do the same, if the payload's bytes can be added to the count. -/
theorem afterDeliver_eq (fits : o.monitor.meter.sent.toNat + p.payload.length < UInt64.size) :
    o.afterDeliver p = o.afterOffer p := by
  -- What each step does, whatever has happened to the sink by then.
  let d (stage : Delivery.Stage) : Delivery := { payload := p.payload, stage, task := 0 }
  have ended (o : Outlet) (fate : Delivery.Fate) : o.afterAdvance (d (.ended fate)) = (o, d (.ended fate)) :=
    o.afterAdvance_ended fate rfl
  have answered (o : Outlet) (fate : Delivery.Fate) :
      o.afterAdvance (p.answered (d (.ended fate))) = (o, d (.ended fate)) := o.afterAdvance_answered p rfl
  have queued : o.afterAdvance (d .queued) = (o, d (if o.sink.closed then .ended .dropped else .admitted)) :=
    o.afterAdvance_queued rfl
  have admitted (o : Outlet) : o.afterAdvance (d .admitted) =
      (o.withMeter ((o.monitor.meter.reserve? p.size).getD o.monitor.meter),
        d (if o.monitor.meter.refuses p.size then .ended .refused else .reserved)) := o.afterAdvance_admitted rfl
  have reserved (o : Outlet) : o.afterAdvance (d .reserved) =
      (o.noted (.handed p.payload :: (o.sink.transport.request p.payload).toOption.toList.map .asked),
        d (bif (o.sink.transport.request p.payload).isOk then .underway else .failed)) := o.afterAdvance_reserved rfl
  have settled (o : Outlet) (requested : Bool) :
      (o.afterAdvance (p.answered (d (bif requested then .underway else .failed)))).1 =
        if requested && p.answer.isOk then o
        else o.withMeter ((o.monitor.meter.release? p.size).getD o.monitor.meter) :=
    o.afterAdvance_settled p (d := d .queued)
  have same (o' : Outlet) (h : o'.monitor = o.monitor) : o'.withMeter o.monitor.meter = o' := by
    rw [← h]
    rfl
  unfold afterDeliver afterOffer offer
  simp only [show o.afterAdvance { payload := p.payload, task := 0 } = _ from queued]
  cases closed : o.sink.closed with
  | true => simp only [if_true, Bool.true_or, Bool.false_eq_true, if_false, ended, answered]
  | false =>
    simp only [Bool.false_eq_true, if_false, Bool.false_or, admitted, monitor_closeAt]
    cases admits : o.monitor.meter.refuses p.size with
    | true =>
      simp only [if_true, Meter.reserve?_of_refuses admits, Option.getD_none, ended, answered, closeAt_withMeter,
        Bool.false_eq_true, if_false]
      exact same _ (by simp only [monitor_closeAt])
    | false =>
      obtain ⟨pos, room⟩ := size_of_admits admits fits
      simp only [Bool.false_eq_true, if_false, Meter.reserve?_of_admits admits, Option.getD_some, closeAt_withMeter,
        reserved, sink_withMeter, noted_withMeter]
      rw [settled]
      -- The count is left as it was raised, or lowered again by as much, in which case nothing has changed.
      generalize handed : (((((o.closeAt p .admitted).closeAt p .counted).noted _).closeAt p .underway).closeAt p
        .answered) = o'
      have kept : o'.monitor = o.monitor := by
        rw [← handed]
        simp only [monitor_closeAt, monitor_noted]
      split
      · simp only [kept, Meter.add?, if_neg (Usage.not_lt_one pos), Option.getD_some]
      · rw [meter_withMeter, withMeter_withMeter, Meter.release?_count_of_fits pos room, Option.getD_some]
        exact same o' kept

end

/-! ## Acts -/

/-- An act does what it does without a look at the files, and the count on disk follows, if it does so for a
payload that is sent. -/
theorem act_turns {way : Outlet → Posting → Disk Outlet} {o : Outlet}
    (delivers : ∀ p, o.Fits (.send p) →
      Disk.Turns o.monitor.Counted (way o p) (o.afterOffer p) (o.afterOffer p).monitor.Counted)
    {act : Act} (fits : o.Fits act) :
    Disk.Turns o.monitor.Counted (o.act way act) (o.after act) (o.after act).monitor.Counted := by
  cases act with
  | send p =>
    simp only [Outlet.act, send, after]
    cases o.sink.admits with
    | error f => exact Disk.turns_pure _
    | ok r => exact (delivers p fits).bind (Disk.turns_pure _)
  | keepUp u => exact (o.monitor.keepUp_counted u).bind (Disk.turns_pure _)
  | close => exact Disk.turns_pure _

theorem run_turns {way : Outlet → Posting → Disk Outlet}
    (delivers : ∀ (o : Outlet) p, o.Fits (.send p) →
      Disk.Turns o.monitor.Counted (way o p) (o.afterOffer p) (o.afterOffer p).monitor.Counted)
    (o : Outlet) (acts : List Act) (fits : Along after Fits o acts) :
    Disk.Turns o.monitor.Counted (o.run way acts) (acts.foldl after o) (acts.foldl after o).monitor.Counted := by
  induction acts generalizing o with
  | nil => exact Disk.turns_pure o
  | cons act acts ih => exact (act_turns (delivers o) fits.1).bind (ih (o.after act) fits.2)

/-! ## What is handed over -/

section

variable {o : Outlet} {p : Posting}

theorem handed_noted (o : Outlet) (entries : List Entry) :
    (o.noted entries).handed = o.handed ++ entries.filterMap Entry.payload? :=
  List.filterMap_append

theorem handed_asked (calls : List Call) : (calls.map Entry.asked).filterMap Entry.payload? = [] := by
  induction calls with
  | nil => rfl
  | cons call calls ih => exact ih

@[simp] theorem handed_close (o : Outlet) : o.close.handed = o.handed := by
  have own : ∀ closed : Bool, (if closed then [] else [Entry.closed]).filterMap Entry.payload? = [] := by decide
  show (o.noted _).handed = _
  rw [handed_noted, List.filterMap_append, handed_asked, own, List.append_nil]
  exact List.append_nil _

@[simp] theorem handed_closeAt (o : Outlet) (p : Posting) (now : Moment) :
    (o.closeAt p now).handed = o.handed := by
  unfold closeAt
  split
  · exact handed_close o
  · rfl

/-- A payload that is offered is handed over once, or not at all. -/
theorem handed_offer (o : Outlet) (p : Posting) : (o.offer p).1.handed =
    o.handed ++ if o.sink.closed || o.monitor.meter.refuses p.size then [] else [p.payload] := by
  unfold offer
  split
  · simp only [handed_closeAt, List.append_nil]
  · simp only [handed_closeAt, handed_noted, List.filterMap_cons, Entry.payload?, handed_asked]

theorem handed_afterOffer (o : Outlet) (p : Posting) : (o.afterOffer p).handed =
    o.handed ++ if o.sink.closed || o.monitor.meter.refuses p.size then [] else [p.payload] := by
  rw [← handed_offer]
  unfold afterOffer
  simp only
  split <;> rfl

/-- An act hands over the payload that is sent, or nothing; once the sink is closed, nothing. -/
theorem handed_after (o : Outlet) (act : Act) : ∃ more, (o.after act).handed = o.handed ++ more ∧
    more.Sublist act.payload?.toList ∧ (o.sink.closed = true → more = []) := by
  cases act with
  | send p =>
    simp only [after]
    cases o.sink.admits with
    | error f => exact ⟨[], (List.append_nil _).symm, List.nil_sublist _, fun _ => rfl⟩
    | ok r =>
      refine ⟨_, o.handed_afterOffer p, ?_, fun closed => by simp [closed]⟩
      split
      · exact List.nil_sublist _
      · exact List.Sublist.refl _
  | keepUp u => exact ⟨[], (List.append_nil _).symm, List.nil_sublist _, fun _ => rfl⟩
  | close => exact ⟨[], (handed_close o).trans (List.append_nil _).symm, List.nil_sublist _, fun _ => rfl⟩

theorem handed_foldl (o : Outlet) (acts : List Act) : ∃ more, (acts.foldl after o).handed = o.handed ++ more ∧
    more.Sublist (acts.filterMap Act.payload?) := by
  induction acts generalizing o with
  | nil => exact ⟨[], (List.append_nil _).symm, List.Sublist.refl _⟩
  | cons act acts ih =>
    obtain ⟨first, now, sub, -⟩ := o.handed_after act
    obtain ⟨more, later, subs⟩ := ih (o.after act)
    refine ⟨first ++ more, ?_, ?_⟩
    · rw [List.foldl_cons, later, now, List.append_assoc]
    · have parts : (act :: acts).filterMap Act.payload? = act.payload?.toList ++ acts.filterMap Act.payload? := by
        cases act <;> rfl
      rw [parts]
      exact sub.append subs

end

/-! ## Closed sinks -/

section

variable {o : Outlet} {p : Posting}

theorem closed_close (o : Outlet) : o.close.sink.closed = true := by
  show o.sink.close.2.closed = true
  unfold Sink.close
  split
  · assumption
  · rfl

theorem origin_close (o : Outlet) : o.close.sink.origin = o.sink.origin := by
  show o.sink.close.2.origin = _
  unfold Sink.close
  split <;> rfl

/-- What the closing at some moment of a delivery keeps. -/
theorem sink_closeAt {P : Sink → Prop} (keeps : ∀ o : Outlet, P o.sink → P o.close.sink) (h : P o.sink)
    (p : Posting) (now : Moment) : P (o.closeAt p now).sink := by
  unfold closeAt
  split
  · exact keeps o h
  · exact h

/-- What closing keeps of a sink is kept by every act. -/
theorem sink_after {P : Sink → Prop} (keeps : ∀ o : Outlet, P o.sink → P o.close.sink) (h : P o.sink)
    (act : Act) : P (o.after act).sink := by
  cases act with
  | send p =>
    have twice {o : Outlet} (h : P o.sink) (a b : Moment) : P ((o.closeAt p a).closeAt p b).sink :=
      sink_closeAt keeps (sink_closeAt keeps h p a) p b
    have offered : P (o.offer p).1.sink := by
      unfold offer
      split
      · exact twice (twice h .admitted .counted) .underway .answered
      · exact twice (o := noted _ _) (twice h .admitted .counted) .underway .answered
    simp only [after]
    cases o.sink.admits with
    | error f => exact h
    | ok r =>
      show P (o.afterOffer p).sink
      unfold afterOffer
      simp only
      split <;> exact offered
  | keepUp u => exact h
  | close => exact keeps o h

theorem closed_after (closed : o.sink.closed = true) (act : Act) : (o.after act).sink.closed = true :=
  sink_after (P := fun s => s.closed = true) (fun o _ => o.closed_close) closed act

/-- Once the sink is closed, nothing is handed over. -/
theorem handed_of_closed (closed : o.sink.closed = true) (acts : List Act) :
    (acts.foldl after o).handed = o.handed := by
  induction acts generalizing o with
  | nil => rfl
  | cons act acts ih =>
    obtain ⟨more, now, -, none⟩ := o.handed_after act
    rw [List.foldl_cons, ih (closed_after closed act), now, none closed, List.append_nil]

/-- A sink that was started answers everybody alike. -/
theorem results_foldl (started : o.sink.origin.isSome = true) (acts : List Act) :
    (acts.foldl after o).results =
      o.results ++ List.replicate (acts.filterMap Act.payload?).length (.ok ()) := by
  induction acts generalizing o with
  | nil => exact (List.append_nil _).symm
  | cons act acts ih =>
    have still : (o.after act).sink.origin.isSome = true :=
      sink_after (P := fun s => s.origin.isSome = true) (fun o h => by rwa [origin_close]) started act
    rw [List.foldl_cons, ih still]
    cases act with
    | send p =>
      have admitted : ∃ r, o.sink.admits = .ok r := by
        unfold Sink.admits
        rw [Option.isNone_eq_false_iff.mpr started]
        split <;> exact ⟨_, rfl⟩
      have quiet : (o.afterOffer p).results = o.results := by
        unfold afterOffer offer
        simp only
        split <;> split <;> simp
      obtain ⟨r, admits⟩ := admitted
      simp only [after, admits, resulting, quiet, List.filterMap_cons, Act.payload?, List.length_cons,
        List.replicate_succ, List.append_assoc, List.singleton_append]
    | keepUp u => rfl
    | close => rfl

/-! ## The order of what is seen -/

/-- Whether the sink is closed once it was seen to be, and nothing was handed over after that. -/
structure Orderly (o : Outlet) : Prop where
  closed : .closed ∈ o.log → o.sink.closed = true
  quiet : o.log.Pairwise fun a b => a = .closed → b.payload? = none

/-- What is seen of a sink besides payloads may come at any time. -/
theorem pairwise_append_quiet {log entries : List Entry}
    (quiet : log.Pairwise fun a b => a = .closed → b.payload? = none)
    (silent : ∀ e ∈ entries, e.payload? = none) :
    (log ++ entries).Pairwise fun a b => a = .closed → b.payload? = none :=
  List.pairwise_append.mpr ⟨quiet, List.pairwise_of_forall_mem_list fun _ _ b hb _ => silent b hb,
    fun _ _ b hb _ => silent b hb⟩

theorem Orderly.close (h : o.Orderly) : o.close.Orderly := by
  have silent : ∀ e ∈ (if o.sink.closed then [] else [Entry.closed]) ++ o.sink.close.1.map .asked,
      e.payload? = none := by
    intro e he
    rcases List.mem_append.mp he with own | asked
    · split at own
      · cases own
      · rw [List.mem_singleton.mp own]
        rfl
    · obtain ⟨call, -, rfl⟩ := List.mem_map.mp asked
      rfl
  exact ⟨fun _ => o.closed_close, pairwise_append_quiet h.quiet silent⟩

theorem Orderly.closeAt (h : o.Orderly) (p : Posting) (now : Moment) : (o.closeAt p now).Orderly := by
  unfold Outlet.closeAt
  split
  · exact h.close
  · exact h

/-- A payload is handed over while the sink is open. -/
theorem Orderly.handOver (h : o.Orderly) (unclosed : o.sink.closed = false) (payload : Bytes)
    (calls : List Call) : (o.noted (.handed payload :: calls.map .asked)).Orderly := by
  have fresh : Entry.closed ∉ o.log := fun seen => by
    rw [h.closed seen] at unclosed
    cases unclosed
  have silent : ∀ e ∈ Entry.handed payload :: calls.map .asked, e ≠ .closed := by
    intro e he
    rcases List.mem_cons.mp he with rfl | asked
    · exact nofun
    · obtain ⟨call, -, rfl⟩ := List.mem_map.mp asked
      exact nofun
  refine ⟨fun seen => ?_, List.pairwise_append.mpr ⟨h.quiet, ?_, fun a ha b _ same => ?_⟩⟩
  · rcases List.mem_append.mp seen with old | new
    · exact absurd old fresh
    · exact absurd rfl (silent _ new)
  · exact List.pairwise_of_forall_mem_list fun a ha b _ same => absurd same (silent a ha)
  · exact absurd (same ▸ ha) fresh

/-- Unless the sink is closed between the look whether it is open and the hand-over, order is kept. -/
theorem Orderly.after (h : o.Orderly) {act : Act} (timely : act.slips = false) : (o.after act).Orderly := by
  cases act with
  | keepUp u => exact ⟨h.closed, h.quiet⟩
  | close => exact h.close
  | send p =>
    have offered : (o.offer p).1.Orderly := by
      unfold offer
      split
      · exact (((h.closeAt p .admitted).closeAt p .counted).closeAt p .underway).closeAt p .answered
      · next taken =>
        have first : (o.closeAt p .admitted).closeAt p .counted = o := by
          simp only [Act.slips, Bool.or_eq_false_iff, beq_eq_false_iff_ne, ne_eq] at timely
          rw [Outlet.closeAt, if_neg timely.2, Outlet.closeAt, if_neg timely.1]
        have unclosed : o.sink.closed = false := by
          rw [Bool.or_eq_true, not_or, Bool.not_eq_true] at taken
          exact taken.1
        simp only [first]
        exact ((h.handOver unclosed _ _).closeAt p .underway).closeAt p .answered
    simp only [Outlet.after]
    cases o.sink.admits with
    | error f => exact ⟨h.closed, h.quiet⟩
    | ok r =>
      unfold afterOffer
      simp only
      split
      · exact ⟨offered.closed, offered.quiet⟩
      · exact ⟨offered.closed, offered.quiet⟩

theorem Orderly.foldl (h : o.Orderly) {acts : List Act} (timely : ∀ act ∈ acts, act.slips = false) :
    (acts.foldl Outlet.after o).Orderly :=
  (Along.of_forall timely o).invariant (fun h quiet => h.after quiet) h

end

/-! ## Refinement -/

theorem store_after (o : Outlet) (act : Act) : (o.after act).monitor.store = o.monitor.store := by
  cases act with
  | send p =>
    have same : (o.offer p).1.monitor.store = o.monitor.store := congrArg Monitor.store (o.monitor_offer p)
    simp only [after]
    cases o.sink.admits with
    | error f => rfl
    | ok r =>
      show (o.afterOffer p).monitor.store = _
      unfold afterOffer
      simp only
      split
      · exact same
      · exact same
  | keepUp u => rfl
  | close => rfl

theorem store_foldl (o : Outlet) (acts : List Act) : (acts.foldl after o).monitor.store = o.monitor.store := by
  induction acts generalizing o with
  | nil => rfl
  | cons act acts ih => exact (ih (o.after act)).trans (o.store_after act)

/-- Counting a payload before its delivery, and returning the count of one that was not delivered, cannot
be told from counting it afterwards, whatever is sent, answered, allowed and seen of the days, and whenever
the sink is closed: the same payloads are handed to the transport in the same order, it is asked for the
same, all calls come to the same, and so do the meter and the count on disk. Each payload is handed over at
most once. A sink that was started accepts everything. Nothing that is sent once the sink is closed is
handed over; and nothing at all, unless it is closed between the look at it and the hand-over. -/
theorem refines_specified (sink : Sink) {m : Monitor} {t : FileTree} (counted : m.Counted t)
    (acts : List Act) (fits : Along after Fits { sink, monitor := m } acts) :
    let o : Outlet := { sink, monitor := m }
    let last := acts.foldl after o
    (∃ t', o.run deliver acts t = .ok last t' ∧
      Monitor.storedCount m.store t' = .ok last.monitor.meter.sent t') ∧
    (∃ t', o.run deliverSpecified acts t = .ok last t' ∧
      Monitor.storedCount m.store t' = .ok last.monitor.meter.sent t') ∧
    last.handed.Sublist (acts.filterMap Act.payload?) ∧
    (sink.origin.isSome = true →
      last.results = List.replicate (acts.filterMap Act.payload?).length (.ok ())) ∧
    (∀ first rest, acts = first ++ rest → (first.foldl after o).sink.closed = true →
      last.handed = (first.foldl after o).handed) ∧
    ((∀ act ∈ acts, act.slips = false) →
      last.log.Pairwise fun a b => a = .closed → b.payload? = none) := by
  intro o last
  have stored {t' : FileTree} (counted : last.monitor.Counted t') :
      Monitor.storedCount m.store t' = .ok last.monitor.meter.sent t' := by
    have same : last.monitor.store = m.store := o.store_foldl acts
    rw [Monitor.storedCount_run, ← same, counted.stored]
  refine ⟨?_, ?_, ?_, fun started => ?_, fun first rest split closed => ?_, fun timely => ?_⟩
  · have delivers (o : Outlet) (p : Posting) (fits : o.Fits (.send p)) :
        Disk.Turns o.monitor.Counted (o.deliver p) (o.afterOffer p) (o.afterOffer p).monitor.Counted :=
      o.afterDeliver_eq p fits ▸ o.deliver_turns p
    obtain ⟨t', run, kept⟩ := run_turns delivers o acts fits t counted
    exact ⟨t', run, stored kept⟩
  · obtain ⟨t', run, kept⟩ := run_turns (fun o p _ => o.deliverSpecified_turns p) o acts fits t counted
    exact ⟨t', run, stored kept⟩
  · obtain ⟨more, all, sub⟩ := o.handed_foldl acts
    rw [show last.handed = more from all]
    exact sub
  · exact results_foldl (o := o) started acts
  · have whole : last = rest.foldl after (first.foldl after o) := by
      rw [← List.foldl_append, ← split]
    rw [whole]
    exact handed_of_closed closed rest
  · have fresh : o.Orderly := { closed := nofun, quiet := .nil }
    exact (fresh.foldl timely).quiet

/-- A limit has room for some payloads, and the sink is closed while the transport fails with the last of
them. -/
theorem refines_specified_limited :
    let store : Store := ⟨"/state"⟩
    let t := (({} : FileTree).put ["state"] .directory).put ["state", "usage.json"]
      (.file (Store.written (Monitor.countJson 7)))
    let sink : Sink := { transport := .custom, origin := some ⟨"installation", "203.0.113.7"⟩ }
    let acts : List Act := [
      .keepUp (.setPolicy { dataLimit := 100 }),
      .send { payload := List.replicate 40 1 },
      .send { payload := List.replicate 70 2 },
      .send { payload := [] },
      .keepUp (.check ⟨2024, 3, 14⟩),
      .send { payload := List.replicate 30 3, answer := .error (.transport "down"), closing := some .underway },
      .send { payload := [4] }]
    ∃ m, Monitor.ofStore store t = .ok m t ∧ m.Counted t ∧
      let o : Outlet := { sink, monitor := m }
      let last := acts.foldl after o
      Along after Fits o acts ∧
      (∃ t', o.run deliver acts t = .ok last t' ∧
        Monitor.storedCount store t' = .ok last.monitor.meter.sent t') ∧
      (∃ t', o.run deliverSpecified acts t = .ok last t' ∧
        Monitor.storedCount store t' = .ok last.monitor.meter.sent t') ∧
      last.handed = [List.replicate 40 1, List.replicate 30 3] ∧ last.monitor.meter.sent = 47 := by
  intro store t sink acts
  obtain ⟨writable, begun⟩ : Monitor.Writable store t ∧
      Monitor.ofStore store t = .ok { store, meter := { sent := 7 } } t :=
    Monitor.begins_of_file (p := ["state", "usage.json"]) (q := ["state", "usage.json.tmp"])
      (by decide +kernel) rfl (by decide +kernel) (by decide +kernel)
  have counted := Monitor.counted_ofStore writable begun
  have fits : Along after Fits { sink, monitor := { store, meter := { sent := 7 } } } acts := by decide +kernel
  obtain ⟨deliver, specified, -⟩ := refines_specified sink counted acts fits
  exact ⟨_, begun, counted, fits, deliver, specified, by decide +kernel, by decide +kernel⟩

end Outlet

end CrashReporter
