import CrashReporter.Proofs.Json.Records
import CrashReporter.Proofs.Store
import CrashReporter.Proofs.Usage.Action

/-!
# The count on disk

What a process that begins anew would find is what is in the count's file (`Monitor.storedCount_run`). As
long as that file can be written, it holds the count of the meter (`Monitor.Counted`) once it was written,
and after everything that happens to a monitor: being asked for bytes (`Monitor.reserve_counted`,
`Monitor.release_counted`, `Monitor.add_counted`) and being kept up (`Monitor.keepUp_counted`).
-/

namespace CrashReporter

open Json in
/-- A kept count reads back. -/
theorem Usage.Monitor.reads_countJson (sent : UInt64) : countRecord.shape.Reads 2 (countJson sent) sent :=
  Record.shape_reads (d := some sent)
    (.one rfl rfl ((Shape.word64_reads sent 1).member _ _ _ _ _) (.none _)) rfl

namespace Usage.Monitor

open FileTree Store

theorem plain_countName : Plain countName ∧ Plain (draftName countName) := by decide

theorem plain_policyName : Plain policyName ∧ Plain (draftName policyName) := by decide

/-- The count that is in the bytes of a document, or nothing. -/
def countOf (content : Option Bytes) : UInt64 :=
  (content.bind fun content => (countRecord.shape.ofText content).toOption).getD 0

theorem storedCount_run (store : Store) (t : FileTree) :
    storedCount store t = .ok (countOf (store.content? countName t)) t := by
  have loaded := store.load_eq countRecord.shape plain_countName.1 t
  unfold storedCount
  rw [Disk.bind_run loaded]
  rfl

theorem ofStore_eq (store : Store) (t : FileTree) :
    ofStore store t = .ok { store, meter := { sent := countOf (store.content? countName t) } } t :=
  Disk.bind_run (storedCount_run store t)

theorem countOf_written (sent : UInt64) : countOf (some (written (countJson sent))) = sent := by
  have read : countRecord.shape.ofText (written (countJson sent)) = .ok sent :=
    (reads_countJson sent).pretty (by decide)
  rw [countOf, Option.bind_some, read]
  rfl

/-- Whether the count can be written: no directory is in the place of its file or of the draft. -/
def Writable (store : Store) (t : FileTree) : Prop :=
  store.Takes (draftName countName) t ∧ store.Takes countName t

/-- Whether the count can be written, and the meter's is the one that is. -/
structure Counted (m : Monitor) (t : FileTree) : Prop where
  writable : Writable m.store t
  stored : countOf (m.store.content? countName t) = m.meter.sent

theorem writable_of_confined {names : List String} {store : Store} {t t' : FileTree} (confined : Confined names t t') :
    Writable store t' ↔ Writable store t :=
  and_congr (takes_of_confined plain_countName.2 confined) (takes_of_confined plain_countName.1 confined)

/-- A monitor that begins has the count that is written. -/
theorem counted_ofStore {store : Store} {m : Monitor} {t : FileTree} (writable : Writable store t)
    (begun : ofStore store t = .ok m t) : m.Counted t := by
  rw [ofStore_eq] at begun
  cases begun
  exact ⟨writable, rfl⟩

/-- A count that is in its file is the one that a monitor begins with, and where no directory is in the
place of the draft, it can be written. -/
theorem begins_of_file {store : Store} {t : FileTree} {p q : Path} {sent : UInt64}
    (place : store.place? countName t = some p) (file : t.content? p = some (written (countJson sent)))
    (draft : store.place? (draftName countName) t = some q) (vacant : t.isDirectory q = false) :
    Writable store t ∧ ofStore store t = .ok { store, meter := { sent } } t := by
  refine ⟨⟨⟨q, draft, vacant⟩, p, place, isDirectory_of_content? file⟩, ?_⟩
  have content : store.content? countName t = some (written (countJson sent)) := by
    rw [Store.content?, place, Option.bind_some, file]
  rw [ofStore_eq, content, countOf_written]

variable (m : Monitor)

/-- Once the count is written, the meter's is. -/
theorem persist_turns : Disk.Turns (Writable m.store) m.persist () m.Counted := fun t writable => by
  have names := plain_countName
  rcases m.store.save_run names.1 names.2 (countJson m.meter.sent) t with
    ⟨-, -, t', saved, confined, content⟩ | ⟨refused, -⟩
  · refine ⟨t', Disk.bind_run (Disk.attempt_ok saved), (writable_of_confined confined).mpr writable, ?_⟩
    rw [content, countOf_written]
  · exact absurd writable refused

theorem update_counted (meter : Meter) :
    Disk.Turns m.Counted (m.update meter) { m with meter } ({ m with meter } : Monitor).Counted := by
  have persisted : Disk.Turns m.Counted ({ m with meter } : Monitor).persist ()
      ({ m with meter } : Monitor).Counted :=
    fun t counted => ({ m with meter } : Monitor).persist_turns t counted.writable
  exact persisted.bind (Disk.turns_pure _)

theorem updateIf_counted (next : Option Meter) :
    Disk.Turns m.Counted (m.updateIf next) { m with meter := next.getD m.meter }
      ({ m with meter := next.getD m.meter } : Monitor).Counted := by
  cases next with
  | some meter => exact m.update_counted meter
  | none => exact Disk.turns_pure m

theorem reserve_counted (size : Int64) :
    Disk.Turns m.Counted (m.reserve size)
      (!m.meter.refuses size, { m with meter := (m.meter.reserve? size).getD m.meter })
      ({ m with meter := (m.meter.reserve? size).getD m.meter } : Monitor).Counted := by
  rw [← Meter.isSome_reserve]
  exact (m.updateIf_counted _).bind (Disk.turns_pure _)

theorem release_counted (size : Int64) :
    Disk.Turns m.Counted (m.release size) { m with meter := (m.meter.release? size).getD m.meter }
      ({ m with meter := (m.meter.release? size).getD m.meter } : Monitor).Counted :=
  m.updateIf_counted _

theorem add_counted (size : Int64) :
    Disk.Turns m.Counted (m.add size) { m with meter := (m.meter.add? size).getD m.meter }
      ({ m with meter := (m.meter.add? size).getD m.meter } : Monitor).Counted :=
  m.updateIf_counted _

variable {m} in
/-- A change of the meter that leaves its count alone needs no writing. -/
theorem Counted.withMeter {t : FileTree} (counted : m.Counted t) {meter : Meter}
    (sent : meter.sent = m.meter.sent) : ({ m with meter } : Monitor).Counted t :=
  ⟨counted.writable, counted.stored.trans sent.symm⟩

/-- A policy that comes in is copied to a file of its own. -/
theorem leaves_refresh (answer : Except Failure Policy) :
    (m.refresh answer).Leaves (Confined [draftName policyName, policyName]) := by
  cases answer with
  | error f => exact (Disk.keeps_pure _).leaves
  | ok p =>
    have names := plain_policyName
    have saved := (m.store.leaves_save names.1 names.2 p.toJson).attempt
    exact saved.bind fun _ => (Disk.keeps_pure _).leaves

theorem leaves_tick (answer : Except Failure Policy) :
    (m.tick answer).Leaves (Confined [draftName policyName, policyName]) := by
  unfold tick
  simp only
  split
  · refine (leaves_refresh _ answer).bind fun fetched => ?_
    cases fetched <;> exact (Disk.keeps_pure _).leaves
  · exact (Disk.keeps_pure _).leaves

theorem refresh_counted (answer : Except Failure Policy) :
    Disk.Turns m.Counted (m.refresh answer) (m.setPolicy <$> answer) m.Counted := by
  intro t counted
  obtain ⟨t', run⟩ := m.refresh_gives answer t
  have confined := (m.leaves_refresh answer).of_run run
  refine ⟨t', run, (writable_of_confined confined).mpr counted.writable, ?_⟩
  rw [content?_of_confined plain_countName.1 confined (by decide), counted.stored]

theorem tick_counted (answer : Except Failure Policy) :
    Disk.Turns m.Counted (m.tick answer) (m.meter.tick.2, { m with meter := m.meter.keepUp (.tick answer) })
      ({ m with meter := m.meter.keepUp (.tick answer) } : Monitor).Counted := by
  obtain ⟨ticks, fst⟩ := m.meter.tick_fst
  intro t counted
  have ticked : ({ m with meter := m.meter.tick.1 } : Monitor).Counted t := counted.withMeter (by rw [fst])
  unfold tick
  simp only [Meter.keepUp]
  by_cases due : m.meter.tick.2 = true
  · rw [if_pos due, if_pos due, due]
    obtain ⟨t', run, kept⟩ := refresh_counted { m with meter := m.meter.tick.1 } answer t ticked
    rw [Disk.bind_run run]
    refine ⟨t', ?_, kept.withMeter (Meter.sent_takeOver _ answer)⟩
    cases answer <;> rfl
  · rw [if_neg due, if_neg due, Bool.eq_false_iff.mpr due]
    exact ⟨t, rfl, ticked⟩

theorem check_counted (today : Date) :
    Disk.Turns m.Counted (m.check today) { m with meter := m.meter.check today }
      ({ m with meter := m.meter.check today } : Monitor).Counted := by
  unfold check
  split
  · exact m.update_counted _
  · next quiet =>
    refine fun t counted => ⟨t, rfl, counted.withMeter ?_⟩
    rw [Meter.sent_check, if_neg quiet]

theorem keepUp_counted (u : Upkeep) :
    Disk.Turns m.Counted (m.keepUp u) { m with meter := m.meter.keepUp u }
      ({ m with meter := m.meter.keepUp u } : Monitor).Counted := by
  cases u with
  | setPolicy p => exact fun t counted => ⟨t, rfl, counted.withMeter rfl⟩
  | refresh answer =>
    refine fun t counted => ?_
    obtain ⟨t', run, kept⟩ := m.refresh_counted answer t counted
    refine ⟨t', ?_, kept.withMeter (m.meter.sent_takeOver answer)⟩
    rw [keepUp, Disk.bind_run run]
    cases answer <;> rfl
  | tick answer => exact (m.tick_counted answer).bind (Disk.turns_pure _)
  | check today => exact m.check_counted today
  | persist =>
    have persisted : Disk.Turns m.Counted m.persist () m.Counted :=
      fun t counted => m.persist_turns t counted.writable
    exact persisted.bind (Disk.turns_pure _)

end Usage.Monitor

end CrashReporter
