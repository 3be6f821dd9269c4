import CrashReporter.Proofs.Usage.Stored
import Mathlib.Data.List.Forall2

/-!
# What a reload finds

The count is written after every change, and a write that fails is not tried again. Meanwhile others may
change whatever they like on the disk, as long as the count's file holds what it held (`Disturbance`): in
this way each write succeeds or fails as one pleases (`Monitor.exists_disturbances`).

* `Monitor.ask_eq`: a request has the count written once, or not at all, and nobody looks whether that
  succeeded;
* `Monitor.ask_run`: the file then holds the new count, or what it held before;
* `Monitor.askAll_run`: so the answers and the meters of a run are those of `Meter.serveAll`, which knows
  no disk, and the file holds the last count that was written (`lastWritten`).
-/

namespace CrashReporter.Usage

open FileTree Store

/-- What a monitor is asked for. -/
inductive Request where
  | reserve (size : Int64)
  | release (size : Int64)
  | add (size : Int64)
  | setPolicy (p : Policy)
  | check (today : Date)
  | persist

/-- What others do on the disk, whatever it is: what the count's file holds stays. -/
structure Disturbance (store : Store) where
  change : FileTree → FileTree
  spares : ∀ t, store.content? Monitor.countName (change t) = store.content? Monitor.countName t

/-- Nothing. -/
def Disturbance.none (store : Store) : Disturbance store := ⟨id, fun _ => rfl⟩

/-- A change of the disk, unless it would change what the count's file holds. -/
def Disturbance.guard (store : Store) (change : FileTree → FileTree) : Disturbance store where
  change t := if store.content? Monitor.countName (change t) = store.content? Monitor.countName t then change t else t
  spares t := by
    split
    · assumption
    · rfl

/-- A request, and what happens on the disk before. -/
structure Turn (store : Store) where
  before : Disturbance store
  request : Request

/-- The same request, and nothing happens before. -/
def Turn.undisturbed {store : Store} (turn : Turn store) : Turn store := { turn with before := .none store }

/-- What is seen of a request. -/
structure Sight where
  /-- Whether bytes may be sent, if that was asked. -/
  answer : Option Bool
  /-- The meter afterwards. -/
  meter : Meter
  /-- Whether the count could be written, if it was to be. -/
  wrote : Option Bool
  deriving DecidableEq

namespace Sight

/-- What is seen without a look at the disk. -/
def inMemory (s : Sight) : Option Bool × Meter := (s.answer, s.meter)

/-- The count that was written. -/
def written? (s : Sight) : Option UInt64 := if s.wrote = some true then some s.meter.sent else none

end Sight

/-- The count that was written last, or the one before all of them. -/
def lastWritten (first : UInt64) (sights : List Sight) : UInt64 := (sights.filterMap Sight.written?).getLastD first

namespace Meter

/-- The answer to a request, if it has one. -/
def answer? (m : Meter) : Request → Option Bool
  | .reserve size => some (!m.refuses size)
  | _ => none

/-- The meter after a request. -/
def serve (m : Meter) : Request → Meter
  | .reserve size => (m.reserve? size).getD m
  | .release size => (m.release? size).getD m
  | .add size => (m.add? size).getD m
  | .setPolicy p => m.setPolicy p
  | .check today => m.check today
  | .persist => m

/-- Whether a request has the count written. -/
def writes (m : Meter) : Request → Bool
  | .reserve size => (m.reserve? size).isSome
  | .release size => (m.release? size).isSome
  | .add size => (m.add? size).isSome
  | .setPolicy _ => false
  | .check today => m.resetsOn today
  | .persist => true

/-- The answers to requests, each with the meter afterwards, and the meter after all of them. -/
def serveAll (m : Meter) : List Request → List (Option Bool × Meter) × Meter
  | [] => ([], m)
  | r :: rest =>
    let (seen, m') := (m.serve r).serveAll rest
    ((m.answer? r, m.serve r) :: seen, m')

/-- What is not written has not changed. -/
theorem sent_serve {m : Meter} {r : Request} (unwritten : m.writes r = false) : (m.serve r).sent = m.sent := by
  cases r with
  | reserve size | release size | add size =>
    rw [serve, Option.not_isSome_iff_eq_none.mp (Bool.eq_false_iff.mp unwritten), Option.getD_none]
  | setPolicy p => rfl
  | check today => exact (m.sent_check today).trans (if_neg (Bool.eq_false_iff.mp unwritten))
  | persist => cases unwritten

end Meter

namespace Monitor

/-- Asks for something, with the answer if there is one. -/
def ask (m : Monitor) : Request → Disk (Option Bool × Monitor)
  | .reserve size => do
    let (granted, m) ← m.reserve size
    return (some granted, m)
  | .release size => do return (none, ← m.release size)
  | .add size => do return (none, ← m.add size)
  | .setPolicy p => return (none, m.setPolicy p)
  | .check today => do return (none, ← m.check today)
  | .persist => do
    m.persist
    return (none, m)

/-- Whether the count can be written on a tree, if a request has it written. -/
def wrote (m : Monitor) (r : Request) (t : FileTree) : Option Bool :=
  if m.meter.writes r then
    some ((m.store.save countName (countJson (m.meter.serve r).sent)).answer? t).isSome
  else none

/-- What is seen of a request, asked on a tree. -/
def sight (m : Monitor) (r : Request) (t : FileTree) : Sight :=
  ⟨m.meter.answer? r, m.meter.serve r, m.wrote r t⟩

/-- Asks for one thing after the other, and tells what is seen. -/
def askAll {store : Store} (m : Monitor) : List (Turn store) → Disk (List Sight × Monitor)
  | [] => return ([], m)
  | turn :: rest => do
    modify turn.before.change
    let t ← get
    let (answer, m') ← m.ask turn.request
    let (sights, last) ← m'.askAll rest
    return (⟨answer, m'.meter, m.wrote turn.request t⟩ :: sights, last)

/-! ## One request -/

/-- The request for a change of the count, if it is granted. -/
theorem updateIf_answered (m : Monitor) (next : Option Meter) (answer : Option Bool) :
    (do return (answer, ← m.updateIf next)) = (do
      if next.isSome then
        let _ ← Disk.attempt (m.store.save countName (countJson (next.getD m.meter).sent))
      return (answer, { m with meter := next.getD m.meter })) := by
  cases next with
  | none => rfl
  | some meter =>
    simp only [updateIf, update, persist, bind_assoc, pure_bind]
    rfl

/-- The count is written at most once for a request, which is answered all the same if that fails. -/
theorem ask_eq (m : Monitor) (r : Request) :
    m.ask r = do
      if m.meter.writes r then
        let _ ← Disk.attempt (m.store.save countName (countJson (m.meter.serve r).sent))
      return (m.meter.answer? r, { m with meter := m.meter.serve r }) := by
  cases r with
  | reserve size =>
    have granted := m.updateIf_answered (m.meter.reserve? size) (some (m.meter.reserve? size).isSome)
    simp only [ask, reserve, bind_assoc, pure_bind, Meter.answer?, ← Meter.isSome_reserve]
    exact granted
  | release size => exact m.updateIf_answered (m.meter.release? size) none
  | add size => exact m.updateIf_answered (m.meter.add? size) none
  | setPolicy p => rfl
  | check today =>
    cases resets : m.meter.resetsOn today with
    | true =>
      simp only [ask, check, Meter.writes, resets, if_true, update, persist, bind_assoc, pure_bind]
      rfl
    | false =>
      simp only [ask, check, Meter.writes, resets, Bool.false_eq_true, if_false, pure_bind]
      rfl
  | persist =>
    simp only [ask, persist, bind_assoc, pure_bind]
    rfl

variable {store : Store} {t : FileTree}

/-- A request is answered whatever the disk is like, and then the count's file holds the new count, or, if it
was not written, what it held. -/
theorem ask_run (m : Monitor) (r : Request) (t : FileTree) :
    ∃ t', m.ask r t = .ok (m.meter.answer? r, { m with meter := m.meter.serve r }) t' ∧
      Confined [draftName countName, countName] t t' ∧
      countOf (m.store.content? countName t') =
        (m.sight r t).written?.getD (countOf (m.store.content? countName t)) := by
  have names := plain_countName
  rw [ask_eq, sight, wrote]
  cases writes : m.meter.writes r with
  | false => exact ⟨t, rfl, .refl _ t, rfl⟩
  | true =>
    simp only [if_true]
    rcases m.store.save_run names.1 names.2 (countJson (m.meter.serve r).sent) t with
      ⟨-, -, t', saved, confined, content⟩ | ⟨-, e, t', refused, confined, content⟩
    · refine ⟨t', Disk.bind_run (Disk.attempt_ok saved), confined, ?_⟩
      rw [Disk.answer?_ok saved, content, countOf_written]
      rfl
    · refine ⟨t', Disk.bind_run (Disk.attempt_refused refused), confined, ?_⟩
      rw [Disk.answer?_refused refused, content]
      rfl

/-- The count is written if no directory is in the way, and only then. -/
theorem wrote_iff (m : Monitor) {r : Request} {b : Bool} (h : m.wrote r t = some b) :
    b = true ↔ Writable m.store t := by
  have names := plain_countName
  unfold wrote at h
  split at h
  · rw [← Option.some.inj h]
    rcases m.store.save_run names.1 names.2 (countJson (m.meter.serve r).sent) t with
      ⟨draft, final, t', saved, -⟩ | ⟨refused, e, t', failed, -⟩
    · rw [Disk.answer?_ok saved]
      exact iff_of_true rfl ⟨draft, final⟩
    · rw [Disk.answer?_refused failed]
      exact iff_of_false Bool.false_ne_true refused
  · cases h

/-- If no write fails, the count that was written last is the meter's: what is not written has not changed. -/
theorem written_sight (m : Monitor) {r : Request} (sound : m.wrote r t ≠ some false) :
    (m.sight r t).written?.getD m.meter.sent = (m.meter.serve r).sent := by
  unfold Sight.written? sight
  cases outcome : m.wrote r t with
  | none =>
    have unwritten : m.meter.writes r = false := by
      unfold wrote at outcome
      split at outcome
      · cases outcome
      · next quiet => exact Bool.eq_false_iff.mpr quiet
    exact (Meter.sent_serve unwritten).symm
  | some done =>
    cases done with
    | true => rfl
    | false => exact absurd outcome sound

/-! ## One after the other -/

theorem lastWritten_cons (first : UInt64) (s : Sight) (sights : List Sight) :
    lastWritten first (s :: sights) = lastWritten (s.written?.getD first) sights := by
  unfold lastWritten
  cases h : s.written? with
  | none => rw [List.filterMap_cons_none h, Option.getD_none]
  | some sent => rw [List.filterMap_cons_some h, Option.getD_some, List.getLastD_cons]

/-- A turn, and then the rest of them. -/
theorem askAll_cons {m last : Monitor} (turn : Turn store) {rest : List (Turn store)} {t₁ t' : FileTree}
    {sights : List Sight}
    (asked : m.ask turn.request (turn.before.change t) =
      .ok (m.meter.answer? turn.request, { m with meter := m.meter.serve turn.request }) t₁)
    (others : askAll { m with meter := m.meter.serve turn.request } rest t₁ = .ok (sights, last) t') :
    m.askAll (turn :: rest) t = .ok (m.sight turn.request (turn.before.change t) :: sights, last) t' := by
  have changed : (modify turn.before.change : Disk Unit) t = .ok () (turn.before.change t) := rfl
  have seen : (get : Disk FileTree) (turn.before.change t) = .ok (turn.before.change t) (turn.before.change t) := rfl
  rw [askAll, Disk.bind_run changed, Disk.bind_run seen, Disk.bind_run asked]
  exact (Disk.bind_run others).trans rfl

/-- What is seen is what is seen without a disk, and the count's file holds the last count that was
written. If no write failed, that is the meter's. -/
theorem askAll_run (meter : Meter) (turns : List (Turn store)) (t : FileTree) :
    ∃ sights t', askAll ⟨store, meter⟩ turns t =
        .ok (sights, ⟨store, (meter.serveAll (turns.map Turn.request)).2⟩) t' ∧
      sights.map Sight.inMemory = (meter.serveAll (turns.map Turn.request)).1 ∧
      countOf (store.content? countName t') = lastWritten (countOf (store.content? countName t)) sights ∧
      ((∀ s ∈ sights, s.wrote ≠ some false) →
        lastWritten meter.sent sights = (meter.serveAll (turns.map Turn.request)).2.sent) := by
  induction turns generalizing meter t with
  | nil => exact ⟨[], t, rfl, rfl, rfl, fun _ => rfl⟩
  | cons turn turns ih =>
    obtain ⟨t₁, asked, -, kept⟩ := ask_run ⟨store, meter⟩ turn.request (turn.before.change t)
    obtain ⟨sights, t', others, memory, stored, whole⟩ := ih (meter.serve turn.request) t₁
    refine ⟨_, t', askAll_cons turn asked others, ?_, ?_, fun sound => ?_⟩
    · rw [List.map_cons, memory]
      rfl
    · rw [stored, lastWritten_cons, kept, turn.before.spares]
    · have first := written_sight ⟨store, meter⟩ (sound _ List.mem_cons_self)
      rw [lastWritten_cons, first]
      exact whole fun s hs => sound s (List.mem_cons_of_mem _ hs)

/-! ## Writes that fail -/

/-- If nothing happens on the disk, every write is carried out that can be at first. -/
theorem sound_of_undisturbed (meter : Meter) (turns : List (Turn store)) (writable : Writable store t) :
    ∃ sights last t', askAll ⟨store, meter⟩ (turns.map Turn.undisturbed) t = .ok (sights, last) t' ∧
      ∀ s ∈ sights, s.wrote ≠ some false := by
  induction turns generalizing meter t with
  | nil => exact ⟨[], _, t, rfl, fun _ => nofun⟩
  | cons turn turns ih =>
    obtain ⟨t₁, asked, confined, -⟩ := ask_run ⟨store, meter⟩ turn.request t
    obtain ⟨sights, last, t', others, sound⟩ :=
      ih (meter.serve turn.request) ((writable_of_confined confined).mpr writable)
    refine ⟨_, last, t', askAll_cons turn.undisturbed asked others, fun s hs => ?_⟩
    rcases List.mem_cons.mp hs with rfl | hs
    · intro failed
      exact nomatch (wrote_iff _ failed).mpr writable
    · exact sound s hs

/-- Puts a directory in the place of the count's draft, or takes away what is there. -/
def hinder (place : Path) (works : Bool) (t : FileTree) : FileTree :=
  if works then t.erase place else t.put place .directory

variable {u : FileTree} {p q : Path}

theorem find?_hinder (works : Bool) (apart : q ≠ p) : (hinder p works u).find? q = u.find? q := by
  unfold hinder
  cases works with
  | true => exact find?_erase_ne apart
  | false => exact find?_put_ne _ apart

theorem isDirectory_hinder (works : Bool) (below : p ≠ []) : (hinder p works u).isDirectory p = !works := by
  unfold hinder isDirectory
  cases works with
  | true => rw [if_pos rfl, find?_erase, if_neg below, if_pos rfl]; rfl
  | false => rw [if_neg (by decide), find?_put, if_neg below, if_pos rfl]; rfl

/-- The draft's place may be taken or free, and nothing else is different. -/
theorem hinder_run (draft : store.place? (draftName countName) t = some p) (final : store.place? countName t = some q)
    (vacant : t.isDirectory p = false) (within : t.Within u) (free : u.isDirectory q = false) (works : Bool) :
    let v := (Disturbance.guard store (hinder p works)).change u
    t.Within v ∧ v.isDirectory q = false ∧ (Writable store v ↔ works = true) := by
  have names := plain_countName
  have apart : q ≠ p := by
    rintro rfl
    have same := (getLast?_place names.1 final).symm.trans (getLast?_place names.2 draft)
    exact draftName_ne countName (Option.some.inj same)
  have below : p ≠ [] := ne_nil_of_named (getLast?_place names.2 draft)
  have within' : t.Within (hinder p works u) := by
    intro d here
    have other : d ≠ p := by
      rintro rfl
      rw [vacant] at here
      cases here
    rw [isDirectory, find?_hinder works other]
    exact within d here
  have free' : (hinder p works u).isDirectory q = false := by
    rw [isDirectory, find?_hinder works apart]
    exact free
  have spared : store.content? countName (hinder p works u) = store.content? countName u := by
    rw [Store.content?, Store.content?, place?_within names.1 within' final, place?_within names.1 within final,
      Option.bind_some, Option.bind_some, FileTree.content?, FileTree.content?, find?_hinder works apart]
  simp only [Disturbance.guard, if_pos spared]
  refine ⟨within', free', ?_⟩
  rw [Writable, takes_iff (place?_within names.2 within' draft), takes_iff (place?_within names.1 within' final),
    isDirectory_hinder works below]
  simp [free']

/-- There is something that others can do on the disk so that a write fails, and something so that it
succeeds: whatever is to become of each write, it can be made so. -/
theorem exists_disturbances (writable : Writable store t) :
    ∃ disturb : Bool → Disturbance store, ∀ (meter : Meter) (plan : List (Request × Bool)), ∃ sights last t',
      askAll ⟨store, meter⟩ (plan.map fun (r, works) => ⟨disturb works, r⟩) t = .ok (sights, last) t' ∧
        List.Forall₂ (fun (_, works) s => s.wrote = none ∨ s.wrote = some works) plan sights := by
  obtain ⟨⟨p, draft, vacant⟩, q, final, free⟩ := writable
  refine ⟨fun works => .guard store (hinder p works), fun meter plan => ?_⟩
  suffices h : ∀ (meter : Meter) (u : FileTree), t.Within u → u.isDirectory q = false → ∃ sights last t',
      askAll ⟨store, meter⟩ (plan.map fun (r, works) => ⟨.guard store (hinder p works), r⟩) u =
          .ok (sights, last) t' ∧
        List.Forall₂ (fun (_, works) s => s.wrote = none ∨ s.wrote = some works) plan sights
    from h meter t (fun _ here => here) free
  induction plan with
  | nil => exact fun meter u _ _ => ⟨[], _, u, rfl, .nil⟩
  | cons step plan ih =>
    intro meter u within free
    obtain ⟨r, works⟩ := step
    obtain ⟨within', free', writes⟩ := hinder_run draft final vacant within free works
    obtain ⟨u₁, asked, confined, -⟩ :=
      ask_run ⟨store, meter⟩ r ((Disturbance.guard store (hinder p works)).change u)
    obtain ⟨sights, last, t', others, planned⟩ := ih (meter.serve r) u₁
      (fun d here => confined.within d (within' d here)) ((confined.directories q).trans free')
    have disturbed := askAll_cons ⟨.guard store (hinder p works), r⟩ asked others
    refine ⟨_, last, t', disturbed, .cons ?_ planned⟩
    cases outcome : wrote ⟨store, meter⟩ r ((Disturbance.guard store (hinder p works)).change u) with
    | none => exact .inl outcome
    | some done =>
      have same := (wrote_iff _ outcome).trans writes
      exact .inr (outcome.trans (congrArg some (Bool.eq_iff_iff.mpr same)))

/-! ## After a restart -/

/-- Whatever the count's file holds at first, and whichever writes of the count fail: the answers and the
meters are those of a run in which all of them succeed, and what a process that begins anew finds is the
count of the meter right after the last write that succeeded, or what was found at first, if there is none.
So if no write failed, it is the count of the meter. -/
theorem reload_after_failed_writes (store : Store) (turns : List (Turn store)) (t : FileTree) :
    ∃ m sights last t', ofStore store t = .ok m t ∧ m.askAll turns t = .ok (sights, last) t' ∧
      m.meter.sent = countOf (store.content? countName t) ∧
      (∀ t₁, Writable store t₁ → countOf (store.content? countName t₁) = countOf (store.content? countName t) →
        ∃ sights₁ t₁', ofStore store t₁ = .ok m t₁ ∧
          m.askAll (turns.map Turn.undisturbed) t₁ = .ok (sights₁, last) t₁' ∧
          (∀ s ∈ sights₁, s.wrote ≠ some false) ∧ sights₁.map Sight.inMemory = sights.map Sight.inMemory) ∧
      ofStore store t' = .ok { store, meter := { sent := lastWritten m.meter.sent sights } } t' ∧
      ((∀ s ∈ sights, s.wrote ≠ some false) → lastWritten m.meter.sent sights = last.meter.sent) := by
  let meter : Meter := { sent := countOf (store.content? countName t) }
  obtain ⟨sights, t', run, memory, stored, whole⟩ := askAll_run meter turns t
  refine ⟨⟨store, meter⟩, sights, _, t', ofStore_eq store t, run, rfl, fun t₁ writable same => ?_, ?_, whole⟩
  · have requests : (turns.map Turn.undisturbed).map Turn.request = turns.map Turn.request := by
      rw [List.map_map]
      rfl
    obtain ⟨sights₁, last₁, t₁', run₁, sound⟩ := sound_of_undisturbed meter turns writable
    obtain ⟨sights₂, t₂', run₂, memory₂, -⟩ := askAll_run meter (turns.map Turn.undisturbed) t₁
    rw [requests] at run₂ memory₂
    cases run₁.symm.trans run₂
    exact ⟨sights₁, t₁', by rw [ofStore_eq, same], run₁, sound, memory₂.trans memory.symm⟩
  · rw [ofStore_eq, stored]

/-- The second write fails: the meter has counted both payloads, and the file has only the first of them. -/
example :
    let store : Store := ⟨"/state"⟩
    let t := (({} : FileTree).put ["state"] .directory).put ["state", "usage.json"]
      (.file (written (countJson 18446744073709551515)))
    let disturb (works : Bool) : Disturbance store := .guard store (hinder ["state", "usage.json.tmp"] works)
    Disk.answer? (do
      let m ← ofStore store
      let (sights, last) ← m.askAll
        [⟨disturb true, .add 40⟩, ⟨disturb false, .reserve 30⟩, ⟨.none store, .reserve 0⟩]
      let again ← ofStore store
      return (sights.map Sight.wrote, last.meter.sent, again.meter.sent)) t =
      some ([some true, some false, none], 18446744073709551585, 18446744073709551555) := by
  decide +kernel

end Monitor

end CrashReporter.Usage
