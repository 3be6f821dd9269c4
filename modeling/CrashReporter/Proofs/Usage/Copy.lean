import CrashReporter.Proofs.Json.Tables
import CrashReporter.Proofs.Usage.Stored

/-!
# The copy of the policy

A policy reads back from its copy, whatever its numbers and the names of its features are
(`Policy.reads_toJson`). So what a process that cannot ask the remote API goes by is the policy that was
copied last:

* `Monitor.attempt_copy`: the copy's file holds the policy once it was copied, or else what it held before;
* `Monitor.refresh_run`: a policy that is handed out comes into force whether or not it can be copied;
* `Monitor.begin_error`: without an answer the policy in the file comes into force, if there is one;
* `Monitor.tick_of_due`, `Monitor.tick_of_idle`: a tick is a refresh, or nothing but a tick.
-/

namespace CrashReporter

open Json in
/-- A kept policy reads back. -/
theorem Policy.reads_toJson (p : Policy) : record.shape.Reads 3 p.toJson p := by
  have word64 (n : UInt64) := Shape.word64_reads n 2
  have word32 (n : UInt32) := Shape.word32_reads n 2
  have features : (Shape.table .flag).Reads 2 (.object (p.features.map Value.bool).entries) p.features :=
    Shape.table_reads (Shape.flag_reads 1) p.features
  exact Record.shape_reads
    (d := ⟨some p.dataLimit, some p.resetDay, some p.storageLimit, some p.emissionPeriod, some p.features⟩)
    (.one rfl rfl ((word64 _).member _ _ _ _ _) (.one rfl rfl ((word32 _).member _ _ _ _ _)
      (.one rfl rfl ((word64 _).member _ _ _ _ _) (.one rfl rfl ((word64 _).member _ _ _ _ _)
        (.one rfl rfl (features.member _ _ _ _ _) (.none _)))))) rfl

namespace Usage.Monitor

open FileTree Store

/-- The policy that is in the bytes of a document, if there is one. -/
def policyOf (content : Option Bytes) : Option Policy :=
  content.bind fun content => (Policy.record.shape.ofText content).toOption

theorem policyOf_written (p : Policy) : policyOf (some (written p.toJson)) = some p := by
  have read : Policy.record.shape.ofText (written p.toJson) = .ok p := p.reads_toJson.pretty (by decide)
  rw [policyOf, Option.bind_some, read]
  rfl

/-- Whether policies can be copied: no directory is in the place of the copy's file or of the draft. -/
def Copyable (store : Store) (t : FileTree) : Prop :=
  store.Takes (draftName policyName) t ∧ store.Takes policyName t

theorem copyable_of_confined {names : List String} {store : Store} {t t' : FileTree} (confined : Confined names t t') :
    Copyable store t' ↔ Copyable store t :=
  and_congr (takes_of_confined plain_policyName.2 confined) (takes_of_confined plain_policyName.1 confined)

variable (m : Monitor) (t : FileTree)

/-- Whether a policy is copied on a tree. -/
def copies (p : Policy) : Bool := ((m.store.save policyName p.toJson).answer? t).isSome

/-- The failure of a session without an answer or a copy. -/
def unavailable (f : Failure) : Failure :=
  .remoteApi s!"usage policy unavailable and no cached copy: {f.message}"

theorem copies_of_copyable {m : Monitor} {t : FileTree} (copyable : Copyable m.store t) (p : Policy) :
    m.copies t p = true := by
  have names := plain_policyName
  rcases m.store.save_run names.1 names.2 p.toJson t with ⟨-, -, t', saved, -⟩ | ⟨refused, -⟩
  · rw [copies, Disk.answer?_ok saved]
    rfl
  · exact absurd copyable refused

/-- Once copying a policy was attempted, the copy's file holds it, or, if it was not copied, what it held. -/
theorem attempt_copy (p : Policy) :
    ∃ r t', Disk.attempt (m.store.save policyName p.toJson) t = .ok r t' ∧
      Confined [draftName policyName, policyName] t t' ∧
      m.store.content? policyName t' =
        if m.copies t p then some (written p.toJson) else m.store.content? policyName t := by
  have names := plain_policyName
  rcases m.store.save_run names.1 names.2 p.toJson t with
    ⟨-, -, t', saved, confined, content⟩ | ⟨-, e, t', refused, confined, content⟩
  · refine ⟨_, t', Disk.attempt_ok saved, confined, ?_⟩
    rw [content, copies, Disk.answer?_ok saved]
    rfl
  · refine ⟨_, t', Disk.attempt_refused refused, confined, ?_⟩
    rw [content, copies, Disk.answer?_refused refused]
    rfl

/-- A policy that is handed out comes into force, whatever becomes of its copy. -/
theorem refresh_run (p : Policy) :
    ∃ t', m.refresh (.ok p) t = .ok (.ok (m.setPolicy p)) t' ∧
      Confined [draftName policyName, policyName] t t' ∧
      m.store.content? policyName t' =
        if m.copies t p then some (written p.toJson) else m.store.content? policyName t := by
  obtain ⟨r, t', attempted, copied⟩ := m.attempt_copy t p
  exact ⟨t', Disk.bind_run attempted, copied⟩

theorem begin_ok (p : Policy) {t' : FileTree} (run : m.refresh (.ok p) t = .ok (.ok (m.setPolicy p)) t') :
    m.begin (.ok p) t = .ok (.ok (m.setPolicy p)) t' :=
  Disk.bind_run run

/-- Without an answer the copy counts. -/
theorem begin_error (f : Failure) :
    m.begin (.error f) t =
      .ok (match policyOf (m.store.content? policyName t) with
        | some p => .ok (m.setPolicy p)
        | none => .error (unavailable f)) t := by
  have loaded := m.store.load_eq Policy.record.shape plain_policyName.1 t
  have asked : m.refresh (.error f) t = .ok (.error f) t := rfl
  rw [begin, Disk.bind_run asked]
  simp only
  rw [Disk.bind_run loaded, policyOf]
  cases (m.store.content? policyName t).bind fun content => (Policy.record.shape.ofText content).toOption <;> rfl

/-- A tick after which the remote API is not asked. -/
theorem tick_of_idle {m : Monitor} (idle : m.meter.tick.2 = false) (answer : Except Failure Policy) :
    m.tick answer = pure (false, { m with meter := m.meter.tick.1 }) := by
  simp only [tick, idle, Bool.false_eq_true, if_false]

/-- A tick after which the remote API is asked. -/
theorem tick_of_due {m : Monitor} (due : m.meter.tick.2 = true) (answer : Except Failure Policy) :
    m.tick answer = do
      let fetched ← ({ m with meter := m.meter.tick.1 } : Monitor).refresh answer
      return (true, fetched.toOption.getD { m with meter := m.meter.tick.1 }) := by
  simp only [tick, due, if_true]
  refine bind_congr fun fetched => ?_
  cases fetched <;> rfl

end Usage.Monitor

end CrashReporter
