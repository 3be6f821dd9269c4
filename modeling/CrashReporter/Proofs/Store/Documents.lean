import CrashReporter.Proofs.Identity.Vault
import CrashReporter.Proofs.Json.Skipped
import CrashReporter.Proofs.Usage.Copy

/-!
# The documents that are kept

A store keeps counts, policies and envelopes (`Store.Document`). A document that was written reads back as one
of its kind (`Store.Document.reads`), and as none of another: no member of the one kind is a member of the
other (`Store.Document.unread`).
-/

namespace CrashReporter.Store

open Json Usage

/-- A document of one of the kinds that the agent keeps. -/
inductive Document where
  | count (sent : UInt64)
  | policy (p : Policy)
  | envelope (e : Vault.Envelope)
  deriving DecidableEq

/-- What a document is. -/
inductive Kind where
  | count
  | policy
  | envelope
  deriving DecidableEq

/-- How a document of a kind is read. -/
def Kind.shape : Kind → Shape Document
  | .count => Monitor.countRecord.shape.map .count
  | .policy => Policy.record.shape.map .policy
  | .envelope => Vault.Envelope.record.shape.map .envelope

/-- The keys of the members of a kind. -/
def Kind.keys : Kind → List String
  | .count => ["bytes_sent"]
  | .policy =>
    ["cellular_data_limit", "cellular_plan_reset_day", "storage_limit", "emission_period_secs", "features"]
  | .envelope => ["format_version", "nonce", "data"]

/-- No two kinds have a member in common. -/
theorem Kind.disjoint {kind other : Kind} (differs : kind ≠ other) : ∀ key ∈ kind.keys, key ∉ other.keys := by
  revert differs
  cases kind <;> cases other <;> decide

namespace Document

def kind : Document → Kind
  | .count _ => .count
  | .policy _ => .policy
  | .envelope _ => .envelope

/-- A document as it is kept. -/
def toJson : Document → Value
  | .count sent => Monitor.countJson sent
  | .policy p => p.toJson
  | .envelope e => e.toJson

/-- What was written reads back. -/
theorem reads (d : Document) : (d.kind.shape.ofText (written d.toJson)).toOption = some d := by
  cases d with
  | count sent =>
    have read := ((Monitor.reads_countJson sent).map Document.count).pretty (by decide)
    exact congrArg Except.toOption read
  | policy p =>
    have read := (p.reads_toJson.map Document.policy).pretty (by decide)
    exact congrArg Except.toOption read
  | envelope e =>
    have read := (e.reads_toJson.map Document.envelope).pretty (by decide)
    exact congrArg Except.toOption read

theorem members (d : Document) :
    ∃ ms, d.toJson = .object ms ∧ ms.map Prod.fst = d.kind.keys ∧ ∀ m ∈ ms, Record.Passed m.2 := by
  have number (n : Nat) := Record.passed_of_skips (Value.skips_ofNat n)
  have text (s : String) := Record.passed_of_skips (Value.skips_text s)
  cases d with
  | count sent => exact ⟨_, rfl, rfl, by simp only [List.forall_mem_singleton, number]⟩
  | policy p =>
    have features : Record.Passed (.object (p.features.map Value.bool).entries) := by
      refine Record.passed_object fun m hm => ?_
      obtain ⟨feature, -, rfl⟩ := List.mem_map.mp hm
      exact Value.skips_flag feature.2
    exact ⟨_, rfl, rfl, by simp [number, features]⟩
  | envelope e => exact ⟨_, rfl, rfl, by simp [number, text]⟩

/-- A document is not read as what has other members. -/
theorem unread_as {δ α : Type} {r : Record δ α} {kind : Kind} (keys : r.members.map Member.key = kind.keys)
    {m : Mismatch} (lacking : r.finish r.blank = .error m) (f : α → Document) {d : Document} (other : kind ≠ d.kind) :
    ((r.shape.map f).ofText (written d.toJson)).toOption = none := by
  obtain ⟨ms, spelled, named, passed⟩ := d.members
  have unknown : ∀ m ∈ ms, r.member? m.1 = none := by
    intro m hm
    refine Record.member?_eq_none ?_
    rw [keys]
    exact Kind.disjoint other.symm m.1 (named ▸ List.mem_map_of_mem hm)
  rw [Shape.toOption_ofText_map, spelled, written, Record.ofText_unknown unknown passed lacking, Option.map_none]

/-- What was written is no document of another kind. -/
theorem unread {d : Document} {kind : Kind} (other : kind ≠ d.kind) :
    (kind.shape.ofText (written d.toJson)).toOption = none := by
  cases kind with
  | count => exact unread_as (r := Monitor.countRecord) rfl rfl _ other
  | policy => exact unread_as (r := Policy.record) rfl rfl _ other
  | envelope => exact unread_as (r := Vault.Envelope.record) rfl rfl _ other

end Document

end CrashReporter.Store
