import CrashReporter.Failure
import CrashReporter.Json.Shape

/-!
# Usage policies

What a device may use. The remote API hands a policy out as a document of its own form, in which
every limit may be missing or `null`; a copy of the policy in force is kept in a simpler form.
-/

namespace CrashReporter

/-- What a device may use. -/
structure Policy where
  /-- Bytes that may be sent in a cycle of the plan; zero is no limit. -/
  dataLimit : UInt64 := 0
  /-- The day of the month on which a cycle begins. -/
  resetDay : UInt32 := 1
  /-- Bytes that may be kept; zero is no limit. -/
  storageLimit : UInt64 := 0
  /-- Seconds between two readings. -/
  emissionPeriod : UInt64 := 0
  /-- What is switched on and off. -/
  features : Table Bool := .empty
  deriving DecidableEq, Inhabited

namespace Policy

open Json

/-- Whether any number of bytes may be sent. -/
def isUnlimited (p : Policy) : Bool := p.dataLimit == 0

/-- Whether a feature is switched on. -/
def feature (p : Policy) (name : String) : Bool := (p.features.get? name).getD false

/-! ## The copy -/

/-- The members of a copy read so far. -/
structure Draft where
  dataLimit : Option UInt64 := none
  resetDay : Option UInt32 := none
  storageLimit : Option UInt64 := none
  emissionPeriod : Option UInt64 := none
  features : Option (Table Bool) := none

/-- A copy. -/
def record : Record Draft Policy where
  name := "UsageLimitConfig"
  members := [
    .of "cellular_data_limit" .word64 Draft.dataLimit (fun d v => { d with dataLimit := some v }) false,
    .of "cellular_plan_reset_day" .word32 Draft.resetDay (fun d v => { d with resetDay := some v }) false,
    .of "storage_limit" .word64 Draft.storageLimit (fun d v => { d with storageLimit := some v }) false,
    .of "emission_period_secs" .word64 Draft.emissionPeriod
      (fun d v => { d with emissionPeriod := some v }) false,
    .of "features" (.table .flag) Draft.features (fun d v => { d with features := some v }) false]
  blank := {}
  finish d := do
    return {
      dataLimit := ← require "cellular_data_limit" d.dataLimit
      resetDay := ← require "cellular_plan_reset_day" d.resetDay
      storageLimit := ← require "storage_limit" d.storageLimit
      emissionPeriod := ← require "emission_period_secs" d.emissionPeriod
      features := ← require "features" d.features }

/-- A copy as it is kept. -/
def toJson (p : Policy) : Value := .object [
  ("cellular_data_limit", .ofNat p.dataLimit.toNat),
  ("cellular_plan_reset_day", .ofNat p.resetDay.toNat),
  ("storage_limit", .ofNat p.storageLimit.toNat),
  ("emission_period_secs", .ofNat p.emissionPeriod.toNat),
  ("features", .object (p.features.map Value.bool).entries)]

/-! ## The remote API's document -/

/-- What a document says of sent data. -/
structure DataPart where
  limit : Option UInt64 := none
  planDate : Option UInt32 := none

/-- What a document says of the device's configuration. -/
structure Part where
  features : Table (Option Bool) := .empty
  emissionPeriod : Option UInt64 := none
  storageLimit : Option UInt64 := none
  data : DataPart := {}

/-- A member that may be missing or `null`. -/
def maybe {δ β : Type} (key : String) (shape : Shape β) (get : δ → Option (Option β))
    (set : δ → Option β → δ) : Member δ :=
  .of key (.optional shape) get set true

/-- The members of the part on storage. -/
def storageRecord : Record (Option (Option UInt64)) (Option UInt64) where
  name := "WireStorage"
  members := [maybe "storage_limit" .word64 id fun _ v => some v]
  blank := none
  finish d := .ok d.join

/-- The members of the part on data read so far. -/
structure DataDraft where
  limit : Option (Option UInt64) := none
  planDate : Option (Option UInt32) := none

/-- The part on data. -/
def dataRecord : Record DataDraft DataPart where
  name := "WireData"
  members := [
    maybe "cellular_data_limit" .word64 DataDraft.limit fun d v => { d with limit := some v },
    maybe "normalized_cell_plan_date" .word32 DataDraft.planDate fun d v => { d with planDate := some v }]
  blank := {}
  finish d := .ok ⟨d.limit.join, d.planDate.join⟩

/-- The members of the configuration read so far. -/
structure PartDraft where
  features : Option (Table (Option Bool)) := none
  emissionPeriod : Option (Option UInt64) := none
  storage : Option (Option (Option UInt64)) := none
  data : Option (Option DataPart) := none

/-- The configuration. -/
def partRecord : Record PartDraft Part where
  name := "WireConfig"
  members := [
    .of "features" (.table (.optional .flag)) PartDraft.features
      (fun d v => { d with features := some v }) true,
    maybe "emission_period" .word64 PartDraft.emissionPeriod
      fun d v => { d with emissionPeriod := some v },
    maybe "storage" storageRecord.shape PartDraft.storage fun d v => { d with storage := some v },
    maybe "data" dataRecord.shape PartDraft.data fun d v => { d with data := some v }]
  blank := {}
  finish d := .ok {
    features := d.features.getD .empty
    emissionPeriod := d.emissionPeriod.join
    storageLimit := d.storage.join.join
    data := d.data.join.getD {} }

/-- The document. -/
def remoteRecord : Record (Option Part) Part where
  name := "LimitsResponse"
  members := [.of "config" partRecord.shape id (fun _ v => some v) false]
  blank := none
  finish d := require "config" d

/-- A plan's date as a day that every month could have in some spelling: from 1 to 31. -/
def clampDay (day : UInt32) : UInt32 := max 1 (min 31 day)

/-- The policy that a document's configuration lays down. -/
def ofPart (part : Part) : Policy where
  dataLimit := part.data.limit.getD 0
  resetDay := clampDay (part.data.planDate.getD 1)
  storageLimit := part.storageLimit.getD 0
  emissionPeriod := part.emissionPeriod.getD 0
  features := part.features.map (·.getD false)

/-- The policy of the remote API's document. -/
def ofRemote (document : Value) : Except Failure Policy :=
  match remoteRecord.shape.ofValue document with
  | .ok part => .ok (ofPart part)
  | .error m => .error (.remoteApi ("invalid limits document: " ++ m.message))

end Policy

end CrashReporter
