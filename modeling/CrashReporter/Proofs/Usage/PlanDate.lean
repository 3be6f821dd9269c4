import CrashReporter.Proofs.Json.Members
import CrashReporter.Usage.Policy

/-!
# The date of a plan in a policy's document

`withPlanDate n` puts a number into a document as the plan's date. What that changes is read off level by
level, the part on data, the configuration, the document (`dataRecord_changes`, `partRecord_changes`,
`remoteRecord_changes`): nothing but the date, if the number is one of 32 bits, and then the policy's day is
that number brought between 1 and 31. Any other number is refused, and with it the document
(`ofRemote_withPlanDate`).
-/

namespace CrashReporter.Policy

open Json

/-! ## Putting a date in -/

/-- The part on data with a plan's date. -/
def dataWithPlanDate (n : Int) : Value → Value :=
  changeLast "normalized_cell_plan_date" [.null] fun _ => .number (.whole n)

/-- The configuration with a plan's date; a part on data is put in if there is none. -/
def partWithPlanDate (n : Int) : Value → Value :=
  changeLast "data" [.object [], .null, .null] (changeFilled (dataWithPlanDate n))

/-- A document with a plan's date. -/
def withPlanDate (n : Int) : Value → Value := changeLast "config" [] (partWithPlanDate n)

/-! ## What is read back -/

/-- What a number reads as where a plan's date stands. -/
def readDate (n : Int) : Except Mismatch UInt32 := Shape.word32.ofValue (.number (.whole n))

theorem readDate_eq (n : Int) :
    readDate n =
      if 0 ≤ n ∧ n < UInt32.size then .ok (UInt32.ofNat n.toNat)
      else .error (.wrongValue (.number (.whole n)) "u32") := by
  have bound : n ≤ ((UInt32.size - 1 : Nat) : Int) ↔ n < UInt32.size := by
    have size : UInt32.size = 4294967296 := rfl
    omega
  simp only [readDate, Shape.word32, Shape.map, Shape.natural, Shape.naturalOf, bound]
  split <;> rfl

/-- The part on data with the date read. -/
def DataPart.withDate (day : UInt32) (p : DataPart) : DataPart := { p with planDate := some day }

/-- The configuration with the date read. -/
def Part.withDate (day : UInt32) (p : Part) : Part := { p with data := p.data.withDate day }

theorem date_changes (n : Int) :
    Shape.word32.optional.Changes (fun _ => .number (.whole n)) (readDate n) fun day _ => some day := by
  intro _ _ _
  rfl

/-! ## The part on data -/

theorem dataRecord_date : dataRecord.Field "normalized_cell_plan_date" Shape.word32.optional DataDraft.planDate
    fun d v => { d with planDate := some v } where
  member := ⟨true, rfl⟩
  blank := rfl
  set_set _ _ _ := rfl
  apart m member other := by
    simp only [dataRecord, List.mem_cons, List.not_mem_nil, or_false] at member
    obtain rfl | rfl := member
    · exact .of (fun _ _ _ => rfl) fun _ _ => rfl
    · exact absurd rfl other
  absent d p empty finished := by
    refine ⟨none, rfl, ?_⟩
    rw [← finished]
    change Except.ok _ = Except.ok _
    rw [empty]
    rfl

/-- A list of the part's members reads as one that goes on with `null`. -/
theorem dataRecord_pads : dataRecord.Pads [.null, .null] := by
  intro items p read
  match items, read with
  | [], read => exact read
  | [a], read =>
    obtain ⟨d, first, finished⟩ := bind_eq_ok.mp read
    obtain ⟨limit, -, rfl⟩ := map_eq_ok.mp first
    exact bind_eq_ok.mpr ⟨_, first, finished⟩
  | [_, _], read => exact read
  | _ :: _ :: _ :: _, read => exact absurd (Record.length_le_of_ofList read) (by simp [dataRecord])

theorem dataRecord_changes (n : Int) :
    dataRecord.shape.Changes (dataWithPlanDate n) (readDate n) DataPart.withDate := by
  apply dataRecord_date.changes_last rfl rfl dataRecord_pads (date_changes n)
  intro d a p finished day
  cases finished
  rfl

/-! ## The configuration -/

theorem partRecord_data : partRecord.Field "data" dataRecord.shape.optional PartDraft.data
    fun d v => { d with data := some v } where
  member := ⟨true, rfl⟩
  blank := rfl
  set_set _ _ _ := rfl
  apart m member other := by
    simp only [partRecord, List.mem_cons, List.not_mem_nil, or_false] at member
    obtain rfl | rfl | rfl | rfl := member
    · exact .of (fun _ _ _ => rfl) fun _ _ => rfl
    · exact .of (fun _ _ _ => rfl) fun _ _ => rfl
    · exact .of (fun _ _ _ => rfl) fun _ _ => rfl
    · exact absurd rfl other
  absent d p empty finished := by
    refine ⟨none, rfl, ?_⟩
    rw [← finished]
    change Except.ok _ = Except.ok _
    rw [empty]
    rfl

/-- A list of the configuration's members reads as one that goes on without features and with `null`. -/
theorem partRecord_pads : partRecord.Pads [.object [], .null, .null, .null] := by
  intro items p read
  -- one case for each length: with its own members known, a draft finishes alike, empty or padded behind them
  match items, read with
  | [], read => exact read
  | [a], read =>
    obtain ⟨_, features, finished⟩ := bind_eq_ok.mp read
    obtain ⟨_, -, rfl⟩ := map_eq_ok.mp features
    exact bind_eq_ok.mpr ⟨_, features, finished⟩
  | [a, b], read =>
    obtain ⟨_, features, read⟩ := bind_eq_ok.mp read
    obtain ⟨_, emission, finished⟩ := bind_eq_ok.mp read
    obtain ⟨_, -, rfl⟩ := map_eq_ok.mp features
    obtain ⟨_, -, rfl⟩ := map_eq_ok.mp emission
    exact bind_eq_ok.mpr ⟨_, features, bind_eq_ok.mpr ⟨_, emission, finished⟩⟩
  | [a, b, c], read =>
    obtain ⟨_, features, read⟩ := bind_eq_ok.mp read
    obtain ⟨_, emission, read⟩ := bind_eq_ok.mp read
    obtain ⟨_, storage, finished⟩ := bind_eq_ok.mp read
    obtain ⟨_, -, rfl⟩ := map_eq_ok.mp features
    obtain ⟨_, -, rfl⟩ := map_eq_ok.mp emission
    obtain ⟨_, -, rfl⟩ := map_eq_ok.mp storage
    exact bind_eq_ok.mpr ⟨_, features, bind_eq_ok.mpr ⟨_, emission, bind_eq_ok.mpr ⟨_, storage, finished⟩⟩⟩
  | [_, _, _, _], read => exact read
  | _ :: _ :: _ :: _ :: _ :: _, read => exact absurd (Record.length_le_of_ofList read) (by simp [partRecord])

theorem partRecord_changes (n : Int) : partRecord.shape.Changes (partWithPlanDate n) (readDate n) Part.withDate := by
  have data : dataRecord.shape.optional.Changes (changeFilled (dataWithPlanDate n)) (readDate n)
      fun day old => some ((old.getD {}).withDate day) :=
    (dataRecord_changes n).optional (fun _ => changeLast_ne_null) rfl
  apply partRecord_data.changes_last rfl rfl partRecord_pads data
  intro d a p finished day
  cases finished
  rfl

/-! ## The document -/

theorem remoteRecord_config : remoteRecord.Field "config" partRecord.shape id fun _ v => some v where
  member := ⟨false, rfl⟩
  blank := rfl
  set_set _ _ _ := rfl
  apart m member other := by
    simp only [remoteRecord, List.mem_singleton] at member
    exact absurd (congrArg Member.key member) other
  absent d p empty finished := by
    change d = none at empty
    subst empty
    cases finished

theorem remoteRecord_pads : remoteRecord.Pads [.null] := by
  intro items p read
  match items, read with
  | [], read => cases read
  | [_], read => exact read
  | _ :: _ :: _, read => exact absurd (Record.length_le_of_ofList read) (by simp [remoteRecord])

theorem remoteRecord_changes (n : Int) : remoteRecord.shape.Changes (withPlanDate n) (readDate n) Part.withDate := by
  apply remoteRecord_config.changes_last rfl rfl remoteRecord_pads (partRecord_changes n)
  intro d a p finished day
  cases finished
  rfl

/-! ## The policy -/

/-- The day of a date, as a number. -/
theorem toNat_clampDay (day : UInt32) : (clampDay day).toNat = max 1 (min 31 day.toNat) := by
  have low : min 31 day = if 31 ≤ day then 31 else day := rfl
  have high (d : UInt32) : max 1 d = if 1 ≤ d then d else 1 := rfl
  have thirtyOne : (31 : UInt32).toNat = 31 := rfl
  have one : (1 : UInt32).toNat = 1 := rfl
  rw [clampDay, low, high]
  simp only [UInt32.le_iff_toNat_le]
  split <;> split <;> omega

theorem clampDay_ofNat {n : Int} (word : 0 ≤ n ∧ n < UInt32.size) :
    clampDay (UInt32.ofNat n.toNat) = UInt32.ofNat (max 1 (min 31 n)).toNat := by
  have size : UInt32.size = 4294967296 := rfl
  have day : (UInt32.ofNat n.toNat).toNat = n.toNat := by
    apply UInt32.toNat_ofNat_of_lt'
    omega
  have clamped : (UInt32.ofNat (max 1 (min 31 n)).toNat).toNat = (max 1 (min 31 n)).toNat := by
    apply UInt32.toNat_ofNat_of_lt'
    omega
  apply UInt32.toNat_inj.mp
  rw [clamped, toNat_clampDay, day]
  omega

/-- A number put into an accepted document as the plan's date is brought between 1 and 31 and changes nothing
else, if it is one of 32 bits. Any other is refused, and with it the document. -/
theorem ofRemote_withPlanDate {document : Value} {p : Policy} (accepted : ofRemote document = .ok p) (n : Int) :
    ofRemote (withPlanDate n document) =
      if 0 ≤ n ∧ n < UInt32.size then .ok { p with resetDay := UInt32.ofNat (max 1 (min 31 n)).toNat }
      else .error (.remoteApi
        ("invalid limits document: " ++ (Mismatch.wrongValue (.number (.whole n)) "u32").message)) := by
  unfold ofRemote at accepted ⊢
  cases read : remoteRecord.shape.ofValue document with
  | error e =>
    rw [read] at accepted
    cases accepted
  | ok part =>
    rw [read] at accepted
    cases accepted
    rw [remoteRecord_changes n document part read, readDate_eq]
    by_cases word : 0 ≤ n ∧ n < UInt32.size
    · rw [if_pos word, if_pos word, ← clampDay_ofNat word]
      rfl
    · rw [if_neg word, if_neg word]
      rfl

/-- A date of 100 in a configuration that had no part on data is the 31st. -/
theorem ofRemote_withPlanDate_hundred :
    let document : Value := .object [("config", .object [("emission_period", .ofNat 60)])]
    ofRemote document = .ok { emissionPeriod := 60 } ∧
      ofRemote (withPlanDate 100 document) = .ok { emissionPeriod := 60, resetDay := 31 } := by
  intro document
  have accepted : ofRemote document = .ok { emissionPeriod := 60 } := rfl
  exact ⟨accepted, ofRemote_withPlanDate accepted 100⟩

/-- A date of −1 is not brought up to 1: a document that is accepted with any date of a month is refused. -/
theorem negative_date_refused :
    let document : Value := .object [("config", .object [("data", .object [("normalized_cell_plan_date", .ofNat 15)])])]
    ofRemote document = .ok { resetDay := 15 } ∧
      ofRemote (withPlanDate (-1) document) =
        .error (.remoteApi "invalid limits document: invalid value: integer `-1`, expected u32") :=
  ⟨rfl, rfl⟩

end CrashReporter.Policy
