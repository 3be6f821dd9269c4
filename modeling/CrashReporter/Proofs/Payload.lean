import CrashReporter.Payload
import CrashReporter.Proofs.MessagePack

/-!
# Packed events

An event whose lengths and time the format can write is packed in the shortest way, and what was packed
is read back from it (`Event.payload_reads_back`).
-/

namespace CrashReporter

open MessagePack

/-- Whether the length of a text can be written. -/
def Text.Packable (s : String) : Prop := (Text.utf8 s).length < 0x100000000

instance (s : String) : Decidable (Text.Packable s) :=
  inferInstanceAs (Decidable ((Text.utf8 s).length < 0x100000000))

/-- What can be written of an event and of what it is sent with: lengths of 32 bits, and a time of 64
bits with a sign. -/
structure Event.Packable (e : Event) (id : String) (origin : Origin) : Prop where
  frames : e.frames.length < 0x100000000
  frame : ∀ f ∈ e.frames, ∀ s ∈ [f.functionName, f.className, f.filePath], Text.Packable s
  texts : ∀ s ∈ [e.excType, id, origin.device, origin.publicIp], Text.Packable s
  time : -0x8000000000000000 ≤ e.timestamp ∧ e.timestamp < 0x8000000000000000

namespace Event

variable {e : Event} {id : String} {origin : Origin}

theorem fits_text {s : String} (h : Text.Packable s) : (Value.text s).Fits := h

theorem fits_frame {f : Frame} (h : ∀ s ∈ [f.functionName, f.className, f.filePath], Text.Packable s) :
    f.packed.Fits := by
  have line := f.lineNumber.toNat_lt
  refine ⟨show 4 < 0x100000000 by decide, fits_text (by decide), h _ (by simp), fits_text (by decide),
    h _ (by simp), fits_text (by decide), h _ (by simp), fits_text (by decide), ⟨?_, ?_⟩, trivial⟩
  · omega
  · omega

theorem fits_frames {fs : List Frame}
    (h : ∀ f ∈ fs, ∀ s ∈ [f.functionName, f.className, f.filePath], Text.Packable s) :
    ItemsFit (fs.map Frame.packed) := by
  induction fs with
  | nil => trivial
  | cons f fs ih =>
    exact ⟨fits_frame (h f List.mem_cons_self), ih fun f hf => h f (List.mem_cons_of_mem _ hf)⟩

theorem Packable.fits (h : e.Packable id origin) (readings : Readings) :
    (e.packed id origin readings).Fits := by
  have text := h.texts
  simp only [List.mem_cons, List.not_mem_nil, or_false, forall_eq_or_imp, forall_eq] at text
  obtain ⟨excType, id, device, publicIp⟩ := text
  obtain ⟨early, late⟩ := h.time
  refine ⟨show 9 < 0x100000000 by decide, fits_text (by decide), ⟨?_, fits_frames h.frame⟩,
    fits_text (by decide), ⟨?_, ?_⟩, fits_text (by decide), excType, fits_text (by decide), id,
    fits_text (by decide), device, fits_text (by decide), publicIp, fits_text (by decide),
    fits_text (by decide), fits_text (by decide), trivial, fits_text (by decide), trivial, trivial⟩
  · exact (List.length_map _).symm ▸ h.frames
  · omega
  · omega

theorem frame_packed_inj {f g : Frame} (h : f.packed = g.packed) : f = g := by
  simp only [Frame.packed, Value.map.injEq, List.cons.injEq, Prod.mk.injEq, Value.text.injEq,
    Value.int.injEq, true_and, and_true] at h
  obtain ⟨functionName, className, filePath, lineNumber⟩ := h
  have line : f.lineNumber = g.lineNumber := UInt32.toNat_inj.mp (Int.ofNat_inj.mp lineNumber)
  cases f
  cases g
  simp_all

theorem frames_packed_inj {fs gs : List Frame} (h : fs.map Frame.packed = gs.map Frame.packed) :
    fs = gs := by
  induction fs generalizing gs with
  | nil => exact (List.map_eq_nil_iff.mp h.symm).symm
  | cons f fs ih =>
    cases gs with
    | nil => cases h
    | cons g gs =>
      rw [List.map_cons, List.map_cons, List.cons.injEq] at h
      rw [frame_packed_inj h.1, ih h.2]

/-- Packed events are canonical. An event whose lengths and time can be written is packed as one map,
which is read back with its nine keys in their order and with the values that went in, frames and
readings included, and no bytes are left; each header is the shortest, and so are the bytes as a whole;
and events that are packed alike are alike. -/
theorem payload_reads_back (packable : e.Packable id origin) (readings : Readings) :
    let s := e.payload id origin readings
    unpack? s = some (.map [
      (.text "stackTrace", .list (e.frames.map fun f => .map [
        (.text "functionName", .text f.functionName),
        (.text "className", .text f.className),
        (.text "filePath", .text f.filePath),
        (.text "lineNumber", .int f.lineNumber.toNat)])),
      (.text "timestamp", .int e.timestamp),
      (.text "excType", .text e.excType),
      (.text "id", .text id),
      (.text "device", .text origin.device),
      (.text "publicIp", .text origin.publicIp),
      (.text "agentVersion", .text "0.1.0"),
      (.text "memoryUsage", .double readings.memory),
      (.text "cpuUsage", .double readings.cpu)], []) ∧
    Spelled Least (e.packed id origin readings) s ∧
    (∀ s', Spelled Form (e.packed id origin readings) s' → s.length ≤ s'.length) ∧
    ∀ e' id' origin' readings', Packable e' id' origin' → e'.payload id' origin' readings' = s →
      e'.frames = e.frames ∧ e'.timestamp = e.timestamp ∧ e'.excType = e.excType ∧ id' = id ∧
        origin'.device = origin.device ∧ origin'.publicIp = origin.publicIp ∧ readings' = readings := by
  intro s
  have reads {e : Event} {id : String} {origin : Origin} (h : e.Packable id origin)
      (readings : Readings) :
      unpack? (e.payload id origin readings) = some (e.packed id origin readings, []) := by
    have spelled := Spelled.mono (fun _ _ least => least.1) _ (spelled_pack _ (h.fits readings))
    have read := unpack?_of_spelled spelled []
    rwa [List.append_nil] at read
  have spelled := spelled_pack _ (packable.fits readings)
  refine ⟨reads packable readings, spelled, fun s' form => ?_, fun e' id' origin' readings' h same => ?_⟩
  · exact length_le_of_least _ spelled form
  · have read := reads h readings'
    rw [same, reads packable readings] at read
    simp only [Option.some.injEq, Prod.mk.injEq, and_true, packed, Value.map.injEq, List.cons.injEq,
      Value.list.injEq, Value.int.injEq, Value.text.injEq, Value.double.injEq, true_and] at read
    obtain ⟨frames, timestamp, excType, id, device, publicIp, memory, cpu⟩ := read
    refine ⟨(frames_packed_inj frames).symm, timestamp.symm, excType.symm, id.symm, device.symm,
      publicIp.symm, ?_⟩
    cases readings
    cases readings'
    simp_all

/-- An event at the boundaries of several headers: a text of 32 bytes, a time just below -128, and
frames on the lines 65535 and 65536. -/
theorem payload_reads_back_boundary :
    let e : Event := {
      frames := [⟨"get", "db", "db.rs", 65535⟩, ⟨"", "", "", 65536⟩]
      excType := "0123456789abcdef0123456789abcdef"
      timestamp := -129 }
    let origin : Origin := ⟨"device", "203.0.113.7"⟩
    let readings : Readings := ⟨⟨0x8000000000000000⟩, ⟨0x7FF8000000000001⟩⟩
    e.Packable "id" origin ∧
      (unpack? (e.payload "id" origin readings)).map (·.2) = some [] ∧
      Spelled Least (e.packed "id" origin readings) (e.payload "id" origin readings) := by
  intro e origin readings
  have packable : e.Packable "id" origin :=
    ⟨by decide, by decide +kernel, by decide +kernel, by decide⟩
  obtain ⟨reads, least, -⟩ := payload_reads_back packable readings
  exact ⟨packable, by rw [reads]; rfl, least⟩

end Event

end CrashReporter
