import CrashReporter.Proofs.MessagePack
import CrashReporter.Transport.Frame
import Mathlib.Algebra.GroupWithZero.Nat

/-!
# Reading a serial line

A reader of the line takes a length, as many bytes and a check value, again and again, and compares the
check value with that of the bytes (`Serial.receive?`, `Serial.listen`). A frame is what it takes at once,
whatever stands behind (`Serial.receive?_frame`). So frames that stand one behind the other are told apart
and read back as their payloads, and no frame begins another (`Serial.line_reads_back`).
-/

namespace CrashReporter.Serial

open MessagePack (takeBytes takeNat)

/-- A payload on the line, and the check value behind it. -/
structure Arrival where
  payload : Bytes
  check : Nat
  deriving DecidableEq

/-- Whether the check value is that of the payload. -/
def Arrival.isIntact (a : Arrival) : Bool := a.check == (Digest.crc32 a.payload).toNat

/-- What the line begins with, and the rest of it: a length, as many bytes and a check value. -/
def receive? (line : Bytes) : Option (Arrival × Bytes) := do
  let (length, line) ← takeNat 4 line
  let (payload, line) ← takeBytes length line
  let (check, line) ← takeNat 4 line
  return (⟨payload, check⟩, line)

/-- What a reader makes of a line. -/
structure Reading where
  /-- The payloads that arrived intact. -/
  payloads : List Bytes := []
  /-- What arrived with the check value of other bytes. -/
  mismatches : List Arrival := []
  /-- The end of the line that is too short for a frame. -/
  left : Bytes := []
  deriving DecidableEq

/-- The reading with another arrival in front. -/
def Reading.add (r : Reading) (a : Arrival) : Reading :=
  if a.isIntact then { r with payloads := a.payload :: r.payloads }
  else { r with mismatches := a :: r.mismatches }

theorem append_of_takeBytes {n : Nat} {s bs rest : Bytes} (h : takeBytes n s = some (bs, rest)) :
    bs ++ rest = s ∧ bs.length = n := by
  unfold takeBytes at h
  simp only [Option.ite_none_right_eq_some, Option.some.injEq, Prod.mk.injEq] at h
  obtain ⟨whole, rfl, rfl⟩ := h
  exact ⟨List.take_append_drop n s, whole⟩

theorem length_of_takeNat {n v : Nat} {s rest : Bytes} (h : takeNat n s = some (v, rest)) :
    s.length = n + rest.length := by
  obtain ⟨⟨digits, rest⟩, taken, same⟩ := Option.bind_eq_some_iff.mp h
  cases same
  obtain ⟨rfl, rfl⟩ := append_of_takeBytes taken
  exact List.length_append

/-- What is received is taken from the line. -/
theorem length_receive? {line rest : Bytes} {a : Arrival} (h : receive? line = some (a, rest)) :
    rest.length < line.length := by
  obtain ⟨⟨length, behind⟩, header, h⟩ := Option.bind_eq_some_iff.mp h
  obtain ⟨⟨payload, behind'⟩, taken, h⟩ := Option.bind_eq_some_iff.mp h
  obtain ⟨⟨check, behind''⟩, trailer, h⟩ := Option.bind_eq_some_iff.mp h
  cases h
  have := length_of_takeNat header
  have := length_of_takeNat trailer
  have := congrArg List.length (append_of_takeBytes taken).1
  rw [List.length_append] at this
  simp only at *
  omega

/-- Reads the line to its end. -/
def listen (line : Bytes) : Reading :=
  match _received : receive? line with
  | none => { left := line }
  | some (a, rest) => (listen rest).add a
termination_by line.length
decreasing_by exact length_receive? _received

/-! ## Frames -/

theorem frame_eq_ok {payload f : Bytes} : frame payload = .ok f ↔ payload.length < 2 ^ 32 ∧
    Bytes.bigEndian 4 payload.length ++ payload ++ Bytes.bigEndian 4 (Digest.crc32 payload).toNat = f := by
  have size : UInt32.size = 2 ^ 32 := rfl
  rw [frame, size]
  split
  · next short => exact ⟨fun framed => ⟨short, Except.ok.inj framed⟩, fun ⟨_, same⟩ => congrArg Except.ok same⟩
  · next long => exact ⟨nofun, fun ⟨short, _⟩ => absurd short long⟩

/-- A payload is refused if its length does not fit into the four bytes before it. -/
theorem frame_eq_error {payload : Bytes} : (∃ e, frame payload = .error e) ↔ 2 ^ 32 ≤ payload.length := by
  have size : UInt32.size = 2 ^ 32 := rfl
  rw [frame, size]
  split
  · next short => exact ⟨fun ⟨_, refused⟩ => (nomatch refused), fun long => absurd short (Nat.not_lt.mpr long)⟩
  · next long => exact ⟨fun _ => Nat.le_of_not_lt long, fun _ => ⟨_, rfl⟩⟩

/-- A frame is received as its payload, and what stands behind it is left. -/
theorem receive?_frame {payload f : Bytes} (framed : frame payload = .ok f) (s : Bytes) :
    receive? (f ++ s) = some (⟨payload, (Digest.crc32 payload).toNat⟩, s) := by
  obtain ⟨short, rfl⟩ := frame_eq_ok.mp framed
  have check := (Digest.crc32 payload).toNat_lt
  have word : Nat.pow 256 4 = 2 ^ 32 := rfl
  simp only [receive?, List.append_assoc, MessagePack.takeNat_bigEndian (word ▸ short),
    MessagePack.takeNat_bigEndian (word ▸ check), MessagePack.takeBytes_append rfl, Option.bind_eq_bind,
    Option.bind_some]
  rfl

theorem listen_frame {payload f : Bytes} (framed : frame payload = .ok f) (s : Bytes) :
    listen (f ++ s) = { listen s with payloads := payload :: (listen s).payloads } := by
  have received := receive?_frame framed s
  have intact : Arrival.isIntact ⟨payload, (Digest.crc32 payload).toNat⟩ = true := beq_self_eq_true _
  rw [listen]
  split
  · next none => exact nomatch none.symm.trans received
  · next some =>
    cases some.symm.trans received
    rw [Reading.add, if_pos intact]

/-- Frames on the line read back, by induction on the payloads. -/
theorem listen_frames (payloads : List Bytes) (short : ∀ p ∈ payloads, p.length < 2 ^ 32) :
    ∃ frames, payloads.mapM frame = .ok frames ∧ listen frames.flatten = { payloads } := by
  induction payloads with
  | nil =>
    refine ⟨[], rfl, ?_⟩
    rw [List.flatten_nil, listen]
    rfl
  | cons payload payloads ih =>
    obtain ⟨frames, framed, read⟩ := ih fun p hp => short p (List.mem_cons_of_mem _ hp)
    obtain ⟨f, first⟩ : ∃ f, frame payload = .ok f :=
      ⟨_, frame_eq_ok.mpr ⟨short payload List.mem_cons_self, rfl⟩⟩
    refine ⟨f :: frames, ?_, ?_⟩
    · rw [List.mapM_cons, first, framed]
      rfl
    · rw [List.flatten_cons, listen_frame first, read]

/-- A frame that begins another is that other: the reader takes the same from both. -/
theorem eq_of_frame_prefix {p q f g : Bytes} (framed : frame p = .ok f) (framed' : frame q = .ok g)
    (begins : f <+: g) : p = q := by
  obtain ⟨s, rfl⟩ := begins
  have whole := receive?_frame framed' []
  rw [List.append_nil, receive?_frame framed s] at whole
  cases whole
  rfl

/-- Payloads of less than `2 ^ 32` bytes have frames, and only those. However many frames stand one behind
the other, a reader finds all of their payloads and nothing else: no byte is left, and no check value is
that of other bytes. A frame begins another only if both are of the same payload. -/
theorem line_reads_back (payloads : List Bytes) (short : ∀ p ∈ payloads, p.length < 2 ^ 32) :
    (∃ frames, payloads.mapM frame = .ok frames ∧ listen frames.flatten = ⟨payloads, [], []⟩) ∧
      (∀ p q f g, frame p = .ok f → frame q = .ok g → (f <+: g ↔ p = q)) ∧
      ∀ p, (∃ e, frame p = .error e) ↔ 2 ^ 32 ≤ p.length := by
  refine ⟨listen_frames payloads short, fun p q f g framed framed' => ?_, fun p => frame_eq_error⟩
  constructor
  · exact eq_of_frame_prefix framed framed'
  · rintro rfl
    cases framed.symm.trans framed'
    exact List.prefix_rfl

/-- An empty payload, the digits from 1 to 9, whose check value is `cbf43926`, and a payload that looks like
the length of another. -/
theorem line_reads_back_digits :
    let payloads : List Bytes := [[], [0x31, 0x32, 0x33, 0x34, 0x35, 0x36, 0x37, 0x38, 0x39], [0, 0, 0, 1]]
    let first : Bytes := [0, 0, 0, 0, 0, 0, 0, 0]
    let second : Bytes := [0, 0, 0, 9, 0x31, 0x32, 0x33, 0x34, 0x35, 0x36, 0x37, 0x38, 0x39, 0xCB, 0xF4, 0x39, 0x26]
    let third : Bytes := [0, 0, 0, 4, 0, 0, 0, 1, 0x56, 0x43, 0xEF, 0x8A]
    (∀ p ∈ payloads, p.length < 2 ^ 32) ∧ payloads.mapM frame = .ok [first, second, third] ∧
      listen (first ++ (second ++ third)) = ⟨payloads, [], []⟩ ∧ ¬ first <+: third := by
  intro payloads first second third
  have short : ∀ p ∈ payloads, p.length < 2 ^ 32 := by decide
  have one : frame [] = .ok first := frame_eq_ok.mpr (by decide +kernel)
  have two : frame [0x31, 0x32, 0x33, 0x34, 0x35, 0x36, 0x37, 0x38, 0x39] = .ok second :=
    frame_eq_ok.mpr (by decide +kernel)
  have three : frame [0, 0, 0, 1] = .ok third := frame_eq_ok.mpr (by decide +kernel)
  have framed : payloads.mapM frame = .ok [first, second, third] := by
    simp only [payloads, List.mapM_cons, List.mapM_nil, one, two, three]
    rfl
  obtain ⟨⟨frames, framed', read⟩, beginnings, -⟩ := line_reads_back payloads short
  cases framed.symm.trans framed'
  refine ⟨short, framed, read, fun begins => ?_⟩
  cases (beginnings [] [0, 0, 0, 1] first third one three).mp begins

end CrashReporter.Serial
