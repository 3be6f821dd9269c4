import CrashReporter.Bytes

/-!
# UTF-8

A text's bytes, the text of well-formed bytes, and the reading that never fails: each maximal run
of bytes that starts a character but does not finish it becomes one replacement character.
-/

namespace CrashReporter.Text

/-- The UTF-8 bytes of a text. -/
def utf8 (s : String) : Bytes := s.toUTF8.data.toList

/-- The text whose UTF-8 bytes these are, if they are well formed. -/
def ofUtf8? (bs : Bytes) : Option String := String.fromUTF8? ⟨⟨bs⟩⟩

/-- A text's bytes read back as the text. -/
@[simp] theorem ofUtf8?_utf8 (s : String) : ofUtf8? (utf8 s) = some s := by
  simp [ofUtf8?, utf8, String.fromUTF8?, String.fromUTF8, s.isValidUTF8]

/-- U+FFFD, which stands for bytes that spell no character. -/
def replacement : Char := Char.ofNat 0xFFFD

namespace Lossy

/-- A character under way: how many bytes it still lacks, the range the next one must lie in, and
the bits so far. -/
structure Pending where
  missing : Nat
  least : UInt8
  greatest : UInt8
  code : Nat

/-- The state between bytes: characters read, latest first, and the character under way. -/
structure State where
  read : List Char
  pending : Option Pending

/-- What a byte that begins a character begins: the character itself, a longer one, or nothing. -/
def begin (read : List Char) (b : UInt8) : State :=
  let longer missing least greatest code := ⟨read, some ⟨missing, least, greatest, code⟩⟩
  if b < 0x80 then ⟨Char.ofNat b.toNat :: read, none⟩
  else if b < 0xC2 then ⟨replacement :: read, none⟩
  else if b < 0xE0 then longer 1 0x80 0xBF (b.toNat - 0xC0)
  else if b = 0xE0 then longer 2 0xA0 0xBF 0
  else if b = 0xED then longer 2 0x80 0x9F 0xD
  else if b < 0xF0 then longer 2 0x80 0xBF (b.toNat - 0xE0)
  else if b = 0xF0 then longer 3 0x90 0xBF 0
  else if b < 0xF4 then longer 3 0x80 0xBF (b.toNat - 0xF0)
  else if b = 0xF4 then longer 3 0x80 0x8F 4
  else ⟨replacement :: read, none⟩

/-- One more byte. -/
def step (s : State) (b : UInt8) : State :=
  match s.pending with
  | none => begin s.read b
  | some p =>
    if p.least ≤ b ∧ b ≤ p.greatest then
      let code := 64 * p.code + (b.toNat - 0x80)
      match p.missing with
      | 0 | 1 => ⟨Char.ofNat code :: s.read, none⟩
      | n + 1 => ⟨s.read, some ⟨n, 0x80, 0xBF, code⟩⟩
    else begin (replacement :: s.read) b

/-- The characters read once the bytes have ended. -/
def finish (s : State) : List Char :=
  (if s.pending.isSome then replacement :: s.read else s.read).reverse

end Lossy

/-- The text of any bytes, with replacement characters where they are malformed. -/
def ofUtf8Lossy (bs : Bytes) : String :=
  String.ofList (Lossy.finish (bs.foldl Lossy.step ⟨[], none⟩))

end CrashReporter.Text
