import CrashReporter.Text.Utf8

/-!
# Base 64

Three bytes are four symbols of six bits; a last group of one or two bytes is two or three symbols and
padding to four. Only the padded form is read, and only with zeros for the bits of the last symbol
that belong to no byte. `decode_encode` says that what is written reads back.
-/

namespace CrashReporter.Base64

/-- The padding symbol. -/
def pad : UInt8 := 0x3D

/-- The symbol of a number below 64. -/
def symbol (n : Nat) : UInt8 :=
  if n < 26 then UInt8.ofNat (n + 65)
  else if n < 52 then UInt8.ofNat (n + 71)
  else if n < 62 then UInt8.ofNat (n - 4)
  else if n = 62 then 0x2B
  else 0x2F

/-- The number that a symbol stands for. -/
def value? (s : UInt8) : Option Nat :=
  if 65 ≤ s ∧ s ≤ 90 then some (s.toNat - 65)
  else if 97 ≤ s ∧ s ≤ 122 then some (s.toNat - 71)
  else if 48 ≤ s ∧ s ≤ 57 then some (s.toNat + 4)
  else if s = 0x2B then some 62
  else if s = 0x2F then some 63
  else none

/-- The symbols of a byte string. -/
def encode : Bytes → Bytes
  | [] => []
  | [a] => [symbol (a.toNat / 4), symbol (a.toNat % 4 * 16), pad, pad]
  | [a, b] =>
    [symbol (a.toNat / 4), symbol (a.toNat % 4 * 16 + b.toNat / 16), symbol (b.toNat % 16 * 4), pad]
  | a :: b :: c :: rest =>
    symbol (a.toNat / 4) :: symbol (a.toNat % 4 * 16 + b.toNat / 16)
      :: symbol (b.toNat % 16 * 4 + c.toNat / 64) :: symbol (c.toNat % 64) :: encode rest

/-- What can be wrong with a text. -/
inductive Flaw where
  | invalidSymbol (symbol : UInt8) (offset : Nat)
  | invalidLastSymbol (symbol : UInt8) (offset : Nat)
  | invalidLength (length : Nat)
  | invalidPadding
  deriving DecidableEq

/-- The wording of a flaw. -/
def Flaw.message : Flaw → String
  | .invalidSymbol s offset => s!"Invalid symbol {s.toNat}, offset {offset}."
  | .invalidLastSymbol s offset => s!"Invalid last symbol {s.toNat}, offset {offset}."
  | .invalidLength n => s!"Invalid input length: {n}"
  | .invalidPadding => "Invalid padding"

/-- The number of a symbol at an offset. -/
def valueAt (offset : Nat) (s : UInt8) : Except Flaw Nat :=
  match value? s with
  | some n => .ok n
  | none => .error (.invalidSymbol s offset)

/-- The bytes of four numbers. -/
def join4 (a b c d : Nat) : Bytes :=
  [UInt8.ofNat (a * 4 + b / 16), UInt8.ofNat (b % 16 * 16 + c / 4), UInt8.ofNat (c % 4 * 64 + d)]

/-- The symbols of the last group, `at` symbols into the text: their numbers, and how many padding
symbols follow. Padding comes behind at least two symbols, and no symbol comes behind padding. -/
def lastNumbers (offset : Nat) : (index : Nat) → Bytes → Except Flaw (List Nat × Nat)
  | _, [] => .ok ([], 0)
  | i, s :: rest =>
    if s = pad then
      if i < 2 ∨ rest.any (· ≠ pad) then .error (.invalidSymbol pad (offset + i))
      else .ok ([], rest.length + 1)
    else do
      let n ← valueAt (offset + i) s
      let (ns, pads) ← lastNumbers offset (i + 1) rest
      return (n :: ns, pads)

/-- The bytes of the last group. -/
def decodeLast (offset : Nat) (group : Bytes) : Except Flaw Bytes := do
  let (ns, pads) ← lastNumbers offset 0 group
  let tail (n : Nat) : Except Flaw Unit :=
    if n = 0 then .ok ()
    else .error (.invalidLastSymbol (group.getD (ns.length - 1) 0) (offset + ns.length - 1))
  if group ≠ [] ∧ ns.length < 2 then .error (.invalidLength (offset + ns.length))
  else if (ns.length + pads) % 4 ≠ 0 then .error .invalidPadding
  else match ns with
    | [a, b] => do
      tail (b % 16)
      return [UInt8.ofNat (a * 4 + b / 16)]
    | [a, b, c] => do
      tail (c % 4)
      return [UInt8.ofNat (a * 4 + b / 16), UInt8.ofNat (b % 16 * 16 + c / 4)]
    | [a, b, c, d] => return join4 a b c d
    | _ => return []

/-- The bytes of symbols that stand `offset` symbols into the text. -/
def decodeFrom (offset : Nat) : Bytes → Except Flaw Bytes
  | s :: t :: u :: v :: w :: rest => do
    let a ← valueAt offset s
    let b ← valueAt (offset + 1) t
    let c ← valueAt (offset + 2) u
    let d ← valueAt (offset + 3) v
    return join4 a b c d ++ (← decodeFrom (offset + 4) (w :: rest))
  | group => decodeLast offset group

/-- A symbol that stands alone behind whole groups is looked at first. -/
def checkLone (text : Bytes) : Except Flaw Unit :=
  match text.getLast? with
  | some s =>
    if text.length % 4 = 1 ∧ s ≠ pad then do let _ ← valueAt (text.length - 1) s
    else .ok ()
  | none => .ok ()

/-- The bytes that a text spells. -/
def decode (text : Bytes) : Except Flaw Bytes := do
  checkLone text
  decodeFrom 0 text

/-- The symbols of a byte string as a text. -/
def encodeText (bs : Bytes) : String := String.ofList ((encode bs).map fun s => Char.ofNat s.toNat)

/-- The bytes that a text spells. -/
def decodeText (s : String) : Except Flaw Bytes := decode (Text.utf8 s)

theorem symbol_table : ∀ n < 64, value? (symbol n) = some n ∧ symbol n ≠ pad := by decide

theorem symbol_ne_pad {n : Nat} (h : n < 64) : symbol n ≠ pad := (symbol_table n h).2

theorem valueAt_symbol {n : Nat} (h : n < 64) (offset : Nat) : valueAt offset (symbol n) = .ok n := by
  simp [valueAt, (symbol_table n h).1]

theorem encode_ne_nil {bs : Bytes} (h : bs ≠ []) : encode bs ≠ [] := by
  fun_cases encode bs <;> simp at h ⊢

theorem length_encode (bs : Bytes) : (encode bs).length % 4 = 0 := by
  fun_induction encode bs with
  | case1 => rfl
  | case2 => simp
  | case3 => simp
  | case4 a b c rest ih => simp only [List.length_cons]; omega

theorem ofNat_eq {a : UInt8} {n : Nat} (h : n = a.toNat) : UInt8.ofNat n = a := by simp [h]

theorem join4_bytes (a b c : UInt8) :
    join4 (a.toNat / 4) (a.toNat % 4 * 16 + b.toNat / 16) (b.toNat % 16 * 4 + c.toNat / 64)
      (c.toNat % 64) = [a, b, c] := by
  have ha := a.toNat_lt
  have hb := b.toNat_lt
  have hc := c.toNat_lt
  rw [join4, ofNat_eq (a := a) (by omega), ofNat_eq (a := b) (by omega), ofNat_eq (a := c) (by omega)]

theorem decodeFrom_encode (offset : Nat) (bs : Bytes) : decodeFrom offset (encode bs) = .ok bs := by
  fun_induction encode bs generalizing offset with
  | case1 => rfl
  | case2 a =>
    have ha := a.toNat_lt
    have h1 : a.toNat / 4 < 64 := by omega
    have h2 : a.toNat % 4 * 16 < 64 := by omega
    have e : UInt8.ofNat (a.toNat / 4 * 4 + a.toNat % 4 * 16 / 16) = a := ofNat_eq (by omega)
    simp only [decodeFrom, decodeLast, lastNumbers, symbol_ne_pad, valueAt_symbol, h1, h2, bind, Except.bind,
      pure, Except.pure, if_false]
    simpa [pad] using e
  | case3 a b =>
    have ha := a.toNat_lt
    have hb := b.toNat_lt
    have h1 : a.toNat / 4 < 64 := by omega
    have h2 : a.toNat % 4 * 16 + b.toNat / 16 < 64 := by omega
    have h3 : b.toNat % 16 * 4 < 64 := by omega
    have e1 : UInt8.ofNat (a.toNat / 4 * 4 + (a.toNat % 4 * 16 + b.toNat / 16) / 16) = a :=
      ofNat_eq (by omega)
    have e2 : UInt8.ofNat ((a.toNat % 4 * 16 + b.toNat / 16) % 16 * 16 + b.toNat % 16 * 4 / 4) = b :=
      ofNat_eq (by omega)
    simp only [decodeFrom, decodeLast, lastNumbers, symbol_ne_pad, valueAt_symbol, h1, h2, h3, bind,
      Except.bind, pure, Except.pure, if_false]
    simpa [pad] using And.intro e1 e2
  | case4 a b c rest ih =>
    have ha := a.toNat_lt
    have hb := b.toNat_lt
    have hc := c.toNat_lt
    have h1 : a.toNat / 4 < 64 := by omega
    have h2 : a.toNat % 4 * 16 + b.toNat / 16 < 64 := by omega
    have h3 : b.toNat % 16 * 4 + c.toNat / 64 < 64 := by omega
    have h4 : c.toNat % 64 < 64 := by omega
    by_cases hr : rest = []
    · subst hr
      simp only [encode, decodeFrom, decodeLast, lastNumbers, symbol_ne_pad, valueAt_symbol, h1, h2, h3,
        h4, bind, Except.bind, pure, Except.pure, join4_bytes, if_false]
      simp
    · obtain ⟨w, ws, hw⟩ := List.exists_cons_of_ne_nil (encode_ne_nil hr)
      have hi := ih (offset + 4)
      rw [hw] at hi ⊢
      simp only [decodeFrom, valueAt_symbol, h1, h2, h3, h4, hi, bind, Except.bind, pure, Except.pure,
        join4_bytes]
      simp

theorem decode_encode (bs : Bytes) : decode (encode bs) = .ok bs := by
  have hl : checkLone (encode bs) = .ok () := by
    simp only [checkLone]
    split
    · simp [length_encode]
    · rfl
  simp [decode, hl, decodeFrom_encode, bind, Except.bind]

end CrashReporter.Base64
