import CrashReporter.Json.Reader
import CrashReporter.Proofs.Json.Layout
import CrashReporter.Proofs.Text.Numeral

/-!
# Reading what was written: tokens

Blanks are skipped (`skipBlanks_blank`), a quoted text reads back as the text (`readText_quoted`) and the
digits of a natural number as the number (`readNumber_natDigits`), whatever stands behind them; behind a
number that must be nothing that could belong to it (`Ends`).
-/

namespace CrashReporter.Json

open Text (bytes IsDigit decimalFrom)

/-! ## Blanks -/

theorem skipBlanks_blank {lead : List Char} (blank : AllBlank lead) (s : Bytes) :
    skipBlanks (bytes lead ++ s) = skipBlanks s := by
  refine List.dropWhile_append_of_pos fun b hb => ?_
  obtain ⟨c, hc, hb⟩ := List.mem_flatMap.mp hb
  rcases blank c hc with rfl | rfl
  · rw [List.mem_singleton.mp hb]
    rfl
  · rw [List.mem_singleton.mp hb]
    rfl

theorem skipBlanks_cons {b : UInt8} (h : isBlankByte b = false) (s : Bytes) :
    skipBlanks (b :: s) = b :: s := by
  simp [skipBlanks, h]

/-! ## Texts -/

/-- The bytes of a character that stands for itself inside quotes. -/
theorem plain_bytes {c : Char} (quote : c ≠ '"') (backslash : c ≠ '\\') (control : ¬ c.toNat < 0x20) :
    ∀ b ∈ String.utf8EncodeChar c, b ≠ 0x22 ∧ b ≠ 0x5C ∧ ¬ b < 0x20 := by
  have hq : c.val.toNat ≠ 0x22 := fun h => quote (Char.toNat_inj.mp h)
  have hs : c.val.toNat ≠ 0x5C := fun h => backslash (Char.toNat_inj.mp h)
  have hc : ¬ c.val.toNat < 0x20 := control
  have small {n : Nat} (hn : n < 256) (h1 : n ≠ 0x22) (h2 : n ≠ 0x5C) (h3 : ¬ n < 0x20) :
      UInt8.ofNat n ≠ 0x22 ∧ UInt8.ofNat n ≠ 0x5C ∧ ¬ UInt8.ofNat n < 0x20 := by
    have e : (UInt8.ofNat n).toNat = n := by
      rw [UInt8.toNat_ofNat']
      exact Nat.mod_eq_of_lt hn
    refine ⟨fun h => h1 ?_, fun h => h2 ?_, fun h => h3 ?_⟩
    · rw [← e, h]
      rfl
    · rw [← e, h]
      rfl
    · rw [← e]
      exact UInt8.lt_iff_toNat_lt.mp h
  have high {n : Nat} (hn : n < 256) (h : 0x80 ≤ n) :
      UInt8.ofNat n ≠ 0x22 ∧ UInt8.ofNat n ≠ 0x5C ∧ ¬ UInt8.ofNat n < 0x20 :=
    small hn (by omega) (by omega) (by omega)
  intro b hb
  unfold String.utf8EncodeChar at hb
  simp only at hb
  split at hb
  · rw [List.mem_singleton.mp hb]
    exact small (by omega) hq hs hc
  split at hb
  · simp only [List.mem_cons, List.not_mem_nil, or_false] at hb
    rcases hb with rfl | rfl <;> exact high (by omega) (by omega)
  split at hb
  · simp only [List.mem_cons, List.not_mem_nil, or_false] at hb
    rcases hb with rfl | rfl | rfl <;> exact high (by omega) (by omega)
  · simp only [List.mem_cons, List.not_mem_nil, or_false] at hb
    rcases hb with rfl | rfl | rfl | rfl <;> exact high (by omega) (by omega)

/-- Bytes that stand for themselves are read one by one. -/
theorem textBytes_plain {more : Bytes} (plain : ∀ b ∈ more, b ≠ 0x22 ∧ b ≠ 0x5C ∧ ¬ b < 0x20)
    (n : Nat) (acc s : Bytes) :
    textBytes (n + more.length) acc (more ++ s) = textBytes n (more.reverse ++ acc) s := by
  induction more generalizing acc with
  | nil => rfl
  | cons b more ih =>
    have hb := plain b List.mem_cons_self
    rw [List.length_cons, ← Nat.add_assoc, List.cons_append, textBytes, if_neg hb.1, if_neg hb.2.1,
      if_neg hb.2.2, ih fun c hc => plain c (List.mem_cons_of_mem _ hc), List.reverse_cons,
      List.append_assoc]
    rfl

theorem hexByte?_digit : ∀ d < 16, ∃ b, String.utf8EncodeChar ("0123456789abcdef".toList.getD d '0') = [b] ∧
    hexByte? b = some d := by
  have table : ∀ d < 16, ("0123456789abcdef".toList.getD d '0').utf8Size = 1 ∧
      hexByte? ((String.utf8EncodeChar ("0123456789abcdef".toList.getD d '0')).headD 0) = some d := by
    decide
  intro d hd
  obtain ⟨size, value⟩ := table d hd
  rw [← String.length_utf8EncodeChar] at size
  obtain ⟨b, hb⟩ := List.length_eq_one_iff.mp size
  rw [hb] at value ⊢
  exact ⟨b, rfl, value⟩

/-- Four hexadecimal digits read back as the number. -/
theorem fourHexDigits_fourHex {n : Nat} (h : n < 0x10000) (rest : Bytes) :
    fourHexDigits (bytes (fourHex n) ++ rest) = .ok (n, rest) := by
  obtain ⟨a, ea, ha⟩ := hexByte?_digit (n / 0x1000 % 16) (Nat.mod_lt _ (by decide))
  obtain ⟨b, eb, hb⟩ := hexByte?_digit (n / 0x100 % 16) (Nat.mod_lt _ (by decide))
  obtain ⟨c, ec, hc⟩ := hexByte?_digit (n / 0x10 % 16) (Nat.mod_lt _ (by decide))
  obtain ⟨d, ed, hd⟩ := hexByte?_digit (n / 1 % 16) (Nat.mod_lt _ (by decide))
  have e : bytes (fourHex n) = [a, b, c, d] := by
    simp only [fourHex, List.map_cons, List.map_nil, Text.bytes_cons, Text.bytes_nil, ea, eb, ec, ed,
      List.cons_append, List.nil_append]
  have value : ((n / 0x1000 % 16 * 16 + n / 0x100 % 16) * 16 + n / 0x10 % 16) * 16 + n / 1 % 16 = n := by
    omega
  rw [e]
  simp only [List.cons_append, List.nil_append, fourHexDigits, ha, hb, hc, hd, value]

/-- The letters behind the backslash of a short escape. -/
def shortEscapes : Bytes := [0x22, 0x5C, 0x2F, 0x62, 0x66, 0x6E, 0x72, 0x74]

/-- A character is written as itself, as a short escape that reads back as its bytes, or by its number. -/
theorem escapeChar_forms (c : Char) :
    (escapeChar c = [c] ∧ ∀ b ∈ String.utf8EncodeChar c, b ≠ 0x22 ∧ b ≠ 0x5C ∧ ¬ b < 0x20) ∨
      (∃ d e, escapeChar c = ['\\', d] ∧ String.utf8EncodeChar d = [e] ∧ e ∈ shortEscapes ∧
        ∀ rest, escape (e :: rest) = .ok (String.utf8EncodeChar c, rest)) ∨
      escapeChar c = '\\' :: 'u' :: fourHex c.toNat ∧ c.toNat < 0x20 := by
  have code {n : Nat} (h : c.toNat = n) : c = Char.ofNat n := by rw [← h, Char.ofNat_toNat]
  unfold escapeChar
  split
  · subst c
    exact .inr (.inl ⟨'"', 0x22, rfl, rfl, by decide, fun _ => rfl⟩)
  split
  · subst c
    exact .inr (.inl ⟨'\\', 0x5C, rfl, rfl, by decide, fun _ => rfl⟩)
  split
  · obtain rfl : c = Char.ofNat 8 := code ‹_›
    exact .inr (.inl ⟨'b', 0x62, rfl, rfl, by decide, fun _ => rfl⟩)
  split
  · obtain rfl : c = Char.ofNat 9 := code ‹_›
    exact .inr (.inl ⟨'t', 0x74, rfl, rfl, by decide, fun _ => rfl⟩)
  split
  · obtain rfl : c = Char.ofNat 10 := code ‹_›
    exact .inr (.inl ⟨'n', 0x6E, rfl, rfl, by decide, fun _ => rfl⟩)
  split
  · obtain rfl : c = Char.ofNat 12 := code ‹_›
    exact .inr (.inl ⟨'f', 0x66, rfl, rfl, by decide, fun _ => rfl⟩)
  split
  · obtain rfl : c = Char.ofNat 13 := code ‹_›
    exact .inr (.inl ⟨'r', 0x72, rfl, rfl, by decide, fun _ => rfl⟩)
  split
  · exact .inr (.inr ⟨rfl, by assumption⟩)
  · exact .inl ⟨rfl, plain_bytes ‹_› ‹_› ‹_›⟩

/-- A character is written as itself, or as an escape that reads back as its bytes. -/
theorem escapeChar_cases (c : Char) :
    (escapeChar c = [c] ∧ ∀ b ∈ String.utf8EncodeChar c, b ≠ 0x22 ∧ b ≠ 0x5C ∧ ¬ b < 0x20) ∨
    ∃ cs, escapeChar c = '\\' :: cs ∧
      ∀ rest, escape (bytes cs ++ rest) = .ok (String.utf8EncodeChar c, rest) := by
  rcases escapeChar_forms c with plain | ⟨d, e, form, encoded, -, escaped⟩ | ⟨form, small⟩
  · exact .inl plain
  · refine .inr ⟨[d], form, fun rest => ?_⟩
    rw [Text.bytes_cons, encoded]
    exact escaped rest
  · refine .inr ⟨'u' :: fourHex c.toNat, form, fun rest => ?_⟩
    have read : escape (bytes ('u' :: fourHex c.toNat) ++ rest) =
        unicodeEscape (bytes (fourHex c.toNat) ++ rest) := rfl
    rw [read, unicodeEscape, fourHexDigits_fourHex (by omega)]
    simp only [bind, Except.bind, pure, Except.pure]
    rw [if_neg (by omega), if_pos (by omega), charBytes, Char.ofNat_toNat]

/-- Each character costs at least one byte, which is the reader's bound on its steps. -/
theorem textBytes_escaped (cs : List Char) (n : Nat) (acc rest : Bytes)
    (enough : (bytes (cs.flatMap escapeChar)).length < n) :
    textBytes n acc (bytes (cs.flatMap escapeChar) ++ 0x22 :: rest) = .ok (acc.reverse ++ bytes cs, rest) := by
  induction cs generalizing n acc with
  | nil =>
    obtain ⟨n, rfl⟩ := Nat.exists_eq_add_one_of_ne_zero (Nat.ne_zero_of_lt enough)
    exact congrArg (fun r => Except.ok (r, rest)) (List.append_nil _).symm
  | cons c cs ih =>
    rw [List.flatMap_cons, Text.bytes_append, List.length_append] at enough
    rw [List.flatMap_cons, Text.bytes_append, List.append_assoc]
    rcases escapeChar_cases c with ⟨e, plain⟩ | ⟨tail, e, escaped⟩
    · rw [e, Text.bytes_cons, Text.bytes_nil, List.append_nil] at enough ⊢
      obtain ⟨m, rfl⟩ := Nat.exists_eq_add_of_le' (Nat.le_of_lt (Nat.lt_of_le_of_lt (Nat.le_add_right ..) enough))
      rw [textBytes_plain plain, ih m _ (by omega), List.reverse_append, List.reverse_reverse,
        Text.bytes_cons, List.append_assoc]
    · rw [e, Text.bytes_cons] at enough ⊢
      have slash : String.utf8EncodeChar '\\' = [0x5C] := rfl
      rw [slash, List.length_append, List.length_singleton] at enough
      obtain ⟨m, rfl⟩ := Nat.exists_eq_add_one_of_ne_zero (Nat.ne_zero_of_lt enough)
      rw [slash, List.append_assoc, List.singleton_append, textBytes, if_neg (by decide), if_pos rfl, escaped]
      simp only [bind, Except.bind]
      rw [ih m _ (by omega), List.reverse_append, List.reverse_reverse, Text.bytes_cons, List.append_assoc]

/-- A written text reads back from behind its opening quote. -/
theorem readText_quoted (s : String) (rest : Bytes) :
    readText (bytes (s.toList.flatMap escapeChar) ++ 0x22 :: rest) = .ok (s, rest) := by
  rw [readText, textBytes_escaped s.toList _ [] rest (by rw [List.length_append]; omega)]
  simp only [bind, Except.bind, List.reverse_nil, List.nil_append, ← Text.utf8_eq_bytes, Text.ofUtf8?_utf8]
  rfl

theorem bytes_quote (s : String) : bytes (quote s) = 0x22 :: (bytes (s.toList.flatMap escapeChar) ++ [0x22]) := by
  rw [quote, Text.bytes_cons, Text.bytes_append]
  rfl

/-! ## Numbers -/

variable {digits : List Char} {c : Char} {rest : Bytes} {m : Nat}

/-- Whether nothing that could belong to a number comes next. -/
def Ends : Bytes → Prop
  | [] => True
  | b :: _ => isDigit b = false ∧ b ≠ 0x2E ∧ isExponentMark b = false

theorem digit_byte (digit : IsDigit c) :
    String.utf8EncodeChar c = [UInt8.ofNat c.toNat] ∧ isDigit (UInt8.ofNat c.toNat) = true ∧
      (UInt8.ofNat c.toNat).toNat = c.toNat := by
  have table : ∀ d < 10, String.utf8EncodeChar (Char.ofNat (48 + d)) = [UInt8.ofNat (48 + d)] ∧
      isDigit (UInt8.ofNat (48 + d)) = true ∧ (UInt8.ofNat (48 + d)).toNat = 48 + d := by decide
  have low : 48 ≤ c.toNat := digit.1
  have high : c.toNat ≤ 57 := digit.2
  have row := table (c.toNat - 48) (by omega)
  rwa [Nat.add_sub_cancel' low, Char.ofNat_toNat] at row

theorem isDigit_bytes (isDigits : ∀ c ∈ digits, IsDigit c) : ∀ b ∈ bytes digits, isDigit b = true := by
  intro b member
  obtain ⟨c, among, hb⟩ := List.mem_flatMap.mp member
  obtain ⟨encoded, digit, -⟩ := digit_byte (isDigits c among)
  rw [encoded] at hb
  rw [List.mem_singleton.mp hb]
  exact digit

/-- A digit is no other byte. -/
theorem ne_of_isDigit {b c : UInt8} (digit : isDigit b = true) (other : isDigit c = false) : b ≠ c := by
  rintro rfl
  rw [digit] at other
  cases other

theorem isBlankByte_of_isDigit {b : UInt8} (digit : isDigit b = true) : isBlankByte b = false := by
  simp only [isBlankByte, Bool.or_eq_false_iff, beq_eq_false_iff_ne]
  exact ⟨⟨⟨ne_of_isDigit digit rfl, ne_of_isDigit digit rfl⟩, ne_of_isDigit digit rfl⟩, ne_of_isDigit digit rfl⟩

/-- Digits that fit a word are gathered to the number they spell. -/
theorem gatherDigits_digits (isDigits : ∀ c ∈ digits, IsDigit c) (fits : decimalFrom m digits ≤ maxWord) (used : Nat) :
    gatherDigits m used (bytes digits ++ rest) =
      gatherDigits (decimalFrom m digits) (used + digits.length) rest := by
  induction digits generalizing m used with
  | nil => rfl
  | cons c digits ih =>
    obtain ⟨isDigit, isDigits⟩ := List.forall_mem_cons.mp isDigits
    obtain ⟨encoded, digit, value⟩ := digit_byte isDigit
    have within : 10 * m + (c.toNat - 0x30) ≤ maxWord := Nat.le_trans (Text.le_decimalFrom _ digits) fits
    rw [Text.bytes_cons, encoded, List.singleton_append, List.cons_append, gatherDigits]
    simp only [digit, value, if_true, if_pos within]
    have rest := ih isDigits fits (used + 1)
    rw [Nat.add_assoc, Nat.add_comm 1] at rest
    exact rest

/-- The first digit is a zero only if the number is. -/
theorem natDigits_head (n : Nat) :
    ∃ b more, bytes (natDigits n) = b :: more ∧ isDigit b = true ∧ (b = 0x30 → n = 0) := by
  obtain ⟨c, more, digits, zero⟩ := Text.toDigits_head n
  have isDigits := (Text.numeral_toDigits n).isDigit
  rw [digits] at isDigits
  obtain ⟨encoded, digit, value⟩ := digit_byte (isDigits c List.mem_cons_self)
  refine ⟨_, bytes more, ?_, digit, fun same => zero (Char.toNat_inj.mp ?_)⟩
  · rw [natDigits, digits, Text.bytes_cons, encoded, List.singleton_append]
  · rw [← value, same]
    rfl

theorem Ends.gatherDigits {rest : Bytes} (ends : Ends rest) (n used : Nat) :
    gatherDigits n used rest = (n, used, rest) := by
  cases rest with
  | nil => rfl
  | cons b rest =>
    rw [Json.gatherDigits]
    simp [ends.1]

theorem Ends.dropWhile {rest : Bytes} (ends : Ends rest) : rest.dropWhile isDigit = rest := by
  cases rest with
  | nil => rfl
  | cons b rest => simp [ends.1]

theorem Ends.finishNumber {rest : Bytes} (ends : Ends rest) (n : Nat) :
    finishNumber true n 0 rest = .ok (.whole n, rest) := by
  cases rest with
  | nil => rfl
  | cons b rest => simp [Json.finishNumber, ends.2.1, ends.2.2]

/-- A written natural number reads back. -/
theorem readNumber_natDigits {n : Nat} (h : n ≤ maxWord) {rest : Bytes} (ends : Ends rest) :
    readNumber true (bytes (natDigits n) ++ rest) = .ok (.whole n, rest) := by
  obtain ⟨b, more, e, digit, zero⟩ := natDigits_head n
  by_cases hb : b = 0x30
  · obtain rfl := zero hb
    have e0 : bytes (natDigits 0) = [0x30] := rfl
    rw [e0, List.singleton_append]
    simp only [readNumber, if_true]
    cases rest with
    | nil => rfl
    | cons d rest =>
      simp only [ends.1, Bool.false_eq_true, if_false]
      exact ends.finishNumber 0
  · obtain ⟨-, isDigits, value⟩ := Text.numeral_toDigits n
    have all : gatherDigits 0 0 (bytes (natDigits n) ++ rest) = gatherDigits n _ rest :=
      (gatherDigits_digits isDigits (value.symm ▸ h) 0).trans (by rw [value])
    rw [e, List.cons_append] at all
    rw [e, List.cons_append]
    simp only [readNumber, if_neg hb, digit, if_true, all, ends.gatherDigits, ends.dropWhile, Nat.sub_self]
    exact ends.finishNumber n

end CrashReporter.Json
