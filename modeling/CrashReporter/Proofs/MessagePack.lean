import CrashReporter.MessagePack

/-!
# Packed forms of a value

The format has several headers for a number or a size: small ones hold it in themselves, behind the
others it follows in one, two, four or eight bytes. `Form` says which headers there are, `Least` which of
them are the shortest, and `Spelled` which bytes are a value whose headers are taken from given ones.

* `least_packed`: the headers that are written are the shortest;
* `spelled_pack`: a value is written with the shortest headers;
* `unpack?_of_spelled`: a value is read from each of its forms, whatever follows it;
* `length_le_of_least`: with the shortest headers a value is not longer than in any other form.
-/

namespace CrashReporter.MessagePack

/-! ## Headers -/

/-- What a header tells: a whole number, or the size of what follows it. -/
inductive Head where
  | int (n : Int)
  | text (size : Nat)
  | bytes (size : Nat)
  | list (size : Nat)
  | map (size : Nat)

/-- Headers of one kind for natural numbers: a number below `bound` is added to `first`; behind each of
the `tags`, one follows in as many bytes. -/
structure Family where
  first : Nat := 0
  bound : Nat := 0
  tags : List (Nat × Nat)

/-- Whether `h` is one of the headers of `n`. -/
def Family.Form (F : Family) (n : Nat) (h : Bytes) : Prop :=
  (n < F.bound ∧ h = header (F.first + n)) ∨
    ∃ t ∈ F.tags, n < Nat.pow 256 t.2 ∧ h = header t.1 ++ Bytes.bigEndian t.2 n

/-- Natural numbers. -/
def naturals : Family := { bound := 0x80, tags := [(0xCC, 1), (0xCD, 2), (0xCE, 4), (0xCF, 8)] }

/-- Sizes of texts. -/
def texts : Family := { first := 0xA0, bound := 32, tags := [(0xD9, 1), (0xDA, 2), (0xDB, 4)] }

/-- Sizes of byte strings. -/
def strings : Family := { tags := [(0xC4, 1), (0xC5, 2), (0xC6, 4)] }

/-- Sizes of lists. -/
def lists : Family := { first := 0x90, bound := 16, tags := [(0xDC, 2), (0xDD, 4)] }

/-- Sizes of maps. -/
def maps : Family := { first := 0x80, bound := 16, tags := [(0xDE, 2), (0xDF, 4)] }

/-- Whether `h` is one of the headers of a number with a sign: one from -32 to -1 is a byte of two's
complement by itself, and behind each tag a number follows in two's complement. -/
def SignedForm (n : Int) (h : Bytes) : Prop :=
  (-0x20 ≤ n ∧ n < 0 ∧ h = header (n + 0x100).toNat) ∨
    ∃ t ∈ [(0xD0, 1), (0xD1, 2), (0xD2, 4), (0xD3, 8)],
      -((Nat.pow 256 t.2 : Nat) : Int) ≤ 2 * n ∧ 2 * n < ((Nat.pow 256 t.2 : Nat) : Int) ∧
        h = header t.1 ++ Bytes.bigEndian t.2 (n % ((Nat.pow 256 t.2 : Nat) : Int)).toNat

/-- The headers that the format has. -/
def Form : Head → Bytes → Prop
  | .int n, h => (0 ≤ n ∧ naturals.Form n.toNat h) ∨ SignedForm n h
  | .text n, h => texts.Form n h
  | .bytes n, h => strings.Form n h
  | .list n, h => lists.Form n h
  | .map n, h => maps.Form n h

/-- The headers that are not longer than any other that tells the same. -/
def Least (x : Head) (h : Bytes) : Prop := Form x h ∧ ∀ h', Form x h' → h.length ≤ h'.length

/-- The header that is written. -/
def Head.packed : Head → Bytes
  | .int n => packInt n
  | .text n => textHeader n
  | .bytes n => bytesHeader n
  | .list n => listHeader n
  | .map n => mapHeader n

/-- Whether the format has a header: numbers have 64 bits, sizes 32. -/
def Head.Fits : Head → Prop
  | .int n => -0x8000000000000000 ≤ n ∧ n < 0x10000000000000000
  | .text n | .bytes n | .list n | .map n => n < 0x100000000

@[simp] theorem length_header (n : Nat) : (header n).length = 1 := rfl

theorem Family.Form.length {F : Family} {n : Nat} {h : Bytes} (form : F.Form n h) :
    (n < F.bound ∧ h.length = 1) ∨ ∃ t ∈ F.tags, n < Nat.pow 256 t.2 ∧ h.length = t.2 + 1 := by
  rcases form with ⟨small, rfl⟩ | ⟨t, ht, lt, rfl⟩
  · exact .inl ⟨small, rfl⟩
  · refine .inr ⟨t, ht, lt, ?_⟩
    rw [List.length_append, length_header, Bytes.length_bigEndian, Nat.add_comm]

/-- Whether `h` is one of the shortest headers of `n`. -/
def Family.Least (F : Family) (n : Nat) (h : Bytes) : Prop :=
  F.Form n h ∧ ∀ h', F.Form n h' → h.length ≤ h'.length

section

variable {F : Family} {n : Nat}

theorem Family.least_small (small : n < F.bound) : F.Least n (header (F.first + n)) := by
  refine ⟨.inl ⟨small, rfl⟩, fun h' form => ?_⟩
  rw [length_header]
  rcases form.length with ⟨-, one⟩ | ⟨t, -, -, more⟩ <;> omega

/-- Behind a tag a number takes the fewest bytes if it is too large for all narrower ones. -/
theorem Family.least_tag {tag width : Nat} (mem : (tag, width) ∈ F.tags)
    (fits : n < Nat.pow 256 width) (large : F.bound ≤ n)
    (narrow : ∀ t ∈ F.tags, t.2 < width → Nat.pow 256 t.2 ≤ n) :
    F.Least n (header tag ++ Bytes.bigEndian width n) := by
  refine ⟨.inr ⟨_, mem, fits, rfl⟩, fun h' form => ?_⟩
  rw [List.length_append, length_header, Bytes.length_bigEndian]
  rcases form.length with ⟨small, -⟩ | ⟨t, mem', fits', length⟩
  · omega
  · have := narrow t mem'
    omega

theorem least_naturals (fits : n < 0x10000000000000000) : naturals.Least n (packNat n) := by
  have bound : naturals.bound = 0x80 := rfl
  unfold packNat
  split
  · next small => simpa [naturals] using Family.least_small (F := naturals) small
  split
  · exact Family.least_tag (by decide) (by simpa) (by omega) (by simp [naturals])
  split
  · exact Family.least_tag (by decide) (by simpa) (by omega) (by simp [naturals]; omega)
  split
  · exact Family.least_tag (by decide) (by simpa) (by omega) (by simp [naturals]; omega)
  · exact Family.least_tag (by decide) (by simpa) (by omega) (by simp [naturals]; omega)

theorem least_texts (fits : n < 0x100000000) : texts.Least n (textHeader n) := by
  have bound : texts.bound = 32 := rfl
  unfold textHeader
  split
  · exact Family.least_small (F := texts) ‹_›
  split
  · exact Family.least_tag (by decide) (by simpa) (by omega) (by simp [texts])
  split
  · exact Family.least_tag (by decide) (by simpa) (by omega) (by simp [texts]; omega)
  · exact Family.least_tag (by decide) (by simpa) (by omega) (by simp [texts]; omega)

theorem least_strings (fits : n < 0x100000000) : strings.Least n (bytesHeader n) := by
  have bound : strings.bound = 0 := rfl
  unfold bytesHeader
  split
  · exact Family.least_tag (by decide) (by simpa) (by omega) (by simp [strings])
  split
  · exact Family.least_tag (by decide) (by simpa) (by omega) (by simp [strings]; omega)
  · exact Family.least_tag (by decide) (by simpa) (by omega) (by simp [strings]; omega)

theorem least_lists (fits : n < 0x100000000) : lists.Least n (listHeader n) := by
  have bound : lists.bound = 16 := rfl
  unfold listHeader
  split
  · exact Family.least_small (F := lists) ‹_›
  split
  · exact Family.least_tag (by decide) (by simpa) (by omega) (by simp [lists])
  · exact Family.least_tag (by decide) (by simpa) (by omega) (by simp [lists]; omega)

theorem least_maps (fits : n < 0x100000000) : maps.Least n (mapHeader n) := by
  have bound : maps.bound = 16 := rfl
  unfold mapHeader
  split
  · exact Family.least_small (F := maps) ‹_›
  split
  · exact Family.least_tag (by decide) (by simpa) (by omega) (by simp [maps])
  · exact Family.least_tag (by decide) (by simpa) (by omega) (by simp [maps]; omega)

end

/-- A natural number takes no fewer bytes with a sign than without. -/
theorem SignedForm.naturals {n : Int} {h : Bytes} (pos : 0 ≤ n) (form : SignedForm n h) :
    ∃ h', naturals.Form n.toNat h' ∧ h'.length = h.length := by
  rcases form with ⟨-, negative, -⟩ | ⟨t, mem, -, lt, rfl⟩
  · omega
  · have room : n.toNat < Nat.pow 256 t.2 := by omega
    have same : ∀ t ∈ [(0xD0, 1), (0xD1, 2), (0xD2, 4), (0xD3, 8)],
        ∃ u ∈ MessagePack.naturals.tags, u.2 = t.2 := by decide
    obtain ⟨u, hu, width⟩ := same t mem
    exact ⟨_, .inr ⟨u, hu, width ▸ room, rfl⟩, by simp [width]⟩

theorem SignedForm.length {n : Int} {h : Bytes} (form : SignedForm n h) :
    (-0x20 ≤ n ∧ h.length = 1) ∨ (-0x80 ≤ n ∧ h.length = 2) ∨ (-0x8000 ≤ n ∧ h.length = 3) ∨
      (-0x80000000 ≤ n ∧ h.length = 5) ∨ h.length = 9 := by
  rcases form with ⟨small, -, rfl⟩ | ⟨t, mem, le, -, rfl⟩
  · exact .inl ⟨small, rfl⟩
  · simp only [List.mem_cons, List.not_mem_nil, or_false] at mem
    rcases mem with rfl | rfl | rfl | rfl <;> simp at le ⊢ <;> omega

/-- Behind a tag for numbers with a sign stands the two's complement. -/
theorem SignedForm.of_tag {tag width m : Nat}
    (mem : (tag, width) ∈ [(0xD0, 1), (0xD1, 2), (0xD2, 4), (0xD3, 8)]) (pos : 0 < m)
    (le : 2 * m ≤ Nat.pow 256 width) :
    SignedForm (-m) (header tag ++ Bytes.bigEndian width (Nat.pow 256 width - m)) := by
  have complement : (-(m : Int) % ((Nat.pow 256 width : Nat) : Int)).toNat = Nat.pow 256 width - m := by
    rw [← Int.add_emod_right, Int.emod_eq_of_lt (by omega) (by omega)]
    omega
  refine .inr ⟨_, mem, ?_⟩
  simp only [complement]
  exact ⟨by omega, by omega, trivial⟩

theorem least_packNegative {m : Nat} (pos : 0 < m) (fits : m ≤ 0x8000000000000000) :
    Least (.int (-m)) (packNegative m) := by
  have others : ∀ k, (∀ h, SignedForm (-m) h → k ≤ h.length) → ∀ h, Form (.int (-m)) h → k ≤ h.length := by
    intro k signed h form
    rcases form with ⟨natural, -⟩ | form
    · omega
    · exact signed h form
  unfold packNegative
  split
  · refine ⟨.inr (.inl ⟨by omega, by omega, ?_⟩), others _ fun h form => ?_⟩
    · congr 1; omega
    · have := form.length
      simp; omega
  split
  · refine ⟨.inr (.of_tag (by decide) pos (by simp; omega)), others _ fun h form => ?_⟩
    have := form.length
    simp; omega
  split
  · refine ⟨.inr (.of_tag (by decide) pos (by simp; omega)), others _ fun h form => ?_⟩
    have := form.length
    simp; omega
  split
  · refine ⟨.inr (.of_tag (by decide) pos (by simp; omega)), others _ fun h form => ?_⟩
    have := form.length
    simp; omega
  · refine ⟨.inr (.of_tag (by decide) pos (by simp; omega)), others _ fun h form => ?_⟩
    have := form.length
    simp; omega

theorem least_packInt {n : Int} (fits : (Head.int n).Fits) : Least (.int n) (packInt n) := by
  obtain ⟨lower, upper⟩ := fits
  unfold packInt
  split
  · next pos =>
    have same : n.natAbs = n.toNat := by omega
    obtain ⟨form, least⟩ := least_naturals (n := n.toNat) (by omega)
    rw [same]
    refine ⟨.inl ⟨pos, form⟩, fun h' form' => ?_⟩
    rcases form' with ⟨-, natural⟩ | signed
    · exact least h' natural
    · obtain ⟨h, natural, length⟩ := signed.naturals pos
      exact length ▸ least h natural
  · next negative =>
    have h := least_packNegative (m := n.natAbs) (by omega) (by omega)
    rwa [show -(n.natAbs : Int) = n by omega] at h

/-- The header that is written is one of the shortest. -/
theorem least_packed {x : Head} (fits : x.Fits) : Least x x.packed := by
  cases x with
  | int n => exact least_packInt fits
  | text n => exact least_texts fits
  | bytes n => exact least_strings fits
  | list n => exact least_lists fits
  | map n => exact least_maps fits

/-! ## Reading headers -/

theorem takeBytes_append {n : Nat} {bs : Bytes} (length : bs.length = n) (s : Bytes) :
    takeBytes n (bs ++ s) = some (bs, s) := by
  subst length
  simp [takeBytes]

theorem takeNat_bigEndian {width n : Nat} (fits : n < Nat.pow 256 width) (s : Bytes) :
    takeNat width (Bytes.bigEndian width n ++ s) = some (n, s) := by
  rw [takeNat, takeBytes_append (Bytes.length_bigEndian width n)]
  show some (Bytes.toNat (Bytes.bigEndian width n), s) = _
  rw [Bytes.toNat_bigEndian fits]

/-- A number in two's complement. -/
theorem takeInt_bigEndian {width : Nat} {n : Int} (lower : -((Nat.pow 256 width : Nat) : Int) ≤ 2 * n)
    (upper : 2 * n < ((Nat.pow 256 width : Nat) : Int)) (s : Bytes) :
    takeInt width (Bytes.bigEndian width (n % ((Nat.pow 256 width : Nat) : Int)).toNat ++ s) =
      some (n, s) := by
  have pos : 0 < Nat.pow 256 width := Nat.pow_pos (by decide)
  have low := Int.emod_nonneg n (b := ((Nat.pow 256 width : Nat) : Int)) (by omega)
  have high := Int.emod_lt_of_pos n (b := ((Nat.pow 256 width : Nat) : Int)) (by omega)
  rw [takeInt, takeNat_bigEndian (by omega)]
  show some (_, s) = _
  congr 2
  by_cases negative : n < 0
  · have wrapped : n % ((Nat.pow 256 width : Nat) : Int) = n + ((Nat.pow 256 width : Nat) : Int) := by
      rw [← Int.add_emod_right, Int.emod_eq_of_lt (by omega) (by omega)]
    rw [wrapped, if_neg (by omega)]
    omega
  · have same : n % ((Nat.pow 256 width : Nat) : Int) = n := Int.emod_eq_of_lt (by omega) (by omega)
    rw [same, if_pos (by omega)]
    omega

/-- What is read behind a header. -/
def Head.unpackN (f : Nat) : Head → Bytes → Option (Value × Bytes)
  | .int n, s => some (.int n, s)
  | .text n, s => takeText n s
  | .bytes n, s => takeString n s
  | .list n, s => unpackItemsN f n [] s
  | .map n, s => unpackEntriesN f n [] s

section

variable {t : Nat × Nat} (f : Nat) (s : Bytes)

theorem unpackN_naturals (mem : t ∈ naturals.tags) :
    unpackN (f + 1) (header t.1 ++ s) = (takeNat t.2 s).map fun r => (.int r.1, r.2) := by
  simp only [naturals, List.mem_cons, List.not_mem_nil, or_false] at mem
  rcases mem with rfl | rfl | rfl | rfl <;> rfl

theorem unpackN_signed (mem : t ∈ [(0xD0, 1), (0xD1, 2), (0xD2, 4), (0xD3, 8)]) :
    unpackN (f + 1) (header t.1 ++ s) = (takeInt t.2 s).map fun r => (.int r.1, r.2) := by
  simp only [List.mem_cons, List.not_mem_nil, or_false] at mem
  rcases mem with rfl | rfl | rfl | rfl <;> rfl

theorem unpackN_texts (mem : t ∈ texts.tags) :
    unpackN (f + 1) (header t.1 ++ s) = (takeNat t.2 s).bind fun r => takeText r.1 r.2 := by
  simp only [texts, List.mem_cons, List.not_mem_nil, or_false] at mem
  rcases mem with rfl | rfl | rfl <;> rfl

theorem unpackN_strings (mem : t ∈ strings.tags) :
    unpackN (f + 1) (header t.1 ++ s) = (takeNat t.2 s).bind fun r => takeString r.1 r.2 := by
  simp only [strings, List.mem_cons, List.not_mem_nil, or_false] at mem
  rcases mem with rfl | rfl | rfl <;> rfl

theorem unpackN_lists (mem : t ∈ lists.tags) :
    unpackN (f + 1) (header t.1 ++ s) =
      (takeNat t.2 s).bind fun r => unpackItemsN f r.1 [] r.2 := by
  simp only [lists, List.mem_cons, List.not_mem_nil, or_false] at mem
  rcases mem with rfl | rfl <;> rfl

theorem unpackN_maps (mem : t ∈ maps.tags) :
    unpackN (f + 1) (header t.1 ++ s) =
      (takeNat t.2 s).bind fun r => unpackEntriesN f r.1 [] r.2 := by
  simp only [maps, List.mem_cons, List.not_mem_nil, or_false] at mem
  rcases mem with rfl | rfl <;> rfl

end

/-- Each header of a number or size tells it to the reader. -/
theorem unpackN_form {x : Head} {h : Bytes} (form : Form x h) (f : Nat) (s : Bytes) :
    unpackN (f + 1) (h ++ s) = x.unpackN f s := by
  have byte {n : Nat} (lt : n < 0x100) : (UInt8.ofNat n).toNat = n := by simp; omega
  cases x with
  | int n =>
    rcases form with ⟨pos, ⟨small, rfl⟩ | ⟨t, mem, fits, rfl⟩⟩ | ⟨lower, upper, rfl⟩ | ⟨t, mem, lower, upper, rfl⟩
    · have small : n.toNat < 0x80 := small
      have read := byte (show naturals.first + n.toNat < 0x100 by show 0 + n.toNat < _; omega)
      rw [header, List.singleton_append, unpackN, if_pos (by rw [read]; show 0 + n.toNat < _; omega), read]
      show some (Value.int _, s) = some (Value.int n, s)
      congr 3
      show ((0 + n.toNat : Nat) : Int) = n
      omega
    · rw [List.append_assoc, unpackN_naturals f _ mem, takeNat_bigEndian fits]
      show some (Value.int _, s) = some (Value.int n, s)
      rw [Int.toNat_of_nonneg pos]
    · have read := byte (n := (n + 0x100).toNat) (by omega)
      rw [header, List.singleton_append, unpackN, if_neg (by omega), if_neg (by omega), if_neg (by omega),
        if_neg (by omega), if_pos (by omega), read]
      show some (Value.int _, s) = some (Value.int n, s)
      congr 3
      omega
    · rw [List.append_assoc, unpackN_signed f _ mem, takeInt_bigEndian lower upper]
      rfl
  | text n =>
    rcases form with ⟨small, rfl⟩ | ⟨t, mem, fits, rfl⟩
    · have small : n < 32 := small
      have read := byte (n := 0xA0 + n) (by omega)
      show unpackN (f + 1) (UInt8.ofNat (0xA0 + n) :: s) = takeText n s
      rw [unpackN, if_neg (by omega), if_neg (by omega), if_neg (by omega), if_pos (by omega), read,
        Nat.add_sub_cancel_left]
    · rw [List.append_assoc, unpackN_texts f _ mem, takeNat_bigEndian fits]
      rfl
  | bytes n =>
    rcases form with ⟨small, -⟩ | ⟨t, mem, fits, rfl⟩
    · exact absurd small (Nat.not_lt_zero n)
    · rw [List.append_assoc, unpackN_strings f _ mem, takeNat_bigEndian fits]
      rfl
  | list n =>
    rcases form with ⟨small, rfl⟩ | ⟨t, mem, fits, rfl⟩
    · have small : n < 16 := small
      have read := byte (n := 0x90 + n) (by omega)
      show unpackN (f + 1) (UInt8.ofNat (0x90 + n) :: s) = unpackItemsN f n [] s
      rw [unpackN, if_neg (by omega), if_neg (by omega), if_pos (by omega), read,
        Nat.add_sub_cancel_left]
    · rw [List.append_assoc, unpackN_lists f _ mem, takeNat_bigEndian fits]
      rfl
  | map n =>
    rcases form with ⟨small, rfl⟩ | ⟨t, mem, fits, rfl⟩
    · have small : n < 16 := small
      have read := byte (n := 0x80 + n) (by omega)
      show unpackN (f + 1) (UInt8.ofNat (0x80 + n) :: s) = unpackEntriesN f n [] s
      rw [unpackN, if_neg (by omega), if_pos (by omega), read, Nat.add_sub_cancel_left]
    · rw [List.append_assoc, unpackN_maps f _ mem, takeNat_bigEndian fits]
      rfl

/-! ## Values -/

section

variable (R : Head → Bytes → Prop)

mutual

/-- The bytes are a value whose headers are among those that `R` gives. -/
def Spelled : Value → Bytes → Prop
  | .nil, s => s = header 0xC0
  | .bool b, s => s = header (if b then 0xC3 else 0xC2)
  | .int n, s => R (.int n) s
  | .double d, s => s = packDouble d
  | .text t, s => ∃ h, R (.text (Text.utf8 t).length) h ∧ s = h ++ Text.utf8 t
  | .bytes bs, s => ∃ h, R (.bytes bs.length) h ∧ s = h ++ bs
  | .list items, s => ∃ h body, R (.list items.length) h ∧ SpelledItems items body ∧ s = h ++ body
  | .map entries, s => ∃ h body, R (.map entries.length) h ∧ SpelledEntries entries body ∧ s = h ++ body

/-- The bytes are items one after the other. -/
def SpelledItems : List Value → Bytes → Prop
  | [], s => s = []
  | v :: vs, s => ∃ a b, Spelled v a ∧ SpelledItems vs b ∧ s = a ++ b

/-- The bytes are entries one after the other, each its key and its value. -/
def SpelledEntries : List (Value × Value) → Bytes → Prop
  | [], s => s = []
  | (k, v) :: es, s => ∃ a b c, Spelled k a ∧ Spelled v b ∧ SpelledEntries es c ∧ s = a ++ (b ++ c)

end

end

mutual

/-- Whether the format has headers for a value and all that is in it. -/
def Value.Fits : Value → Prop
  | .nil | .bool _ | .double _ => True
  | .int n => (Head.int n).Fits
  | .text t => (Head.text (Text.utf8 t).length).Fits
  | .bytes bs => (Head.bytes bs.length).Fits
  | .list items => (Head.list items.length).Fits ∧ ItemsFit items
  | .map entries => (Head.map entries.length).Fits ∧ EntriesFit entries

/-- Whether the format has headers for all items. -/
def ItemsFit : List Value → Prop
  | [] => True
  | v :: vs => v.Fits ∧ ItemsFit vs

/-- Whether the format has headers for all keys and values. -/
def EntriesFit : List (Value × Value) → Prop
  | [] => True
  | (k, v) :: es => k.Fits ∧ v.Fits ∧ EntriesFit es

end

mutual

/-- A value is written with the shortest headers. -/
theorem spelled_pack : (v : Value) → v.Fits → Spelled Least v (pack v)
  | .nil, _ => rfl
  | .bool b, _ => by cases b <;> rfl
  | .int _, fits => least_packed fits
  | .double _, _ => rfl
  | .text _, fits => ⟨_, least_packed fits, rfl⟩
  | .bytes _, fits => ⟨_, least_packed fits, rfl⟩
  | .list items, fits => ⟨_, _, least_packed fits.1, spelled_packItems items fits.2, rfl⟩
  | .map entries, fits => ⟨_, _, least_packed fits.1, spelled_packEntries entries fits.2, rfl⟩

theorem spelled_packItems : (vs : List Value) → ItemsFit vs → SpelledItems Least vs (packItems vs)
  | [], _ => rfl
  | v :: vs, fits => ⟨_, _, spelled_pack v fits.1, spelled_packItems vs fits.2, rfl⟩

theorem spelled_packEntries :
    (es : List (Value × Value)) → EntriesFit es → SpelledEntries Least es (packEntries es)
  | [], _ => rfl
  | (k, v) :: es, fits =>
    ⟨_, _, _, spelled_pack k fits.1, spelled_pack v fits.2.1, spelled_packEntries es fits.2.2, rfl⟩

end

section

variable {R S : Head → Bytes → Prop}

mutual

theorem Spelled.mono (sub : ∀ x h, R x h → S x h) : (v : Value) → {s : Bytes} → Spelled R v s →
    Spelled S v s
  | .nil, _, spelled | .bool _, _, spelled | .double _, _, spelled => spelled
  | .int _, _, spelled => sub _ _ spelled
  | .text _, _, ⟨h, head, eq⟩ => ⟨h, sub _ _ head, eq⟩
  | .bytes _, _, ⟨h, head, eq⟩ => ⟨h, sub _ _ head, eq⟩
  | .list items, _, ⟨h, body, head, rest, eq⟩ =>
    ⟨h, body, sub _ _ head, SpelledItems.mono sub items rest, eq⟩
  | .map entries, _, ⟨h, body, head, rest, eq⟩ =>
    ⟨h, body, sub _ _ head, SpelledEntries.mono sub entries rest, eq⟩

theorem SpelledItems.mono (sub : ∀ x h, R x h → S x h) : (vs : List Value) → {s : Bytes} →
    SpelledItems R vs s → SpelledItems S vs s
  | [], _, spelled => spelled
  | v :: vs, _, ⟨a, b, first, rest, eq⟩ =>
    ⟨a, b, Spelled.mono sub v first, SpelledItems.mono sub vs rest, eq⟩

theorem SpelledEntries.mono (sub : ∀ x h, R x h → S x h) : (es : List (Value × Value)) → {s : Bytes} →
    SpelledEntries R es s → SpelledEntries S es s
  | [], _, spelled => spelled
  | (k, v) :: es, _, ⟨a, b, c, key, value, rest, eq⟩ =>
    ⟨a, b, c, Spelled.mono sub k key, Spelled.mono sub v value, SpelledEntries.mono sub es rest, eq⟩

end

end

mutual

/-- With the shortest headers a value is not longer than in any other form. -/
theorem length_le_of_least : (v : Value) → {s s' : Bytes} → Spelled Least v s → Spelled Form v s' →
    s.length ≤ s'.length
  | .nil, _, _, rfl, rfl | .bool _, _, _, rfl, rfl | .double _, _, _, rfl, rfl => Nat.le_refl _
  | .int _, _, s', least, form => least.2 s' form
  | .text _, _, _, ⟨h, least, rfl⟩, ⟨h', form, rfl⟩ => by
    have := least.2 h' form
    simp only [List.length_append]
    omega
  | .bytes _, _, _, ⟨h, least, rfl⟩, ⟨h', form, rfl⟩ => by
    have := least.2 h' form
    simp only [List.length_append]
    omega
  | .list items, _, _, ⟨h, body, least, rest, rfl⟩, ⟨h', body', form, rest', rfl⟩ => by
    have := least.2 h' form
    have := length_le_of_leastItems items rest rest'
    simp only [List.length_append]
    omega
  | .map entries, _, _, ⟨h, body, least, rest, rfl⟩, ⟨h', body', form, rest', rfl⟩ => by
    have := least.2 h' form
    have := length_le_of_leastEntries entries rest rest'
    simp only [List.length_append]
    omega

theorem length_le_of_leastItems : (vs : List Value) → {s s' : Bytes} → SpelledItems Least vs s →
    SpelledItems Form vs s' → s.length ≤ s'.length
  | [], _, _, rfl, rfl => Nat.le_refl _
  | v :: vs, _, _, ⟨a, b, first, rest, rfl⟩, ⟨a', b', first', rest', rfl⟩ => by
    have := length_le_of_least v first first'
    have := length_le_of_leastItems vs rest rest'
    simp only [List.length_append]
    omega

theorem length_le_of_leastEntries : (es : List (Value × Value)) → {s s' : Bytes} →
    SpelledEntries Least es s → SpelledEntries Form es s' → s.length ≤ s'.length
  | [], _, _, rfl, rfl => Nat.le_refl _
  | (k, v) :: es, _, _, ⟨a, b, c, key, value, rest, rfl⟩, ⟨a', b', c', key', value', rest', rfl⟩ => by
    have := length_le_of_least k key key'
    have := length_le_of_least v value value'
    have := length_le_of_leastEntries es rest rest'
    simp only [List.length_append]
    omega

end

/-! ## Reading values -/

theorem Form.length_pos {x : Head} {h : Bytes} (form : Form x h) : 0 < h.length := by
  have family {F : Family} {n : Nat} (form : F.Form n h) : 0 < h.length := by
    rcases form.length with ⟨-, one⟩ | ⟨t, -, -, more⟩ <;> omega
  cases x with
  | int n =>
    rcases form with ⟨-, natural⟩ | signed
    · exact family natural
    · rcases signed.length with ⟨-, h⟩ | ⟨-, h⟩ | ⟨-, h⟩ | ⟨-, h⟩ | h <;> omega
  | _ => exact family form

theorem Spelled.length_pos {v : Value} {s : Bytes} (spelled : Spelled Form v s) : 0 < s.length := by
  cases v with
  | nil => exact spelled ▸ Nat.zero_lt_one
  | bool b => exact spelled ▸ Nat.zero_lt_one
  | int n => exact Form.length_pos (x := .int n) spelled
  | double d =>
    rw [show s = packDouble d from spelled, packDouble, List.length_append]
    exact Nat.lt_add_right _ Nat.zero_lt_one
  | text t =>
    obtain ⟨h, form, rfl⟩ := spelled
    exact List.length_append ▸ Nat.lt_add_right _ form.length_pos
  | bytes bs =>
    obtain ⟨h, form, rfl⟩ := spelled
    exact List.length_append ▸ Nat.lt_add_right _ form.length_pos
  | list items =>
    obtain ⟨h, body, form, -, rfl⟩ := spelled
    exact List.length_append ▸ Nat.lt_add_right _ form.length_pos
  | map entries =>
    obtain ⟨h, body, form, -, rfl⟩ := spelled
    exact List.length_append ▸ Nat.lt_add_right _ form.length_pos

theorem takeText_utf8 (t : String) (s : Bytes) :
    takeText (Text.utf8 t).length (Text.utf8 t ++ s) = some (.text t, s) := by
  rw [takeText, takeBytes_append rfl]
  show (Text.ofUtf8? (Text.utf8 t)).bind _ = _
  rw [Text.ofUtf8?_utf8]
  rfl

theorem takeString_append (bs s : Bytes) : takeString bs.length (bs ++ s) = some (.bytes bs, s) := by
  rw [takeString, takeBytes_append rfl]
  rfl

theorem unpackN_double (d : Double) (f : Nat) (s : Bytes) :
    unpackN (f + 1) (packDouble d ++ s) = some (.double d, s) := by
  have fits : d.bits.toNat < Nat.pow 256 8 := d.bits.toNat_lt
  rw [packDouble, List.append_assoc]
  show (takeNat 8 (Bytes.bigEndian 8 d.bits.toNat ++ s)).bind
    (fun r => some (Value.double ⟨UInt64.ofNat r.1⟩, r.2)) = _
  rw [takeNat_bigEndian fits]
  show some (Value.double ⟨UInt64.ofNat d.bits.toNat⟩, s) = _
  rw [UInt64.ofNat_toNat]

mutual

/-- A value is read from each of its forms, if the recursion may go as deep as twice their length. -/
theorem unpackN_spelled : (v : Value) → {s : Bytes} → Spelled Form v s → (f : Nat) →
    2 * s.length ≤ f → (rest : Bytes) → unpackN f (s ++ rest) = some (v, rest)
  | v, s, spelled, 0, deep, _ => absurd spelled.length_pos (by omega)
  | .nil, _, rfl, f + 1, _, rest => rfl
  | .bool b, _, rfl, f + 1, _, rest => by cases b <;> rfl
  | .int n, _, form, f + 1, _, rest => unpackN_form (x := .int n) form f rest
  | .double d, _, rfl, f + 1, _, rest => unpackN_double d f rest
  | .text t, _, ⟨h, form, rfl⟩, f + 1, _, rest => by
    rw [List.append_assoc, unpackN_form form]
    exact takeText_utf8 t rest
  | .bytes bs, _, ⟨h, form, rfl⟩, f + 1, _, rest => by
    rw [List.append_assoc, unpackN_form form]
    exact takeString_append bs rest
  | .list items, _, ⟨h, body, form, spelled, rfl⟩, f + 1, deep, rest => by
    -- The header has a byte, which pays for the two steps into the body.
    have := form.length_pos
    rw [List.length_append] at deep
    rw [List.append_assoc, unpackN_form form]
    exact unpackItemsN_spelled items spelled f (by omega) [] rest
  | .map entries, _, ⟨h, body, form, spelled, rfl⟩, f + 1, deep, rest => by
    have := form.length_pos
    rw [List.length_append] at deep
    rw [List.append_assoc, unpackN_form form]
    exact unpackEntriesN_spelled entries spelled f (by omega) [] rest

theorem unpackItemsN_spelled : (vs : List Value) → {s : Bytes} → SpelledItems Form vs s → (f : Nat) →
    2 * s.length < f → (acc : List Value) → (rest : Bytes) →
    unpackItemsN f vs.length acc (s ++ rest) = some (.list (acc.reverse ++ vs), rest)
  | _, _, _, 0, deep, _, _ => absurd deep (Nat.not_lt_zero _)
  | [], _, rfl, f + 1, _, acc, rest => by
    rw [List.append_nil]
    rfl
  | v :: vs, _, ⟨a, b, first, spelled, rfl⟩, f + 1, deep, acc, rest => by
    have := first.length_pos
    rw [List.length_append] at deep
    rw [List.append_assoc]
    show (unpackN f _).bind _ = _
    rw [unpackN_spelled v first f (by omega)]
    show unpackItemsN f vs.length (v :: acc) (b ++ rest) = _
    rw [unpackItemsN_spelled vs spelled f (by omega), List.reverse_cons, List.append_assoc]
    rfl

theorem unpackEntriesN_spelled : (es : List (Value × Value)) → {s : Bytes} → SpelledEntries Form es s →
    (f : Nat) → 2 * s.length < f → (acc : List (Value × Value)) → (rest : Bytes) →
    unpackEntriesN f es.length acc (s ++ rest) = some (.map (acc.reverse ++ es), rest)
  | _, _, _, 0, deep, _, _ => absurd deep (Nat.not_lt_zero _)
  | [], _, rfl, f + 1, _, acc, rest => by
    rw [List.append_nil]
    rfl
  | (k, v) :: es, _, ⟨a, b, c, key, value, spelled, rfl⟩, f + 1, deep, acc, rest => by
    have := key.length_pos
    have := value.length_pos
    rw [List.length_append, List.length_append] at deep
    rw [List.append_assoc, List.append_assoc]
    show (unpackN f _).bind _ = _
    rw [unpackN_spelled k key f (by omega)]
    show (unpackN f _).bind _ = _
    rw [unpackN_spelled v value f (by omega)]
    show unpackEntriesN f es.length ((k, v) :: acc) (c ++ rest) = _
    rw [unpackEntriesN_spelled es spelled f (by omega), List.reverse_cons, List.append_assoc]
    rfl

end

/-- A value is read from each of its forms, and what follows it is left. -/
theorem unpack?_of_spelled {v : Value} {s : Bytes} (spelled : Spelled Form v s) (rest : Bytes) :
    unpack? (s ++ rest) = some (v, rest) :=
  unpackN_spelled v spelled _ (by rw [List.length_append]; omega) rest

end CrashReporter.MessagePack
