import CrashReporter.Proofs.Json.Records

/-!
# Members that nobody asked for

A reader passes over what it does not look at: texts (`skipText_quoted`), natural numbers
(`skipNumber_natDigits`), and objects of these and of `true` and `false` (`Value.skips_object`), whatever
stands behind them. So an object none of whose members a record knows leaves the record's draft as it was, and
is no record if something has to be there (`Record.ofText_unknown`).
-/

namespace CrashReporter.Json

open Text (bytes)

/-! ## Texts and numbers -/

theorem skipText_cons {b : UInt8} (quote : b ≠ 0x22) (backslash : b ≠ 0x5C) (control : ¬ b < 0x20) (n : Nat)
    (s : Bytes) : skipText (n + 1) (b :: s) = skipText n s := by
  conv => lhs; unfold skipText
  simp only [quote, backslash, control, if_false]

theorem skipText_short {e : UInt8} (short : e ∈ shortEscapes) (n : Nat) (s : Bytes) :
    skipText (n + 1) (0x5C :: e :: s) = skipText n s := by
  have letter : e ≠ 0x75 := by
    rintro rfl
    exact absurd short (by decide)
  conv => lhs; unfold skipText
  simp only [letter, show e ∈ ([0x22, 0x5C, 0x2F, 0x62, 0x66, 0x6E, 0x72, 0x74] : Bytes) from short, if_true,
    if_false]
  rfl

theorem skipText_fourHex {code : Nat} (small : code < 0x10000) (n : Nat) (s : Bytes) :
    skipText (n + 1) (0x5C :: 0x75 :: (bytes (fourHex code) ++ s)) = skipText n s := by
  conv => lhs; unfold skipText
  simp only [fourHexDigits_fourHex small]
  rfl

theorem skipText_plain {more : Bytes} (plain : ∀ b ∈ more, b ≠ 0x22 ∧ b ≠ 0x5C ∧ ¬ b < 0x20) (n : Nat) (s : Bytes) :
    skipText (n + more.length) (more ++ s) = skipText n s := by
  induction more with
  | nil => rfl
  | cons b more ih =>
    have hb := plain b List.mem_cons_self
    rw [List.length_cons, ← Nat.add_assoc, List.cons_append, skipText_cons hb.1 hb.2.1 hb.2.2]
    exact ih fun c hc => plain c (List.mem_cons_of_mem _ hc)

/-- A written character is passed over in no more steps than it has bytes. -/
theorem skipText_escaped (c : Char) :
    ∃ used, used ≤ (bytes (escapeChar c)).length ∧
      ∀ n s, skipText (n + used) (bytes (escapeChar c) ++ s) = skipText n s := by
  have slash : String.utf8EncodeChar '\\' = [0x5C] := rfl
  have letter : String.utf8EncodeChar 'u' = [0x75] := rfl
  rcases escapeChar_forms c with ⟨form, plain⟩ | ⟨d, e, form, encoded, short, -⟩ | ⟨form, small⟩
  · refine ⟨(bytes [c]).length, Nat.le_of_eq (by rw [form]), fun n s => ?_⟩
    rw [form, Text.bytes_cons, Text.bytes_nil, List.append_nil]
    exact skipText_plain plain n s
  · refine ⟨1, ?_, fun n s => ?_⟩ <;>
      rw [form, Text.bytes_cons, Text.bytes_cons, slash, encoded, Text.bytes_nil, List.append_nil]
    · exact Nat.le_add_left _ _
    · exact skipText_short short n s
  · refine ⟨1, ?_, fun n s => ?_⟩ <;>
      rw [form, Text.bytes_cons, Text.bytes_cons, slash, letter]
    · exact Nat.le_add_left _ _
    · exact skipText_fourHex (by omega) n s

/-- A written text is passed over from behind its opening quote. -/
theorem skipText_quoted (cs : List Char) (rest : Bytes) (n : Nat)
    (enough : (bytes (cs.flatMap escapeChar)).length < n) :
    skipText n (bytes (cs.flatMap escapeChar) ++ 0x22 :: rest) = .ok rest := by
  induction cs generalizing n with
  | nil =>
    obtain ⟨n, rfl⟩ := Nat.exists_eq_add_one_of_ne_zero (Nat.ne_zero_of_lt enough)
    unfold skipText
    rfl
  | cons c cs ih =>
    obtain ⟨used, le, skips⟩ := skipText_escaped c
    rw [List.flatMap_cons, Text.bytes_append, List.length_append] at enough
    obtain ⟨m, rfl⟩ := Nat.exists_eq_add_of_le' (show used ≤ n by omega)
    rw [List.flatMap_cons, Text.bytes_append, List.append_assoc, skips]
    exact ih m (by omega)

/-- A written natural number is passed over, however large it is. -/
theorem skipNumber_natDigits (n : Nat) {rest : Bytes} (ends : Ends rest) :
    skipNumber (bytes (natDigits n) ++ rest) = .ok rest := by
  obtain ⟨b, more, e, digit, zero⟩ := natDigits_head n
  by_cases hb : b = 0x30
  · obtain rfl := zero hb
    have e0 : bytes (natDigits 0) = [0x30] := rfl
    rw [e0, List.singleton_append]
    cases rest with
    | nil => rfl
    | cons d rest => simp [skipNumber, ends.1, ends.2.1, ends.2.2, bind, Except.bind]
  · have digits : ∀ c ∈ more, isDigit c = true := by
      have all : ∀ c ∈ bytes (natDigits n), isDigit c = true := isDigit_bytes (Text.numeral_toDigits n).isDigit
      rw [e, List.forall_mem_cons] at all
      exact all.2
    have passed : (more ++ rest).dropWhile isDigit = rest := by
      rw [List.dropWhile_append_of_pos digits, ends.dropWhile]
    rw [e, List.cons_append]
    simp only [skipNumber, hb, digit, passed, if_true, if_false, bind, Except.bind]
    cases rest with
    | nil => rfl
    | cons d rest => simp [ends.2.1, ends.2.2]

/-! ## Values -/

/-- Whether a value is passed over in so many steps, in any layout and whatever stands behind it. -/
def Value.Skips (steps : Nat) (v : Value) : Prop :=
  ∀ (L : Layout) (level : Nat) (lead : List Char) (rest : Bytes) (n : Nat),
    AllBlank lead → Ends rest → steps ≤ n → skipValueN n (bytes (lead ++ v.chars L level) ++ rest) = .ok rest

namespace Value

theorem skips_flag (b : Bool) : (Value.bool b).Skips 1 := by
  intro L level lead rest n blank _ enough
  obtain ⟨n, rfl⟩ := Nat.exists_eq_add_of_le' enough
  rw [Text.bytes_append, List.append_assoc, skipValueN, skipBlanks_blank blank]
  cases b <;> rfl

theorem skips_text (s : String) : (Value.text s).Skips 1 := by
  intro L level lead rest n blank _ enough
  obtain ⟨n, rfl⟩ := Nat.exists_eq_add_of_le' enough
  rw [Text.bytes_append, List.append_assoc, skipValueN, skipBlanks_blank blank, Value.chars, bytes_quote,
    List.cons_append, skipBlanks_cons rfl, List.append_assoc, List.singleton_append]
  refine skipText_quoted s.toList rest _ ?_
  rw [List.length_append]
  omega

theorem skips_ofNat (k : Nat) : (Value.ofNat k).Skips 1 := by
  intro L level lead rest n blank ends enough
  obtain ⟨n, rfl⟩ := Nat.exists_eq_add_of_le' enough
  have chars : bytes ((Value.ofNat k).chars L level) = bytes (natDigits k) := rfl
  have skipped := skipNumber_natDigits k ends
  obtain ⟨b, more, e, digit, -⟩ := natDigits_head k
  rw [e, List.cons_append] at skipped
  rw [Text.bytes_append, List.append_assoc, chars, skipValueN, skipBlanks_blank blank, e, List.cons_append,
    skipBlanks_cons (isBlankByte_of_isDigit digit)]
  simp only [ne_of_isDigit digit (show isDigit 0x6E = false from rfl),
    ne_of_isDigit digit (show isDigit 0x74 = false from rfl),
    ne_of_isDigit digit (show isDigit 0x66 = false from rfl),
    ne_of_isDigit digit (show isDigit 0x2D = false from rfl), digit, if_true, if_false]
  exact skipped

/-! ### Objects -/

variable {steps : Nat}

/-- A member begins behind the blanks of its line. -/
theorem skipBlanks_member (L : Layout) (level : Nat) (key : String) (v : Value) (cs : List Char) (rest : Bytes) :
    skipBlanks (bytes (L.line (level + 1) ++
        (quote key ++ ':' :: (L.gap ++ (v.chars L (level + 1) ++ cs)))) ++ rest) =
      0x22 :: Record.headBytes L level key v (bytes cs ++ rest) := by
  rw [Text.bytes_append, List.append_assoc, Record.bytes_member, skipBlanks_blank (L.line_blank _),
    skipBlanks_cons rfl]

/-- One member is passed over. -/
theorem skipMemberN_member {v : Value} (skips : v.Skips steps) {L : Layout} {level : Nat} {key : String}
    {s rest : Bytes} (next : skipBlanks s = 0x22 :: Record.headBytes L level key v rest) (ends : Ends rest)
    {n : Nat} (enough : steps ≤ n) : skipMemberN (n + 1) s = skipMembersN n false rest := by
  rw [skipMemberN, next]
  simp only [if_true, bind, Except.bind]
  rw [Record.headBytes, skipText_quoted key.toList _ _ (by rw [List.length_append]; omega)]
  simp only [Record.afterColon_cons, skips L (level + 1) L.gap _ n L.gap_blank ends enough]

/-- The members behind the first are passed over, by induction on them. -/
theorem skipMembersN_members (L : Layout) (level : Nat) {ms : List (String × Value)}
    (skips : ∀ m ∈ ms, m.2.Skips steps) (rest : Bytes) (n : Nat) (enough : 2 * ms.length + steps < n) :
    skipMembersN n false (bytes (memberChars L level ms) ++ rest) = .ok rest := by
  induction ms generalizing n with
  | nil =>
    obtain ⟨n, rfl⟩ := Nat.exists_eq_add_one_of_ne_zero (Nat.ne_zero_of_lt enough)
    have brace : String.utf8EncodeChar '\x7d' = [0x7D] := rfl
    rw [memberChars, Text.bytes_append, List.append_assoc, Text.bytes_cons, brace, Text.bytes_nil,
      List.append_nil, List.singleton_append, skipMembersN, skipBlanks_blank (L.line_blank _), skipBlanks_cons rfl]
    rfl
  | cons m ms ih =>
    obtain ⟨key, v⟩ := m
    rw [List.length_cons] at enough
    obtain ⟨k, rfl⟩ := Nat.exists_eq_add_of_le' (show 2 ≤ n by omega)
    have comma : String.utf8EncodeChar ',' = [0x2C] := rfl
    rw [memberChars, Text.bytes_cons, comma, List.append_assoc, List.singleton_append, skipMembersN,
      skipBlanks_cons rfl]
    simp only [and_self, if_true]
    rw [skipMemberN_member (skips (key, v) List.mem_cons_self) (skipBlanks_member L level key v _ rest)
      (Record.ends_members L level ms rest) (by omega)]
    exact ih (fun m hm => skips m (List.mem_cons_of_mem _ hm)) k (by omega)

/-- An object is passed over if its members' values are. -/
theorem skips_object {ms : List (String × Value)} (skips : ∀ m ∈ ms, m.2.Skips steps) :
    (Value.object ms).Skips (2 * ms.length + steps + 2) := by
  intro L level lead rest n blank _ enough
  obtain ⟨k, rfl⟩ := Nat.exists_eq_add_of_le' (show 2 ≤ n by omega)
  have inside (s : Bytes) : skipValueN (k + 2) (bytes lead ++ 0x7B :: s) = skipMembersN (k + 1) true s := by
    rw [skipValueN, skipBlanks_blank blank, skipBlanks_cons rfl]
    rfl
  cases ms with
  | nil =>
    rw [Record.bytes_object_nil, inside, skipMembersN, skipBlanks_cons rfl]
    rfl
  | cons m ms =>
    obtain ⟨key, v⟩ := m
    rw [List.length_cons] at enough
    obtain ⟨k, rfl⟩ := Nat.exists_eq_add_of_le' (show 1 ≤ k by omega)
    have next := skipBlanks_member L level key v (memberChars L level ms) rest
    rw [Record.bytes_object_cons, inside, skipMembersN, next]
    simp only [Bool.true_eq_false, and_false, if_false, if_true, show ¬ (0x22 : UInt8) = 0x7D by decide]
    have again : skipBlanks (0x22 :: Record.headBytes L level key v (bytes (memberChars L level ms) ++ rest)) =
        0x22 :: Record.headBytes L level key v (bytes (memberChars L level ms) ++ rest) := skipBlanks_cons rfl _
    rw [skipMemberN_member (skips (key, v) List.mem_cons_self) again (Record.ends_members L level ms rest)
      (by omega)]
    exact skipMembersN_members L level (fun m hm => skips m (List.mem_cons_of_mem _ hm)) rest k (by omega)

end Value

/-! ## Records -/

namespace Record

variable {δ α : Type} {r : Record δ α}

theorem member?_eq_none {key : String} (unknown : key ∉ r.members.map Member.key) : r.member? key = none := by
  rw [member?, List.find?_eq_none]
  exact fun m hm same => unknown (List.mem_map.mpr ⟨m, hm, eq_of_beq same⟩)

/-- Whether a value is passed over, in any layout and whatever stands behind it. -/
def Passed (v : Value) : Prop :=
  ∀ (L : Layout) (level : Nat) (lead : List Char) (rest : Bytes),
    AllBlank lead → Ends rest → skipValue (bytes (lead ++ v.chars L level) ++ rest) = .ok rest

theorem passed_of_skips {v : Value} (skips : v.Skips 1) : Passed v :=
  fun L level lead rest blank ends => skips L level lead rest _ blank ends (by simp only [stepBound]; omega)

theorem passed_object {ms : List (String × Value)} (skips : ∀ m ∈ ms, m.2.Skips 1) : Passed (.object ms) := by
  intro L level lead rest blank ends
  refine Value.skips_object skips L level lead rest _ blank ends ?_
  have long : ms.length ≤ (bytes (lead ++ (Value.object ms).chars L level) ++ rest).length := by
    cases ms with
    | nil => exact Nat.zero_le _
    | cons m ms =>
      obtain ⟨key, v⟩ := m
      have := length_members L level ms rest
      rw [bytes_object_cons]
      simp only [Text.bytes_append, Text.bytes_cons, List.length_append, List.length_cons] at this ⊢
      omega
  simp only [stepBound]
  omega

/-- A member of an unknown key is passed over. -/
theorem readObject_unknown {L : Layout} {level : Nat} {key : String} {v : Value} (unknown : r.member? key = none)
    (passed : Passed v) {depth : Nat} {first : Bool} {d : δ} {s rest : Bytes} (ends : Ends rest)
    (next : nextMember first s = .ok (.item (headBytes L level key v rest))) (n : Nat) :
    r.readObject depth (n + 1) first d s = r.readObject depth n false d rest := by
  rw [readObject, next]
  simp only [bind, Except.bind]
  rw [headBytes, readText_quoted]
  simp only [unknown, afterColon_cons, passed L (level + 1) L.gap rest L.gap_blank ends]

/-- The members behind the first are passed over if none is known, by induction on them. -/
theorem readObject_unknowns {ms : List (String × Value)} (unknown : ∀ m ∈ ms, r.member? m.1 = none)
    (passed : ∀ m ∈ ms, Passed m.2) (depth : Nat) (d : δ) (L : Layout) (level : Nat) (rest : Bytes) (n : Nat)
    (enough : ms.length < n) :
    r.readObject depth n false d (bytes (memberChars L level ms) ++ rest) = r.finishBefore d rest := by
  induction ms generalizing n with
  | nil =>
    obtain ⟨n, rfl⟩ := Nat.exists_eq_add_one_of_ne_zero (Nat.ne_zero_of_lt enough)
    rw [readObject, nextMember_brace]
    rfl
  | cons m ms ih =>
    obtain ⟨n, rfl⟩ := Nat.exists_eq_add_one_of_ne_zero (Nat.ne_zero_of_lt enough)
    rw [readObject_unknown (unknown m List.mem_cons_self) (passed m List.mem_cons_self)
      (ends_members L level ms rest) (nextMember_member L level m.1 m.2 ms rest).2]
    exact ih (fun m hm => unknown m (List.mem_cons_of_mem _ hm)) (fun m hm => passed m (List.mem_cons_of_mem _ hm))
      n (Nat.lt_of_succ_lt_succ enough)

/-- Where nothing is known, what is there from the beginning counts. -/
theorem shape_read_unknown {ms : List (String × Value)} (unknown : ∀ m ∈ ms, r.member? m.1 = none)
    (passed : ∀ m ∈ ms, Passed m.2) (L : Layout) (level : Nat) {lead : List Char} (blank : AllBlank lead)
    {depth : Nat} (deep : 1 < depth) (rest : Bytes) :
    r.shape.read depth (bytes (lead ++ (Value.object ms).chars L level) ++ rest) = r.finishBefore r.blank rest := by
  cases ms with
  | nil =>
    rw [bytes_object_nil, shape_read_brace blank deep, stepBound, readObject, nextMember, skipBlanks_cons rfl]
    rfl
  | cons m ms =>
    obtain ⟨key, v⟩ := m
    rw [bytes_object_cons, shape_read_brace blank deep, stepBound,
      readObject_unknown (unknown _ List.mem_cons_self) (passed _ List.mem_cons_self) (ends_members L level ms rest)
        (nextMember_member L level key v ms rest).1,
      readObject_unknowns (fun m hm => unknown m (List.mem_cons_of_mem _ hm))
        (fun m hm => passed m (List.mem_cons_of_mem _ hm)) _ _ L level rest _ ?_]
    have := length_members L level ms rest
    simp only [Text.bytes_append, Text.bytes_cons, List.length_append] at this ⊢
    omega

/-- An object without a member that is known is no record if something has to be there. -/
theorem ofText_unknown {ms : List (String × Value)} (unknown : ∀ m ∈ ms, r.member? m.1 = none)
    (passed : ∀ m ∈ ms, Passed m.2) {m : Mismatch} (lacking : r.finish r.blank = .error m) :
    (r.shape.ofText (Text.utf8 (Value.object ms).pretty)).toOption = none := by
  have blank : AllBlank [] := fun _ h => absurd h List.not_mem_nil
  have read := shape_read_unknown unknown passed .pretty 0 blank (show 1 < maxDepth by decide) []
  rw [List.nil_append, List.append_nil, finishBefore, lacking] at read
  rw [Value.pretty, Text.utf8_ofList, Value.prettyChars_eq, Shape.ofText, read]
  rfl

end Record

end CrashReporter.Json
