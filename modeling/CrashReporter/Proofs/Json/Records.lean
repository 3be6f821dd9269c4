import CrashReporter.Json.Shape
import CrashReporter.Proofs.Json.Tokens

/-!
# Reading what was written: values of a known type

`Shape.Reads` says that a shape reads a value back from every layout of it, whatever stands behind. It
holds of texts and numbers, and of a record once its members fill the draft one after another
(`Record.Fills`). `Shape.Reads.pretty` and `Shape.Reads.compact` are about whole texts.
-/

namespace CrashReporter.Json

open Text (bytes)

/-- Whether the value, which has at most `levels - 1` levels of lists and objects, reads back as `x`. -/
def Shape.Reads {β : Type} (shape : Shape β) (levels : Nat) (v : Value) (x : β) : Prop :=
  ∀ (L : Layout) (level depth : Nat) (lead : List Char) (rest : Bytes),
    AllBlank lead → levels ≤ depth → Ends rest →
      shape.read depth (bytes (lead ++ v.chars L level) ++ rest) = .ok (x, rest)

namespace Shape

variable {β γ : Type}

theorem Reads.map {shape : Shape β} {levels : Nat} {v : Value} {x : β} (reads : shape.Reads levels v x)
    (f : β → γ) : (shape.map f).Reads levels v (f x) := by
  intro L level depth lead rest blank deep ends
  simp only [Shape.map, reads L level depth lead rest blank deep ends]
  rfl

theorem toOption_ofText_map (shape : Shape β) (f : β → γ) (s : Bytes) :
    ((shape.map f).ofText s).toOption = (shape.ofText s).toOption.map f := by
  have mapped : (shape.map f).ofText s = f <$> shape.ofText s := by
    simp only [ofText, map, bind_assoc, pure_bind, map_bind, map_pure]
  rw [mapped]
  cases shape.ofText s <;> rfl

theorem text_reads (levels : Nat) (s : String) : Shape.text.Reads levels (.text s) s := by
  intro L level depth lead rest blank _ _
  rw [Value.chars, Text.bytes_append, List.append_assoc, bytes_quote]
  simp only [Shape.text, skipBlanks_blank blank, List.cons_append]
  rw [skipBlanks_cons rfl, List.append_assoc, List.singleton_append]
  exact readText_quoted s rest

theorem natural_reads (name : String) {max n : Nat} (le : n ≤ max) (word : n ≤ maxWord) (levels : Nat) :
    (Shape.natural name max).Reads levels (.ofNat n) n := by
  intro L level depth lead rest blank _ ends
  obtain ⟨b, more, e, digit, -⟩ := natDigits_head n
  have chars : bytes ((Value.ofNat n).chars L level) = bytes (natDigits n) := rfl
  have read := readNumber_natDigits word ends
  have positive : b ≠ 0x2D := ne_of_isDigit digit rfl
  rw [Text.bytes_append, List.append_assoc, chars]
  rw [e] at read ⊢
  simp only [Shape.natural, skipBlanks_blank blank, List.cons_append]
  rw [skipBlanks_cons (isBlankByte_of_isDigit digit)]
  rw [List.cons_append] at read
  simp only [if_neg positive, digit, if_true, read, bind, Except.bind]
  have inside : (0 : Int) ≤ (n : Int) ∧ (n : Int) ≤ (max : Int) := by omega
  simp only [naturalOf, if_pos inside, Int.toNat_natCast]

theorem word64_reads (n : UInt64) (levels : Nat) : word64.Reads levels (.ofNat n.toNat) n := by
  have le : n.toNat ≤ maxWord := Nat.le_sub_one_of_lt n.toNat_lt_size
  have reads := (natural_reads "u64" le le levels).map UInt64.ofNat
  rwa [UInt64.ofNat_toNat] at reads

theorem word32_reads (n : UInt32) (levels : Nat) : word32.Reads levels (.ofNat n.toNat) n := by
  have le : n.toNat ≤ UInt32.size - 1 := Nat.le_sub_one_of_lt n.toNat_lt_size
  have reads := (natural_reads "u32" le (Nat.le_trans le (by decide)) levels).map UInt32.ofNat
  rwa [UInt32.ofNat_toNat] at reads

end Shape

/-! ## Members -/

section

variable {δ : Type}

/-- Whether the member's value, of at most `levels - 1` levels, takes the draft `d` to `d'`. -/
def Member.Reads (m : Member δ) (levels : Nat) (d : δ) (v : Value) (d' : δ) : Prop :=
  ∀ (L : Layout) (level depth : Nat) (lead : List Char) (rest : Bytes),
    AllBlank lead → levels ≤ depth → Ends rest →
      m.read depth d (bytes (lead ++ v.chars L level) ++ rest) = .ok (d', rest)

theorem Shape.Reads.member {β : Type} {shape : Shape β} {levels : Nat} {v : Value} {x : β}
    (reads : shape.Reads levels v x) (key : String) (get : δ → Option β) (set : δ → β → δ)
    (omissible : Bool) (d : δ) : (Member.of key shape get set omissible).Reads levels d v (set d x) := by
  intro L level depth lead rest blank deep ends
  simp only [Member.of, reads L level depth lead rest blank deep ends]
  rfl

end

/-! ## Records -/

namespace Record

variable {δ α : Type} (r : Record δ α)

/-- Whether members, each of a key that the draft has no value of yet, take it to another. -/
inductive Fills (levels : Nat) : δ → List (String × Value) → δ → Prop
  | none (d : δ) : Fills levels d [] d
  | one {d d' d'' : δ} {key : String} {v : Value} {m : Member δ} {ms : List (String × Value)}
    (known : r.member? key = some m) (unset : m.isSet d = false) (reads : m.Reads levels d v d')
    (more : Fills levels d' ms d'') : Fills levels d ((key, v) :: ms) d''

variable {r} {levels : Nat}

/-- A member's value with what stands around it ends before a comma or a brace. -/
theorem ends_members (L : Layout) (level : Nat) (ms : List (String × Value)) (rest : Bytes) :
    Ends (bytes (memberChars L level ms) ++ rest) := by
  have brace : Ends (bytes ['\x7d'] ++ rest) := ⟨rfl, by decide, rfl⟩
  cases ms with
  | cons m ms =>
    rw [memberChars, Text.bytes_cons]
    exact ⟨rfl, by decide, rfl⟩
  | nil =>
    rw [memberChars]
    cases line : L.line level with
    | nil => exact brace
    | cons c cs =>
      rw [List.cons_append, Text.bytes_cons]
      rcases L.line_blank level c (line ▸ List.mem_cons_self) with rfl | rfl
      · exact ⟨rfl, by decide, rfl⟩
      · exact ⟨rfl, by decide, rfl⟩

/-- A key and its value at the head of the members still to read. -/
def headBytes (L : Layout) (level : Nat) (key : String) (v : Value) (rest : Bytes) : Bytes :=
  bytes (key.toList.flatMap escapeChar) ++
    0x22 :: 0x3A :: (bytes (L.gap ++ v.chars L (level + 1)) ++ rest)

theorem bytes_member (L : Layout) (level : Nat) (key : String) (v : Value) (cs : List Char) (rest : Bytes) :
    bytes (quote key ++ ':' :: (L.gap ++ (v.chars L (level + 1) ++ cs))) ++ rest =
      0x22 :: headBytes L level key v (bytes cs ++ rest) := by
  have colon : String.utf8EncodeChar ':' = [0x3A] := rfl
  rw [Text.bytes_append, bytes_quote, Text.bytes_cons, colon, headBytes]
  simp only [Text.bytes_append, List.append_assoc, List.cons_append, List.nil_append]

/-- The first member of an object comes behind its brace, each other one behind a comma. -/
theorem nextMember_member (L : Layout) (level : Nat) (key : String) (v : Value) (ms : List (String × Value))
    (rest : Bytes) :
    nextMember true (bytes (L.line (level + 1) ++
        (quote key ++ ':' :: (L.gap ++ (v.chars L (level + 1) ++ memberChars L level ms)))) ++ rest) =
      .ok (.item (headBytes L level key v (bytes (memberChars L level ms) ++ rest))) ∧
    nextMember false (bytes (memberChars L level ((key, v) :: ms)) ++ rest) =
      .ok (.item (headBytes L level key v (bytes (memberChars L level ms) ++ rest))) := by
  have comma : String.utf8EncodeChar ',' = [0x2C] := rfl
  constructor
  · rw [Text.bytes_append, List.append_assoc, bytes_member, nextMember,
      skipBlanks_blank (L.line_blank _), skipBlanks_cons rfl]
    rfl
  · rw [memberChars, Text.bytes_cons, comma, Text.bytes_append, List.append_assoc, List.append_assoc,
      bytes_member, List.singleton_append, nextMember, skipBlanks_cons rfl]
    simp only [if_neg (show ¬ (0x2C : UInt8) = 0x7D by decide), Bool.false_eq_true, if_false, if_true,
      skipBlanks_blank (L.line_blank _), skipBlanks_cons (show isBlankByte 0x22 = false from rfl)]
    rfl

/-- The brace behind the last member ends an object. -/
theorem nextMember_brace (L : Layout) (level : Nat) (rest : Bytes) :
    nextMember false (bytes (memberChars L level []) ++ rest) = .ok (.done rest) := by
  have brace : String.utf8EncodeChar '\x7d' = [0x7D] := rfl
  rw [memberChars, Text.bytes_append, List.append_assoc, Text.bytes_cons, brace, nextMember,
    skipBlanks_blank (L.line_blank _), Text.bytes_nil, List.append_nil, List.singleton_append,
    skipBlanks_cons rfl]
  rfl

theorem afterColon_cons (s : Bytes) : afterColon (0x3A :: s) = .ok s := by
  rw [afterColon, skipBlanks_cons rfl]
  rfl

/-- One member is read. -/
theorem readObject_member {L : Layout} {level : Nat} {key : String} {v : Value} {m : Member δ} {d d' : δ}
    (known : r.member? key = some m) (unset : m.isSet d = false) (reads : m.Reads levels d v d')
    {depth : Nat} (deep : levels ≤ depth) {first : Bool} {s rest : Bytes} (ends : Ends rest)
    (next : nextMember first s = .ok (.item (headBytes L level key v rest))) (n : Nat) :
    r.readObject depth (n + 1) first d s = r.readObject depth n false d' rest := by
  rw [readObject, next]
  simp only [bind, Except.bind]
  rw [headBytes, readText_quoted]
  simp only [known, unset, Bool.false_eq_true, if_false, afterColon_cons,
    reads L (level + 1) depth L.gap rest L.gap_blank deep ends]

/-- The members behind the first are read, by induction on them. -/
theorem readObject_fills {d d' : δ} {ms : List (String × Value)} (fills : r.Fills levels d ms d')
    {depth : Nat} (deep : levels ≤ depth) (L : Layout) (level : Nat) (rest : Bytes) (n : Nat)
    (enough : ms.length < n) :
    r.readObject depth n false d (bytes (memberChars L level ms) ++ rest) = r.finishBefore d' rest := by
  induction fills generalizing n with
  | none d =>
    obtain ⟨n, rfl⟩ := Nat.exists_eq_add_one_of_ne_zero (Nat.ne_zero_of_lt enough)
    rw [readObject, nextMember_brace]
    rfl
  | @one d d₁ d₂ key v m ms known unset reads more ih =>
    obtain ⟨n, rfl⟩ := Nat.exists_eq_add_one_of_ne_zero (Nat.ne_zero_of_lt enough)
    rw [readObject_member known unset reads deep (ends_members L level ms rest)
      (nextMember_member L level key v ms rest).2]
    exact ih n (Nat.lt_of_succ_lt_succ enough)

/-- A member takes at least one byte, which is the reader's bound on its steps. -/
theorem length_members (L : Layout) (level : Nat) (ms : List (String × Value)) (rest : Bytes) :
    ms.length ≤ (bytes (memberChars L level ms) ++ rest).length := by
  induction ms with
  | nil => exact Nat.zero_le _
  | cons m ms ih =>
    obtain ⟨key, v⟩ := m
    rw [memberChars, Text.bytes_cons, ← List.append_assoc, ← List.append_assoc]
    simp only [List.length_append, List.length_cons, Text.bytes_append, Text.bytes_cons] at ih ⊢
    have comma : (String.utf8EncodeChar ',').length = 1 := rfl
    omega

theorem bytes_object_nil (L : Layout) (level : Nat) (lead : List Char) (rest : Bytes) :
    bytes (lead ++ (Value.object []).chars L level) ++ rest = bytes lead ++ 0x7B :: 0x7D :: rest := by
  rw [Value.chars, Text.bytes_append, List.append_assoc]
  rfl

theorem bytes_object_cons (L : Layout) (level : Nat) (lead : List Char) (key : String) (v : Value)
    (ms : List (String × Value)) (rest : Bytes) :
    bytes (lead ++ (Value.object ((key, v) :: ms)).chars L level) ++ rest =
      bytes lead ++ 0x7B :: (bytes (L.line (level + 1) ++
        (quote key ++ ':' :: (L.gap ++ (v.chars L (level + 1) ++ memberChars L level ms)))) ++ rest) := by
  have brace : String.utf8EncodeChar '\x7b' = [0x7B] := rfl
  rw [Value.chars, Text.bytes_append, List.append_assoc, Text.bytes_cons, brace, List.append_assoc,
    List.singleton_append]

/-- Behind its brace an object is read member by member. -/
theorem shape_read_brace {lead : List Char} (blank : AllBlank lead) {depth : Nat} (deep : 1 < depth) (s : Bytes) :
    r.shape.read depth (bytes lead ++ 0x7B :: s) = r.readObject (depth - 1) (stepBound s) true r.blank s := by
  simp only [Record.shape, skipBlanks_blank blank, skipBlanks_cons (show isBlankByte 0x7B = false from rfl)]
  rw [if_neg (by decide), if_pos trivial, if_neg (by omega)]

/-- A record whose members fill the draft, and which the draft then makes, reads back. -/
theorem shape_reads {ms : List (String × Value)} {d : δ} {x : α} (fills : r.Fills (levels + 1) r.blank ms d)
    (finished : r.finish d = .ok x) : r.shape.Reads (levels + 2) (.object ms) x := by
  intro L level depth lead rest blank deep _
  have finish : r.finishBefore d rest = .ok (x, rest) := by rw [finishBefore, finished]
  have inside := shape_read_brace (r := r) blank (show 1 < depth by omega)
  cases fills with
  | none =>
    rw [bytes_object_nil, inside, stepBound, readObject, nextMember, skipBlanks_cons rfl]
    exact finish
  | @one _ d' _ key v m ms known unset reads more =>
    rw [bytes_object_cons, inside, stepBound,
      readObject_member known unset reads (by omega) (ends_members L level ms rest)
        (nextMember_member L level key v ms rest).1,
      readObject_fills more (by omega) L level rest _ ?_]
    · exact finish
    · have := length_members L level ms rest
      simp only [Text.bytes_append, Text.bytes_cons, List.length_append] at this ⊢
      omega

end Record

/-! ## Whole texts -/

namespace Shape.Reads

variable {β : Type} {shape : Shape β} {levels : Nat} {v : Value} {x : β}

theorem ofText (reads : shape.Reads levels v x) (deep : levels ≤ maxDepth) (L : Layout) :
    shape.ofText (bytes (v.chars L 0)) = .ok x := by
  have whole := reads L 0 maxDepth [] [] (fun _ h => absurd h List.not_mem_nil) deep trivial
  rw [List.nil_append, List.append_nil] at whole
  rw [Shape.ofText, whole]
  rfl

/-- The pretty form reads back. -/
theorem pretty (reads : shape.Reads levels v x) (deep : levels ≤ maxDepth) :
    shape.ofText (Text.utf8 v.pretty) = .ok x := by
  rw [Value.pretty, Text.utf8_ofList, v.prettyChars_eq]
  exact reads.ofText deep .pretty

/-- The compact form reads back. -/
theorem compact (reads : shape.Reads levels v x) (deep : levels ≤ maxDepth) :
    shape.ofText (Text.utf8 v.compact) = .ok x := by
  rw [Value.compact, Text.utf8_ofList, v.compactChars_eq 0]
  exact reads.ofText deep .compact

end Shape.Reads

end CrashReporter.Json
