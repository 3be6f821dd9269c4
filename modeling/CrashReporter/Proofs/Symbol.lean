import CrashReporter.Event
import Mathlib.Data.Nat.Find

/-!
# Symbols with generic arguments

A symbol names a function by the modules that lead to it, with pairs of colons between them, and angle brackets
around generic arguments, which may have colons of their own. Its last segment is what stands behind the last pair
of colons that no bracket is open at (`Frame.LastOuter`, `Frame.exists_lastOuter`).

A frame is made of what stands before and behind the last pair of all (`Frame.splitLast_cases`). So its function
is the last segment exactly if the arguments of that segment have no colons of their own. If they have, the
symbol is cut in the middle of them, and the brackets of neither part are balanced
(`Frame.ofSymbol_last_segment_iff`).
-/

namespace CrashReporter.Frame

/-! ## Brackets -/

/-- How many angle brackets are open behind a character that `d` are open before; none if it closes one that is not
open. -/
def bracket? (d : Nat) (c : Char) : Option Nat :=
  if c = '<' then some (d + 1)
  else if c = '>' then (if d = 0 then none else some (d - 1))
  else some d

/-- How many angle brackets are open behind a text that `d` are open before. -/
def depth? (d : Nat) (cs : List Char) : Option Nat := cs.foldlM bracket? d

/-- Whether each bracket of a text that is closed is opened before, and the other way round. -/
def Balanced (text : String) : Prop := depth? 0 text.toList = some 0

instance (text : String) : Decidable (Balanced text) := inferInstanceAs (Decidable (_ = _))

theorem depth?_append (d : Nat) (cs ds : List Char) :
    depth? d (cs ++ ds) = (depth? d cs).bind fun e => depth? e ds :=
  List.foldlM_append

theorem depth?_colons (d : Nat) (cs : List Char) : depth? d (':' :: ':' :: cs) = depth? d cs := rfl

theorem bracket?_add {d e : Nat} {c : Char} (h : bracket? d c = some e) (k : Nat) :
    bracket? (d + k) c = some (e + k) := by
  unfold bracket? at h ⊢
  grind

/-- Brackets that are open before a text stay open, beside those that it opens. -/
theorem depth?_add {d e : Nat} {cs : List Char} (h : depth? d cs = some e) (k : Nat) :
    depth? (d + k) cs = some (e + k) := by
  induction cs generalizing d with
  | nil =>
    cases h
    rfl
  | cons c cs ih =>
    obtain ⟨d', first, rest⟩ := Option.bind_eq_some_iff.mp h
    exact Option.bind_eq_some_iff.mpr ⟨d' + k, bracket?_add first k, ih rest⟩

/-! ## Pairs of colons -/

/-- A pair of colons stands at the head of a text or further behind. -/
theorem cons_eq_cut_iff {c : Char} {cs p n : List Char} :
    c :: cs = p ++ ':' :: ':' :: n ↔
      (p = [] ∧ c = ':' ∧ cs = ':' :: n) ∨ ∃ q, p = c :: q ∧ cs = q ++ ':' :: ':' :: n := by
  cases p with
  | nil => simp
  | cons d q => grind

/-- A text is cut at the last pair of colons, or nowhere if it has none. -/
theorem splitLast_cases (cs : List Char) :
    (splitLast cs = none ∧ ∀ p n, cs ≠ p ++ ':' :: ':' :: n) ∨
      ∃ path name, splitLast cs = some (path, name) ∧ cs = path ++ ':' :: ':' :: name ∧
        ∀ p n, cs = p ++ ':' :: ':' :: n → p.length ≤ path.length := by
  induction cs with
  | nil => exact .inl ⟨rfl, by simp⟩
  | cons c cs ih =>
    unfold splitLast
    rcases ih with ⟨uncut, none⟩ | ⟨path, name, found, cut, last⟩
    · rw [uncut]
      simp only
      split
      · next name =>
        refine .inr ⟨[], name, rfl, rfl, fun p n other => ?_⟩
        rcases cons_eq_cut_iff.mp other with ⟨rfl, -⟩ | ⟨q, -, behind⟩
        · exact Nat.le_refl _
        · exact absurd behind (none q n)
      · next other =>
        refine .inl ⟨rfl, fun p n here => ?_⟩
        rcases cons_eq_cut_iff.mp here with ⟨-, colon, rest⟩ | ⟨q, -, behind⟩
        · exact other n colon rest
        · exact none q n behind
    · rw [found]
      refine .inr ⟨c :: path, name, rfl, congrArg (c :: ·) cut, fun p n other => ?_⟩
      rcases cons_eq_cut_iff.mp other with ⟨rfl, -⟩ | ⟨q, rfl, behind⟩
      · exact Nat.zero_le _
      · exact Nat.succ_le_succ (last q n behind)

/-- Whether a text has a pair of colons. -/
def Parted (text : String) : Prop := ∃ path name, text = path ++ "::" ++ name

/-- Whether a symbol is cut at a pair of colons that no bracket is open at. -/
def Outer (symbol path name : String) : Prop := symbol = path ++ "::" ++ name ∧ Balanced path

/-- Whether the cut is at the last of these. -/
def LastOuter (symbol path name : String) : Prop :=
  Outer symbol path name ∧ ∀ p n, Outer symbol p n → p.length ≤ path.length

theorem toList_cut (path name : String) : (path ++ "::" ++ name).toList = path.toList ++ ':' :: ':' :: name.toList := by
  simp [String.toList_append]

theorem length_cut (path name : String) : (path ++ "::" ++ name).length = path.length + 2 + name.length := by
  rw [String.length_append, String.length_append]
  rfl

/-- A symbol with a pair of colons outside all brackets has a last one. -/
theorem exists_lastOuter {symbol : String} (outer : ∃ path name, Outer symbol path name) :
    ∃ path name, LastOuter symbol path name := by
  classical
  let P : Nat → Prop := fun k => ∃ path name, Outer symbol path name ∧ path.length = k
  have bound {k : Nat} : P k → k ≤ symbol.length := by
    rintro ⟨path, name, ⟨cut, -⟩, rfl⟩
    have lengths := congrArg String.length cut
    rw [length_cut] at lengths
    omega
  obtain ⟨path, name, here⟩ := outer
  have first : P path.length := ⟨path, name, here, rfl⟩
  obtain ⟨path', name', outer', length⟩ := Nat.findGreatest_spec (P := P) (bound first) first
  refine ⟨path', name', outer', fun p n other => ?_⟩
  have there : P p.length := ⟨p, n, other, rfl⟩
  rw [length]
  exact Nat.le_findGreatest (bound there) there

/-! ## The cut of a frame -/

variable {symbol path name : String}

/-- Two cuts of a symbol that are equally long are the same. -/
theorem cut_inj {p n : String} (same : path ++ "::" ++ name = p ++ "::" ++ n) (length : path.length = p.length) :
    path = p ∧ name = n := by
  have letters := congrArg String.toList same
  rw [toList_cut, toList_cut] at letters
  obtain ⟨first, rest⟩ := List.append_inj letters length
  refine ⟨String.toList_inj.mp first, String.toList_inj.mp ?_⟩
  simpa using rest

/-- The frame of a symbol that has colons is cut at the last pair of all. -/
theorem ofSymbol_parted (parted : Parted symbol) (file : String) (line : UInt32) :
    ∃ path name, ofSymbol symbol file line = ⟨name, path, file, line⟩ ∧ symbol = path ++ "::" ++ name ∧
      ∀ p n, symbol = p ++ "::" ++ n → p.length ≤ path.length := by
  rcases splitLast_cases symbol.toList with ⟨-, none⟩ | ⟨path, name, found, cut, last⟩
  · obtain ⟨path, name, rfl⟩ := parted
    exact absurd (toList_cut path name) (none _ _)
  · refine ⟨String.ofList path, String.ofList name, ?_, ?_, fun p n other => ?_⟩
    · rw [ofSymbol, found]
    · apply String.toList_inj.mp
      rw [toList_cut, String.toList_ofList, String.toList_ofList, cut]
    · have behind := last p.toList n.toList (other ▸ toList_cut p n)
      simpa only [String.length_toList, String.toList_ofList, ← String.length_toList] using behind

/-- A symbol without colons is the function's name. -/
theorem ofSymbol_plain (plain : ¬ Parted symbol) (file : String) (line : UInt32) :
    ofSymbol symbol file line = ⟨symbol, "", file, line⟩ := by
  rcases splitLast_cases symbol.toList with ⟨uncut, -⟩ | ⟨path, name, -, cut, -⟩
  · rw [ofSymbol, uncut]
  · refine absurd ⟨String.ofList path, String.ofList name, ?_⟩ plain
    apply String.toList_inj.mp
    rw [toList_cut, String.toList_ofList, String.toList_ofList, cut]

/-- What stands behind a cut of a balanced symbol is balanced exactly if what stands before it is. -/
theorem balanced_cut (balanced : Balanced (path ++ "::" ++ name)) : Balanced name ↔ Balanced path := by
  unfold Balanced at balanced ⊢
  rw [toList_cut, depth?_append, Option.bind_eq_some_iff] at balanced
  obtain ⟨d, before, behind⟩ := balanced
  rw [depth?_colons] at behind
  rw [before]
  constructor
  · intro closed
    have shifted := depth?_add closed d
    rw [Nat.zero_add, behind] at shifted
    exact shifted.symm
  · intro none
    cases none
    exact behind

/-- No other cut behind the last outer one is outside all brackets, unless it is the same. -/
theorem LastOuter.eq_of_balanced {p n : String} (last : LastOuter symbol path name) (cut : symbol = p ++ "::" ++ n)
    (behind : path.length ≤ p.length) (balanced : Balanced p) : p = path ∧ n = name := by
  have length := last.2 p n ⟨cut, balanced⟩
  exact cut_inj (cut.symm.trans last.1.1) (Nat.le_antisymm length behind)

/-- A cut behind the last outer one is the same if the last segment has no colons. -/
theorem LastOuter.eq_of_plain {p n : String} (last : LastOuter symbol path name) (plain : ¬ Parted name)
    (cut : symbol = p ++ "::" ++ n) (behind : path.length ≤ p.length) : p = path ∧ n = name := by
  have letters : path.toList ++ ':' :: ':' :: name.toList = p.toList ++ ':' :: ':' :: n.toList := by
    rw [← toList_cut, ← toList_cut, ← cut, ← last.1.1]
  obtain ⟨between, longer⟩ : path.toList <+: p.toList :=
    List.prefix_of_prefix_length_le ⟨_, rfl⟩ ⟨_, letters.symm⟩ behind
  rw [← longer, List.append_assoc, List.append_cancel_left_eq] at letters
  match between, longer, letters with
  | [], longer, letters =>
    rw [List.append_nil] at longer
    exact ⟨String.toList_inj.mp longer.symm, String.toList_inj.mp (by simpa using letters.symm)⟩
  | [c], longer, letters =>
    -- Of three colons in a row the last two count, and no bracket is open at any of them.
    obtain rfl : ':' = c := (List.cons.inj letters).1
    have balanced : Balanced p := by
      rw [Balanced, ← longer, depth?_append, show depth? 0 path.toList = some 0 from last.1.2]
      rfl
    exact last.eq_of_balanced cut behind balanced
  | c :: d :: rest, longer, letters =>
    refine absurd ⟨String.ofList rest, n, String.toList_inj.mp ?_⟩ plain
    rw [toList_cut, String.toList_ofList]
    exact (List.cons.inj (List.cons.inj letters).2).2

/-- A symbol that is balanced and has colons outside its brackets is cut at the last of these, and into balanced
parts, exactly if its last segment has no colons; a symbol without colons is all name. -/
theorem ofSymbol_last_segment_iff (symbol file : String) (line : UInt32) :
    (Balanced symbol → (∃ path name, Outer symbol path name) →
      ∃ path name, LastOuter symbol path name ∧
        let f := ofSymbol symbol file line
        f.className ++ "::" ++ f.functionName = symbol ∧ f.filePath = file ∧ f.lineNumber = line ∧
          (f.className = path ∧ f.functionName = name ↔ ¬ Parted name) ∧
          (Balanced f.className ↔ ¬ Parted name) ∧ (Balanced f.functionName ↔ ¬ Parted name)) ∧
    (¬ Parted symbol → ofSymbol symbol file line = ⟨symbol, "", file, line⟩) := by
  refine ⟨fun balanced outer => ?_, fun plain => ofSymbol_plain plain file line⟩
  obtain ⟨path, name, last⟩ := exists_lastOuter outer
  obtain ⟨p, n, frame, cut, final⟩ := ofSymbol_parted ⟨path, name, last.1.1⟩ file line
  have behind := final path name last.1.1
  have same : p = path ∧ n = name ↔ ¬ Parted name := by
    refine ⟨?_, fun plain => last.eq_of_plain plain cut behind⟩
    rintro ⟨rfl, rfl⟩ ⟨q, m, inner⟩
    -- Colons behind the last pair of all.
    have further := final (p ++ "::" ++ q) m (by rw [cut, inner]; simp [String.append_assoc])
    rw [length_cut] at further
    omega
  have closed : Balanced p ↔ ¬ Parted name := by
    refine Iff.trans ⟨fun closed => last.eq_of_balanced cut behind closed, ?_⟩ same
    rintro ⟨rfl, -⟩
    exact last.1.2
  refine ⟨path, name, last, ?_⟩
  rw [frame]
  exact ⟨cut.symm, rfl, rfl, same, closed, (balanced_cut (cut ▸ balanced)).trans closed⟩

/-- The arguments before the last segment may have colons. -/
theorem ofSymbol_last_segment_iff_qualified :
    Balanced "<a::B as c::D>::map<E>" ∧ (∃ path name, Outer "<a::B as c::D>::map<E>" path name) ∧
      ∃ path name, LastOuter "<a::B as c::D>::map<E>" path name ∧
        let f := ofSymbol "<a::B as c::D>::map<E>" "d.rs" 7
        f.className ++ "::" ++ f.functionName = "<a::B as c::D>::map<E>" ∧ f.filePath = "d.rs" ∧ f.lineNumber = 7 ∧
          (f.className = path ∧ f.functionName = name ↔ ¬ Parted name) ∧
          (Balanced f.className ↔ ¬ Parted name) ∧ (Balanced f.functionName ↔ ¬ Parted name) := by
  have balanced : Balanced "<a::B as c::D>::map<E>" := by decide
  have outer : ∃ path name, Outer "<a::B as c::D>::map<E>" path name :=
    ⟨"<a::B as c::D>", "map<E>", by decide, by decide⟩
  exact ⟨balanced, outer, (ofSymbol_last_segment_iff _ "d.rs" 7).1 balanced outer⟩

/-- The colons of an argument of the last segment are taken for those before it. -/
theorem argument_of_last_segment_cut :
    Balanced "core::ptr::drop_in_place<alloc::string::String>" ∧
      Outer "core::ptr::drop_in_place<alloc::string::String>" "core::ptr" "drop_in_place<alloc::string::String>" ∧
      let f := ofSymbol "core::ptr::drop_in_place<alloc::string::String>" "" 0
      f = ⟨"String>", "core::ptr::drop_in_place<alloc::string", "", 0⟩ ∧ ¬ Balanced f.className ∧
        ¬ Balanced f.functionName ∧
        ¬ LastOuter "core::ptr::drop_in_place<alloc::string::String>" f.className f.functionName := by
  have frame : ofSymbol "core::ptr::drop_in_place<alloc::string::String>" "" 0 =
      ⟨"String>", "core::ptr::drop_in_place<alloc::string", "", 0⟩ := by decide
  have unclosed : ¬ Balanced "core::ptr::drop_in_place<alloc::string" := by decide
  refine ⟨by decide, ⟨by decide, by decide⟩, ?_⟩
  rw [frame]
  exact ⟨rfl, unclosed, by decide, fun last => unclosed last.1.2⟩

end CrashReporter.Frame
