import CrashReporter.Json.Printer
import CrashReporter.Text.Utf8

/-!
# Layouts of a JSON text

The compact and the pretty form of a value differ in blanks only. A layout says which blanks stand before
the items of a list, the members of an object and their closing brackets, and which behind a colon;
`Value.chars` is the form of a value in a layout, and `Value.compactChars_eq` and `Value.prettyChars_eq`
say that the two forms are forms of this kind.
-/

namespace CrashReporter

/-- The bytes of characters. -/
def Text.bytes (cs : List Char) : Bytes := cs.flatMap String.utf8EncodeChar

namespace Text

@[simp] theorem bytes_nil : bytes [] = [] := rfl

@[simp] theorem bytes_cons (c : Char) (cs : List Char) :
    bytes (c :: cs) = String.utf8EncodeChar c ++ bytes cs := List.flatMap_cons ..

@[simp] theorem bytes_append (cs ds : List Char) : bytes (cs ++ ds) = bytes cs ++ bytes ds :=
  List.flatMap_append ..

theorem utf8_ofList (cs : List Char) : utf8 (String.ofList cs) = bytes cs := by
  simp [utf8, bytes, List.utf8Encode]

theorem utf8_eq_bytes (s : String) : utf8 s = bytes s.toList := by
  rw [← utf8_ofList, String.ofList_toList]

end Text

namespace Json

/-- Whether all characters are blanks that may stand between tokens. -/
def AllBlank (cs : List Char) : Prop := ∀ c ∈ cs, c = ' ' ∨ c = '\n'

/-- Which blanks stand where. -/
structure Layout where
  /-- Before an item, a member or a closing bracket at a level. -/
  line : Nat → List Char
  /-- Behind a colon. -/
  gap : List Char
  line_blank : ∀ level, AllBlank (line level)
  gap_blank : AllBlank gap

namespace Layout

/-- No blanks. -/
def compact : Layout where
  line _ := []
  gap := []
  line_blank _ _ h := nomatch h
  gap_blank _ h := nomatch h

/-- A line for each item and member. -/
def pretty : Layout where
  line := newLine
  gap := [' ']
  line_blank level c h := by
    rcases List.mem_cons.mp h with rfl | h
    · exact .inr rfl
    · exact .inl (List.eq_of_mem_replicate h)
  gap_blank c h := .inl (List.mem_singleton.mp h)

end Layout

section

variable (L : Layout)

mutual

/-- A value that starts at a level, in a layout. -/
def Value.chars (level : Nat) : Value → List Char
  | .null => "null".toList
  | .bool true => "true".toList
  | .bool false => "false".toList
  | .number n => n.chars
  | .text s => quote s
  | .list [] => ['[', ']']
  | .list (v :: vs) => '[' :: (L.line (level + 1) ++ (v.chars (level + 1) ++ itemChars level vs))
  | .object [] => ['\x7b', '\x7d']
  | .object ((k, v) :: ms) =>
    '\x7b' :: (L.line (level + 1) ++
      (quote k ++ ':' :: (L.gap ++ (v.chars (level + 1) ++ memberChars level ms))))

/-- The items behind the first, and the closing bracket. -/
def itemChars (level : Nat) : List Value → List Char
  | [] => L.line level ++ [']']
  | v :: vs => ',' :: (L.line (level + 1) ++ (v.chars (level + 1) ++ itemChars level vs))

/-- The members behind the first, and the closing brace. -/
def memberChars (level : Nat) : List (String × Value) → List Char
  | [] => L.line level ++ ['\x7d']
  | (k, v) :: ms =>
    ',' :: (L.line (level + 1) ++
      (quote k ++ ':' :: (L.gap ++ (v.chars (level + 1) ++ memberChars level ms))))

end

end

mutual

/-- The compact form has no blanks. -/
theorem Value.compactChars_eq (level : Nat) : (v : Value) → v.compactChars = v.chars .compact level
  | .null | .bool true | .bool false | .number _ | .text _ | .list [] | .object [] => rfl
  | .list (v :: vs) => by
    rw [Value.compactChars, Value.chars, v.compactChars_eq (level + 1), compactItems_eq level vs]
    rfl
  | .object ((k, v) :: ms) => by
    rw [Value.compactChars, Value.chars, v.compactChars_eq (level + 1), compactMembers_eq level ms]
    rfl

theorem compactItems_eq (level : Nat) : (vs : List Value) → compactItems vs = itemChars .compact level vs
  | [] => rfl
  | v :: vs => by
    rw [compactItems, itemChars, v.compactChars_eq (level + 1), compactItems_eq level vs]
    rfl

theorem compactMembers_eq (level : Nat) :
    (ms : List (String × Value)) → compactMembers ms = memberChars .compact level ms
  | [] => rfl
  | (k, v) :: ms => by
    rw [compactMembers, memberChars, v.compactChars_eq (level + 1), compactMembers_eq level ms]
    rfl

end

mutual

/-- The pretty form has a line for each item and member. -/
theorem Value.prettyChars_eq (level : Nat) : (v : Value) → v.prettyChars level = v.chars .pretty level
  | .null | .bool true | .bool false | .number _ | .text _ | .list [] | .object [] => rfl
  | .list (v :: vs) => by
    rw [Value.prettyChars, Value.chars, v.prettyChars_eq (level + 1), prettyItems_eq level vs,
      List.append_assoc]
    rfl
  | .object ((k, v) :: ms) => by
    rw [Value.prettyChars, Value.chars, v.prettyChars_eq (level + 1), prettyMembers_eq level ms,
      List.append_assoc]
    rfl

theorem prettyItems_eq (level : Nat) : (vs : List Value) → prettyItems level vs = itemChars .pretty level vs
  | [] => rfl
  | v :: vs => by
    rw [prettyItems, itemChars, v.prettyChars_eq (level + 1), prettyItems_eq level vs, List.append_assoc]
    rfl

theorem prettyMembers_eq (level : Nat) :
    (ms : List (String × Value)) → prettyMembers level ms = memberChars .pretty level ms
  | [] => rfl
  | (k, v) :: ms => by
    rw [prettyMembers, memberChars, v.prettyChars_eq (level + 1), prettyMembers_eq level ms,
      List.append_assoc]
    rfl

end

end Json

end CrashReporter
