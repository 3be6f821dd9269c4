/-!
# Blank characters

The characters with the Unicode property `White_Space`, and texts without them at either end.
-/

namespace CrashReporter.Text

/-- Whether the character has the property `White_Space`. -/
def isBlank (c : Char) : Bool :=
  let n := c.toNat
  (9 ≤ n && n ≤ 13) || n == 0x20 || n == 0x85 || n == 0xA0 || n == 0x1680
    || (0x2000 ≤ n && n ≤ 0x200A) || n == 0x2028 || n == 0x2029 || n == 0x202F || n == 0x205F
    || n == 0x3000

/-- A list without its blank first and last characters. -/
def trimChars (cs : List Char) : List Char :=
  ((cs.dropWhile isBlank).reverse.dropWhile isBlank).reverse

/-- A text without its blank first and last characters. -/
def trim (s : String) : String := String.ofList (trimChars s.toList)

/-- Whether nothing but blank characters is there. -/
def isBlankText (s : String) : Bool := s.toList.all isBlank

/-- A text of which something is left. -/
def nonBlank? (s : String) : Option String := if isBlankText s then none else some s

end CrashReporter.Text
