import CrashReporter.Text.Extending
import CrashReporter.Text.Printable

/-!
# Quoted texts

A text in double quotes, so that it can be told apart in a message: quotes and backslashes are
escaped, and so is every character that would not show, or would join the one before it.
-/

namespace CrashReporter.Text

/-- A code point in braces, in hexadecimal. -/
def codePoint (c : Char) : List Char :=
  '\\' :: 'u' :: '\x7b' :: (Nat.toDigits 16 c.toNat ++ ['\x7d'])

/-- A character inside quotes. -/
def quotedChar (c : Char) : List Char :=
  if c = '"' then ['\\', '"']
  else if c = '\\' then ['\\', '\\']
  else if c = '\n' then ['\\', 'n']
  else if c = '\r' then ['\\', 'r']
  else if c = '\t' then ['\\', 't']
  else if c.toNat = 0 then ['\\', '0']
  else if c.toNat < 0x20 ∨ c.toNat = 0x7F then codePoint c
  else if c.toNat < 0x7F then [c]
  else if isExtending c || isUnprintable c then codePoint c
  else [c]

/-- A text in quotes. -/
def quoted (s : String) : String := String.ofList ('"' :: (s.toList.flatMap quotedChar ++ ['"']))

end CrashReporter.Text
