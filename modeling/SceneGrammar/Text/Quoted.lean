import SceneGrammar.Text.Extender
import SceneGrammar.Text.Unprintable

/-!
# Quoted text

Text as a message shows it: in quotes, on one line, with nothing that a reader could not see. What
would be invisible is written as its code point.
-/

namespace SceneGrammar.Text

/-- A code point in braces, in lower-case hexadecimal digits. -/
def codePoint (c : Char) : List Char := '\\' :: 'u' :: '\x7b' :: Nat.toDigits 16 c.toNat ++ ['\x7d']

/-- How one character is shown. -/
def shown (c : Char) : List Char :=
  if c = '"' then ['\\', '"']
  else if c = '\\' then ['\\', '\\']
  else if c = '\n' then ['\\', 'n']
  else if c = '\r' then ['\\', 'r']
  else if c = '\t' then ['\\', 't']
  else if c = '\x00' then ['\\', '0']
  else if extender.contains c || unprintable.contains c then codePoint c
  else [c]

/-- A text in quotes. -/
def quoted (s : String) : String := String.ofList ('"' :: s.toList.flatMap shown ++ ['"'])

end SceneGrammar.Text
