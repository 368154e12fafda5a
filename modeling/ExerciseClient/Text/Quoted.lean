import ExerciseClient.Text.Hexadecimal
import ExerciseClient.Text.Hidden

/-!
A text quoted for a message. Quotes and backslashes are escaped, the common control characters have
letters, and every other hidden character is written as its code point in braces.
-/

namespace ExerciseClient.Text

/-- How one character stands in a quoted text. -/
def quotedChar (c : Char) : List Char :=
  if c = '"' then ['\\', '"']
  else if c = '\\' then ['\\', '\\']
  else if c = '\n' then ['\\', 'n']
  else if c = '\r' then ['\\', 'r']
  else if c = '\t' then ['\\', 't']
  else if c.toNat = 0 then ['\\', '0']
  else if isHidden c then ['\\', 'u', '\x7b'] ++ hexText c.toNat ++ ['\x7d']
  else [c]

/-- The text between quotes. -/
def quoted (s : String) : String :=
  String.ofList ('"' :: s.toList.flatMap quotedChar ++ ['"'])

end ExerciseClient.Text
