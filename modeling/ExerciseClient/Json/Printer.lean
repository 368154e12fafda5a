import ExerciseClient.Decimal.Shortest
import ExerciseClient.Json.Value
import ExerciseClient.Text.Hexadecimal

/-!
Compact JSON text. Of the characters of a text only the quote, the backslash and the control
characters below U+0020 are escaped.
-/

namespace ExerciseClient.Json

/-- How one character stands inside a quoted text. -/
def escapeChar (c : Char) : List Char :=
  if c = '"' then ['\\', '"']
  else if c = '\\' then ['\\', '\\']
  else if c = '\x08' then ['\\', 'b']
  else if c = '\x0c' then ['\\', 'f']
  else if c = '\n' then ['\\', 'n']
  else if c = '\r' then ['\\', 'r']
  else if c = '\t' then ['\\', 't']
  else if c.toNat < 0x20 then
    ['\\', 'u', '0', '0', Text.hexDigit (c.toNat / 16), Text.hexDigit (c.toNat % 16)]
  else [c]

/-- A quoted text. -/
def quoteChars (cs : List Char) : List Char :=
  '"' :: cs.flatMap escapeChar ++ ['"']

/-- A number as text. -/
def Number.text : Number → String
  | .int i => toString i
  | .real x => x.interchangeText

/-- Written elements with commas between them. -/
def joinComma : List (List Char) → List Char
  | [] => []
  | [x] => x
  | x :: y :: rest => x ++ ',' :: joinComma (y :: rest)

mutual

/-- The characters of a value's text. -/
def Value.chars : Value → List Char
  | .null => ['n', 'u', 'l', 'l']
  | .bool true => ['t', 'r', 'u', 'e']
  | .bool false => ['f', 'a', 'l', 's', 'e']
  | .num n => n.text.toList
  | .str s => quoteChars s.toList
  | .arr items => '[' :: joinComma (Value.itemChars items) ++ [']']
  | .obj members => '\x7b' :: joinComma (Value.memberChars members) ++ ['\x7d']

/-- The characters of each element. -/
def Value.itemChars : List Value → List (List Char)
  | [] => []
  | v :: vs => v.chars :: Value.itemChars vs

/-- The characters of each member. -/
def Value.memberChars : List (String × Value) → List (List Char)
  | [] => []
  | (k, v) :: ms => (quoteChars k.toList ++ ':' :: v.chars) :: Value.memberChars ms

end

/-- The text of a value. -/
def Value.text (v : Value) : String := String.ofList v.chars

end ExerciseClient.Json
