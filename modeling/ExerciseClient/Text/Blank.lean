/-!
Blank characters are those with the Unicode property `White_Space`. A text is blank when every
character of it is, and trimming removes blanks from both ends.
-/

namespace ExerciseClient.Text

/-- The property `White_Space`. -/
def isBlank (c : Char) : Bool :=
  let n := c.toNat
  (0x9 ≤ n && n ≤ 0xD) || n == 0x20 || n == 0x85 || n == 0xA0 || n == 0x1680 ||
    (0x2000 ≤ n && n ≤ 0x200A) || n == 0x2028 || n == 0x2029 || n == 0x202F || n == 0x205F ||
    n == 0x3000

/-- Drops the blanks in front. -/
def trimStart (cs : List Char) : List Char :=
  cs.dropWhile isBlank

/-- Drops the blanks at the end. -/
def trimEnd (cs : List Char) : List Char :=
  (cs.reverse.dropWhile isBlank).reverse

/-- Drops the blanks at both ends. -/
def trimmed (cs : List Char) : List Char :=
  trimEnd (trimStart cs)

/-- Every character is blank; so is the empty text. -/
def allBlank (text : String) : Bool :=
  text.toList.all isBlank

/-- ASCII letters are lowered; every other character stays. -/
def lowerAscii (cs : List Char) : List Char :=
  cs.map Char.toLower

end ExerciseClient.Text
