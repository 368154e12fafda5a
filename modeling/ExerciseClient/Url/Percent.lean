import ExerciseClient.Text.Hexadecimal
import ExerciseClient.Text.Utf8

/-!
Percent-encoding. Which ASCII characters are encoded depends on the part of the URL; all other
characters always are, byte by byte.
-/

namespace ExerciseClient.Url

/-- Control characters. -/
def isControl (c : Char) : Bool := c.toNat < 0x20 || c.toNat == 0x7F

/-- A class of ASCII characters that one part of a URL encodes. -/
abbrev EncodeSet := Char → Bool

namespace EncodeSet

/-- Controls only: paths without segments and hosts of other schemes. -/
def control : EncodeSet := isControl

/-- Fragments. -/
def fragment : EncodeSet := fun c =>
  isControl c || [' ', '"', '<', '>', Char.ofNat 0x60].contains c

/-- Paths with segments. -/
def path : EncodeSet := fun c =>
  fragment c || ['#', '?', '\x7b', '\x7d'].contains c

/-- User names and passwords. -/
def userInfo : EncodeSet := fun c =>
  path c || ['/', ':', ';', '=', '@', '[', '\\', ']', '^', '|'].contains c

/-- A single segment that is put into a path. -/
def segment (special : Bool) : EncodeSet := fun c =>
  path c || c == '/' || c == '%' || (special && c == '\\')

/-- Queries. -/
def query (special : Bool) : EncodeSet := fun c =>
  isControl c || [' ', '"', '#', '<', '>'].contains c || (special && c.toNat == 0x27)

end EncodeSet

/-- An encoded byte. -/
def percentByte (b : UInt8) : List Char :=
  ['%', Text.upperHexDigit (b.toNat / 16), Text.upperHexDigit (b.toNat % 16)]

/-- An encoded character, or the character itself. -/
def percentChar (set : EncodeSet) (c : Char) : List Char :=
  if c.toNat < 0x80 && !set c then [c]
  else (String.utf8EncodeChar c).flatMap percentByte

/-- An encoded text. -/
def percentEncode (set : EncodeSet) (cs : List Char) : List Char :=
  cs.flatMap (percentChar set)

/-- The bytes of an encoded text. A percent sign without two digits stands for itself. -/
def percentDecode : List Char → List UInt8
  | [] => []
  | '%' :: a :: b :: cs =>
    match Text.hexValue? a, Text.hexValue? b with
    | some h, some l => UInt8.ofNat (h * 16 + l) :: percentDecode cs
    | _, _ => String.utf8EncodeChar '%' ++ percentDecode (a :: b :: cs)
  | c :: cs => String.utf8EncodeChar c ++ percentDecode cs

end ExerciseClient.Url
