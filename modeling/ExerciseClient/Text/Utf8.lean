/-!
UTF-8. Decoding reads byte by byte: a byte that cannot continue a character ends it as one fault and
is then read anew, so each fault is a longest start of a character.
-/

namespace ExerciseClient.Text.Utf8

/-- The bytes of a text. -/
def encode (cs : List Char) : List UInt8 :=
  cs.flatMap String.utf8EncodeChar

/-- The number of bytes of a text. -/
def length (s : String) : Nat :=
  (encode s.toList).length

/-- A character that is being read: how many bytes it still needs, the bounds of the next one, and
the bits so far. -/
structure State where
  needed : Nat
  low : Nat
  high : Nat
  bits : Nat

/-- Between characters. -/
def State.start : State := ⟨0, 0x80, 0xBF, 0⟩

/-- Reads the first byte of a character; `none` stands for a fault. -/
def first (b : Nat) : List (Option Char) × State :=
  if b < 0x80 then ([some (Char.ofNat b)], .start)
  else if 0xC2 ≤ b ∧ b ≤ 0xDF then ([], ⟨1, 0x80, 0xBF, b - 0xC0⟩)
  else if b = 0xE0 then ([], ⟨2, 0xA0, 0xBF, 0⟩)
  else if b = 0xED then ([], ⟨2, 0x80, 0x9F, 0xD⟩)
  else if 0xE1 ≤ b ∧ b ≤ 0xEF then ([], ⟨2, 0x80, 0xBF, b - 0xE0⟩)
  else if b = 0xF0 then ([], ⟨3, 0x90, 0xBF, 0⟩)
  else if 0xF1 ≤ b ∧ b ≤ 0xF3 then ([], ⟨3, 0x80, 0xBF, b - 0xF0⟩)
  else if b = 0xF4 then ([], ⟨3, 0x80, 0x8F, 4⟩)
  else ([none], .start)

/-- Reads one byte. -/
def next (s : State) (b : Nat) : List (Option Char) × State :=
  if s.needed = 0 then first b
  else if s.low ≤ b ∧ b ≤ s.high then
    let bits := s.bits * 64 + (b - 0x80)
    if s.needed = 1 then ([some (Char.ofNat bits)], .start)
    else ([], ⟨s.needed - 1, 0x80, 0xBF, bits⟩)
  else
    let (out, s) := first b
    (none :: out, s)

/-- The characters and faults of bytes. -/
def scan (s : State) : List UInt8 → List (Option Char)
  | [] => if s.needed = 0 then [] else [none]
  | b :: bs =>
    let (out, s) := next s b.toNat
    out ++ scan s bs

/-- The text of bytes; `none` with a fault. -/
def decode? (bytes : List UInt8) : Option (List Char) :=
  (scan .start bytes).mapM id

/-- The text of bytes, with U+FFFD for each fault. -/
def decodeLossy (bytes : List UInt8) : List Char :=
  (scan .start bytes).map (·.getD '\uFFFD')

end ExerciseClient.Text.Utf8
