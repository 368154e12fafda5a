import ExerciseClient.Arithmetic

/-!
Punycode: a label's ASCII characters, and the positions and code points of the others as a number
of variable length in base 36.
-/

namespace ExerciseClient.Url.Domain.Punycode

/-- The next bias after a difference was written for `count` characters. -/
def adapt (delta count : Nat) (atFirst : Bool) : Nat :=
  let d := if atFirst then delta / 700 else delta / 2
  let d := d + d / count
  shrink d 0 d
where
  /-- Divides by 35 until at most 455 is left; `k` counts 36 for each step. -/
  shrink (d k : Nat) : Nat → Nat
    | 0 => k + 36 * d / (d + 38)
    | fuel + 1 => if d > 455 then shrink (d / 35) (k + 36) fuel else k + 36 * d / (d + 38)

/-- The digit of a number below 36. -/
def digit (n : Nat) : Char :=
  if n < 26 then Char.ofNat (97 + n) else Char.ofNat (22 + n)

/-- The number of a digit. -/
def digitValue? (c : Char) : Option Nat :=
  let n := c.toNat
  if 97 ≤ n ∧ n ≤ 122 then some (n - 97)
  else if 65 ≤ n ∧ n ≤ 90 then some (n - 65)
  else if 48 ≤ n ∧ n ≤ 57 then some (n - 22)
  else none

/-- The least number that a digit at place `k` passes on to the next digit. -/
def threshold (k bias : Nat) : Nat :=
  if k ≤ bias then 1 else if bias + 26 ≤ k then 26 else k - bias

/-- Writes a number of variable length. -/
def writeNumber (bias : Nat) : Nat → Nat → Nat → List Char
  | 0, _, _ => []
  | fuel + 1, k, q =>
    let t := threshold k bias
    if q < t then [digit q]
    else digit (t + (q - t) % (36 - t)) :: writeNumber bias fuel (k + 36) ((q - t) / (36 - t))

/-- What encoding has come to. -/
structure Encoder where
  delta : Nat
  bias : Nat
  handled : Nat
  out : List Char

/-- Passes over a label for the code point `n`. -/
def encodePass (basic n : Nat) (e : Encoder) (label : List Nat) : Encoder :=
  label.foldl (fun e c =>
    if c < n then { e with delta := e.delta + 1 }
    else if c = n then
      { delta := 0, bias := adapt e.delta (e.handled + 1) (e.handled == basic),
        handled := e.handled + 1,
        out := e.out ++ writeNumber e.bias (e.delta + 2) 36 e.delta }
    else e) e

/-- Encodes the code points from `n` on, one after the other. -/
def encodeFrom (basic : Nat) (label : List Nat) : Nat → Nat → Encoder → Encoder
  | 0, _, e => e
  | fuel + 1, n, e =>
    match (label.filter (n ≤ ·)).min? with
    | none => e
    | some m =>
      let e := encodePass basic m { e with delta := e.delta + (m - n) * (e.handled + 1) } label
      encodeFrom basic label fuel (m + 1) { e with delta := e.delta + 1 }

/-- Encodes a label. -/
def encode (label : List Char) : List Char :=
  let ascii := label.filter (·.toNat < 0x80)
  let start := if ascii.isEmpty then [] else ascii ++ ['-']
  (encodeFrom ascii.length (label.map Char.toNat) label.length 0x80
    ⟨0, 72, ascii.length, start⟩).out

/-- The largest number that decoding may come to. -/
def limit : Nat := 2 ^ 32

/-- Reads a number of variable length. -/
def readNumber (bias : Nat) : Nat → Nat → Nat → List Char → Option (Nat × List Char)
  | _, _, _, [] => none
  | k, weight, i, c :: cs => do
    let d ← digitValue? c
    let i := i + d * weight
    if limit ≤ i then none
    let t := threshold k bias
    if d < t then return (i, cs)
    let weight := weight * (36 - t)
    if limit ≤ weight then none
    readNumber bias (k + 36) weight i cs

/-- Inserts a code point at a position. -/
def insertAt (out : List Nat) (i c : Nat) : List Nat :=
  out.take i ++ c :: out.drop i

/-- Decodes the numbers after the ASCII characters. -/
def decodeFrom : Nat → Nat → Nat → Nat → List Nat → List Char → Option (List Nat)
  | _, _, _, _, out, [] => some out
  | 0, _, _, _, _, _ => none
  | fuel + 1, n, i, bias, out, cs => do
    let (j, cs) ← readNumber bias 36 1 i cs
    let count := out.length + 1
    let n := n + j / count
    if 0x110000 ≤ n ∨ (0xD800 ≤ n ∧ n < 0xE000) then none
    let at' := j % count
    decodeFrom fuel n (at' + 1) (adapt (j - i) count (i == 0)) (insertAt out at' n) cs

/-- Splits at the last hyphen: the ASCII characters and the numbers. -/
def splitLast (cs : List Char) : List Char × List Char :=
  if cs.contains '-' then
    let tail := (cs.reverse.takeWhile (· != '-')).reverse
    (cs.take (cs.length - tail.length - 1), tail)
  else ([], cs)

/-- Decodes a label. -/
def decode? (cs : List Char) : Option (List Char) := do
  if !cs.all (·.toNat < 0x80) then none
  let (ascii, numbers) := splitLast cs
  let out ← decodeFrom numbers.length 0x80 0 72 (ascii.map Char.toNat) numbers
  return out.map Char.ofNat

end ExerciseClient.Url.Domain.Punycode
