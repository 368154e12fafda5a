import ExerciseClient.Url.Domain.Composition
import ExerciseClient.Url.Domain.Table

/-!
Canonical composition of texts: characters are decomposed, marks are put in the order of their
combining classes, and what can be composed is composed.
-/

namespace ExerciseClient.Url.Domain

/-- The rows of composed characters. -/
def composed : List Row := readRows composedRows

/-- The rows of combining classes. -/
def combining : List Row := readRows combiningRows

/-- The combining class of a code point. -/
def combiningClass (n : Nat) : Nat :=
  match findRow? combining n with
  | some ⟨_, _, [k]⟩ => k
  | _ => 0

/-- The two code points that one is composed of. -/
def pairOf? (n : Nat) : Option (Nat × Nat) :=
  match findRow? composed n with
  | some ⟨_, _, [a, b]⟩ => some (a, b)
  | _ => none

/-- The full decomposition of a code point. -/
def decompose : Nat → Nat → List Nat
  | 0, n => [n]
  | fuel + 1, n =>
    if 0xAC00 ≤ n ∧ n < 0xAC00 + 11172 then
      let s := n - 0xAC00
      let tail := s % 28
      [0x1100 + s / 588, 0x1161 + s % 588 / 28] ++ if tail = 0 then [] else [0x11A7 + tail]
    else
      match pairOf? n with
      | none => [n]
      | some (a, b) => decompose fuel a ++ [b]

/-- Puts a mark before the marks of a higher class at the end of a list that is reversed. -/
def insertMark (n k : Nat) : List (Nat × Nat) → List (Nat × Nat)
  | [] => [(n, k)]
  | x :: xs => if k < x.2 then x :: insertMark n k xs else (n, k) :: x :: xs

/-- Marks in the order of their classes. -/
def orderMarks (ns : List Nat) : List (Nat × Nat) :=
  (ns.foldl (fun acc n =>
    let k := combiningClass n
    if k = 0 then (n, 0) :: acc else insertMark n k acc) []).reverse

/-- The character composed of two. -/
def compose? (a b : Nat) : Option Nat :=
  if 0x1100 ≤ a ∧ a < 0x1113 ∧ 0x1161 ≤ b ∧ b < 0x1176 then
    some (0xAC00 + (a - 0x1100) * 588 + (b - 0x1161) * 28)
  else if 0xAC00 ≤ a ∧ a < 0xAC00 + 11172 ∧ (a - 0xAC00) % 28 = 0 ∧ 0x11A8 ≤ b ∧ b < 0x11C3 then
    some (a + (b - 0x11A7))
  else (composed.find? fun r => r.values == [a, b]).map (·.low)

/-- A starter with the marks after it that could not be composed. `blocked` is the class of the last
of these marks. -/
structure Cluster where
  starter : Nat
  marks : List Nat
  blocked : Nat

/-- Composes along a list of code points with their classes. -/
def composeFrom : Option Cluster → List (Nat × Nat) → List Nat
  | none, [] => []
  | some c, [] => c.starter :: c.marks
  | none, (n, k) :: rest =>
    if k = 0 then composeFrom (some ⟨n, [], 0⟩) rest else n :: composeFrom none rest
  | some c, (n, k) :: rest =>
    let free := if c.marks.isEmpty then true else c.blocked < k
    match (if free then compose? c.starter n else none) with
    | some m => composeFrom (some { c with starter := m }) rest
    | none =>
      if k = 0 then c.starter :: c.marks ++ composeFrom (some ⟨n, [], 0⟩) rest
      else composeFrom (some { c with marks := c.marks ++ [n], blocked := k }) rest

/-- The canonical composition of a text. -/
def normalized (cs : List Char) : List Char :=
  (composeFrom none (orderMarks (cs.flatMap fun c => decompose 4 c.toNat))).map Char.ofNat

end ExerciseClient.Url.Domain
