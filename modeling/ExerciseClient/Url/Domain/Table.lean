import ExerciseClient.Text.Hexadecimal
import ExerciseClient.Text.Split

/-!
Tables of characters, written as rows between spaces and line ends. A row is a code point or a range
of code points, and after a colon numbers that belong to it. All numbers are hexadecimal.
-/

namespace ExerciseClient.Url.Domain

/-- A range of code points and the numbers that belong to it. -/
structure Row where
  low : Nat
  high : Nat
  values : List Nat

/-- The number of a text, zero if it is none. -/
def rowNumber (s : String) : Nat :=
  (Text.hexNumber? s.toList).getD 0

/-- Reads a row. -/
def Row.read (s : String) : Row :=
  let parts := s.splitOn ":"
  let bounds := ((parts[0]?).getD "").splitOn "-"
  let low := rowNumber ((bounds[0]?).getD "")
  let high := match bounds[1]? with
    | some h => rowNumber h
    | none => low
  let values := match parts[1]? with
    | some v => (v.splitOn ",").map rowNumber
    | none => []
  ⟨low, high, values⟩

/-- Reads a table. -/
def readRows (text : String) : List Row :=
  let words := Text.splitWhere (fun c => c == ' ' || c == '\n') text.toList
  (words.filter (!·.isEmpty)).map fun w => Row.read (String.ofList w)

/-- The first row that holds a code point. -/
def findRow? (rows : List Row) (n : Nat) : Option Row :=
  rows.find? fun r => r.low ≤ n && n ≤ r.high

/-- Some row holds the code point. -/
def inRows (rows : List Row) (n : Nat) : Bool :=
  (findRow? rows n).isSome

end ExerciseClient.Url.Domain
