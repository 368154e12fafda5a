import ExerciseClient.Decimal.Binary64
import ExerciseClient.KeyedMap

/-!
JSON values. A number is an exact integer between `-2^63` and `2^64 - 1`, or a finite binary64
number. The members of an object stand in the order in which they are written; a value that was
read without a schema has them ascending, one per key.
-/

namespace ExerciseClient.Json

open Decimal (Binary64)

/-- A JSON number. -/
inductive Number where
  | int (i : Int)
  | real (x : Binary64)
deriving DecidableEq, Repr

/-- A JSON value. -/
inductive Value where
  | null
  | bool (b : Bool)
  | num (n : Number)
  | str (s : String)
  | arr (items : List Value)
  | obj (members : List (String × Value))
deriving Repr, Inhabited

namespace Number

/-- Zero as an integer or as a real of either sign. -/
def isZero : Number → Bool
  | int i => i == 0
  | real x => x.isZero

/-- The nearest binary64 number. -/
def toReal : Number → Binary64
  | int i => Binary64.ofInt i
  | real x => x

end Number

namespace Value

/-- The member under a key; of repeated keys the first. -/
def get? : Value → String → Option Value
  | obj members, key => members.lookup key
  | _, _ => none

/-- Nothing is written here. -/
def isNull : Value → Bool
  | null => true
  | _ => false

/-- An integer. -/
def ofInt (i : Int) : Value := num (.int i)

/-- A natural number. -/
def ofNat (n : Nat) : Value := num (.int n)

/-- An optional value, `null` when absent. -/
def ofOption {α : Type} (f : α → Value) : Option α → Value
  | none => null
  | some a => f a

end Value

end ExerciseClient.Json
