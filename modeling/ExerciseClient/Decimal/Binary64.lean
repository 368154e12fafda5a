import ExerciseClient.Arithmetic

/-!
Finite binary64 numbers with exact arithmetic on natural numbers. A number is kept as its sign and
its magnitude: the place of its absolute value among the non-negative finite numbers, counted from
zero. Rounding is to the nearest number, a tie to the even one.
-/

namespace ExerciseClient.Decimal

/-- The quotient rounded to the nearest integer, a tie to the even one. -/
def roundHalfEven (num den : Nat) : Nat :=
  let q := num / den
  let r := num % den
  if 2 * r < den then q
  else if den < 2 * r then q + 1
  else q + q % 2

/-- A finite binary64 number. -/
structure Binary64 where
  negative : Bool
  magnitude : Nat
  finite : magnitude < 2047 * 2 ^ 52
deriving DecidableEq, Repr

namespace Binary64

theorem finite_zero : 0 < 2047 * 2 ^ 52 := by decide

/-- Zero. -/
def zero : Binary64 := ⟨false, 0, finite_zero⟩

instance : Inhabited Binary64 := ⟨zero⟩

/-- Zero of either sign. -/
def isZero (x : Binary64) : Bool := x.magnitude == 0

/-- The number with the other sign. -/
def neg (x : Binary64) : Binary64 := { x with negative := !x.negative }

/-- The integer `s` of the absolute value `s * 2 ^ x.exponent`. -/
def significand (x : Binary64) : Nat :=
  if x.magnitude < 2 ^ 52 then x.magnitude else x.magnitude % 2 ^ 52 + 2 ^ 52

/-- The power of two that belongs to `significand`. -/
def exponent (x : Binary64) : Int :=
  if x.magnitude < 2 ^ 52 then -1074 else (x.magnitude / 2 ^ 52 : Nat) - 1075

/-- The absolute value as a fraction. -/
def absRatio (x : Binary64) : Nat × Nat :=
  if 0 ≤ x.exponent then (x.significand * 2 ^ x.exponent.toNat, 1)
  else (x.significand, 2 ^ (-x.exponent).toNat)

/-- `num / den * 2 ^ -k` as a fraction. -/
def scaleDown (num den : Nat) (k : Int) : Nat × Nat :=
  if 0 ≤ k then (num, den * 2 ^ k.toNat) else (num * 2 ^ (-k).toNat, den)

/-- The power of two of the last place of the binary64 numbers around `num / den`. -/
def lastPlace (num den : Nat) : Int :=
  let e : Int := (Nat.log2 num : Int) - Nat.log2 den
  let (n, d) := scaleDown num den e
  let k := if d ≤ n then e - 52 else e - 53
  max k (-1074)

/-- The place of the binary64 number nearest to `num / den`, without a bound. -/
def nearestMagnitude (num den : Nat) : Nat :=
  if num = 0 then 0
  else
    let k := lastPlace num den
    let (n, d) := scaleDown num den k
    (k + 1074).toNat * 2 ^ 52 + roundHalfEven n d

/-- The number nearest to `± num / den`; `none` past the largest finite number. -/
def ofRatio (negative : Bool) (num den : Nat) : Option Binary64 :=
  if h : nearestMagnitude num den < 2047 * 2 ^ 52 then
    some ⟨negative, nearestMagnitude num den, h⟩
  else none

/-- The largest finite number. -/
def largest (negative : Bool) : Binary64 := ⟨negative, 2047 * 2 ^ 52 - 1, by decide⟩

/-- The number nearest to an integer. -/
def ofInt (i : Int) : Binary64 :=
  (ofRatio (i < 0) i.natAbs 1).getD (largest (i < 0))

/-- The rounded product; `none` past the largest finite number. -/
def mul (x y : Binary64) : Option Binary64 :=
  let (a, b) := x.absRatio
  let (c, d) := y.absRatio
  ofRatio (x.negative != y.negative) (a * c) (b * d)

/-- The rounded quotient by a number other than zero; `none` past the largest finite number. -/
def div (x y : Binary64) : Option Binary64 :=
  let (a, b) := x.absRatio
  let (c, d) := y.absRatio
  ofRatio (x.negative != y.negative) (a * d) (b * c)

end Binary64

end ExerciseClient.Decimal
