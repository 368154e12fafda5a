import ExerciseClient.Decimal.Binary64

/-!
The shortest decimal that reads back as a given binary64 number: the fewest significant digits, and
of these the digits nearest to the number. A decimal reads back when it lies between the midpoints
to the neighbouring numbers, ends included when the significand is even.
-/

namespace ExerciseClient.Decimal

/-- Significant digits without zeros at either end, and the power of ten of the first one. -/
structure Digits where
  digits : List Char
  leading : Int
deriving DecidableEq, Repr

namespace Binary64

/-- Four times the significand's unit: the interval of reals that round to the number, as
`(lower, value, upper)` over the unit `2 ^ (exponent - 2)`. -/
def interval (x : Binary64) : Nat × Nat × Nat :=
  let s := x.significand
  let below := if s = 2 ^ 52 ∧ -1074 < x.exponent then 1 else 2
  (4 * s - below, 4 * s, 4 * s + 2)

/-- The unit of `interval` as a fraction. -/
def unit (x : Binary64) : Nat × Nat :=
  let e := x.exponent - 2
  if 0 ≤ e then (2 ^ e.toNat, 1) else (1, 2 ^ (-e).toNat)

/-- `10 ^ k` as a fraction. -/
def tenPower (k : Int) : Nat × Nat :=
  if 0 ≤ k then (10 ^ k.toNat, 1) else (1, 10 ^ (-k).toNat)

/-- The power of ten of the first digit of a positive fraction, near a guess from below. -/
def leadingPower (num den : Nat) : Int :=
  let guess : Int := ((Nat.log2 num : Int) - Nat.log2 den - 1) * 30103 / 100000 - 1
  let reaches (k : Int) : Bool :=
    let (p, q) := tenPower k
    decide (p * den ≤ num * q)
  (List.range 4).foldl
    (fun (k : Int) (i : Nat) => if reaches (guess + i) then guess + i else k) guess

/-- The digits of one grid `10 ^ k`: the neighbour of the number on that grid that reads back. -/
def onGrid (x : Binary64) (k : Int) : Option Nat :=
  let (lower, value, upper) := x.interval
  let (un, ud) := x.unit
  let (p, q) := tenPower k
  -- A grid point `d * 10 ^ k` is `d * step` and an interval point `m` is `m * scale`.
  let scale := un * q
  let step := p * ud
  let closed := x.significand % 2 == 0
  let inside (d : Nat) : Bool :=
    if closed then decide (lower * scale ≤ d * step ∧ d * step ≤ upper * scale)
    else decide (lower * scale < d * step ∧ d * step < upper * scale)
  let d := value * scale / step
  let below := value * scale - d * step
  let above := (d + 1) * step - value * scale
  match inside d, inside (d + 1) with
  | true, true =>
    some (if below < above then d else if above < below then d + 1 else d + d % 2)
  | true, false => some d
  | false, true => some (d + 1)
  | false, false => none

/-- The shortest digits of the absolute value; zero has the one digit `0`. -/
def shortest (x : Binary64) : Digits :=
  if x.isZero then ⟨['0'], 0⟩
  else
    let (num, den) := x.absRatio
    let top := leadingPower num den
    let found := (List.range 17).findSome? fun (i : Nat) =>
      (x.onGrid (top - i)).map fun d => (d, top - (i : Int))
    match found with
    | none => ⟨['0'], 0⟩
    | some (d, k) =>
      let ds := (toString d).toList
      let trimmed := (ds.reverse.dropWhile (· == '0')).reverse
      ⟨trimmed, k + ds.length - 1⟩

end Binary64

/-- Digits written in place, with as many zeros as their power needs and no trailing point. -/
def Digits.positional (d : Digits) : List Char :=
  if d.leading < 0 then
    '0' :: '.' :: List.replicate (-d.leading - 1).toNat '0' ++ d.digits
  else
    let whole := d.leading.toNat + 1
    if d.digits.length ≤ whole then
      d.digits ++ List.replicate (whole - d.digits.length) '0'
    else d.digits.take whole ++ '.' :: d.digits.drop whole

/-- Digits written with one digit before the point and a signed power of ten. -/
def Digits.scientific (d : Digits) : List Char :=
  let tail := d.digits.drop 1
  d.digits.take 1 ++ (if tail.isEmpty then [] else '.' :: tail) ++
    ('e' :: (if d.leading < 0 then '-' else '+') :: (toString d.leading.natAbs).toList)

/-- The sign of a number as text. -/
def Binary64.sign (x : Binary64) : List Char :=
  if x.negative then ['-'] else []

/-- A whole number written in place gets `.0`. -/
def withPoint (cs : List Char) : List Char :=
  if cs.contains '.' then cs else cs ++ ['.', '0']

/-- Interchange text: in place for leading powers from -5 to 15, otherwise scientific. -/
def Binary64.interchangeText (x : Binary64) : String :=
  let d := x.shortest
  String.ofList (x.sign ++
    if -5 ≤ d.leading ∧ d.leading ≤ 15 then withPoint d.positional else d.scientific)

/-- Plain text: always in place, with a point. -/
def Binary64.plainText (x : Binary64) : String :=
  String.ofList (x.sign ++ withPoint x.shortest.positional)

end ExerciseClient.Decimal
