import ExerciseClient.Decimal.Binary64

/-!
A binary64 number with a fixed count of decimal places. The exact value is rounded once, a tie to
the even digit, and the sign of the number is kept even when every digit is zero.
-/

namespace ExerciseClient.Decimal

/-- Exactly `width` digits: zeros are put in front of a shorter text. -/
def padZeros (width : Nat) (cs : List Char) : List Char :=
  List.replicate (width - cs.length) '0' ++ cs

/-- The number with `places` digits after the point. -/
def Binary64.fixedText (places : Nat) (x : Binary64) : String :=
  let (num, den) := x.absRatio
  let r := roundHalfEven (num * 10 ^ places) den
  let whole := (toString (r / 10 ^ places)).toList
  let fraction := padZeros places (toString (r % 10 ^ places)).toList
  String.ofList ((if x.negative then ['-'] else []) ++ whole ++
    if places = 0 then [] else '.' :: fraction)

end ExerciseClient.Decimal
