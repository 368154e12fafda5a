import ExerciseClient.Calendar.Date
import ExerciseClient.Text.Hexadecimal
import ExerciseClient.Text.Split
import ExerciseClient.Toml.Value

/-!
Scalars that stand without quotes: truth values, integers, reals, dates and times.
-/

namespace ExerciseClient.Toml

/-- Drops the underscores of a number; each must stand between digits of the class. -/
def joinDigits? (isDigit : Char → Bool) (cs : List Char) : Option (List Char) :=
  let parts := Text.splitAt '_' cs
  if parts.all fun p => !p.isEmpty && p.all isDigit then some parts.flatten else none

/-- The number of digits in a base. -/
def numberIn (base : Nat) (cs : List Char) : Nat :=
  cs.foldl (fun n c => n * base + (Text.hexValue? c).getD 0) 0

/-- Decimal digits without a needless zero in front. -/
def decimalDigits? (cs : List Char) : Option (List Char) :=
  match joinDigits? Char.isDigit cs with
  | some ('0' :: _ :: _) => none
  | r => r

/-- Splits off a sign. -/
def splitSign (cs : List Char) : Bool × List Char :=
  match cs with
  | '-' :: rest => (true, rest)
  | '+' :: rest => (false, rest)
  | _ => (false, cs)

/-- Reads digits of a base. -/
def readDigits? (base : Nat) (cs : List Char) : Option Int := do
  let isDigit (c : Char) := (Text.hexValue? c).any (· < base)
  return numberIn base (← joinDigits? isDigit cs)

/-- Reads an integer of any size. -/
def readInt? (cs : List Char) : Option Int :=
  match cs with
  | '0' :: 'x' :: rest => readDigits? 16 rest
  | '0' :: 'o' :: rest => readDigits? 8 rest
  | '0' :: 'b' :: rest => readDigits? 2 rest
  | _ => do
    let (negative, rest) := splitSign cs
    let n : Int := numberIn 10 (← decimalDigits? rest)
    return if negative then -n else n

/-- Reads the digits behind a real's power mark. -/
def readPower? (cs : List Char) : Option Int := do
  let (negative, rest) := splitSign cs
  let n : Int := numberIn 10 (← joinDigits? Char.isDigit rest)
  return if negative then -n else n

/-- Rounds `m * 10 ^ e` to binary64; `none` if it is too large. -/
def roundPower? (negative : Bool) (m : Nat) (e : Int) : Option Decimal.Binary64 :=
  let size : Int := e + (toString m).length
  if m = 0 ∨ size < -400 then some ⟨negative, 0, Decimal.Binary64.finite_zero⟩
  else if 400 < size then none
  else if 0 ≤ e then Decimal.Binary64.ofRatio negative (m * 10 ^ e.toNat) 1
  else Decimal.Binary64.ofRatio negative m (10 ^ (-e).toNat)

/-- Reads a real and gives the words for it. Only the word for it makes an infinity. -/
def readReal? (cs : List Char) : Option String := do
  let (negative, rest) := splitSign cs
  if rest = "inf".toList then
    return if negative then "floating point `-inf`" else "floating point `inf`"
  if rest = "nan".toList then return "floating point `NaN`"
  let isPower (c : Char) := c == 'e' || c == 'E'
  let number := rest.takeWhile (!isPower ·)
  let power ←
    match rest.dropWhile (!isPower ·) with
    | [] => some none
    | _ :: ds => (readPower? ds).map some
  let whole := number.takeWhile (· != '.')
  let fraction ←
    match number.dropWhile (· != '.') with
    | [] => some none
    | _ :: ds => (joinDigits? Char.isDigit ds).map some
  if fraction.isNone && power.isNone then none
  let ds := (← decimalDigits? whole) ++ fraction.getD []
  let x ← roundPower? negative (numberIn 10 ds) (power.getD 0 - (fraction.getD []).length)
  return s!"floating point `{x.plainText}`"

/-- A number of exactly `width` digits between two bounds. -/
def fixedNumber? (width low high : Nat) (cs : List Char) : Option (Nat × List Char) :=
  let ds := cs.take width
  let n := numberIn 10 ds
  if ds.length = width && ds.all Char.isDigit && low ≤ n && n ≤ high then some (n, cs.drop width)
  else none

/-- A given character in front. -/
def dropMark? (mark : Char) : List Char → Option (List Char)
  | c :: cs => if c = mark then some cs else none
  | [] => none

/-- Reads a date that exists. -/
def dropDate? (cs : List Char) : Option (List Char) := do
  let (year, cs) ← fixedNumber? 4 0 9999 cs
  let cs ← dropMark? '-' cs
  let (month, cs) ← fixedNumber? 2 1 12 cs
  let cs ← dropMark? '-' cs
  let (_, cs) ← fixedNumber? 2 1 (Calendar.daysInMonth year month) cs
  return cs

/-- Reads a time of day; its seconds may be left out. -/
def dropTime? (cs : List Char) : Option (List Char) := do
  let (_, cs) ← fixedNumber? 2 0 23 cs
  let cs ← dropMark? ':' cs
  let (_, cs) ← fixedNumber? 2 0 59 cs
  match cs with
  | ':' :: cs =>
    let (_, cs) ← fixedNumber? 2 0 60 cs
    match cs with
    | '.' :: c :: rest => if c.isDigit then some (rest.dropWhile Char.isDigit) else none
    | ['.'] => none
    | _ => return cs
  | _ => return cs

/-- Reads an offset, if there is one. -/
def dropOffset? (cs : List Char) : Option (List Char) :=
  match cs with
  | 'Z' :: rest | 'z' :: rest => some rest
  | '+' :: rest | '-' :: rest => do
    let (_, cs) ← fixedNumber? 2 0 24 rest
    let cs ← dropMark? ':' cs
    let (_, cs) ← fixedNumber? 2 0 59 cs
    return cs
  | cs => some cs

/-- The text is a date, a time, or a date and a time with or without an offset. -/
def isDateTime (cs : List Char) : Bool :=
  match dropDate? cs with
  | some [] => true
  | some (c :: rest) =>
    (c == 'T' || c == 't' || c == ' ') && ((dropTime? rest).bind dropOffset?) == some []
  | none => dropTime? cs == some []

/-- Reads a scalar. -/
def readScalar? (cs : List Char) : Option Value :=
  if cs = "true".toList then some (.bool true)
  else if cs = "false".toList then some (.bool false)
  else if isDateTime cs then some .dateTime
  else
    match readInt? cs with
    | some i => some (.int i)
    | none => (readReal? cs).map .real

end ExerciseClient.Toml
