import ExerciseClient.Calendar.Date
import ExerciseClient.Decimal.Fixed
import ExerciseClient.Text.Blank

/-!
Instants of universal time to the nanosecond, with leap seconds. They are read from date-time texts
with an offset, in which blanks may stand before every part, and written with `Z` and the fewest of
no, three, six or nine fraction digits.
-/

namespace ExerciseClient.Calendar

/-- An instant of universal time. During a leap second `nanosecond` is at least `10 ^ 9`. -/
structure Instant where
  day : Int
  second : Nat
  nanosecond : Nat
deriving DecidableEq, Repr

/-! ### Reading -/

/-- A step of reading: what was read and the rest of the text. -/
abbrev Step (α : Type) := List Char → Option (α × List Char)

/-- A digit of the ten ASCII ones. -/
def isDigit (c : Char) : Bool := '0' ≤ c && c ≤ '9'

/-- The number written by digits. -/
def numberOf (cs : List Char) : Nat :=
  cs.foldl (fun n c => n * 10 + (c.toNat - 48)) 0

/-- At least one digit, of which at most `width` are read. -/
def readDigits (width : Nat) : Step (List Char) := fun cs =>
  match (cs.take width).takeWhile isDigit with
  | [] => none
  | ds => some (ds, cs.drop ds.length)

/-- A number after blanks. -/
def readNumber (width : Nat) : Step Nat := fun cs => do
  let (ds, rest) ← readDigits width (Text.trimStart cs)
  return (numberOf ds, rest)

/-- A year after blanks: four digits at most, or a sign and any count of digits. -/
def readYear : Step Int := fun cs =>
  match Text.trimStart cs with
  | '-' :: rest => do
    let (ds, rest') ← readDigits rest.length rest
    return (-(numberOf ds : Int), rest')
  | '+' :: rest => do
    let (ds, rest') ← readDigits rest.length rest
    return ((numberOf ds : Int), rest')
  | cs => do
    let (ds, rest) ← readDigits 4 cs
    return ((numberOf ds : Int), rest)

/-- A given character after blanks. -/
def readMark (mark : Char) : Step Unit := fun cs =>
  match Text.trimStart cs with
  | c :: rest => if c = mark then some ((), rest) else none
  | [] => none

/-- A fraction of a second in nanoseconds; digits after the ninth are passed over. -/
def readFraction : Step Nat := fun cs =>
  match cs with
  | '.' :: rest => do
    let (ds, rest) ← readDigits 9 rest
    return (numberOf ds * 10 ^ (9 - ds.length), rest.dropWhile isDigit)
  | _ => some (0, cs)

/-- A signed offset from universal time in seconds. -/
def readSignedOffset : Step Int := fun cs => do
  let (negative, cs) ←
    match cs with
    | '+' :: rest => some (false, rest)
    | '-' :: rest => some (true, rest)
    | '\u2212' :: rest => some (true, rest)
    | _ => none
  let (hours, cs) ←
    match cs with
    | a :: b :: rest => if isDigit a && isDigit b then some (numberOf [a, b], rest) else none
    | _ => none
  let cs := cs.dropWhile fun c => c == ':' || Text.isBlank c
  let (minutes, cs) ←
    match cs with
    | a :: b :: rest =>
      if isDigit a && isDigit b && numberOf [a] < 6 then some (numberOf [a, b], rest) else none
    | _ => none
  let seconds : Int := hours * 3600 + minutes * 60
  return (if negative then -seconds else seconds, cs)

/-- An offset: `Z`, `UTC` or a sign with hours and minutes. -/
def readOffset : Step Int := fun cs =>
  if Text.lowerAscii (cs.take 3) = ['u', 't', 'c'] then some (0, cs.drop 3)
  else
    match cs with
    | 'Z' :: rest | 'z' :: rest => some (0, rest)
    | _ => readSignedOffset cs

/-- The character between date and time. -/
def readSeparator : Step Unit
  | 'T' :: rest | 't' :: rest | ' ' :: rest => some ((), rest)
  | _ => none

/-- The instant of a local date and time at an offset; `none` if there is no such time. -/
def Instant.ofLocal (date : Date) (hour minute second nano : Nat) (offset : Int) :
    Option Instant :=
  if date.isValid && hour < 24 && minute < 60 && second ≤ 60 && offset.natAbs < 86400 then
    let leap := second = 60
    let time : Int := hour * 3600 + minute * 60 + (if leap then 59 else second) - offset
    let day := date.toDays + time / 86400
    let year := (Date.ofDays day).year
    if yearBounds.1 ≤ year && year ≤ yearBounds.2 then
      some ⟨day, (time % 86400).toNat, if leap then nano + 10 ^ 9 else nano⟩
    else none
  else none

/-- Reads a date-time text. -/
def Instant.read? (text : String) : Option Instant := do
  let cs := text.toList
  let (year, cs) ← readYear cs
  let ((), cs) ← readMark '-' cs
  let (month, cs) ← readNumber 2 cs
  let ((), cs) ← readMark '-' cs
  let (day, cs) ← readNumber 2 cs
  let ((), cs) ← readSeparator cs
  let (hour, cs) ← readNumber 2 cs
  let ((), cs) ← readMark ':' cs
  let (minute, cs) ← readNumber 2 cs
  let ((), cs) ← readMark ':' cs
  let (second, cs) ← readNumber 2 cs
  let (nano, cs) ← readFraction cs
  let (offset, cs) ← readOffset (Text.trimStart cs)
  if (Text.trimStart cs).isEmpty then
    Instant.ofLocal ⟨year, month, day⟩ hour minute second nano offset
  else none

/-! ### Writing -/

/-- A number with at least `width` digits. -/
def padded (width n : Nat) : List Char :=
  Decimal.padZeros width (toString n).toList

/-- A year: four digits, with a sign when it is not between 0 and 9999. -/
def yearChars (year : Int) : List Char :=
  if 0 ≤ year ∧ year ≤ 9999 then padded 4 year.toNat
  else (if year < 0 then '-' else '+') :: padded 4 year.natAbs

/-- The fraction of a second. -/
def fractionChars (nano : Nat) : List Char :=
  if nano = 0 then []
  else if nano % 1000000 = 0 then '.' :: padded 3 (nano / 1000000)
  else if nano % 1000 = 0 then '.' :: padded 6 (nano / 1000)
  else '.' :: padded 9 nano

/-- The text of an instant. -/
def Instant.text (i : Instant) : String :=
  let d := Date.ofDays i.day
  let leap := 10 ^ 9 ≤ i.nanosecond
  let second := i.second % 60 + if leap then 1 else 0
  let nano := if leap then i.nanosecond - 10 ^ 9 else i.nanosecond
  String.ofList (yearChars d.year ++ '-' :: padded 2 d.month ++ '-' :: padded 2 d.day ++
    'T' :: padded 2 (i.second / 3600) ++ ':' :: padded 2 (i.second / 60 % 60) ++
    ':' :: padded 2 second ++ fractionChars nano ++ ['Z'])

end ExerciseClient.Calendar
