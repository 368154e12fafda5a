import ExerciseClient.Json.Value
import ExerciseClient.Text.Hexadecimal

/-!
A text read as JSON as far as it goes. A `Tree` keeps members in text order with repeated keys, and
ends in `broken` where the text stops being JSON, so that a reader with a schema meets the faults
of a text in the order in which they stand in it.
-/

namespace ExerciseClient.Json

open Decimal (Binary64)

mutual

/-- A value as it stands in a text. -/
inductive Tree where
  | null
  | bool (b : Bool)
  /-- A number; `none` past the range of binary64. -/
  | num (n : Option Number)
  /-- A quoted text; `none` with an unpaired surrogate. -/
  | str (s : Option String)
  | arr (items : Items)
  | obj (members : Members)
  /-- A value of another format that JSON does not have, in words. -/
  | foreign (what : String)
  | broken

/-- The elements of an array up to its end or its fault. -/
inductive Items where
  | done
  | broken
  | cons (item : Tree) (rest : Items)

/-- The members of an object up to its end or its fault. A key is `none` with an unpaired
surrogate. -/
inductive Members where
  | done
  | broken
  | cons (key : Option String) (value : Tree) (rest : Members)

end

/-- A tree, and whether only blanks follow it. -/
structure Document where
  root : Tree
  complete : Bool

/-! ### A value is a tree without faults -/

mutual

/-- The tree of a value. -/
def Value.tree : Value → Tree
  | .null => .null
  | .bool b => .bool b
  | .num n => .num (some n)
  | .str s => .str (some s)
  | .arr items => .arr (Value.treeItems items)
  | .obj members => .obj (Value.treeMembers members)

/-- The trees of the elements of an array. -/
def Value.treeItems : List Value → Items
  | [] => .done
  | v :: vs => .cons v.tree (Value.treeItems vs)

/-- The trees of the members of an object. -/
def Value.treeMembers : List (String × Value) → Members
  | [] => .done
  | (k, v) :: ms => .cons (some k) v.tree (Value.treeMembers ms)

end

/-! ### Numbers -/

/-- A number as written: its sign, its digits, and its signed power of ten. -/
structure Literal where
  negative : Bool
  whole : List Char
  fraction : Option (List Char)
  exponent : Option (Bool × List Char)

/-- The value of a digit. -/
def digitValue (c : Char) : Nat := c.toNat - 48

/-- The number written by digits. -/
def digitsValue (cs : List Char) : Nat :=
  cs.foldl (fun n c => n * 10 + digitValue c) 0

/-- The largest integer that is kept exactly. -/
def maxNatural : Nat := 2 ^ 64 - 1

/-- Appends digits to a number while it stays exact; returns the digits left over. -/
def appendDigits (n : Nat) : List Char → Nat × List Char
  | [] => (n, [])
  | c :: cs =>
    if n * 10 + digitValue c ≤ maxNatural then appendDigits (n * 10 + digitValue c) cs
    else (n, c :: cs)

/-- The rounded power of ten, for powers up to 308. -/
def tenTo (k : Nat) : Binary64 :=
  (Binary64.ofRatio false (10 ^ k) 1).getD (Binary64.largest false)

/-- Divides by `10 ^ 308` so many times, or until nothing is left. -/
def divideSteps : Nat → Binary64 → Binary64
  | 0, x => x
  | steps + 1, x =>
    if x.isZero then x else divideSteps steps ((x.div (tenTo 308)).getD Binary64.zero)

/-- Division by a positive power of ten, in steps of at most 308. -/
def divideByTenTo (x : Binary64) (k : Nat) : Option Binary64 :=
  let steps := (k - 1) / 308
  (divideSteps steps x).div (tenTo (k - 308 * steps))

/-- `n * 10 ^ e` rounded twice: first the integer, then the product or quotient with the power. -/
def scaled (n : Nat) (e : Int) : Option Binary64 :=
  let x := Binary64.ofInt n
  if 0 ≤ e then
    if e ≤ 308 then x.mul (tenTo e.toNat)
    else if x.isZero then some x
    else none
  else divideByTenTo x (-e).toNat

/-- The sign applied to a number that was read without it. -/
def signed (negative : Bool) (x : Binary64) : Binary64 :=
  if negative then x.neg else x

/-- The powers of ten that a literal may carry before it counts as out of range. -/
def maxExponent : Nat := 2 ^ 31 - 1

/-- The value of a literal; `none` past the range of binary64. Digits that do not fit an exact
integer any more only count towards the power of ten. -/
def Literal.value (l : Literal) : Option Number :=
  let (n, spilled) := appendDigits 0 l.whole
  match l.fraction, l.exponent with
  | none, none =>
    if spilled.isEmpty then
      if !l.negative then some (.int n)
      else if n = 0 ∨ 2 ^ 63 < n then some (.real (signed true (Binary64.ofInt n)))
      else some (.int (-n))
    else (scaled n spilled.length).map fun x => .real (signed l.negative x)
  | fraction, exponent =>
    let (m, rest) := appendDigits n (fraction.getD [])
    let shift : Int := spilled.length - ((fraction.getD []).length - rest.length : Nat)
    match exponent with
    | none => (scaled m shift).map fun x => .real (signed l.negative x)
    | some (down, ds) =>
      let e := digitsValue ds
      if e ≤ maxExponent then
        (scaled m (if down then shift - e else shift + e)).map fun x =>
          .real (signed l.negative x)
      else if m ≠ 0 ∧ !down then none
      else some (.real (signed l.negative Binary64.zero))

/-- Splits the digits off the front. -/
def spanDigits (cs : List Char) : List Char × List Char :=
  (cs.takeWhile Char.isDigit, cs.dropWhile Char.isDigit)

/-- The whole digits of a number: `0`, or digits that do not start with it. -/
def readWhole (cs : List Char) : Option (List Char × List Char) :=
  match spanDigits cs with
  | ([], _) => none
  | ('0' :: _ :: _, _) => none
  | (ds, rest) => some (ds, rest)

/-- The digits after a point, if there is a point. -/
def readFraction : List Char → Option (Option (List Char) × List Char)
  | '.' :: cs =>
    match spanDigits cs with
    | ([], _) => none
    | (ds, rest) => some (some ds, rest)
  | cs => some (none, cs)

/-- The sign and digits of a power of ten, if there is one. -/
def readExponent : List Char → Option (Option (Bool × List Char) × List Char)
  | c :: cs =>
    if c = 'e' ∨ c = 'E' then
      let (down, cs) :=
        match cs with
        | '-' :: r => (true, r)
        | '+' :: r => (false, r)
        | _ => (false, cs)
      match spanDigits cs with
      | ([], _) => none
      | (ds, rest) => some (some (down, ds), rest)
    else some (none, c :: cs)
  | [] => some (none, [])

/-- Reads a number. -/
def readLiteral (cs : List Char) : Option (Literal × List Char) := do
  let (negative, cs) :=
    match cs with
    | '-' :: r => (true, r)
    | _ => (false, cs)
  let (whole, cs) ← readWhole cs
  let (fraction, cs) ← readFraction cs
  let (exponent, cs) ← readExponent cs
  return (⟨negative, whole, fraction, exponent⟩, cs)

/-! ### Texts -/

/-- The number of four digits of an escape. -/
def hexFour? (a b c d : Char) : Option Nat :=
  Text.hexNumber? [a, b, c, d]

/-- Puts a character in front of a text that may be unreadable. -/
def pushChar (c : Char) (r : Option (List Char) × List Char) : Option (List Char) × List Char :=
  (r.1.map (c :: ·), r.2)

/-- The character of a one-letter escape. -/
def shortEscape : Char → Option Char
  | '"' => some '"'
  | '\\' => some '\\'
  | '/' => some '/'
  | 'b' => some '\x08'
  | 'f' => some '\x0c'
  | 'n' => some '\n'
  | 'r' => some '\r'
  | 't' => some '\t'
  | _ => none

/-- A text in which a surrogate waits for its partner in vain is unreadable. -/
def settle (pending : Option Nat) (r : Option (List Char) × List Char) :
    Option (List Char) × List Char :=
  if pending.isSome then (none, r.2) else r

/-- The character of a pair of surrogates. -/
def pairChar (high low : Nat) : Char :=
  Char.ofNat (0x10000 + (high - 0xD800) * 0x400 + (low - 0xDC00))

/-- Reads up to the closing quote; `none` when the text breaks off, with a control character or an
unknown escape. `pending` is a high surrogate that was read just before. The characters read are
`none` when a surrogate has no partner. -/
def readQuoted (pending : Option Nat) : List Char → Option (Option (List Char) × List Char)
  | [] => none
  | '"' :: rest => some (settle pending (some [], rest))
  | '\\' :: 'u' :: a :: b :: c :: d :: rest =>
    match hexFour? a b c d with
    | none => none
    | some n =>
      if 0xD800 ≤ n ∧ n < 0xDC00 then (readQuoted (some n) rest).map (settle pending)
      else if 0xDC00 ≤ n ∧ n < 0xE000 then
        match pending with
        | some high => (readQuoted none rest).map (pushChar (pairChar high n))
        | none => (readQuoted none rest).map fun r => (none, r.2)
      else (readQuoted none rest).map fun r => settle pending (pushChar (Char.ofNat n) r)
  | '\\' :: c :: rest =>
    match shortEscape c with
    | none => none
    | some x => (readQuoted none rest).map fun r => settle pending (pushChar x r)
  | c :: rest =>
    if c = '\\' ∨ c.toNat < 0x20 then none
    else (readQuoted none rest).map fun r => settle pending (pushChar c r)

/-! ### Values -/

/-- The four characters that may stand between tokens. -/
def isGap (c : Char) : Bool :=
  c == ' ' || c == '\n' || c == '\t' || c == '\r'

/-- Drops the characters between tokens. -/
def skipGap (cs : List Char) : List Char :=
  cs.dropWhile isGap

/-- Drops a given word from the front. -/
def dropWord? : List Char → List Char → Option (List Char)
  | [], cs => some cs
  | _, [] => none
  | w :: ws, c :: cs => if w = c then dropWord? ws cs else none

/-- Reads the rest of a word that stands for a value. -/
def readWord (t : Tree) (word rest : List Char) : Tree × List Char :=
  match dropWord? word rest with
  | none => (.broken, [])
  | some rest => (t, rest)

mutual

/-- Reads a value; the text after it is empty when it is broken. -/
def readTree : Nat → List Char → Tree × List Char
  | 0, _ => (.broken, [])
  | fuel + 1, cs =>
    match skipGap cs with
    | [] => (.broken, [])
    | c :: rest =>
      if c = 'n' then readWord .null ['u', 'l', 'l'] rest
      else if c = 't' then readWord (.bool true) ['r', 'u', 'e'] rest
      else if c = 'f' then readWord (.bool false) ['a', 'l', 's', 'e'] rest
      else if c = '"' then
        match readQuoted none rest with
        | none => (.broken, [])
        | some (s, rest) => (.str (s.map String.ofList), rest)
      else if c = '[' then
        let (items, rest) := readItems fuel true rest
        (.arr items, rest)
      else if c = '\x7b' then
        let (members, rest) := readMembers fuel true rest
        (.obj members, rest)
      else
        match readLiteral (c :: rest) with
        | none => (.broken, [])
        | some (l, rest) => (.num l.value, rest)

/-- Reads the elements of an array; before all but the first stands a comma. -/
def readItems : Nat → Bool → List Char → Items × List Char
  | 0, _, _ => (.broken, [])
  | fuel + 1, first, cs =>
    match skipGap cs with
    | [] => (.broken, [])
    | c :: rest =>
      if c = ']' then (.done, rest)
      else if first then
        let (item, rest) := readTree fuel (c :: rest)
        let (items, rest) := readItems fuel false rest
        (.cons item items, rest)
      else if c = ',' then
        match skipGap rest with
        | [] => (.broken, [])
        | ']' :: _ => (.broken, [])
        | rest =>
          let (item, rest) := readTree fuel rest
          let (items, rest) := readItems fuel false rest
          (.cons item items, rest)
      else (.broken, [])

/-- Reads the members of an object; before all but the first stands a comma. -/
def readMembers : Nat → Bool → List Char → Members × List Char
  | 0, _, _ => (.broken, [])
  | fuel + 1, first, cs =>
    match skipGap cs with
    | [] => (.broken, [])
    | c :: rest =>
      if c = '\x7d' then (.done, rest)
      else
        let start :=
          if first then c :: rest
          else if c = ',' then skipGap rest
          else []
        match start with
        | '"' :: rest =>
          match readQuoted none rest with
          | some (key, rest) =>
            match skipGap rest with
            | ':' :: rest =>
              let (value, rest) := readTree fuel rest
              let (members, rest) := readMembers fuel false rest
              (.cons (key.map String.ofList) value members, rest)
            | _ => (.cons (key.map String.ofList) .broken .broken, [])
          | none => (.broken, [])
        | _ => (.broken, [])

end

/-- Reads a whole text. -/
def Document.read (text : String) : Document :=
  let cs := text.toList
  let (root, rest) := readTree (2 * cs.length + 2) cs
  ⟨root, (skipGap rest).isEmpty⟩

end ExerciseClient.Json
