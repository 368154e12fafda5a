import ExerciseClient.Decimal.Shortest
import ExerciseClient.Json.Decode

/-!
TOML documents. A table remembers how it came about, because that decides who may add to it later:
headers and dotted keys may open a table only once, and an inline table is closed.
-/

namespace ExerciseClient.Toml

/-- How a table came about. -/
inductive Origin where
  /-- On the way of a header to a table further inside. -/
  | implied
  | header
  | dotted
  | inline
deriving DecidableEq, Repr

/-- A value. Of reals and date-times only the words for them are kept. -/
inductive Value where
  | str (s : String)
  | int (i : Int)
  | real (words : String)
  | bool (b : Bool)
  | dateTime
  | arr (elements : List Value)
  | table (origin : Origin) (entries : List (String × Value))
  /-- Tables that headers add one by one: the newest one is open, the earlier ones are closed. -/
  | tables (newest : List (String × Value)) (earlier : List Value)
deriving Repr

/-- The entries of a table. -/
abbrev Entries := List (String × Value)

namespace Entries

/-- Puts a value under a key that has one or has none. -/
def set (es : Entries) (key : String) (v : Value) : Entries :=
  if es.any (·.1 == key) then es.map fun e => if e.1 == key then (key, v) else e
  else es ++ [(key, v)]

/-- Adds a value under a path of keys; each table on the way must be open to dotted keys. -/
def addDotted : Entries → List String → Value → Option Entries
  | _, [], _ => none
  | es, [key], v => if es.any (·.1 == key) then none else some (es ++ [(key, v)])
  | es, key :: keys, v =>
    match es.lookup key with
    | none => do
      let inner ← addDotted [] keys v
      return es ++ [(key, .table .dotted inner)]
    | some (.table origin inner) =>
      if origin = .implied ∨ origin = .dotted then do
        return set es key (.table origin (← addDotted inner keys v))
      else none
    | some _ => none

/-- Opens the table of a header. -/
def openTable : Entries → List String → Option Entries
  | _, [] => none
  | es, [key] =>
    match es.lookup key with
    | none => some (es ++ [(key, .table .header [])])
    | some (.table .implied inner) => some (set es key (.table .header inner))
    | some _ => none
  | es, key :: keys =>
    match es.lookup key with
    | none => do return es ++ [(key, .table .implied (← openTable [] keys))]
    | some (.table .inline _) => none
    | some (.table origin inner) => do
      return set es key (.table origin (← openTable inner keys))
    | some (.tables newest earlier) => do
      return set es key (.tables (← openTable newest keys) earlier)
    | some _ => none

/-- Opens one more table of an array of tables. -/
def openNext : Entries → List String → Option Entries
  | _, [] => none
  | es, [key] =>
    match es.lookup key with
    | none => some (es ++ [(key, .tables [] [])])
    | some (.tables newest earlier) =>
      some (set es key (.tables [] (.table .header newest :: earlier)))
    | some _ => none
  | es, key :: keys =>
    match es.lookup key with
    | none => do return es ++ [(key, .table .implied (← openNext [] keys))]
    | some (.table .inline _) => none
    | some (.table origin inner) => do
      return set es key (.table origin (← openNext inner keys))
    | some (.tables newest earlier) => do
      return set es key (.tables (← openNext newest keys) earlier)
    | some _ => none

/-- Adds a value under a path of keys in the table that a header opened. -/
def addUnder : Entries → List String → List String → Value → Option Entries
  | es, [], keys, v => addDotted es keys v
  | es, key :: header, keys, v =>
    match es.lookup key with
    | some (.table origin inner) => do
      return set es key (.table origin (← addUnder inner header keys v))
    | some (.tables newest earlier) => do
      return set es key (.tables (← addUnder newest header keys v) earlier)
    | _ => none

end Entries

mutual

/-- The integers in a value. -/
def Value.integers : Value → List Int
  | .int i => [i]
  | .arr elements => elementIntegers elements
  | .table _ entries => entryIntegers entries
  | .tables newest earlier => entryIntegers newest ++ elementIntegers earlier
  | _ => []

/-- The integers in the elements of an array. -/
def elementIntegers : List Value → List Int
  | [] => []
  | v :: vs => v.integers ++ elementIntegers vs

/-- The integers in the entries of a table. -/
def entryIntegers : List (String × Value) → List Int
  | [] => []
  | (_, v) :: es => v.integers ++ entryIntegers es

end

/-- Every integer in a document lies between two bounds. -/
def Entries.areWithin (low high : Int) (es : Entries) : Bool :=
  (entryIntegers es).all fun i => low ≤ i && i ≤ high

/-- A value as a tree that a schema reads. -/
def Value.tree : Value → Json.Tree
  | .str s => .str (some s)
  | .int i => .num (some (.int i))
  | .real words => .foreign words
  | .bool b => .bool b
  | .dateTime => .foreign "map"
  | .arr _ => .arr .done
  | .table _ _ => .obj .done
  | .tables _ _ => .arr .done

/-- A document as a tree: its keys ascend. -/
def documentTree (es : Entries) : Json.Tree :=
  .obj ((KeyedMap.ofList es).entries.foldr (fun e ms => .cons (some e.1) e.2.tree ms) .done)

end ExerciseClient.Toml
