import ExerciseClient.Json.Printer
import ExerciseClient.Json.Tree
import ExerciseClient.Text.Quoted

/-!
Reading a tree with a schema. A decoder visits a tree in text order and stops at the first fault.
Records are given by their fields in declared order; they are written as objects, or as arrays of
their field values.
-/

namespace ExerciseClient.Json

open Decimal (Binary64)

/-- What stands where something else was expected. -/
inductive Found where
  | null
  | bool (b : Bool)
  | int (i : Int)
  | real (x : Binary64)
  | str (s : String)
  | seq
  | map
  | foreign (what : String)
deriving DecidableEq, Repr

/-- What stood there, in words. -/
def Found.text : Found → String
  | null => "null"
  | bool true => "boolean `true`"
  | bool false => "boolean `false`"
  | int i => s!"integer `{i}`"
  | real x => s!"floating point `{x.interchangeText}`"
  | str s => "string " ++ Text.quoted s
  | seq => "sequence"
  | map => "map"
  | foreign what => what

/-- Why a text or value does not fit a schema. -/
inductive Fault where
  /-- The text stops being JSON, nests too deep, or holds a number past the range. -/
  | malformed
  | wrongType (found : Found) (expected : String)
  | outOfRange (value : Int) (expected : String)
  | wrongLength (length : Nat) (expected : String)
  | missing (field : String)
  | repeated (field : String)
  | unknownVariant (name : String) (expected : String)
  | noVariant (type : String)
  | other (message : String)
deriving DecidableEq, Repr

/-- The message of a fault. -/
def Fault.message : Fault → String
  | malformed => "<json syntax error>"
  | wrongType found expected => s!"invalid type: {found.text}, expected {expected}"
  | outOfRange value expected => s!"invalid value: integer `{value}`, expected {expected}"
  | wrongLength length expected => s!"invalid length {length}, expected {expected}"
  | missing field => s!"missing field `{field}`"
  | repeated field => s!"duplicate field `{field}`"
  | unknownVariant name expected => s!"unknown variant `{name}`, expected {expected}"
  | noVariant type => s!"data did not match any variant of untagged enum {type}"
  | other message => message

/-- What a tree is, unless it is no value at all. -/
def Tree.found : Tree → Option Found
  | .null => some .null
  | .bool b => some (.bool b)
  | .num (some (.int i)) => some (.int i)
  | .num (some (.real x)) => some (.real x)
  | .str (some s) => some (.str s)
  | .arr _ => some .seq
  | .obj _ => some .map
  | .foreign what => some (.foreign what)
  | .num none | .str none | .broken => none

/-- The fault of a tree that is not what was expected. -/
def Tree.mismatch (t : Tree) (expected : String) : Fault :=
  match t.found with
  | none => .malformed
  | some f => .wrongType f expected

/-- Where a tree comes from: only the report of surplus array elements differs. -/
inductive Origin where
  | text
  | value
deriving DecidableEq, Repr

/-- What a decoder knows about the place of a tree: how many more levels may be entered. -/
structure Place where
  origin : Origin
  room : Nat

/-- The levels that may be entered in a text. -/
def maxDepth : Nat := 127

/-- Reads a tree at a place. -/
abbrev Decoder (α : Type) := Place → Tree → Except Fault α

/-! ### Skipping -/

mutual

/-- The tree can be passed over: it has no broken part. -/
def Tree.isWhole : Tree → Bool
  | .arr items => items.isWhole
  | .obj members => members.isWhole
  | .broken => false
  | _ => true

def Items.isWhole : Items → Bool
  | .done => true
  | .broken => false
  | .cons item rest => item.isWhole && rest.isWhole

def Members.isWhole : Members → Bool
  | .done => true
  | .broken => false
  | .cons _ value rest => value.isWhole && rest.isWhole

end

/-- The count of elements up to the end or the fault. -/
def Items.length : Items → Nat
  | .cons _ rest => rest.length + 1
  | _ => 0

/-! ### Values without a schema -/

mutual

/-- Reads any value; members ascend, and of repeated keys the last wins. -/
def Tree.toValue : Nat → Tree → Except Fault Value
  | _, .null => .ok .null
  | _, .bool b => .ok (.bool b)
  | _, .num (some n) => .ok (.num n)
  | _, .str (some s) => .ok (.str s)
  | room + 1, .arr items => do return .arr (← items.toValues room)
  | room + 1, .obj members => do return .obj (← members.toEntries room [])
  | _, _ => .error .malformed

def Items.toValues : Nat → Items → Except Fault (List Value)
  | _, .done => .ok []
  | _, .broken => .error .malformed
  | room, .cons item rest => do
    let v ← item.toValue room
    return v :: (← rest.toValues room)

def Members.toEntries : Nat → Members → List (String × Value) →
    Except Fault (List (String × Value))
  | _, .done, acc => .ok acc
  | _, .broken, _ | _, .cons none _ _, _ => .error .malformed
  | room, .cons (some key) value rest, acc => do
    let v ← value.toValue room
    rest.toEntries room (KeyedMap.insertEntry key v acc)

end

namespace Decoder

/-- Any value. -/
def value : Decoder Value := fun p t => t.toValue p.room

/-- A text. -/
def text : Decoder String
  | _, .str (some s) => .ok s
  | _, t => .error (t.mismatch "a string")

/-- A truth value. -/
def bool : Decoder Bool
  | _, .bool b => .ok b
  | _, t => .error (t.mismatch "a boolean")

/-- An integer between two bounds. -/
def integer (name : String) (low high : Int) : Decoder Int
  | _, .num (some (.int i)) => if low ≤ i ∧ i ≤ high then .ok i else .error (.outOfRange i name)
  | _, t => .error (t.mismatch name)

/-- A signed integer of 64 bits. -/
def int64 : Decoder Int := integer "i64" (-2 ^ 63) (2 ^ 63 - 1)

/-- A signed integer of 32 bits. -/
def int32 : Decoder Int := integer "i32" (-2 ^ 31) (2 ^ 31 - 1)

/-- A signed integer of 16 bits. -/
def int16 : Decoder Int := integer "i16" (-2 ^ 15) (2 ^ 15 - 1)

/-- A natural number of 64 bits. -/
def nat64 : Decoder Nat := fun p t => do
  return (← integer "u64" 0 (2 ^ 64 - 1) p t).toNat

/-- A real number, which may be written as an integer. -/
def real : Decoder Binary64
  | _, .num (some n) => .ok n.toReal
  | _, t => .error (t.mismatch "f64")

/-- `null` for an absent value. -/
def optional {α : Type} (d : Decoder α) : Decoder (Option α)
  | _, .null => .ok none
  | p, t => do return some (← d p t)

/-- `null` for the default. -/
def orDefault {α : Type} (default : α) (d : Decoder α) : Decoder α
  | _, .null => .ok default
  | p, t => d p t

/-- The elements of an array in order. -/
def items {α : Type} (d : Decoder α) (p : Place) : Items → Except Fault (List α)
  | .done => .ok []
  | .broken => .error .malformed
  | .cons item rest => do
    let a ← d p item
    return a :: (← items d p rest)

/-- An array. -/
def list {α : Type} (d : Decoder α) : Decoder (List α)
  | p, .arr is =>
    match p.room with
    | 0 => .error .malformed
    | room + 1 => items d { p with room } is
  | _, t => .error (t.mismatch "a sequence")

/-- The members of an object; of repeated keys the last wins. -/
def members {α : Type} (d : Decoder α) (p : Place) :
    Members → KeyedMap α → Except Fault (KeyedMap α)
  | .done, m => .ok m
  | .broken, _ | .cons none _ _, _ => .error .malformed
  | .cons (some key) value rest, m => do
    let a ← d p value
    members d p rest (m.insert key a)

/-- An object with free keys. -/
def keyed {α : Type} (d : Decoder α) : Decoder (KeyedMap α)
  | p, .obj ms =>
    match p.room with
    | 0 => .error .malformed
    | room + 1 => members d { p with room } ms KeyedMap.empty
  | _, t => .error (t.mismatch "a map")

end Decoder

/-! ### Records -/

/-- A field of a record of type `σ` that is being read. -/
structure Field (σ : Type) where
  name : String
  required : Bool
  isSet : σ → Bool
  read : Place → Tree → σ → Except Fault σ

/-- A field kept as an option until the record is complete. -/
def Field.of {σ α : Type} (name : String) (required : Bool) (get : σ → Option α)
    (set : α → σ → σ) (d : Decoder α) : Field σ where
  name := name
  required := required
  isSet s := (get s).isSome
  read p t s := do return set (← d p t) s

/-- A record: its name in messages, its fields in declared order, and a record without any. -/
structure Schema (σ : Type) where
  name : String
  fields : List (Field σ)
  blank : σ

namespace Schema

variable {σ : Type}

/-- What an array of a wrong length should have been. -/
def expectedItems (s : Schema σ) : String :=
  let n := s.fields.length
  s!"struct {s.name} with {n} elements"

/-- Reads members in text order. A known field may stand once; unknown members are passed over. -/
def readMembers (fields : List (Field σ)) (p : Place) : Members → σ → Except Fault σ
  | .done, r => .ok r
  | .broken, _ | .cons none _ _, _ => .error .malformed
  | .cons (some key) value rest, r =>
    match fields.find? (·.name == key) with
    | none => if value.isWhole then readMembers fields p rest r else .error .malformed
    | some f =>
      if f.isSet r then .error (.repeated key)
      else do
        let r ← f.read p value r
        readMembers fields p rest r

/-- The first required field that was not read is missing. -/
def checkRequired (fields : List (Field σ)) (r : σ) : Except Fault σ :=
  match fields.find? fun f => f.required && !f.isSet r with
  | none => .ok r
  | some f => .error (.missing f.name)

/-- Reads field values in declared order; `n` counts those read so far. -/
def readItems (s : Schema σ) (p : Place) : List (Field σ) → Nat → Items → σ → Except Fault σ
  | [], _, .done, r => .ok r
  | [], _, .broken, _ => .error .malformed
  | [], n, .cons item rest, _ =>
    match p.origin with
    | .text => .error .malformed
    | .value => .error (.wrongLength (n + (Items.cons item rest).length) "fewer elements in array")
  | f :: fs, n, .done, r =>
    if f.required then .error (.wrongLength n s.expectedItems)
    else readItems s p fs (n + 1) .done r
  | _ :: _, _, .broken, _ => .error .malformed
  | f :: fs, n, .cons item rest, r => do
    let r ← f.read p item r
    readItems s p fs (n + 1) rest r

/-- Reads a record. -/
def read (s : Schema σ) : Decoder σ
  | p, .obj ms =>
    match p.room with
    | 0 => .error .malformed
    | room + 1 => do
      let r ← readMembers s.fields { p with room } ms s.blank
      checkRequired s.fields r
  | p, .arr is =>
    match p.room with
    | 0 => .error .malformed
    | room + 1 => readItems s { p with room } s.fields 0 is s.blank
  | _, t => .error (t.mismatch ("struct " ++ s.name))

end Schema

/-! ### Whole texts and values -/

/-- Reads a whole text: nothing but blanks may follow the value. -/
def decodeText {α : Type} (d : Decoder α) (text : String) : Except Fault α := do
  let doc := Document.read text
  let a ← d ⟨.text, maxDepth⟩ doc.root
  if doc.complete then return a else .error .malformed

/-- Reads a value that was read without a schema. -/
def decodeValue {α : Type} (d : Decoder α) (v : Value) : Except Fault α :=
  d ⟨.value, maxDepth⟩ v.tree

/-- Reads a text without a schema. -/
def parse (text : String) : Except Fault Value :=
  decodeText Decoder.value text

end ExerciseClient.Json
