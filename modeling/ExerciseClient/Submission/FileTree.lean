import ExerciseClient.Exercise.Language
import ExerciseClient.Json.Decode

/-!
Code as it is submitted: a file, or a directory with its entries. An entry is written with its
name, and with its content and its children only if it has any.
-/

namespace ExerciseClient

open Json

/-- A file or a directory. -/
structure FileTree where
  name : String
  content : Option String
  children : List FileTree
deriving Repr, Inhabited

namespace FileTree

mutual

/-- Equality of entries can be decided. -/
def decEq : (a b : FileTree) → Decidable (a = b)
  | ⟨n, c, cs⟩, ⟨m, d, ds⟩ =>
    if hn : n = m then
      if hc : c = d then
        match decEqList cs ds with
        | isTrue h => isTrue (by rw [hn, hc, h])
        | isFalse h => isFalse fun e => h (by injection e)
      else isFalse fun e => hc (by injection e)
    else isFalse fun e => hn (by injection e)

/-- Equality of lists of entries can be decided. -/
def decEqList : (as bs : List FileTree) → Decidable (as = bs)
  | [], [] => isTrue rfl
  | [], _ :: _ => isFalse (by simp)
  | _ :: _, [] => isFalse (by simp)
  | a :: as, b :: bs =>
    match decEq a b with
    | isTrue h =>
      match decEqList as bs with
      | isTrue hs => isTrue (by rw [h, hs])
      | isFalse hs => isFalse fun e => hs (by injection e)
    | isFalse h => isFalse fun e => h (by injection e)

end

instance : DecidableEq FileTree := decEq

/-- A file with its content. -/
def file (name content : String) : FileTree := ⟨name, some content, []⟩

/-- A directory with its entries. -/
def directory (name : String) (children : List FileTree) : FileTree := ⟨name, none, children⟩

/-- Source code as the entry file of its language. -/
def source (code language : String) : FileTree := file (Language.entryFile language) code

/-- No children, and no content or only blanks. -/
def isBlank (t : FileTree) : Bool :=
  t.children.isEmpty && t.content.all Text.allBlank

mutual

/-- The JSON value of an entry. -/
def toJson : FileTree → Value
  | ⟨name, content, children⟩ =>
    .obj (("name", .str name) ::
      (match content with
        | none => []
        | some c => [("content", .str c)]) ++
      (match children with
        | [] => []
        | c :: cs => [("children", .arr (toJsons (c :: cs)))]))

/-- The JSON values of entries. -/
def toJsons : List FileTree → List Value
  | [] => []
  | t :: ts => t.toJson :: toJsons ts

end

/-- An entry that is being read. -/
structure Draft where
  name : Option String
  content : Option (Option String)
  children : Option (List FileTree)

/-- The record of an entry, given how its children are read. -/
def schema (child : Decoder FileTree) : Schema Draft where
  name := "FileEntry"
  fields := [
    .of "name" true (·.name) (fun a r => { r with name := some a }) .text,
    .of "content" false (·.content) (fun a r => { r with content := some a }) (.optional .text),
    .of "children" false (·.children) (fun a r => { r with children := some a }) (.list child)]
  blank := ⟨none, none, none⟩

/-- The entry of a complete draft. -/
def Draft.finish (r : Draft) : FileTree :=
  ⟨r.name.getD "", r.content.getD none, r.children.getD []⟩

/-- Reads an entry that has at most `depth` levels below it. -/
def decodeWithin : Nat → Decoder FileTree
  | 0 => fun p t => do
    return (← (schema fun _ _ => .error .malformed).read p t).finish
  | depth + 1 => fun p t => do
    return (← (schema (decodeWithin depth)).read p t).finish

/-- Reads an entry. -/
def decode : Decoder FileTree := fun p t => decodeWithin p.room p t

end FileTree

end ExerciseClient
