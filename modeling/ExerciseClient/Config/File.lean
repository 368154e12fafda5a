import ExerciseClient.Config.Basic
import ExerciseClient.Text.Utf8
import ExerciseClient.Toml.Reader

/-!
Settings from a file. Reading a file that is not there, is a directory or is not UTF-8 fails with
the message of the system.
-/

namespace ExerciseClient

/-- Why a file could not be read. -/
inductive ReadError where
  | notFound
  | notPermitted
  | notDirectory
  | isDirectory
  | nameTooLong
  | nulInName
  | notUtf8
deriving DecidableEq, Repr

/-- The message of the system. -/
def ReadError.message : ReadError → String
  | notFound => "No such file or directory (os error 2)"
  | notPermitted => "Permission denied (os error 13)"
  | notDirectory => "Not a directory (os error 20)"
  | isDirectory => "Is a directory (os error 21)"
  | nameTooLong => "File name too long (os error 36)"
  | nulInName => "file name contained an unexpected NUL byte"
  | notUtf8 => "stream did not contain valid UTF-8"

/-- The files that can be read, by path. -/
abbrev Files := String → Except ReadError (List UInt8)

namespace Files

/-- Finds the file that the parts of a path lead to in a directory. -/
def find (entries : List (String × List UInt8)) : List (List Char) → Except ReadError (List UInt8)
  | [] => .error .isDirectory
  | part :: rest =>
    if part.isEmpty || part == ['.'] then find entries rest
    else if part == ['.', '.'] then
      if rest.all fun p => p.isEmpty || p == ['.'] || p == ['.', '.'] then .error .isDirectory
      else .error .notFound
    else if 255 < (Text.Utf8.encode part).length then .error .nameTooLong
    else
      match entries.lookup (String.ofList part) with
      | none => .error .notFound
      | some bytes => if rest.isEmpty then .ok bytes else .error .notDirectory

/-- The files of a working directory that has no directories in it, in a system without others. -/
def ofEntries (entries : List (String × List UInt8)) : Files := fun path =>
  let cs := path.toList
  if cs.any (·.toNat == 0) then .error .nulInName
  else
    match cs with
    | [] => .error .notFound
    | '/' :: rest => if rest.all (· == '/') then .error .isDirectory else .error .notFound
    | cs => find entries (Text.splitAt '/' cs)

/-- Reads a file as text. -/
def readText (files : Files) (path : String) : Except ReadError String :=
  match files path with
  | .error e => .error e
  | .ok bytes =>
    match Text.Utf8.decode? bytes with
    | some cs => .ok (String.ofList cs)
    | none => .error .notUtf8

end Files

/-- Why a file gives no settings. -/
inductive ConfigFileError where
  | unreadable (path : String) (cause : ReadError)
  | notToml (path : String)
  | wrongField (path : String) (fault : Json.Fault)
deriving DecidableEq, Repr

/-- The message of an error. -/
def ConfigFileError.message : ConfigFileError → String
  | unreadable path cause => s!"读取文件失败 ({path}): {cause.message}"
  | notToml path => s!"TOML解析失败 ({path}): <toml syntax error>"
  | wrongField path fault => s!"TOML解析失败 ({path}): {fault.message}"

namespace Config

/-- The settings of a document. Integers have 128 bits; where a setting is wrong, they must have 64
bits for the document to count as TOML. -/
def fromToml (path text : String) : Except ConfigFileError Config :=
  match Toml.read? text with
  | none => .error (.notToml path)
  | some es =>
    if es.areWithin (-2 ^ 127) (2 ^ 128 - 1) then
      match decode ⟨.value, Json.maxDepth⟩ (Toml.documentTree es) with
      | .ok c => .ok c
      | .error e =>
        if es.areWithin (-2 ^ 63) (2 ^ 63 - 1) then .error (.wrongField path e)
        else .error (.notToml path)
    else .error (.notToml path)

/-- The settings of a file. -/
def fromFile (files : Files) (path : String) : Except ConfigFileError Config :=
  match files.readText path with
  | .error e => .error (.unreadable path e)
  | .ok text => fromToml path text

/-- The settings of a file, if one is given, and of the environment. -/
def load (files : Files) (path : Option String) (env : Lookup) :
    Except ConfigFileError (Config × Log) :=
  match path with
  | none => .ok (standard.withOverrides env)
  | some path =>
    match fromFile files path with
    | .ok c => .ok (c.withOverrides env)
    | .error e => .error e

end Config

end ExerciseClient
