import ExerciseClient.Text.Blank
import ExerciseClient.Text.Split
import ExerciseClient.Url.Percent

/-!
Paths: segments after slashes, or a text without structure. Segments are put in one by one: a
single dot stands for the path itself and a double dot for its parent.
-/

namespace ExerciseClient.Url

/-- A path. -/
inductive Path where
  | segments (list : List String)
  | opaqueText (text : String)
deriving DecidableEq, Repr

namespace Path

/-- A dot, which may be percent-encoded. -/
def isSingleDot (cs : List Char) : Bool :=
  let l := Text.lowerAscii cs
  l == ".".toList || l == "%2e".toList

/-- Two dots, each of which may be percent-encoded. -/
def isDoubleDot (cs : List Char) : Bool :=
  let l := Text.lowerAscii cs
  l == "..".toList || l == ".%2e".toList || l == "%2e.".toList || l == "%2e%2e".toList

/-- A letter and a colon or a bar. -/
def isDrive (cs : List Char) : Bool :=
  match cs with
  | [a, b] => a.isAlpha && (b == ':' || b == '|')
  | _ => false

/-- Takes the last segment off; a drive stays, and so does the slash behind it. -/
def parent (path : List String) : List String :=
  if path.getLast?.any (isDrive ·.toList) then path else path.dropLast

/-- Puts one segment into a path; `last` tells that no slash follows it. -/
def put (file last : Bool) (path : List String) (cs : List Char) : List String :=
  if isDoubleDot cs then
    if last then parent path ++ [""] else parent path
  else if isSingleDot cs then
    if last then path ++ [""] else path
  else if file && path.isEmpty && isDrive cs then path ++ [String.ofList (cs.take 1 ++ [':'])]
  else path ++ [String.ofList cs]

/-- Puts the parts of a path text into a path. -/
def putAll (file : Bool) (path : List String) : List (List Char) → List String
  | [] => path
  | [cs] => put file true path cs
  | cs :: rest => putAll file (put file false path cs) rest

/-- File paths start with at most one empty segment. -/
def trimFront (file : Bool) (path : List String) : List String :=
  if file then
    match path.dropWhile (·.isEmpty) with
    | [] => [""]
    | rest => rest
  else path

/-- Reads a path text with its first slash taken off. -/
def ofChars (special file : Bool) (cs : List Char) : Path :=
  let parts := Text.splitWhere (fun c => c == '/' || (special && c == '\\')) cs
  .segments (trimFront file (putAll file [] (parts.map (percentEncode .path))))

/-- The text of a path. -/
def text : Path → String
  | segments list => String.join (list.map ("/" ++ ·))
  | opaqueText t => t

/-- Drops an empty segment at the end. -/
def dropEmptyLast (path : List String) : List String :=
  if path.getLast? = some "" then path.dropLast else path

/-- Characters that URLs do not hold and that are passed over. -/
def isSkipped (c : Char) : Bool := c == '\t' || c == '\n' || c == '\r'

/-- Puts one segment at the end; dots are left out, and a lone empty segment is replaced. -/
def extend (special file : Bool) (path : List String) (segment : String) : List String :=
  if segment = "." ∨ segment = ".." then path
  else
    let path := if path = [""] then [] else path
    put file true path (percentEncode (.segment special) (segment.toList.filter (!isSkipped ·)))

end Path

end ExerciseClient.Url
