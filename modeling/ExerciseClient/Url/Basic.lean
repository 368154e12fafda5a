import ExerciseClient.Url.Host
import ExerciseClient.Url.Path

/-!
URLs by the WHATWG standard: scheme, user info, host, port, path, query and fragment.
-/

namespace ExerciseClient

/-- A URL. `host` is `none` without an authority. -/
structure Url where
  scheme : String
  username : String
  password : Option String
  host : Option Url.Host
  port : Option Nat
  path : Url.Path
  query : Option String
  fragment : Option String
deriving DecidableEq, Repr

namespace Url

/-- The default port of a scheme. -/
def defaultPort? (scheme : String) : Option Nat :=
  if scheme = "http" ∨ scheme = "ws" then some 80
  else if scheme = "https" ∨ scheme = "wss" then some 443
  else if scheme = "ftp" then some 21
  else none

/-- Schemes whose URLs have a host and a path with segments. -/
def isSpecial (scheme : String) : Bool :=
  (defaultPort? scheme).isSome || scheme == "file"

/-- The user info in front of a host. -/
def userInfo (u : Url) : String :=
  match u.username, u.password with
  | "", none => ""
  | name, none => name ++ "@"
  | name, some p => name ++ ":" ++ p ++ "@"

/-- The authority with its slashes. -/
def authority (u : Url) : String :=
  match u.host with
  | none =>
    match u.path with
    | .segments ("" :: _ :: _) => "/."
    | _ => ""
  | some h => "//" ++ u.userInfo ++ h.text ++
      match u.port with
      | none => ""
      | some p => s!":{p}"

/-- The text of a URL. -/
def text (u : Url) : String :=
  u.scheme ++ ":" ++ u.authority ++ u.path.text ++
    (match u.query with
      | none => ""
      | some q => "?" ++ q) ++
    match u.fragment with
    | none => ""
    | some f => "#" ++ f

/-- The port that is connected to. -/
def effectivePort (u : Url) : Option Nat :=
  u.port.or (defaultPort? u.scheme)

/-- The URL without query and fragment. -/
def bare (u : Url) : Url := { u with query := none, fragment := none }

/-- The URL with another special scheme; a port that is the default of the new one is dropped. -/
def withScheme (u : Url) (scheme : String) : Url :=
  { u with scheme, port := if u.port = defaultPort? scheme then none else u.port }

/-- The URL of a special scheme with the path of a text. -/
def withPath (u : Url) (text : String) : Url :=
  let cs := text.toList.filter (!Path.isSkipped ·)
  let cs :=
    match cs with
    | '/' :: rest | '\\' :: rest => rest
    | _ => cs
  { u with path := .ofChars true (u.scheme == "file") cs }

/-- The URL with segments put at the end of its path, after an empty last segment is dropped;
`none` if its path has no segments. -/
def extendPath? (u : Url) (segments : List String) : Option Url :=
  match u.path with
  | .opaqueText _ => none
  | .segments list =>
    let special := isSpecial u.scheme
    let start := if list = [""] then list else
      match Path.dropEmptyLast list with
      | [] => [""]
      | rest => rest
    some { u with
      path := .segments (segments.foldl (Path.extend special (u.scheme == "file")) start) }

/-- The URL without user info. -/
def withoutUserInfo (u : Url) : Url := { u with username := "", password := none }

end Url

end ExerciseClient
