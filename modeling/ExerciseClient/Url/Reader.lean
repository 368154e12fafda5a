import ExerciseClient.Url.Basic

/-!
Reading URLs without a base. Control characters and spaces around a text are dropped, tabs and line
breaks anywhere in it.
-/

namespace ExerciseClient.Url

/-- The text that is read: without what URLs do not hold. -/
def cleaned (text : String) : List Char :=
  let outer (c : Char) : Bool := c.toNat ≤ 0x20
  let cs := text.toList.dropWhile outer
  (cs.reverse.dropWhile outer).reverse.filter (!Path.isSkipped ·)

/-- The scheme of a text, lowered, and the text after its colon. -/
def readScheme (cs : List Char) : Option (List Char × List Char) :=
  let inScheme (c : Char) : Bool := c.isAlphanum || c == '+' || c == '-' || c == '.'
  match cs with
  | [] => none
  | c :: _ =>
    if c.isAlpha then
      match cs.dropWhile inScheme with
      | ':' :: rest => some (Text.lowerAscii (cs.takeWhile inScheme), rest)
      | _ => none
    else none

/-- Where an authority ends. -/
def endsAuthority (special : Bool) (c : Char) : Bool :=
  c == '/' || c == '?' || c == '#' || (special && c == '\\')

/-- Splits at the last `@`. -/
def splitUserInfo (cs : List Char) : Option (List Char × List Char) :=
  if cs.contains '@' then
    let host := (cs.reverse.takeWhile (· != '@')).reverse
    some (cs.take (cs.length - host.length - 1), host)
  else none

/-- User name and password of a user info; an empty password counts as none. -/
def readUserInfo (cs : List Char) : String × Option String :=
  let encode (cs : List Char) := String.ofList (percentEncode .userInfo cs)
  match cs.dropWhile (· != ':') with
  | [] => (encode cs, none)
  | _ :: password =>
    (encode (cs.takeWhile (· != ':')), if password.isEmpty then none else some (encode password))

/-- Splits a host from the port after it; colons in brackets belong to the host. -/
def splitHost (inside : Bool) : List Char → List Char × List Char
  | [] => ([], [])
  | c :: cs =>
    if c == ':' && !inside then ([], c :: cs)
    else
      let inside := if c == '[' then true else if c == ']' then false else inside
      let (host, rest) := splitHost inside cs
      (c :: host, rest)

/-- Reads a port: digits up to a slash of either kind. -/
def readPort (scheme : String) (cs : List Char) : Except UrlError (Option Nat × List Char) :=
  let digits := cs.takeWhile Char.isDigit
  let rest := cs.dropWhile Char.isDigit
  let port := digits.foldl (fun n c => n * 10 + (c.toNat - 48)) 0
  if 65535 < port then .error .invalidPort
  else
    match rest with
    | [] => .ok (keep digits port, [])
    | c :: _ =>
      if c == '/' || c == '\\' || c == '?' || c == '#' then .ok (keep digits port, rest)
      else .error .invalidPort
where
  keep (digits : List Char) (port : Nat) : Option Nat :=
    if digits.isEmpty || some port == defaultPort? scheme then none else some port

/-- Reads a fragment behind its mark. -/
def readFragment : List Char → Option String
  | '#' :: cs => some (String.ofList (percentEncode .fragment cs))
  | _ => none

/-- Adds query and fragment to a URL. -/
def readTail (u : Url) (cs : List Char) : Url :=
  match cs with
  | '?' :: rest =>
    let query := rest.takeWhile (· != '#')
    { u with
      query := some (String.ofList (percentEncode (.query (isSpecial u.scheme)) query))
      fragment := readFragment (rest.drop query.length) }
  | cs => { u with fragment := readFragment cs }

/-- Splits a path from the query or fragment after it. -/
def splitPath (cs : List Char) : List Char × List Char :=
  let inPath (c : Char) : Bool := c != '?' && c != '#'
  (cs.takeWhile inPath, cs.dropWhile inPath)

/-- Reads a path behind an authority, and what follows it. -/
def readPath (u : Url) (cs : List Char) : Url :=
  let special := isSpecial u.scheme
  let (path, tail) := splitPath cs
  let segments :=
    match path with
    | [] => if special then Path.ofChars special (u.scheme == "file") [] else .segments []
    | c :: rest =>
      if c == '/' || (special && c == '\\') then Path.ofChars special (u.scheme == "file") rest
      else Path.ofChars special (u.scheme == "file") path
  readTail { u with path := segments } tail

/-- Reads what stands behind the slashes of an authority. -/
def readAuthority (scheme : String) (cs : List Char) : Except UrlError Url := do
  let special := isSpecial scheme
  let authority := cs.takeWhile (!endsAuthority special ·)
  let (user, afterUser) :=
    match splitUserInfo authority with
    | none => (none, cs)
    | some (user, host) => (some user, host ++ cs.drop authority.length)
  if user == some [] && afterUser.head?.any (endsAuthority special) then throw .emptyHost
  let (username, password) :=
    match user with
    | none => ("", none)
    | some user => readUserInfo user
  let inAuthority := afterUser.takeWhile (!endsAuthority special ·)
  let (hostText, _) := splitHost false inAuthority
  if special && hostText.isEmpty then throw .emptyHost
  let host ← if special then Host.read hostText else Host.readOpaque hostText
  let rest := afterUser.drop hostText.length
  if hostText.isEmpty && rest.head? == some ':' then throw .emptyHost
  let (port, rest) ←
    match rest with
    | ':' :: rest => readPort scheme rest
    | rest => .ok (none, rest)
  let hasUser := username ≠ "" || password.isSome
  if hostText.isEmpty && hasUser then throw .emptyHost
  return readPath
    { scheme, username, password, host := some host, port, path := .segments [],
      query := none, fragment := none } rest

/-- Reads what stands behind `file:`. -/
def readFile (cs : List Char) : Except UrlError Url := do
  let blank : Url :=
    { scheme := "file", username := "", password := none, host := some (.domain ""), port := none,
      path := .segments [], query := none, fragment := none }
  let isSlash (c : Char) : Bool := c == '/' || c == '\\'
  match cs with
  | a :: b :: rest =>
    if isSlash a && isSlash b then
      let hostText := rest.takeWhile (!endsAuthority true ·)
      if Path.isDrive hostText then return readPath blank rest
      else if hostText.isEmpty then return readPath blank rest
      else
        let host ← Host.read hostText
        let host := if host = .domain "localhost" then .domain "" else host
        return readPath { blank with host := some host } (rest.drop hostText.length)
    else return readPath blank cs
  | cs => return readPath blank cs

/-- Reads what stands behind the colon of a scheme that is not special. -/
def readOther (scheme : String) (cs : List Char) : Except UrlError Url :=
  let blank (path : Path) : Url :=
    { scheme, username := "", password := none, host := none, port := none, path, query := none,
      fragment := none }
  match cs with
  | '/' :: '/' :: rest => readAuthority scheme rest
  | '/' :: _ => .ok (readPath (blank (.segments [])) cs)
  | cs =>
    let (path, tail) := splitPath cs
    .ok (readTail (blank (.opaqueText (String.ofList (percentEncode .control path)))) tail)

/-- Reads a URL. -/
def read (text : String) : Except UrlError Url :=
  match readScheme (cleaned text) with
  | none => .error .relativeWithoutBase
  | some (scheme, rest) =>
    let scheme := String.ofList scheme
    if scheme = "file" then readFile rest
    else if isSpecial scheme then
      readAuthority scheme (rest.dropWhile fun c => c == '/' || c == '\\')
    else readOther scheme rest

end ExerciseClient.Url
