/-!
Addresses as they stand in requests. Their grammar is stricter than that of URLs: an address without
`://` is an authority alone, and an authority has neither escapes outside its user info nor the
characters that URLs let stand in a host.
-/

namespace ExerciseClient.Http

/-- Why a text is no address. -/
inductive TargetError where
  | tooLong
  | empty
  | schemeTooLong
  | badCharacter
  | badAuthority
  | badFormat
deriving DecidableEq, Repr

/-- The message of an error. -/
def TargetError.message : TargetError → String
  | tooLong => "uri too long"
  | empty => "empty string"
  | schemeTooLong => "scheme too long"
  | badCharacter => "invalid uri character"
  | badAuthority => "invalid authority"
  | badFormat => "invalid format"

/-- An address: its scheme, if it has one, and its authority. -/
structure Target where
  scheme : Option String
  authority : List Char
deriving DecidableEq, Repr

namespace Target

/-- Characters of schemes. -/
def inScheme (c : Char) : Bool := c.isAlphanum || c == '+' || c == '-' || c == '.'

/-- Characters of authorities. -/
def inAuthority (c : Char) : Bool :=
  c.isAlphanum || "!$&()*+,-.:;=@[]_~%".toList.contains c || c.toNat == 0x27

/-- Characters that end an authority. -/
def endsAuthority (c : Char) : Bool := c == '/' || c == '?' || c == '#'

/-- What is known of an authority that is being read. -/
structure Scan where
  colons : Nat
  opened : Bool
  closed : Bool
  escaped : Bool
  /-- The last character was the end of a user info. -/
  afterUser : Bool

/-- Reads one character. -/
def scanChar (s : Scan) (c : Char) : Except TargetError Scan :=
  let s' := { s with afterUser := false }
  if !inAuthority c then .error .badCharacter
  else if c = ':' then
    if 8 ≤ s.colons then .error .badAuthority else .ok { s' with colons := s.colons + 1 }
  else if c = '[' then
    if s.escaped || s.opened then .error .badAuthority else .ok { s' with opened := true }
  else if c = ']' then
    if !s.opened || s.closed then .error .badAuthority
    else .ok { s' with closed := true, colons := 0, escaped := false }
  else if c = '@' then .ok { s' with colons := 0, escaped := false, afterUser := true }
  else if c = '%' then .ok { s' with escaped := true }
  else .ok s'

/-- Reads an authority. -/
def checkAuthority (cs : List Char) : Except TargetError Unit := do
  let s ← cs.foldlM scanChar ⟨0, false, false, false, false⟩
  if s.opened != s.closed || 1 < s.colons || s.afterUser || s.escaped then .error .badAuthority
  else .ok ()

/-- Splits off a scheme. -/
def splitScheme (cs : List Char) : Option (List Char) × List Char :=
  match cs.dropWhile inScheme with
  | ':' :: '/' :: '/' :: rest => (some (cs.takeWhile inScheme), rest)
  | _ => (none, cs)

/-- Reads an address. -/
def read (text : String) : Except TargetError Target := do
  let cs := text.toList
  if 65534 < cs.length then .error .tooLong
  else if cs.isEmpty then .error .empty
  else
    let (scheme, rest) := splitScheme cs
    if scheme.any (64 < ·.length) then .error .schemeTooLong
    else
      let authority := rest.takeWhile (!endsAuthority ·)
      checkAuthority authority
      match scheme with
      | none =>
        if authority.length = rest.length then .ok ⟨none, authority⟩ else .error .badFormat
      | some scheme =>
        if authority.isEmpty then .error .badFormat
        else .ok ⟨some (String.ofList scheme), authority⟩

/-- The part of an authority after its user info. -/
def afterUser (cs : List Char) : List Char :=
  (cs.reverse.takeWhile (· != '@')).reverse

/-- The host with its port. -/
def hostPort (t : Target) : List Char := afterUser t.authority

/-- The port that is written, if it is a number of 16 bits. -/
def port? (t : Target) : Option Nat :=
  let digits := (t.hostPort.reverse.takeWhile fun c => c != ':' && c != ']').reverse
  if digits.length = t.hostPort.length || digits.isEmpty || !digits.all Char.isDigit then none
  else
    let n := digits.foldl (fun n c => n * 10 + (c.toNat - 48)) 0
    if n < 65536 then some n else none

end Target

end ExerciseClient.Http
