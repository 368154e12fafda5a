import ExerciseClient.Text.Split
import ExerciseClient.Url.Domain.Ascii
import ExerciseClient.Url.Percent

/-!
Hosts: domain names, IPv4 addresses in their many spellings, and IPv6 addresses.
-/

namespace ExerciseClient.Url

/-- Why a text is no URL. -/
inductive UrlError where
  | relativeWithoutBase
  | emptyHost
  | invalidPort
  | invalidIpv4
  | invalidIpv6
  | invalidDomain
  | invalidDomainCharacter
deriving DecidableEq, Repr

/-- The message of an error. -/
def UrlError.message : UrlError → String
  | relativeWithoutBase => "relative URL without a base"
  | emptyHost => "empty host"
  | invalidPort => "invalid port number"
  | invalidIpv4 => "invalid IPv4 address"
  | invalidIpv6 => "invalid IPv6 address"
  | invalidDomain => "invalid international domain name"
  | invalidDomainCharacter => "invalid domain character"

/-- A host. The domain of a scheme that needs none may be empty. -/
inductive Host where
  | domain (name : String)
  | ipv4 (address : Nat)
  | ipv6 (pieces : List Nat)
deriving DecidableEq, Repr

namespace Host

/-! ### IPv4 -/

/-- A number in decimal, or in octal or hexadecimal by its start. -/
def readPart? (cs : List Char) : Option Nat :=
  let number (base : Nat) (cs : List Char) : Option Nat :=
    cs.foldl (fun acc c => do
      let n ← acc
      let d ← Text.hexValue? c
      if d < base then return n * base + d else none) (some 0)
  match cs with
  | [] => none
  | '0' :: 'x' :: rest | '0' :: 'X' :: rest => number 16 rest
  | '0' :: c :: rest => number 8 (c :: rest)
  | cs => number 10 cs

/-- The part of a name that decides whether it is an IPv4 address: the last one, unless empty. -/
def lastPart? (name : List Char) : Option (List Char) :=
  match (Text.splitAt '.' name).reverse with
  | [] :: last :: _ => some last
  | [[]] => none
  | last :: _ => some last
  | [] => none

/-- A name whose last part is a number must be an IPv4 address. -/
def endsInNumber (name : List Char) : Bool :=
  match lastPart? name with
  | none => false
  | some last => (!last.isEmpty && last.all Char.isDigit) || (readPart? last).isSome

/-- Joins the parts of an address: each is a byte but the last, which fills what is left. -/
def joinParts? (parts : List Nat) : Option Nat :=
  match parts.reverse with
  | [] => none
  | last :: before =>
    if before.any (255 < ·) || 256 ^ (4 - before.length) ≤ last then none
    else some (before.reverse.foldl (fun a n => a * 256 + n) 0 * 256 ^ (4 - before.length) + last)

/-- Reads an IPv4 address. -/
def readIpv4? (name : List Char) : Option Nat := do
  let parts := Text.splitAt '.' name
  let parts := if parts.getLast? = some [] then parts.dropLast else parts
  if 4 < parts.length then none
  joinParts? (← parts.mapM readPart?)

/-- The text of an IPv4 address. -/
def ipv4Text (a : Nat) : String :=
  String.ofList (Text.joinWith '.'
    ([a / 2 ^ 24, a / 2 ^ 16 % 256, a / 2 ^ 8 % 256, a % 256].map fun n => (toString n).toList))

/-! ### IPv6 -/

/-- A decimal number below 256 without leading zeros. -/
def readByte? (cs : List Char) : Option Nat :=
  match cs with
  | ['0'] => some 0
  | '0' :: _ => none
  | [] => none
  | cs =>
    if cs.all Char.isDigit && cs.length ≤ 3 then
      let n := cs.foldl (fun n c => n * 10 + (c.toNat - 48)) 0
      if n < 256 then some n else none
    else none

/-- The last four bytes of an address, as its last two pieces. -/
def readTail? (cs : List Char) : Option (List Nat) :=
  match (Text.splitAt '.' cs).mapM readByte? with
  | some [a, b, c, d] => some [a * 256 + b, c * 256 + d]
  | _ => none

/-- A piece of one to four hexadecimal digits. -/
def readPiece? (cs : List Char) : Option Nat :=
  if cs.isEmpty || 4 < cs.length then none else Text.hexNumber? cs

/-- Pieces between colons; the last one may be four bytes. -/
def readPieces? (final : Bool) (cs : List Char) : Option (List Nat) :=
  if cs.isEmpty then some []
  else pieces (Text.splitAt ':' cs)
where
  pieces : List (List Char) → Option (List Nat)
    | [] => some []
    | [last] =>
      if final && last.contains '.' then readTail? last else (readPiece? last).map ([·])
    | p :: ps => do return (← readPiece? p) :: (← pieces ps)

/-- Splits at the first pair of colons. -/
def splitDouble : List Char → Option (List Char × List Char)
  | [] => none
  | ':' :: ':' :: rest => some ([], rest)
  | c :: rest => (splitDouble rest).map fun (a, b) => (c :: a, b)

/-- Reads an IPv6 address. -/
def readIpv6? (cs : List Char) : Option (List Nat) :=
  match splitDouble cs with
  | none =>
    match readPieces? true cs with
    | some ps => if ps.length = 8 then some ps else none
    | none => none
  | some (before, after) => do
    let a ← readPieces? false before
    let b ← readPieces? true after
    if 7 < a.length + b.length then none
    return a ++ List.replicate (8 - a.length - b.length) 0 ++ b

/-- The start and length of the zeros that are left out: the first longest run, of two at least. -/
def zeroRun (pieces : List Nat) : Nat × Nat :=
  let run (i : Nat) : Nat := ((pieces.drop i).takeWhile (· == 0)).length
  (List.range pieces.length).foldl
    (fun best i => if best.2 < run i then (i, run i) else best) (0, 1)

/-- The text of an IPv6 address. -/
def ipv6Text (pieces : List Nat) : String :=
  let join (ps : List Nat) := Text.joinWith ':' (ps.map Text.hexText)
  let (i, n) := zeroRun pieces
  String.ofList ('[' ::
    (if n < 2 then join pieces
      else join (pieces.take i) ++ [':', ':'] ++ join (pieces.drop (i + n))) ++ [']'])

/-! ### Hosts of URLs -/

/-- The text of a host. -/
def text : Host → String
  | domain name => name
  | ipv4 a => ipv4Text a
  | ipv6 ps => ipv6Text ps

/-- Reads an address in brackets. -/
def readBracketed (cs : List Char) : Except UrlError Host :=
  if cs.getLast? = some ']' then
    match readIpv6? (cs.drop 1).dropLast with
    | some ps => .ok (ipv6 ps)
    | none => .error .invalidIpv6
  else .error .invalidIpv6

/-- Reads the host of a special scheme. -/
def read (cs : List Char) : Except UrlError Host :=
  if cs.head? = some '[' then readBracketed cs
  else
    match Domain.toAscii? (Text.Utf8.decodeLossy (percentDecode cs)) with
    | none => .error .invalidDomain
    | some [] => .error .emptyHost
    | some name =>
      if endsInNumber name then
        match readIpv4? name with
        | some a => .ok (ipv4 a)
        | none => .error .invalidIpv4
      else .ok (domain (String.ofList name))

/-- Characters that no host may hold. -/
def isForbidden (c : Char) : Bool :=
  c.toNat == 0 || "\t\n\r #/:<>?@[\\]^|".toList.contains c

/-- Reads the host of any other scheme. -/
def readOpaque (cs : List Char) : Except UrlError Host :=
  if cs.head? = some '[' then readBracketed cs
  else if cs.any isForbidden then .error .invalidDomainCharacter
  else .ok (domain (String.ofList (percentEncode .control cs)))

end Host

end ExerciseClient.Url
