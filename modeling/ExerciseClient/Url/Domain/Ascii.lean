import ExerciseClient.Text.Blank
import ExerciseClient.Text.Split
import ExerciseClient.Url.Domain.Classes
import ExerciseClient.Url.Domain.Mapping
import ExerciseClient.Url.Domain.Normal
import ExerciseClient.Url.Domain.Punycode
import ExerciseClient.Url.Domain.Status

/-!
Domain names in ASCII. A name is mapped and composed, every label is checked, and labels with other
than ASCII characters are written in Punycode. A name of ASCII letters, digits and unreserved signs
without Punycode labels is only lowered.
-/

namespace ExerciseClient.Url.Domain

/-- ASCII characters that a name must not hold after it was mapped. -/
def isForbidden (c : Char) : Bool :=
  c.toNat ≤ 0x20 || c.toNat == 0x7F || "%#/:<>?@[\\]^|".toList.contains c

/-- The tables, read. -/
def mapped : List Row := readRows mappedRows
def alternate : List Row := readRows alternateRows
def valid : List Row := readRows validRows
def ignored : List Row := readRows ignoredRows
def marks : List Row := readRows markRows
def rightToLeft : List Row := readRows rightToLeftRows
def arabicNumber : List Row := readRows arabicNumberRows
def europeanNumber : List Row := readRows europeanNumberRows
def neutral : List Row := readRows neutralRows
def nonspacing : List Row := readRows nonspacingRows
def otherDirection : List Row := readRows otherDirectionRows
def joinsLeft : List Row := readRows joinsLeftRows
def joinsRight : List Row := readRows joinsRightRows
def transparent : List Row := readRows transparentRows

/-- What a character is mapped to; `none` if no name may hold it. -/
def mapChar (c : Char) : Option (List Char) :=
  let n := c.toNat
  if n < 0x80 then some [c.toLower]
  else if inRows valid n then some [c]
  else if inRows ignored n then some []
  else
    match findRow? mapped n with
    | some ⟨low, high, values⟩ =>
      if low = high then some (values.map Char.ofNat)
      else some [Char.ofNat ((values.headD 0) + (n - low))]
    | none =>
      match findRow? alternate n with
      | some ⟨low, _, [target]⟩ => some [Char.ofNat (target + (n - low))]
      | _ => none

/-- A name is split at the dots. -/
def labels (cs : List Char) : List (List Char) :=
  Text.splitAt '.' cs

/-! ### Checks of labels -/

/-- Writing direction, as far as labels depend on it. -/
inductive Direction where
  | left
  | right
  | arabicNumber
  | europeanNumber
  | neutral
  | nonspacing
  | forbidden
deriving DecidableEq

/-- The direction of a character. -/
def direction (c : Char) : Direction :=
  let n := c.toNat
  if inRows rightToLeft n then .right
  else if inRows arabicNumber n then .arabicNumber
  else if inRows europeanNumber n then .europeanNumber
  else if inRows nonspacing n then .nonspacing
  else if inRows neutral n then .neutral
  else if inRows otherDirection n then .forbidden
  else .left

/-- A label of a name with right-to-left characters keeps to one direction. -/
def directionsAgree (label : List Char) : Bool :=
  let ds := label.map direction
  let last := (ds.reverse.dropWhile (· == .nonspacing)).head?
  match ds.head? with
  | none => true
  | some .right =>
    !ds.contains .left && !ds.contains .forbidden &&
      !(ds.contains .arabicNumber && ds.contains .europeanNumber) &&
      (last == some .right || last == some .arabicNumber || last == some .europeanNumber)
  | some .left =>
    !ds.contains .right && !ds.contains .arabicNumber && !ds.contains .forbidden &&
      (last == some .left || last == some .europeanNumber)
  | some _ => false

/-- A joiner stands after a virama, or between characters that it can join. `before` is reversed. -/
def joinersFit (before : List Char) : List Char → Bool
  | [] => true
  | c :: rest =>
    let afterVirama := match before with
      | b :: _ => combiningClass b.toNat == 9
      | [] => false
    let near (cs : List Char) := (cs.dropWhile fun x => inRows transparent x.toNat).head?
    let fits :=
      if c.toNat = 0x200D then afterVirama
      else if c.toNat = 0x200C then
        afterVirama ||
          ((near before).any (fun x => inRows joinsLeft x.toNat) &&
            (near rest).any fun x => inRows joinsRight x.toNat)
      else true
    fits && joinersFit (c :: before) rest

/-- A label in mapped characters is well formed. -/
def isWellFormed (label : List Char) : Bool :=
  (match label with
    | [] => true
    | c :: _ => !inRows marks c.toNat) &&
    joinersFit [] label

/-- The mark of a Punycode label. -/
def encodedMark : List Char := ['x', 'n', '-', '-']

/-- The characters that a Punycode label stands for. -/
def decodeLabel? (label : List Char) : Option (List Char) := do
  let u ← Punycode.decode? (label.drop 4)
  if u.all (·.toNat < 0x80) then none
  if u.any (fun c => mapChar c != some [c] || isForbidden c) then none
  if normalized u != u then none
  if !isWellFormed u then none
  if Punycode.encode u != Text.lowerAscii (label.drop 4) then none
  return u

/-- A label in its own characters. -/
def readLabel? (label : List Char) : Option (List Char) :=
  if label.take 4 = encodedMark then decodeLabel? label
  else if isWellFormed label then some label
  else none

/-- A label in ASCII. -/
def writeLabel (label : List Char) : List Char :=
  if label.all (·.toNat < 0x80) then label else encodedMark ++ Punycode.encode label

/-- A name that needs no more than lowering. -/
def isPlain (cs : List Char) : Bool :=
  cs.all (fun c => c.toNat < 0x80 && !isForbidden c) &&
    (labels (Text.lowerAscii cs)).all fun l => l.take 4 != encodedMark

/-- The name in ASCII; `none` if it is no domain name. -/
def toAscii? (cs : List Char) : Option (List Char) :=
  if isPlain cs then some (Text.lowerAscii cs)
  else do
    let mapped ← cs.mapM mapChar
    let text := normalized mapped.flatten
    let ls ← (labels text).mapM readLabel?
    let bidirectional := ls.any fun l => l.any fun c =>
      direction c == .right || direction c == .arabicNumber
    if bidirectional && !ls.all directionsAgree then none
    let out := Text.joinWith '.' (ls.map writeLabel)
    if out.any isForbidden then none
    return out

end ExerciseClient.Url.Domain
