import ExerciseClient.Toml.Scalar

/-!
Reading TOML 1.1 documents, line by line.
-/

namespace ExerciseClient.Toml

/-- Spaces and tabs. -/
def isSpace (c : Char) : Bool := c == ' ' || c == '\t'

/-- Drops spaces and tabs. -/
def skipSpace (cs : List Char) : List Char := cs.dropWhile isSpace

/-- Characters that neither texts nor comments hold. -/
def isBadControl (c : Char) : Bool := (c.toNat < 0x20 && c != '\t') || c.toNat == 0x7F

/-- Drops a line end. -/
def dropLineEnd? : List Char → Option (List Char)
  | '\n' :: rest => some rest
  | '\r' :: '\n' :: rest => some rest
  | _ => none

/-- Drops a comment, if one starts here. -/
def dropComment? (cs : List Char) : Option (List Char) :=
  match cs with
  | '#' :: rest =>
    let inLine (c : Char) := c != '\n' && c != '\r'
    if (rest.takeWhile inLine).any isBadControl then none else some (rest.dropWhile inLine)
  | _ => some cs

/-- Drops spaces, comments and line ends. -/
def skipLines : Nat → List Char → Option (List Char)
  | 0, _ => none
  | fuel + 1, cs =>
    match dropComment? (skipSpace cs) with
    | none => none
    | some cs =>
      match dropLineEnd? cs with
      | some rest => skipLines fuel rest
      | none => some cs

/-! ### Texts -/

/-- The character of a code point in an escape. -/
def scalarChar? (cs : List Char) : Option Char := do
  let n ← Text.hexNumber? cs
  if n < 0xD800 ∨ (0xE000 ≤ n ∧ n < 0x110000) then return Char.ofNat n else none

/-- Reads an escape behind its backslash. -/
def readEscape : List Char → Option (Char × List Char)
  | 'b' :: rest => some ('\x08', rest)
  | 'e' :: rest => some ('\x1b', rest)
  | 't' :: rest => some ('\t', rest)
  | 'n' :: rest => some ('\n', rest)
  | 'f' :: rest => some ('\x0c', rest)
  | 'r' :: rest => some ('\r', rest)
  | '"' :: rest => some ('"', rest)
  | '\\' :: rest => some ('\\', rest)
  | 'x' :: rest =>
    if rest.length < 2 then none else do return (← scalarChar? (rest.take 2), rest.drop 2)
  | 'u' :: rest =>
    if rest.length < 4 then none else do return (← scalarChar? (rest.take 4), rest.drop 4)
  | 'U' :: rest =>
    if rest.length < 8 then none else do return (← scalarChar? (rest.take 8), rest.drop 8)
  | _ => none

/-- Puts a character in front of what was read. -/
def pushTo (c : Char) (r : List Char × List Char) : List Char × List Char := (c :: r.1, r.2)

/-- Reads a text on one line up to its closing mark. -/
def readLine (mark : Char) (escapes : Bool) : Nat → List Char → Option (List Char × List Char)
  | 0, _ => none
  | _, [] => none
  | fuel + 1, c :: rest =>
    if c = mark then some ([], rest)
    else if c = '\\' && escapes then do
      let (x, rest) ← readEscape rest
      return pushTo x (← readLine mark escapes fuel rest)
    else if isBadControl c then none
    else (readLine mark escapes fuel rest).map (pushTo c)

/-- Reads a text on several lines up to its three closing marks, before which two may belong to the
text. -/
def readBlock (mark : Char) (escapes : Bool) : Nat → List Char → Option (List Char × List Char)
  | 0, _ => none
  | _, [] => none
  | fuel + 1, c :: rest =>
    let marks := ((c :: rest).takeWhile (· == mark)).length
    if 3 ≤ marks then
      let inner := Nat.min (marks - 3) 2
      some (List.replicate inner mark, (c :: rest).drop (inner + 3))
    else if c = '\\' && escapes then
      match dropLineEnd? (skipSpace rest) with
      | some rest =>
        readBlock mark escapes fuel
          (rest.dropWhile fun c => isSpace c || c == '\n' || c == '\r')
      | none => do
        let (x, rest) ← readEscape rest
        return pushTo x (← readBlock mark escapes fuel rest)
    else
      match dropLineEnd? (c :: rest) with
      | some rest => (readBlock mark escapes fuel rest).map (pushTo '\n')
      | none =>
        if isBadControl c then none else (readBlock mark escapes fuel rest).map (pushTo c)

/-- Reads a quoted text with its marks. -/
def readText (blocks : Bool) (cs : List Char) : Option (List Char × List Char) :=
  match cs with
  | a :: b :: c :: rest =>
    if blocks && a == b && b == c then
      readBlock a (a == '"') cs.length ((dropLineEnd? rest).getD rest)
    else readLine a (a == '"') cs.length (b :: c :: rest)
  | a :: rest => readLine a (a == '"') cs.length rest
  | [] => none

/-- The marks that quoted texts start with: a double quote and an apostrophe. -/
def isQuote (c : Char) : Bool := c == '"' || c.toNat == 0x27

/-! ### Keys -/

/-- Characters of keys without quotes. -/
def inBareKey (c : Char) : Bool := c.isAlphanum || c == '_' || c == '-'

/-- Reads one key. -/
def readSimpleKey (cs : List Char) : Option (String × List Char) :=
  match cs with
  | [] => none
  | c :: _ =>
    if isQuote c then (readText false cs).map fun (k, rest) => (String.ofList k, rest)
    else
      match cs.takeWhile inBareKey with
      | [] => none
      | k => some (String.ofList k, cs.dropWhile inBareKey)

/-- Reads keys with dots between them. -/
def readKey : Nat → List Char → Option (List String × List Char)
  | 0, _ => none
  | fuel + 1, cs => do
    let (k, rest) ← readSimpleKey (skipSpace cs)
    match skipSpace rest with
    | '.' :: rest => do
      let (ks, rest) ← readKey fuel rest
      return (k :: ks, rest)
    | rest => return ([k], rest)

/-- Drops the sign between key and value. -/
def dropEquals? (cs : List Char) : Option (List Char) :=
  match skipSpace cs with
  | '=' :: rest => some (skipSpace rest)
  | _ => none

/-! ### Values -/

/-- Characters that end a scalar. -/
def endsScalar (c : Char) : Bool :=
  isSpace c || "\n\r,]\x7d#=[\x7b\"".toList.contains c || c.toNat == 0x27

/-- Reads a scalar; between a date and a time may stand a space. -/
def readBare (cs : List Char) : Option (Value × List Char) := do
  let word := cs.takeWhile (!endsScalar ·)
  let rest := cs.drop word.length
  match rest with
  | ' ' :: next =>
    let time := next.takeWhile (!endsScalar ·)
    if dropDate? word = some [] && time.head?.any Char.isDigit then
      return (← readScalar? (word ++ ' ' :: time), next.drop time.length)
    else return (← readScalar? word, rest)
  | _ => return (← readScalar? word, rest)

mutual

/-- Reads a value. -/
def readValue : Nat → List Char → Option (Value × List Char)
  | 0, _ => none
  | _, [] => none
  | fuel + 1, c :: rest =>
    if isQuote c then
      (readText true (c :: rest)).map fun (s, rest) => (.str (String.ofList s), rest)
    else if c = '[' then (readArray fuel rest).map fun (vs, rest) => (.arr vs, rest)
    else if c = '\x7b' then
      (readInline fuel [] rest).map fun (es, rest) => (.table .inline es, rest)
    else readBare (c :: rest)

/-- Reads the elements of an array and its end; a comma may follow the last one. -/
def readArray : Nat → List Char → Option (List Value × List Char)
  | 0, _ => none
  | fuel + 1, cs => do
    let cs ← skipLines (cs.length + 1) cs
    match cs with
    | ']' :: rest => return ([], rest)
    | _ =>
      let (v, rest) ← readValue fuel cs
      let rest ← skipLines (rest.length + 1) rest
      match rest with
      | ',' :: rest =>
        let (vs, rest) ← readArray fuel rest
        return (v :: vs, rest)
      | ']' :: rest => return ([v], rest)
      | _ => none

/-- Reads the entries of an inline table and its end; a comma may follow the last one. -/
def readInline : Nat → Entries → List Char → Option (Entries × List Char)
  | 0, _, _ => none
  | fuel + 1, es, cs => do
    let cs ← skipLines (cs.length + 1) cs
    match cs with
    | '\x7d' :: rest => return (es, rest)
    | _ =>
      let (key, rest) ← readKey (cs.length + 1) cs
      let rest ← dropEquals? rest
      let (v, rest) ← readValue fuel rest
      let es ← Entries.addDotted es key v
      let rest ← skipLines (rest.length + 1) rest
      match rest with
      | ',' :: rest => readInline fuel es rest
      | '\x7d' :: rest => return (es, rest)
      | _ => none

end

/-! ### Documents -/

/-- The end of a line: a comment may stand there. -/
def endLine? (cs : List Char) : Option (List Char) := do
  let cs ← dropComment? (skipSpace cs)
  if cs.isEmpty then return [] else dropLineEnd? cs

/-- Reads lines; `header` is the path of the table that is open. -/
def readLines : Nat → List String → Entries → List Char → Option Entries
  | 0, _, _, _ => none
  | fuel + 1, header, es, cs => do
    let cs ← skipLines (cs.length + 1) cs
    match cs with
    | [] => return es
    | '[' :: '[' :: rest =>
      let (key, rest) ← readKey (rest.length + 1) rest
      match rest with
      | ']' :: ']' :: rest => do
        let es ← Entries.openNext es key
        readLines fuel key es (← endLine? rest)
      | _ => none
    | '[' :: rest =>
      let (key, rest) ← readKey (rest.length + 1) rest
      match rest with
      | ']' :: rest => do
        let es ← Entries.openTable es key
        readLines fuel key es (← endLine? rest)
      | _ => none
    | cs =>
      let (key, rest) ← readKey (cs.length + 1) cs
      let rest ← dropEquals? rest
      let (v, rest) ← readValue (rest.length + 1) rest
      let es ← Entries.addUnder es header key v
      readLines fuel header es (← endLine? rest)

/-- Reads a document; `none` if it is not TOML. -/
def read? (text : String) : Option Entries :=
  let cs :=
    match text.toList with
    | '\uFEFF' :: rest => rest
    | cs => cs
  readLines (cs.length + 1) [] [] cs

end ExerciseClient.Toml
