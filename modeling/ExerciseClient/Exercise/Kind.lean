import ExerciseClient.Json.Decode

/-!
The two kinds of exercise.
-/

namespace ExerciseClient

/-- What an exercise asks for: source code or quiz answers. -/
inductive ExerciseKind where
  | code
  | quiz
deriving DecidableEq, Repr

namespace ExerciseKind

open Json

/-- The name in records. -/
def name : ExerciseKind → String
  | code => "code"
  | quiz => "quiz"

/-- The name in log lines. -/
def label : ExerciseKind → String
  | code => "Code"
  | quiz => "Quiz"

/-- The kind of a name. -/
def ofName (name : String) : Except Fault ExerciseKind :=
  if name = "code" then .ok code
  else if name = "quiz" then .ok quiz
  else .error (.unknownVariant name "`code` or `quiz`")

/-- Reads a name, or an object whose only member is the name with `null`. -/
def decode : Decoder ExerciseKind
  | _, .str (some s) => ofName s
  | ⟨.text, room⟩, .obj (.cons (some key) value rest) =>
    match room with
    | 0 => .error .malformed
    | _ + 1 => do
      let kind ← ofName key
      match value, rest with
      | .null, .done => .ok kind
      | .null, _ => .error .malformed
      | value, _ => .error (value.mismatch "unit")
  | ⟨.value, _⟩, .obj (.cons (some key) value .done) => do
    let kind ← ofName key
    match value with
    | .null => .ok kind
    | value => .error (value.mismatch "unit")
  | ⟨.value, _⟩, .obj _ =>
    .error (.other "invalid value: map, expected map with a single key")
  | ⟨.text, _⟩, _ => .error .malformed
  | ⟨.value, _⟩, t => .error (t.mismatch "string or map")

/-- The JSON value. -/
def toJson (k : ExerciseKind) : Value := .str k.name

end ExerciseKind

end ExerciseClient
