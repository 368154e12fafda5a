import ExerciseClient.Json.Decode

/-!
Quiz answers: the chosen option of each question, and where known whether the choice was right.
-/

namespace ExerciseClient

open Json

/-- The answers to a quiz. -/
structure AnswerSheet where
  answers : KeyedMap String
  results : Option (KeyedMap Bool)
deriving DecidableEq

namespace AnswerSheet

/-- No answers. -/
def empty : AnswerSheet := ⟨KeyedMap.empty, none⟩

/-- Answers one more question, or changes its answer. -/
def answer (s : AnswerSheet) (question option : String) : AnswerSheet :=
  { s with answers := s.answers.insert question option }

/-- The JSON value. -/
def toJson (s : AnswerSheet) : Value :=
  .obj (("answers", .obj (s.answers.entries.map fun e => (e.1, .str e.2))) ::
    match s.results with
    | none => []
    | some m => [("results", .obj (m.entries.map fun e => (e.1, .bool e.2)))])

/-- Answers that are being read. -/
structure Draft where
  answers : Option (KeyedMap String)
  results : Option (Option (KeyedMap Bool))

/-- The record of quiz answers. -/
def schema : Schema Draft where
  name := "QuizAnswers"
  fields := [
    .of "answers" true (·.answers) (fun a r => { r with answers := some a }) (.keyed .text),
    .of "results" false (·.results) (fun a r => { r with results := some a })
      (.optional (.keyed .bool))]
  blank := ⟨none, none⟩

/-- Reads quiz answers. -/
def decode : Decoder AnswerSheet := fun p t => do
  let r ← schema.read p t
  return ⟨r.answers.getD KeyedMap.empty, r.results.getD none⟩

end AnswerSheet

end ExerciseClient
