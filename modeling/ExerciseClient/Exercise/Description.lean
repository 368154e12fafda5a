import ExerciseClient.Exercise.Kind
import ExerciseClient.Submission.FileTree

/-!
Descriptions of exercises: what an exercise is called, what it asks for and what it starts from.
-/

namespace ExerciseClient

open Json

/-- An exercise's texts in one language. -/
structure Translation where
  language : String
  name : String
  description : String
deriving DecidableEq, Repr

namespace Translation

/-- A translation that is being read. -/
structure Draft where
  language : Option String
  name : Option String
  description : Option String

/-- The record of a translation. -/
def schema : Schema Draft where
  name := "ExerciseTranslation"
  fields := [
    .of "language" false (·.language) (fun a r => { r with language := some a }) .text,
    .of "name" true (·.name) (fun a r => { r with name := some a }) .text,
    .of "description" false (·.description) (fun a r => { r with description := some a }) .text]
  blank := ⟨none, none, none⟩

/-- Reads a translation. -/
def decode : Decoder Translation := fun p t => do
  let r ← schema.read p t
  return ⟨r.language.getD "", r.name.getD "", r.description.getD ""⟩

end Translation

/-- The description of an exercise. -/
structure Exercise where
  id : String
  lesson : String
  position : Int
  reward : Int
  kind : ExerciseKind
  code : Option FileTree
  quiz : Option Value
  translation : Option Translation

namespace Exercise

/-- The title: the translated name, or the id. -/
def title (e : Exercise) : String :=
  match e.translation with
  | some t => t.name
  | none => e.id

/-- A description that is being read. -/
structure Draft where
  id : Option String
  lesson : Option String
  position : Option Int
  reward : Option Int
  kind : Option ExerciseKind
  code : Option (Option FileTree)
  quiz : Option (Option Value)
  translation : Option (Option Translation)

/-- The record of a description. -/
def schema : Schema Draft where
  name := "Exercise"
  fields := [
    .of "uuid" true (·.id) (fun a r => { r with id := some a }) .text,
    .of "lesson_uuid" false (·.lesson) (fun a r => { r with lesson := some a }) .text,
    .of "order_index" false (·.position) (fun a r => { r with position := some a }) .int16,
    .of "reward" false (·.reward) (fun a r => { r with reward := some a }) .int16,
    .of "type" true (·.kind) (fun a r => { r with kind := some a }) ExerciseKind.decode,
    .of "code_data" false (·.code) (fun a r => { r with code := some a })
      (.optional FileTree.decode),
    .of "quiz_data" false (·.quiz) (fun a r => { r with quiz := some a }) (.optional .value),
    .of "translation" false (·.translation) (fun a r => { r with translation := some a })
      (.optional Translation.decode)]
  blank := ⟨none, none, none, none, none, none, none, none⟩

/-- Reads a description. -/
def decode : Decoder Exercise := fun p t => do
  let r ← schema.read p t
  match r.kind with
  | none => .error (.missing "type")
  | some kind => return {
      id := r.id.getD "", lesson := r.lesson.getD "", position := r.position.getD 0,
      reward := r.reward.getD 0, kind, code := r.code.getD none, quiz := r.quiz.getD none,
      translation := r.translation.getD none }

end Exercise

end ExerciseClient
