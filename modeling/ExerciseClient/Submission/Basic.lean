import ExerciseClient.Exercise.Kind
import ExerciseClient.Submission.AnswerSheet
import ExerciseClient.Submission.FileTree

/-!
Submissions: code or quiz answers. Their JSON has no tag, so a reader tries quiz answers first and
then code.
-/

namespace ExerciseClient

open Json

/-- What a learner hands in. -/
inductive Submission where
  | quiz (answers : AnswerSheet)
  | code (tree : FileTree)
deriving DecidableEq

namespace Submission

/-- The kind of exercise that a submission answers. -/
def kind : Submission → ExerciseKind
  | quiz _ => .quiz
  | code _ => .code

/-- Nothing worth keeping: no answers, or blank code. -/
def isBlank : Submission → Bool
  | quiz s => s.answers.isEmpty
  | code t => t.isBlank

/-- The JSON value. -/
def toJson : Submission → Value
  | quiz s => s.toJson
  | code t => t.toJson

/-- Reads a submission: the text is read whole, then matched with each form. -/
def decode : Decoder Submission := fun p t =>
  match t.toValue p.room with
  | .error e => .error e
  | .ok _ =>
    match AnswerSheet.decode p t with
    | .ok s => .ok (quiz s)
    | .error _ =>
      match FileTree.decode p t with
      | .ok t => .ok (code t)
      | .error _ => .error (.noVariant "Submission")

end Submission

end ExerciseClient
