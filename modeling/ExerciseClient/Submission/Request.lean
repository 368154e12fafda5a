import ExerciseClient.Submission.Basic

/-!
The two texts in which a submission leaves the client: the frame that has it run, and the request
that saves it.
-/

namespace ExerciseClient

open Json

/-- The JSON value of a frame that has a submission run. -/
def envelope (exercise : String) (submission : Value) : Value :=
  .obj [("exercise_uuid", .str exercise), ("submission", submission)]

/-- A request to save a submission. -/
structure SaveRequest where
  kind : ExerciseKind
  submission : Submission
deriving DecidableEq

namespace SaveRequest

/-- The request that names the kind of its submission. -/
def ofSubmission (s : Submission) : SaveRequest := ⟨s.kind, s⟩

/-- The JSON value. -/
def toJson (r : SaveRequest) : Value :=
  .obj [("type", r.kind.toJson), ("submission", r.submission.toJson)]

/-- A request that is being read. -/
structure Draft where
  kind : Option ExerciseKind
  submission : Option Submission

/-- The record of a request. -/
def schema : Schema Draft where
  name := "SaveSubmissionRequest"
  fields := [
    .of "type" true (·.kind) (fun a r => { r with kind := some a }) ExerciseKind.decode,
    .of "submission" true (·.submission) (fun a r => { r with submission := some a })
      Submission.decode]
  blank := ⟨none, none⟩

/-- Reads a request. -/
def decode : Decoder SaveRequest := fun p t => do
  let r ← schema.read p t
  match r.kind, r.submission with
  | some kind, some submission => return ⟨kind, submission⟩
  | none, _ => .error (.missing "type")
  | _, none => .error (.missing "submission")

end SaveRequest

end ExerciseClient
