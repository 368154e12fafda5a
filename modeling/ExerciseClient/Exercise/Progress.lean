import ExerciseClient.Calendar.Instant
import ExerciseClient.Submission.Basic

/-!
A learner's progress on an exercise, with the submission saved last.
-/

namespace ExerciseClient

open Json
open Calendar (Instant)

/-- The progress on an exercise. -/
structure Progress where
  id : String
  exercise : String
  submission : Value
  attempts : Int
  startedAt : Option Instant
  lastAccessedAt : Option Instant
  completedAt : Option Instant

namespace Progress

/-- The exercise was completed. -/
def isCompleted (p : Progress) : Bool := p.completedAt.isSome

/-- The submission saved last. Code counts only with a name and when it is not blank. -/
def savedSubmission (p : Progress) : Option Submission :=
  if p.submission.isNull then none
  else
    match decodeValue Submission.decode p.submission with
    | .error _ => none
    | .ok (.code t) => if t.name.isEmpty || t.isBlank then none else some (.code t)
    | .ok s => some s

/-- The JSON value of an instant. -/
def instantJson (i : Instant) : Value := .str i.text

/-- The JSON value. -/
def toJson (p : Progress) : Value :=
  .obj [
    ("uuid", .str p.id),
    ("exercise_uuid", .str p.exercise),
    ("submission", p.submission),
    ("attempts", .ofInt p.attempts),
    ("started_at", .ofOption instantJson p.startedAt),
    ("last_accessed_at", .ofOption instantJson p.lastAccessedAt),
    ("completed_at", .ofOption instantJson p.completedAt)]

/-- Reads an instant. -/
def decodeInstant : Decoder Instant
  | _, .str (some s) =>
    match Instant.read? s with
    | some i => .ok i
    | none => .error (.other "<invalid date-time>")
  | _, t => .error (t.mismatch "an RFC 3339 formatted date and time string")

/-- Progress that is being read. -/
structure Draft where
  id : Option String
  exercise : Option String
  submission : Option Value
  attempts : Option Int
  startedAt : Option (Option Instant)
  lastAccessedAt : Option (Option Instant)
  completedAt : Option (Option Instant)

/-- The record of progress. -/
def schema : Schema Draft where
  name := "UserExercise"
  fields := [
    .of "uuid" true (·.id) (fun a r => { r with id := some a }) .text,
    .of "exercise_uuid" true (·.exercise) (fun a r => { r with exercise := some a }) .text,
    .of "submission" false (·.submission) (fun a r => { r with submission := some a }) .value,
    .of "attempts" false (·.attempts) (fun a r => { r with attempts := some a }) .int32,
    .of "started_at" false (·.startedAt) (fun a r => { r with startedAt := some a })
      (.optional decodeInstant),
    .of "last_accessed_at" false (·.lastAccessedAt)
      (fun a r => { r with lastAccessedAt := some a }) (.optional decodeInstant),
    .of "completed_at" false (·.completedAt) (fun a r => { r with completedAt := some a })
      (.optional decodeInstant)]
  blank := ⟨none, none, none, none, none, none, none⟩

/-- Reads progress. -/
def decode : Decoder Progress := fun p t => do
  let r ← schema.read p t
  return {
    id := r.id.getD "", exercise := r.exercise.getD "", submission := r.submission.getD .null,
    attempts := r.attempts.getD 0, startedAt := r.startedAt.getD none,
    lastAccessedAt := r.lastAccessedAt.getD none, completedAt := r.completedAt.getD none }

end Progress

end ExerciseClient
