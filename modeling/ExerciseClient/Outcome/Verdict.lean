import ExerciseClient.Outcome.Result

/-!
The verdict on a run: passed, with where to go next, or failed, with what failed.
-/

namespace ExerciseClient

/-- The verdict on a run. -/
inductive Verdict where
  | passed (nextLesson nextExercise : Option String)
  | failed (failedChecks : List String) (hasStderr : Bool)
deriving DecidableEq, Repr

namespace Verdict

/-- The run passed. -/
def isPassed : Verdict → Bool
  | passed .. => true
  | failed .. => false

/-- The verdict that a result gives. A failed check is named by its message, and one without a
message by its checker. -/
def ofResult (r : RunResult) : Verdict :=
  if r.passed then passed r.nextLesson r.nextExercise
  else failed (r.failedChecks.map fun c => if c.message.isEmpty then c.checker else c.message)
    r.hasStderr

end Verdict

end ExerciseClient
