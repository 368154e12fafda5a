import ExerciseClient.Outcome.Result

/-!
Incoming text frames. A frame is a result if it is a JSON object with a job id; other JSON is
ignored, and everything else is malformed.
-/

namespace ExerciseClient

open Json

/-- What an incoming text frame is. -/
inductive Frame where
  | result (r : RunResult)
  | ignored
  | malformed (reason : String)
deriving DecidableEq, Repr

namespace Frame

/-- There is a job id that is not `null`, `false`, an empty text or zero. -/
def hasJobId (v : Value) : Bool :=
  match v.get? "job_id" with
  | none | some .null | some (.bool false) => false
  | some (.str s) => !s.isEmpty
  | some (.num n) => !n.isZero
  | some _ => true

/-- Decides what a text frame is. -/
def classify (text : String) : Frame :=
  match parse text with
  | .error e => malformed e.message
  | .ok v =>
    if hasJobId v then
      match decodeValue RunResult.decode v with
      | .ok r => result r
      | .error e => malformed e.message
    else ignored

end Frame

end ExerciseClient
