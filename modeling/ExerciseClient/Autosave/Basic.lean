import ExerciseClient.Api.Error
import ExerciseClient.Log
import ExerciseClient.Submission.Request

/-!
The autosaver: it looks at the draft at a fixed interval and saves it when it differs from what was
saved last and is not blank, and once more when it is stopped. This module holds its state, the
store that it saves to, and what its owner does with it; what it does by itself is
`Autosaver.turn`.
-/

namespace ExerciseClient

/-- How one save goes. -/
structure SaveAnswer where
  /-- What is logged when the save begins. -/
  log : Log
  delay : Nat
  failure : Option ApiError
deriving DecidableEq, Repr

/-- A save that succeeds at once. -/
def SaveAnswer.success : SaveAnswer := ⟨[], 0, none⟩

/-- A store for drafts: each save goes as the script has it, and all after its end alike. -/
structure Store where
  script : List SaveAnswer
  afterwards : SaveAnswer
deriving DecidableEq, Repr

/-- How the next save goes. -/
def Store.next (s : Store) : SaveAnswer × Store :=
  match s.script with
  | [] => (s.afterwards, s)
  | a :: rest => (a, { s with script := rest })

/-- A save that is under way since an instant. -/
structure Saving where
  submission : Submission
  start : Nat
  answer : SaveAnswer
deriving DecidableEq

/-- The instant at which a save is answered. -/
def Saving.due (s : Saving) : Nat := s.start + s.answer.delay

/-- The request of a save. -/
def Saving.request (s : Saving) : SaveRequest := .ofSubmission s.submission

/-- Where an autosaver is in its life. -/
inductive SaverPhase where
  /-- It has not begun. -/
  | fresh
  /-- The next look at the draft is due at an instant. -/
  | idle (tick : Nat)
  /-- A save is under way, with the next look due at `tick`; without one it is the last. -/
  | saving (save : Saving) (tick : Option Nat)
  | finished
deriving DecidableEq

/-- What shows of an autosaver's work. -/
inductive SaverEffect where
  | logged (line : LogLine)
  /-- A look at the draft; the last one is made when the autosaver is stopped. -/
  | looked (last : Bool)
  | requested (request : SaveRequest)
  | answered (save : Saving)
deriving DecidableEq

/-- An autosaver. -/
structure Autosaver where
  exercise : String
  /-- The span between looks. -/
  interval : Nat
  /-- How late a look may come without putting off the one after it. -/
  leeway : Nat
  store : Store
  draft : Option Submission
  /-- What was saved last. -/
  saved : Option Submission
  phase : SaverPhase
  /-- It was asked to stop. -/
  stopping : Bool

namespace Autosaver

/-- The shortest interval, in milliseconds. -/
def leastInterval : Nat := 1000

/-- The leeway of every autosaver, in milliseconds. -/
def tolerance : Nat := 5

/-- An autosaver that has not begun; `saved` is what the back end already has. Instants and spans
are counted in parts of a millisecond, which has `ms` of them. -/
def spawnIn (ms : Nat) (store : Store) (exercise : String) (interval : Nat)
    (saved : Option Submission) : Autosaver where
  exercise := exercise
  interval := max interval (leastInterval * ms)
  leeway := tolerance * ms
  store := store
  draft := saved
  saved := saved
  phase := .fresh
  stopping := false

/-- An autosaver that counts in milliseconds. -/
def spawn (store : Store) (exercise : String) (interval : Nat) (saved : Option Submission) :
    Autosaver :=
  spawnIn 1 store exercise interval saved

/-- Nothing more will happen. -/
def isFinished (a : Autosaver) : Bool := a.phase == .finished

/-- Changes the draft. -/
def update (a : Autosaver) (s : Submission) : Autosaver := { a with draft := some s }

/-- Asks for a last save and the end. -/
def stop (a : Autosaver) : Autosaver := { a with stopping := true }

/-- The draft that has to be saved: there is one, it is not what was saved last, and it is not
blank. -/
def dirty? (a : Autosaver) : Option Submission :=
  a.draft.filter fun s => a.saved != some s && !s.isBlank

end Autosaver

end ExerciseClient
