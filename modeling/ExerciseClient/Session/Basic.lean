import ExerciseClient.Autosave.Basic
import ExerciseClient.Channel.Basic
import ExerciseClient.Config.Basic
import ExerciseClient.Outcome.Verdict

/-!
A session on one exercise: a channel to run submissions, an autosaver for the draft, and the runs
that wait for their results.
-/

namespace ExerciseClient

/-- Why a run gave no result. -/
inductive RunError where
  | submit (error : SubmitError)
  | resultTimeout (exercise : String) (seconds : Nat)
deriving DecidableEq, Repr

/-- The message of an error. -/
def RunError.message : RunError → String
  | submit e => s!"提交错误: {e.message}"
  | resultTimeout exercise seconds => s!"等待执行结果超时 (练习: {exercise}, {seconds}秒)"

/-- A result with its verdict. -/
structure RunOutcome where
  verdict : Verdict
  result : RunResult
deriving DecidableEq, Repr

/-- The outcome that a result gives. -/
def RunOutcome.ofResult (r : RunResult) : RunOutcome := ⟨.ofResult r, r⟩

/-- Where a run is. -/
inductive RunPhase where
  /-- It has not begun. -/
  | fresh
  /-- It was submitted when the channel had `seen` results, and waits for one more. -/
  | waiting (seen : Nat) (deadline : Nat)
  | ended (outcome : Except RunError RunOutcome)
  | cancelled

/-- A run of a submission. -/
structure Run where
  submission : Submission
  phase : RunPhase

/-- A session on an exercise. -/
structure Session where
  exercise : String
  kind : ExerciseKind
  language : String
  /-- How long a run waits for its result, in seconds. -/
  resultTimeout : Nat
  channel : Channel
  autosaver : Autosaver
  /-- The runs in the order in which they were started. -/
  runs : List Run

/-- Those who work by themselves in a session. -/
inductive Party where
  | channel
  | autosaver
  | run (number : Nat)
deriving DecidableEq, Repr

/-- What shows of a session's work. -/
inductive Happening where
  | channel (e : ChannelEffect)
  | autosaver (e : SaverEffect)
  | logged (line : LogLine)
  | runEnded (number : Nat)

/-- The line that a happening logs. -/
def Happening.log? : Happening → Option LogLine
  | channel (.logged l) => some l
  | autosaver (.logged l) => some l
  | logged l => some l
  | _ => none

namespace Session

/-- A session with a channel and an autosaver. -/
def start (c : Config) (channel : Channel) (store : Store) (exercise : String)
    (kind : ExerciseKind) (saved : Option Submission) : Session where
  exercise := exercise
  kind := kind
  language := c.language
  resultTimeout := c.resultTimeoutSecs
  channel := channel
  autosaver := .spawn store exercise (c.autosaveIntervalSecs * 1000) saved
  runs := []

/-- A session that is only a channel. -/
def ofChannel (c : Channel) : Session where
  exercise := ""
  kind := .code
  language := Config.standard.language
  resultTimeout := Config.standard.resultTimeoutSecs
  channel := c
  autosaver := { Autosaver.spawn ⟨[], .success⟩ "" 0 none with phase := .finished }
  runs := []

/-- A session that is only an autosaver. -/
def ofAutosaver (a : Autosaver) : Session where
  exercise := a.exercise
  kind := .code
  language := Config.standard.language
  resultTimeout := Config.standard.resultTimeoutSecs
  channel :=
    { Channel.connect "" ⟨[], .unanswered⟩ .standard 0 with phase := .finished, state := .tornDown }
  autosaver := a
  runs := []

/-- The draft, which may be what the back end had saved. -/
def draft (s : Session) : Option Submission := s.autosaver.draft

/-- Changes the draft. -/
def edit (s : Session) (submission : Submission) : Session :=
  { s with autosaver := s.autosaver.update submission }

/-- Code in the session's language. -/
def codeOf (s : Session) (code : String) : Submission := .code (.source code s.language)

/-- Starts a run. -/
def startRun (s : Session) (submission : Submission) : Session :=
  { s with runs := s.runs ++ [⟨submission, .fresh⟩] }

/-- Cancels the runs that have not ended. -/
def cancelRuns (s : Session) : Session :=
  { s with runs := s.runs.map fun r =>
      match r.phase with
      | .ended _ => r
      | _ => { r with phase := .cancelled } }

end Session

end ExerciseClient
