import ExerciseClient.Json.Decode

/-!
Results of a run as the execution back end reports them. Only the job id is required: every other
field may be absent or `null` and then has its default.
-/

namespace ExerciseClient

open Json
open Decimal (Binary64)

/-- What one checker says about a run. -/
structure CheckResult where
  checker : String
  success : Bool
  message : String
deriving DecidableEq, Repr

/-- The checkers that are known, and all others by name. -/
inductive CheckerType where
  | io
  | code
  | quiz
  | other (name : String)
deriving DecidableEq, Repr

namespace CheckResult

/-- The checker's type. -/
def type (c : CheckResult) : CheckerType :=
  if c.checker = "io" then .io
  else if c.checker = "code" then .code
  else if c.checker = "quiz" then .quiz
  else .other c.checker

/-- The JSON value. -/
def toJson (c : CheckResult) : Value :=
  .obj [("type", .str c.checker), ("success", .bool c.success), ("message", .str c.message)]

/-- A checker's report that is being read. -/
structure Draft where
  checker : Option String
  success : Option Bool
  message : Option String

/-- The record of a checker's report. -/
def schema : Schema Draft where
  name := "CheckerResult"
  fields := [
    .of "type" false (·.checker) (fun a r => { r with checker := some a }) (.orDefault "" .text),
    .of "success" false (·.success) (fun a r => { r with success := some a })
      (.orDefault false .bool),
    .of "message" false (·.message) (fun a r => { r with message := some a })
      (.orDefault "" .text)]
  blank := ⟨none, none, none⟩

/-- Reads a checker's report. -/
def decode : Decoder CheckResult := fun p t => do
  let r ← schema.read p t
  return ⟨r.checker.getD "", r.success.getD false, r.message.getD ""⟩

end CheckResult

/-- The result of a run. -/
structure RunResult where
  jobId : String
  stdout : String
  stderr : String
  exitCode : Int
  time : Binary64
  memory : Binary64
  cpu : Binary64
  checks : List CheckResult
  passed : Bool
  nextLesson : Option String
  nextExercise : Option String
  reward : Option Int
deriving DecidableEq, Repr

namespace RunResult

/-- The run wrote to its error stream. -/
def hasStderr (r : RunResult) : Bool := !r.stderr.isEmpty

/-- The checks that failed, in order. -/
def failedChecks (r : RunResult) : List CheckResult := r.checks.filter (!·.success)

/-- A member that is written only if there is a value. -/
def optionalMember (name : String) (v : Option Value) : List (String × Value) :=
  match v with
  | none => []
  | some v => [(name, v)]

/-- The JSON value. -/
def toJson (r : RunResult) : Value :=
  .obj ([
    ("job_id", .str r.jobId),
    ("stdout", .str r.stdout),
    ("stderr", .str r.stderr),
    ("exit_code", .ofInt r.exitCode),
    ("time", .num (.real r.time)),
    ("memory", .num (.real r.memory)),
    ("cpu", .num (.real r.cpu)),
    ("checker_results", .arr (r.checks.map CheckResult.toJson)),
    ("passed", .bool r.passed)] ++
    optionalMember "next_lesson_uuid" (r.nextLesson.map .str) ++
    optionalMember "next_exercise_uuid" (r.nextExercise.map .str) ++
    optionalMember "reward" (r.reward.map .ofInt))

/-- A job id is a text, or a number that is kept as its text. -/
def decodeJobId : Decoder String := fun p t => do
  match ← t.toValue p.room with
  | .str s => return s
  | .num n => return n.text
  | v => .error (.other s!"job_id 应为字符串或数字，实际为 {v.text}")

/-- A result that is being read. -/
structure Draft where
  jobId : Option String
  stdout : Option String
  stderr : Option String
  exitCode : Option Int
  time : Option Binary64
  memory : Option Binary64
  cpu : Option Binary64
  checks : Option (List CheckResult)
  passed : Option Bool
  nextLesson : Option (Option String)
  nextExercise : Option (Option String)
  reward : Option (Option Int)

/-- The record of a result. -/
def schema : Schema Draft where
  name := "ExecuteResult"
  fields := [
    .of "job_id" true (·.jobId) (fun a r => { r with jobId := some a }) decodeJobId,
    .of "stdout" false (·.stdout) (fun a r => { r with stdout := some a }) (.orDefault "" .text),
    .of "stderr" false (·.stderr) (fun a r => { r with stderr := some a }) (.orDefault "" .text),
    .of "exit_code" false (·.exitCode) (fun a r => { r with exitCode := some a })
      (.orDefault 0 .int64),
    .of "time" false (·.time) (fun a r => { r with time := some a })
      (.orDefault Binary64.zero .real),
    .of "memory" false (·.memory) (fun a r => { r with memory := some a })
      (.orDefault Binary64.zero .real),
    .of "cpu" false (·.cpu) (fun a r => { r with cpu := some a })
      (.orDefault Binary64.zero .real),
    .of "checker_results" false (·.checks) (fun a r => { r with checks := some a })
      (.orDefault [] (.list CheckResult.decode)),
    .of "passed" false (·.passed) (fun a r => { r with passed := some a }) (.orDefault false .bool),
    .of "next_lesson_uuid" false (·.nextLesson) (fun a r => { r with nextLesson := some a })
      (.optional .text),
    .of "next_exercise_uuid" false (·.nextExercise) (fun a r => { r with nextExercise := some a })
      (.optional .text),
    .of "reward" false (·.reward) (fun a r => { r with reward := some a }) (.optional .int64)]
  blank := ⟨none, none, none, none, none, none, none, none, none, none, none, none⟩

/-- The result of a complete draft. -/
def Draft.finish (r : Draft) : RunResult where
  jobId := r.jobId.getD ""
  stdout := r.stdout.getD ""
  stderr := r.stderr.getD ""
  exitCode := r.exitCode.getD 0
  time := r.time.getD Binary64.zero
  memory := r.memory.getD Binary64.zero
  cpu := r.cpu.getD Binary64.zero
  checks := r.checks.getD []
  passed := r.passed.getD false
  nextLesson := r.nextLesson.getD none
  nextExercise := r.nextExercise.getD none
  reward := r.reward.getD none

/-- Reads a result. -/
def decode : Decoder RunResult := fun p t => do
  return (← schema.read p t).finish

end RunResult

end ExerciseClient
