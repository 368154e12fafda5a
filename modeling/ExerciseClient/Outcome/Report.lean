import ExerciseClient.Decimal.Fixed
import ExerciseClient.Log
import ExerciseClient.Outcome.Verdict
import ExerciseClient.Text.Truncated

/-!
What is logged about a run: its result in full, with long outputs cut, and the verdict on it.
-/

namespace ExerciseClient

/-- The characters of an output that are logged at most. -/
def outputLimit : Nat := 2000

/-- A horizontal line of a character. -/
def rule (c : Char) : String := String.ofList (List.replicate 60 c)

/-- The log line of a check. -/
def CheckResult.report (c : CheckResult) : LogLine :=
  let mark := if c.success then "✅" else "❌"
  info s!"{mark} [{c.checker}] {c.message}"

/-- The log lines of a result. -/
def RunResult.report (r : RunResult) : Log :=
  let time := r.time.fixedText 3
  let memory := r.memory.fixedText 0
  let line := rule '─'
  [info s!"\n{line}",
    info s!"📊 job_id={r.jobId} exit_code={r.exitCode} 用时 {time}s 内存 {memory}KB"] ++
    (if r.stdout.isEmpty then []
      else [info ("stdout:\n" ++ Text.truncated r.stdout outputLimit)]) ++
    (if r.hasStderr then [warn ("stderr:\n" ++ Text.truncated r.stderr outputLimit)] else []) ++
    r.checks.map CheckResult.report ++ [info line]

/-- The log lines of a verdict. -/
def Verdict.report : Verdict → Log
  | .passed nextLesson nextExercise =>
    info "🎉 通过！" ::
      (nextExercise.toList.map fun next => info s!"➡️ 下一题: {next}") ++
      (nextLesson.toList.map fun next => info s!"➡️ 下一课: {next}")
  | .failed failedChecks hasStderr =>
    let n := failedChecks.length
    warn s!"❌ 未通过: {n} 个检查未通过" ::
      if hasStderr then [warn "程序有错误输出，请检查 stderr"] else []

end ExerciseClient
