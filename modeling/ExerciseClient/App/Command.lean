import ExerciseClient.App.Basic
import ExerciseClient.Log.Filter

/-!
The command line: an exercise, a source file, and settings from a file and the environment. It ends
with success exactly if the run passed.
-/

namespace ExerciseClient

/-- What the program is started with. -/
structure Invocation where
  arguments : List String
  environment : Config.Lookup
  files : Files
  backend : Backend

/-- How the program ends. -/
structure Exit where
  code : Nat
  stderr : String
  stdout : List String
  requests : List Http.Request
  handshakes : List SeenHandshake

namespace Exit

/-- Indents a cause, all of it alike but for its number. -/
def indented (number : Option Nat) (text : String) : String :=
  let digits := (number.map toString).getD ""
  let head :=
    match number with
    | none => "    "
    | some _ => String.ofList (List.replicate (5 - digits.length) ' ') ++ digits ++ ": "
  let rest := if number.isSome then "\n       " else "\n    "
  head ++ rest.intercalate ((Text.splitAt '\n' text.toList).map String.ofList)

/-- The report of an error with its causes, which are numbered if there are several. -/
def report (message : String) (causes : List String) : String :=
  let lines :=
    match causes with
    | [] => []
    | [cause] => [indented none cause]
    | causes => causes.zipIdx.map fun c => indented (some c.2) c.1
  let behind := if lines.isEmpty then "" else "\n\nCaused by:\n" ++ "\n".intercalate lines
  "Error: " ++ message ++ behind ++ "\n"

/-- The end before anything is logged. -/
def early (message : String) (causes : List String) : Exit :=
  ⟨1, report message causes, [], [], []⟩

end Exit

namespace Invocation

/-- The variables that the program reads. -/
def variableNames : List String := Config.variableNames ++ ["CODIM_CONFIG", "RUST_LOG"]

/-- How the program is called. -/
def usage : String := "用法: codim-client <exercise_uuid> <source_file> [config.toml]"

/-- The messages of a file that gives no settings. -/
def configCauses (e : ConfigFileError) : List String :=
  s!"配置文件错误: {e.message}" :: e.message ::
    match e with
    | .unreadable _ cause => [cause.message]
    | .notToml _ => ["<toml syntax error>"]
    | .wrongField _ fault => [fault.message]

/-- Runs the application with settings that were read. -/
def runWith (i : Invocation) (exercise source : String) (c : Config) : Exit :=
  let filter := LogFilter.ofEnvironment (i.environment "RUST_LOG") c.verboseLogging
  let launch := App.launch c exercise i.backend
  match launch.outcome with
  | .error e =>
    ⟨1, Exit.report e.message e.causes, launch.log.shown filter, launch.requests,
      launch.handshakes⟩
  | .ok a =>
    let (r, a) := a.run i.files source
    let a := a.shutdown
    let ended (code : Nat) (stderr : String) (last : Log) : Exit :=
      ⟨code, stderr, Log.shown filter (a.log ++ last), a.requests, a.handshakes⟩
    match r with
    | .ok v => ended (if v.isPassed then 0 else 1) "" []
    | .error e =>
      ended 1 (Exit.report e.message e.causes) [error s!"运行失败: {e.message}"]

/-- Runs the program. -/
def exit (i : Invocation) : Exit :=
  match i.arguments with
  | exercise :: source :: rest =>
    let path := rest.head?.or (i.environment "CODIM_CONFIG")
    match Config.load i.files path i.environment with
    | .error e => Exit.early "加载配置失败" (configCauses e)
    | .ok (c, _) => i.runWith exercise source c
  | _ => Exit.early usage []

end Invocation

end ExerciseClient
