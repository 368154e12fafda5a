import ExerciseClient.Api.Error
import ExerciseClient.Config.File
import ExerciseClient.Session.Basic

/-!
What goes wrong with the application as a whole. Each error has a message and the causes behind it,
the nearest first.
-/

namespace ExerciseClient

/-- Why the application failed. -/
inductive AppError where
  | config (e : AddressError)
  | api (e : ApiError)
  | connectTimeout (url : String) (seconds : Nat)
  | run (e : RunError)
  | file (path : String) (cause : ReadError)
deriving DecidableEq, Repr

namespace AppError

/-- The message of a file that could not be read. -/
def fileMessage (path : String) (cause : ReadError) : String :=
  s!"读取文件失败 ({path}): {cause.message}"

/-- The message of an error. -/
def message : AppError → String
  | config e => s!"配置错误: {e.message}"
  | api e => s!"API错误: {e.message}"
  | connectTimeout url seconds => s!"连接执行后端超时 ({url}, {seconds}秒)"
  | run e => e.message
  | file path cause => s!"文件错误: {fileMessage path cause}"

/-- The messages of the causes. -/
def causes : AppError → List String
  | config e =>
    e.message ::
      match e with
      | .invalidUrl _ cause => [cause.message]
      | .unsupportedScheme _ => []
  | api e => e.message :: e.causes
  | connectTimeout .. => []
  | run (.submit e) =>
    e.message ::
      match e with
      | .encode reason => [reason]
      | .notConnected _ => []
  | run (.resultTimeout ..) => []
  | file path cause => [fileMessage path cause, cause.message]

end AppError

end ExerciseClient
