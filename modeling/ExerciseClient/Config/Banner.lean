import ExerciseClient.Config.Basic
import ExerciseClient.Outcome.Report

/-!
What is logged when the client starts.
-/

namespace ExerciseClient

/-- The log lines of a start on an exercise. -/
def Config.banner (c : Config) (exercise : String) : Log :=
  let line := rule '='
  [info line,
    info "🚀 程序启动 - 练习提交客户端",
    info s!"🌐 服务地址: {c.serverOrigin}",
    info s!"📝 练习: {exercise}",
    info s!"🔤 语言: {c.language}"] ++
    (match c.loginCredentials, c.authToken with
      | some (email, _), _ => [info s!"🔑 将以 {email} 登录"]
      | none, none => [warn "⚠️ 未配置 CODIM_AUTH_TOKEN 或登录凭据，后端可能拒绝连接"]
      | none, some _ => []) ++
    [info line]

end ExerciseClient
