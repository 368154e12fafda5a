/-!
What goes wrong between the client and the execution back end: on a connection, which the channel
mends by itself, and with a submission, which the caller learns at once.
-/

namespace ExerciseClient

/-- Why a connection failed. -/
inductive TransportError where
  | connect (url message : String)
  | send (message : String)
  | receive (message : String)
deriving DecidableEq, Repr

/-- The message of an error. -/
def TransportError.message : TransportError → String
  | connect url message => s!"连接失败 ({url}): {message}"
  | send message => s!"发送失败: {message}"
  | receive message => s!"接收失败: {message}"

/-- Why a submission was not taken. It is neither kept nor tried again. -/
inductive SubmitError where
  | notConnected (exercise : String)
  | encode (message : String)
deriving DecidableEq, Repr

/-- The message of an error. -/
def SubmitError.message : SubmitError → String
  | notConnected exercise => s!"通道未连接，提交已丢弃 (练习: {exercise})"
  | encode message => s!"序列化提交失败: {message}"

end ExerciseClient
