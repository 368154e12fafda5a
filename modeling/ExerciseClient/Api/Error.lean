import ExerciseClient.Http.Message
import ExerciseClient.Json.Decode

/-!
What goes wrong with a request to the API. Each error has a message and the causes behind it, the
nearest first.
-/

namespace ExerciseClient

/-- Why a request had no answer; the first three keep it from being sent. -/
inductive RequestFault where
  | badHeader
  | badScheme (url : String)
  | badAddress (url : String)
  | unreachable (url : String) (causes : List String)
  | dropped (url : String)
  | misdirected (url : String) (causes : List String)
deriving DecidableEq, Repr

namespace RequestFault

/-- What failed, and what lies behind it, the nearest first. -/
def chain : RequestFault → List String
  | badHeader => ["builder error", "failed to parse header value"]
  | badScheme url => [s!"builder error for url ({url})", "URL scheme is not allowed"]
  | badAddress url => [s!"builder error for url ({url})", "Parsed Url is not a valid Uri"]
  | unreachable url causes =>
    s!"error sending request for url ({url})" :: "error trying to connect" :: causes
  | dropped url =>
    [s!"error sending request for url ({url})", "connection closed before message completed"]
  | misdirected url causes => s!"error following redirect for url ({url})" :: causes

/-- Each description with all that lies behind it. -/
def joinedEach : List String → List String
  | [] => []
  | head :: behind => ": ".intercalate (head :: behind) :: joinedEach behind

/-- The message of a fault. -/
def message (f : RequestFault) : String := ": ".intercalate f.chain

/-- The messages of what lies behind a fault. -/
def causes (f : RequestFault) : List String := (joinedEach f.chain).tail

end RequestFault

/-- Why a request to the API failed. -/
inductive ApiError where
  | requestFailed (endpoint : String) (fault : RequestFault)
  /-- The answer's status is no success. -/
  | badResponse (endpoint : String) (status : Nat) (message : String) (code : Option String)
  | jsonParseFailed (endpoint : String) (fault : Json.Fault)
  | invalidEndpoint (base : String)
  | missingAuthCookie (endpoint : String)
deriving DecidableEq, Repr

namespace ApiError

/-- The message of a body that is not what was expected. -/
def bodyMessage (f : Json.Fault) : String := s!"error decoding response body: {f.message}"

/-- The message of an error. -/
def message : ApiError → String
  | requestFailed endpoint fault => s!"API请求失败 ({endpoint}): {fault.message}"
  | badResponse endpoint status message _ =>
    s!"API返回错误响应 ({endpoint}): status={status}, message={message}"
  | jsonParseFailed endpoint fault => s!"JSON解析失败 ({endpoint}): {bodyMessage fault}"
  | invalidEndpoint base => s!"无效的接口地址: {base}"
  | missingAuthCookie endpoint => s!"登录响应缺少认证 Cookie ({endpoint})"

/-- The status of an answer that is no success. -/
def status? : ApiError → Option Nat
  | badResponse _ status _ _ => some status
  | _ => none

/-- The messages of the causes. -/
def causes : ApiError → List String
  | requestFailed _ fault => fault.message :: fault.causes
  | jsonParseFailed _ fault => [bodyMessage fault, fault.message]
  | _ => []

end ApiError

end ExerciseClient
