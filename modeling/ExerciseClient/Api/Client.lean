import ExerciseClient.Api.Error
import ExerciseClient.Autosave.Basic
import ExerciseClient.Config.Basic
import ExerciseClient.Exercise.Description
import ExerciseClient.Exercise.Progress
import ExerciseClient.Http.Cookie
import ExerciseClient.Http.Target
import ExerciseClient.Text.Utf8

/-!
The API client: log in, describe an exercise, load and save the progress on it. A call is given how
its exchange goes and gives the requests of the client that reached a peer, the lines that it logs,
and the client afterwards; only a login that succeeds changes the token.
-/

namespace ExerciseClient

open Json
open Http (Request Response Exchange)

/-- An API client. -/
structure ApiClient where
  base : Url
  token : Option String
deriving DecidableEq, Repr

/-- What a call gives. -/
structure ApiCall (α : Type) where
  result : Except ApiError α
  requests : List Request
  log : Log
  client : ApiClient

/-- The body of an answer that reports an error. -/
structure ErrorBody where
  error : Option String
  code : Option (Option String)

namespace ErrorBody

/-- The record of an error. -/
def schema : Schema ErrorBody where
  name := "ErrorBody"
  fields := [
    .of "error" true (·.error) (fun a r => { r with error := some a }) .text,
    .of "code" false (·.code) (fun a r => { r with code := some a }) (.optional .text)]
  blank := ⟨none, none⟩

/-- Message and code of an error's body: those of its record, or the body itself; a blank body has
the phrase of its status. -/
def read (status : Nat) (body : List Char) : String × Option String :=
  match decodeText schema.read (String.ofList body) with
  | .ok r => (r.error.getD "", r.code.getD none)
  | .error _ =>
    if Text.allBlank (String.ofList body) then ((Http.reason? status).getD "unknown", none)
    else (String.ofList body, none)

end ErrorBody

/-- The JSON value of a login. -/
def loginJson (email password : String) : Value :=
  .obj [("email", .str email), ("password", .str password)]

namespace ApiClient

/-- The client that settings give. -/
def ofConfig (c : Config) : Except AddressError ApiClient := do
  return ⟨← c.apiUrl, c.authToken⟩

/-- The address of an endpoint: segments behind the base. -/
def endpoint (c : ApiClient) (segments : List String) : Except ApiError Url :=
  match c.base.extendPath? segments with
  | none => .error (.invalidEndpoint c.base.text)
  | some u => .ok u

/-- A request that carries the token, if there is one. -/
def request (c : ApiClient) (method : String) (u : Url) (body : Option Value) : Request where
  method := method
  target := { u.withoutUserInfo with fragment := none }.text
  cookie := c.token.map Http.authCookie
  body := body.map Value.text

/-- What keeps a request from being sent. -/
def fault? (c : ApiClient) (u : Url) : Option RequestFault :=
  let shown := u.withoutUserInfo.text
  if u.host.isNone then some (.badScheme u.text)
  else if (c.token.map Http.authCookie).any (!Http.isHeaderValue ·) then some .badHeader
  else if u.scheme ≠ "http" ∧ u.scheme ≠ "https" then some (.badScheme shown)
  else if (Http.Target.read shown).toOption.isNone then some (.badAddress shown)
  else none

/-- What a client is given of an exchange that asks an address first. -/
def outcome (url : String) : Exchange → Except RequestFault Response
  | .unreachable causes => .error (.unreachable url causes)
  | .dropped => .error (.dropped url)
  | .answered r => .ok r
  | .redirected target rest => outcome target rest
  | .misdirected causes => .error (.misdirected url causes)

/-- Sends a request; an answer that is no success is an error. -/
def send (c : ApiClient) (method : String) (u : Url) (body : Option Value) (x : Exchange) :
    Except ApiError Response × List Request :=
  match c.fault? u with
  | some f => (.error (.requestFailed u.text f), [])
  | none =>
    let result :=
      match outcome u.withoutUserInfo.text x with
      | .error f => .error (.requestFailed u.text f)
      | .ok r =>
        if r.isSuccess then .ok r
        else
          let (message, code) := ErrorBody.read r.status (Text.Utf8.decodeLossy r.body)
          .error (.badResponse u.text r.status message code)
    (result, if x.isSent then [c.request method u body] else [])

/-- A call of an endpoint: `name` is what is logged, and `use` what is made of the answer. -/
def call {α : Type} (c : ApiClient) (name method : String) (segments : List String)
    (body : Option Value) (x : Exchange) (use : Url → Response → Except ApiError α) : ApiCall α :=
  match c.endpoint segments with
  | .error e => ⟨.error e, [], [], c⟩
  | .ok u =>
    let (r, requests) := c.send method u body x
    ⟨r.bind (use u), requests, [debug s!"{name}: {u.text}"], c⟩

/-- Reads the body of an answer. -/
def readBody {α : Type} (d : Decoder α) (u : Url) (r : Response) : Except ApiError α :=
  let read : Except Fault α :=
    match Text.Utf8.decode? r.body with
    | some cs => decodeText d (String.ofList cs)
    | none => .error .malformed
  read.mapError (.jsonParseFailed u.text)

/-- Logs in; the token of the answer is the client's from then on. -/
def login (c : ApiClient) (email password : String) (x : Exchange) : ApiCall String :=
  let r := c.call "登录" "POST" ["auth", "login"] (some (loginJson email password)) x fun u r =>
    match r.authToken? with
    | some token => .ok token
    | none => .error (.missingAuthCookie u.text)
  match r.result with
  | .ok token =>
    { r with log := r.log ++ [info s!"✓ 已登录: {email}"], client := { c with token := some token } }
  | .error _ => r

/-- Describes an exercise. -/
def exercise (c : ApiClient) (id : String) (x : Exchange) : ApiCall Exercise :=
  c.call "获取练习" "GET" ["exercises", id] none x (readBody Exercise.decode)

/-- Where the progress on an exercise is. -/
abbrev progressSegments (id : String) : List String := ["me", "exercises", id]

/-- Loads the progress on an exercise. -/
def progress (c : ApiClient) (id : String) (x : Exchange) : ApiCall Progress :=
  c.call "获取练习进度" "GET" (progressSegments id) none x (readBody Progress.decode)

/-- Saves a submission. -/
def save (c : ApiClient) (id : String) (r : SaveRequest) (x : Exchange) : ApiCall Unit :=
  c.call "保存草稿" "PUT" (progressSegments id) (some r.toJson) x fun _ _ => .ok ()

/-- How a save goes, which does not hang on what is saved. -/
def saveAnswer (c : ApiClient) (id : String) (x : Exchange) : SaveAnswer :=
  let r := c.call "保存草稿" "PUT" (progressSegments id) none x fun _ _ => Except.ok ()
  { log := r.log, delay := 0,
    failure := match r.result with
      | .ok _ => none
      | .error e => some e }

end ApiClient

end ExerciseClient
