import ExerciseClient.Backoff
import ExerciseClient.Json.Decode
import ExerciseClient.Log
import ExerciseClient.Url.Reader

/-!
The client's settings: where the back end is, who the learner is, and how long to wait for what.
Settings come from a record, and environment variables override its fields one by one.
-/

namespace ExerciseClient

open Json

/-- The settings. -/
structure Config where
  serverOrigin : String
  wsPath : String
  apiBasePath : String
  authToken : Option String
  email : Option String
  password : Option String
  backoffBaseMs : Nat
  backoffMaxMs : Nat
  autosaveIntervalSecs : Nat
  resultTimeoutSecs : Nat
  connectTimeoutSecs : Nat
  language : String
  verboseLogging : Bool
deriving DecidableEq, Repr

/-- Why settings do not give an address. -/
inductive AddressError where
  | invalidUrl (url : String) (cause : Url.UrlError)
  | unsupportedScheme (scheme : String)
deriving DecidableEq, Repr

/-- The message of an error. -/
def AddressError.message : AddressError → String
  | invalidUrl url cause => s!"无效的服务地址 '{url}': {cause.message}"
  | unsupportedScheme scheme => s!"不支持的协议: {scheme}"

namespace Config

/-- The settings without a file or variables. -/
def standard : Config where
  serverOrigin := "http://localhost:8080"
  wsPath := "/ws"
  apiBasePath := "/api/v1"
  authToken := none
  email := none
  password := none
  backoffBaseMs := 1000
  backoffMaxMs := 30000
  autosaveIntervalSecs := 5
  resultTimeoutSecs := 60
  connectTimeoutSecs := 10
  language := "python"
  verboseLogging := false

/-! ### Reading -/

/-- Settings that are being read. -/
structure Draft where
  serverOrigin : Option String
  wsPath : Option String
  apiBasePath : Option String
  authToken : Option (Option String)
  email : Option (Option String)
  password : Option (Option String)
  backoffBaseMs : Option Nat
  backoffMaxMs : Option Nat
  autosaveIntervalSecs : Option Nat
  resultTimeoutSecs : Option Nat
  connectTimeoutSecs : Option Nat
  language : Option String
  verboseLogging : Option Bool

/-- The record of settings. -/
def schema : Schema Draft where
  name := "Config"
  fields := [
    .of "server_origin" false (·.serverOrigin) (fun a r => { r with serverOrigin := some a }) .text,
    .of "ws_path" false (·.wsPath) (fun a r => { r with wsPath := some a }) .text,
    .of "api_base_path" false (·.apiBasePath) (fun a r => { r with apiBasePath := some a }) .text,
    .of "auth_token" false (·.authToken) (fun a r => { r with authToken := some a })
      (.optional .text),
    .of "email" false (·.email) (fun a r => { r with email := some a }) (.optional .text),
    .of "password" false (·.password) (fun a r => { r with password := some a }) (.optional .text),
    .of "backoff_base_ms" false (·.backoffBaseMs) (fun a r => { r with backoffBaseMs := some a })
      .nat64,
    .of "backoff_max_ms" false (·.backoffMaxMs) (fun a r => { r with backoffMaxMs := some a })
      .nat64,
    .of "autosave_interval_secs" false (·.autosaveIntervalSecs)
      (fun a r => { r with autosaveIntervalSecs := some a }) .nat64,
    .of "result_timeout_secs" false (·.resultTimeoutSecs)
      (fun a r => { r with resultTimeoutSecs := some a }) .nat64,
    .of "connect_timeout_secs" false (·.connectTimeoutSecs)
      (fun a r => { r with connectTimeoutSecs := some a }) .nat64,
    .of "language" false (·.language) (fun a r => { r with language := some a }) .text,
    .of "verbose_logging" false (·.verboseLogging) (fun a r => { r with verboseLogging := some a })
      .bool]
  blank := ⟨none, none, none, none, none, none, none, none, none, none, none, none, none⟩

/-- The settings of a draft; what it lacks is standard. -/
def Draft.finish (r : Draft) : Config where
  serverOrigin := r.serverOrigin.getD standard.serverOrigin
  wsPath := r.wsPath.getD standard.wsPath
  apiBasePath := r.apiBasePath.getD standard.apiBasePath
  authToken := r.authToken.getD standard.authToken
  email := r.email.getD standard.email
  password := r.password.getD standard.password
  backoffBaseMs := r.backoffBaseMs.getD standard.backoffBaseMs
  backoffMaxMs := r.backoffMaxMs.getD standard.backoffMaxMs
  autosaveIntervalSecs := r.autosaveIntervalSecs.getD standard.autosaveIntervalSecs
  resultTimeoutSecs := r.resultTimeoutSecs.getD standard.resultTimeoutSecs
  connectTimeoutSecs := r.connectTimeoutSecs.getD standard.connectTimeoutSecs
  language := r.language.getD standard.language
  verboseLogging := r.verboseLogging.getD standard.verboseLogging

/-- Reads settings. -/
def decode : Decoder Config := fun p t => do
  return (← schema.read p t).finish

/-! ### Environment variables -/

/-- The values of variables by name. -/
abbrev Lookup := String → Option String

/-- The variables that override fields. -/
def variableNames : List String :=
  ["CODIM_SERVER_ORIGIN", "CODIM_WS_PATH", "CODIM_API_BASE_PATH", "CODIM_AUTH_TOKEN",
    "CODIM_EMAIL", "CODIM_PASSWORD", "CODIM_BACKOFF_BASE_MS", "CODIM_BACKOFF_MAX_MS",
    "CODIM_AUTOSAVE_INTERVAL_SECS", "CODIM_RESULT_TIMEOUT_SECS", "CODIM_CONNECT_TIMEOUT_SECS",
    "CODIM_LANGUAGE", "CODIM_VERBOSE_LOGGING"]

/-- A natural number of 64 bits in decimal, with or without a plus sign. -/
def readNat64? (text : String) : Option Nat :=
  let digits :=
    match text.toList with
    | '+' :: rest => rest
    | cs => cs
  if digits.isEmpty || !digits.all Char.isDigit then none
  else
    let n := digits.foldl (fun n c => n * 10 + (c.toNat - 48)) 0
    if n < 2 ^ 64 then some n else none

/-- A truth value. -/
def readBool? (text : String) : Option Bool :=
  if text = "true" then some true else if text = "false" then some false else none

/-- A number that a variable overrides; a variable that holds no number leaves it and is logged. -/
def overrideNat (lookup : Lookup) (key : String) (current : Nat) : Nat × Log :=
  match lookup key with
  | none => (current, [])
  | some value =>
    match readNat64? value with
    | some n => (n, [])
    | none =>
      (current, [warn s!"环境变量 {key} 的值 '{value}' 无法解析为整数，使用 {current}"])

/-- The settings with the variables that are set. -/
def withOverrides (c : Config) (lookup : Lookup) : Config × Log :=
  let (backoffBaseMs, log₁) := overrideNat lookup "CODIM_BACKOFF_BASE_MS" c.backoffBaseMs
  let (backoffMaxMs, log₂) := overrideNat lookup "CODIM_BACKOFF_MAX_MS" c.backoffMaxMs
  let (autosaveIntervalSecs, log₃) :=
    overrideNat lookup "CODIM_AUTOSAVE_INTERVAL_SECS" c.autosaveIntervalSecs
  let (resultTimeoutSecs, log₄) :=
    overrideNat lookup "CODIM_RESULT_TIMEOUT_SECS" c.resultTimeoutSecs
  let (connectTimeoutSecs, log₅) :=
    overrideNat lookup "CODIM_CONNECT_TIMEOUT_SECS" c.connectTimeoutSecs
  ({ serverOrigin := (lookup "CODIM_SERVER_ORIGIN").getD c.serverOrigin
     wsPath := (lookup "CODIM_WS_PATH").getD c.wsPath
     apiBasePath := (lookup "CODIM_API_BASE_PATH").getD c.apiBasePath
     authToken := (lookup "CODIM_AUTH_TOKEN").or c.authToken
     email := (lookup "CODIM_EMAIL").or c.email
     password := (lookup "CODIM_PASSWORD").or c.password
     backoffBaseMs, backoffMaxMs, autosaveIntervalSecs, resultTimeoutSecs, connectTimeoutSecs
     language := (lookup "CODIM_LANGUAGE").getD c.language
     verboseLogging := ((lookup "CODIM_VERBOSE_LOGGING").bind readBool?).getD c.verboseLogging },
    log₁ ++ log₂ ++ log₃ ++ log₄ ++ log₅)

/-! ### Addresses -/

/-- The origin that all addresses share. -/
def origin (c : Config) : Except AddressError Url :=
  match Url.read c.serverOrigin with
  | .ok u => .ok u.bare
  | .error e => .error (.invalidUrl c.serverOrigin e)

/-- The scheme of the channel for the scheme of the origin; encryption is kept. -/
def channelScheme? (scheme : String) : Option String :=
  if scheme = "https" ∨ scheme = "wss" then some "wss"
  else if scheme = "http" ∨ scheme = "ws" then some "ws"
  else none

/-- The address of the channel. -/
def channelUrl (c : Config) : Except AddressError Url := do
  let u ← c.origin
  match channelScheme? u.scheme with
  | none => .error (.unsupportedScheme u.scheme)
  | some scheme => .ok ((u.withScheme scheme).withPath c.wsPath)

/-- The address of the API. -/
def apiUrl (c : Config) : Except AddressError Url := do
  let u ← c.origin
  if u.scheme = "http" ∨ u.scheme = "https" then .ok (u.withPath c.apiBasePath)
  else .error (.unsupportedScheme u.scheme)

/-! ### Spans and credentials -/

/-- The backoff policy: at least a millisecond, and a maximum that is no less than the base. -/
def backoff (c : Config) : Backoff :=
  let base := Nat.max c.backoffBaseMs 1
  ⟨base, Nat.max c.backoffMaxMs base⟩

/-- Email and password, if both are set and there is no token yet. -/
def loginCredentials (c : Config) : Option (String × String) :=
  match c.authToken, c.email, c.password with
  | none, some email, some password => some (email, password)
  | _, _, _ => none

end Config

end ExerciseClient
