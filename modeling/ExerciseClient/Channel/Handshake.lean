import ExerciseClient.Channel.Line
import ExerciseClient.Http.Cookie
import ExerciseClient.Http.Target
import ExerciseClient.Url.Basic

/-!
How a connection of a channel is set up: the handshake carries the same cookie as requests to the
API, and a token that a header cannot carry is refused before anything is sent.
-/

namespace ExerciseClient

/-- How a handshake ends. -/
inductive Handshake where
  /-- No connection could be made, or none that is encrypted as the address asks; the message says
  why. -/
  | unreachable (message : String)
  /-- The connection was closed without an answer. -/
  | dropped
  | unanswered
  | rejected (status : Nat)
  | accepted (line : Line)
deriving DecidableEq, Repr

/-- Why a handshake failed. -/
inductive HandshakeFault where
  | badAddress (e : Http.TargetError)
  | badToken
  | unsupportedScheme
  | unreachable (message : String)
  /-- A token that is not ASCII is found out when the handshake is written. -/
  | foreignToken (cookie : String)
  | dropped
  | rejected (status : Nat)
deriving DecidableEq, Repr

namespace HandshakeFault

/-- A byte of a header value in a message. -/
def byteText (b : UInt8) : List Char :=
  let n := b.toNat
  if b == 0x22 then ['\\', '"']
  else if (0x20 ≤ n && n < 0x7F) || n == 9 then [Char.ofNat n]
  else ['\\', 'x', Nat.digitChar (n / 16), Nat.digitChar (n % 16)]

/-- The message of a fault. -/
def message : HandshakeFault → String
  | badAddress e => s!"HTTP format error: {e.message}"
  | badToken => "无效的认证令牌: failed to parse header value"
  | unsupportedScheme => "URL error: URL scheme not supported"
  | unreachable message => message
  | foreignToken cookie =>
    "UTF-8 encoding error: failed to convert header to a str for header name 'cookie' with value: \""
      ++ String.ofList (cookie.toUTF8.toList.flatMap byteText) ++ "\""
  | dropped => "WebSocket protocol error: Handshake not finished"
  | rejected status =>
    let reason := (Http.reason? status).getD "<unknown status code>"
    s!"HTTP error: {status} {reason}"

end HandshakeFault

namespace Handshake

/-- The port that is connected to: the one in the address, or the scheme's. -/
def port? (u : Url) (t : Http.Target) : Option Nat :=
  t.port?.or <|
    if u.scheme = "ws" then some 80 else if u.scheme = "wss" then some 443 else none

/-- What keeps a connection from being made. -/
def fault? (u : Url) (token : Option String) : Option HandshakeFault :=
  match Http.Target.read u.text with
  | .error e => some (.badAddress e)
  | .ok t =>
    if (token.map Http.authCookie).any (!Http.isHeaderValue ·) then some .badToken
    else if (port? u t).isNone then some .unsupportedScheme
    else none

/-- What keeps the handshake from being written once a connection stands. -/
def lateFault? (u : Url) (token : Option String) : Option HandshakeFault :=
  if u.scheme ≠ "ws" ∧ u.scheme ≠ "wss" then some .unsupportedScheme
  else
    (token.map Http.authCookie).bind fun cookie =>
      if cookie.toList.all (·.toNat < 0x80) then none else some (.foreignToken cookie)

/-- The target that a handshake asks for: path and query. -/
def target (u : Url) : String :=
  let path := u.path.text
  (if path.isEmpty then "/" else path) ++
    match u.query with
    | none => ""
    | some q => "?" ++ q

/-- The attempt of a handshake. -/
def attempt (u : Url) (token : Option String) (h : Handshake) : Attempt :=
  let refused (f : HandshakeFault) : Attempt :=
    .answered 0 (.refused (.connect u.text f.message))
  match fault? u token, h with
  | some f, _ => refused f
  | none, .unreachable message => refused (.unreachable message)
  | none, h =>
    match lateFault? u token, h with
    | some f, _ => refused f
    | none, .dropped => refused .dropped
    | none, .rejected status => refused (.rejected status)
    | none, .accepted line =>
      .answered 0 (.accepted
        [debug s!"WebSocket 握手完成: {u.text} (状态: 101 Switching Protocols)"] line)
    | none, _ => .unanswered

/-- The handshake reaches the server. -/
def isSeen (u : Url) (token : Option String) (h : Handshake) : Bool :=
  match h with
  | .unreachable _ => false
  | _ => (fault? u token).isNone && (lateFault? u token).isNone

end Handshake

/-- The connector of a token for an address. -/
def Connector.ofHandshakes (u : Url) (token : Option String) (script : List Handshake)
    (afterwards : Handshake) : Connector :=
  ⟨script.map (Handshake.attempt u token), Handshake.attempt u token afterwards⟩

end ExerciseClient
