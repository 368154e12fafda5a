import ExerciseClient.Backoff
import ExerciseClient.Channel.Line
import ExerciseClient.Outcome.Frame
import ExerciseClient.Submission.Request
import ExerciseClient.Text.Quoted

/-!
A submission channel: one lasting connection to the execution back end. It hands out frames, keeps
the newest result, and connects again after each loss until it is torn down. This module holds its
state and what its owner and the server do with it; what it does by itself is `Channel.turn`.
-/

namespace ExerciseClient

/-- The state that a channel shows. -/
inductive ChannelState where
  | connecting
  | opened
  /-- The connection was lost; the span until the next attempt is in milliseconds. -/
  | closed (retryIn : Nat)
  | tornDown
deriving DecidableEq, Repr

/-- A span of milliseconds, in seconds if it is no shorter than one. -/
def spanText (ms : Nat) : String :=
  if ms = 0 then "0ns"
  else if ms < 1000 then s!"{ms}ms"
  else
    let fraction := ((toString (1000 + ms % 1000)).toList.drop 1).reverse.dropWhile (· == '0')
    let point := if fraction.isEmpty then "" else "."
    s!"{ms / 1000}{point}" ++ String.ofList fraction.reverse ++ "s"

/-- The text of a state. -/
def ChannelState.text : ChannelState → String
  | connecting => "Connecting"
  | opened => "Open"
  | closed retryIn => "Closed \x7b retry_in: " ++ spanText retryIn ++ " \x7d"
  | tornDown => "TornDown"

/-- Where a channel is in its life; instants and spans are in milliseconds. -/
inductive Phase where
  /-- It has not begun. -/
  | fresh
  /-- An attempt was made at an instant. -/
  | connecting (attempt : Attempt) (start : Nat)
  /-- Frames wait to be sent on a line. -/
  | pumping (line : Nat) (frames : List String)
  /-- The close of a line began at an instant, to end the channel or only the connection. -/
  | closing (line : Nat) (start : Nat) (forGood : Bool)
  /-- The next attempt is due at an instant. -/
  | waiting (due : Nat)
  | finished
deriving DecidableEq, Repr

/-- How much there is to send on the line at hand, or to read on the one that is awaited. -/
def Phase.load : Phase → Nat
  | connecting attempt _ => attempt.load
  | pumping _ frames => frames.length
  | _ => 0

/-- What shows of a channel's work. -/
inductive ChannelEffect where
  | logged (line : LogLine)
  | entered (state : ChannelState)
  /-- The connector was asked for a connection. -/
  | attempted
  | sent (line : Nat) (text : String)
  /-- A text frame was handed to a line that took it no more. -/
  | unsent (line : Nat) (text : String)
  /-- A text frame was read and classified. -/
  | dispatched (line : Nat) (text : String)
  | called (listener : String) (result : RunResult)
  | closeBegun (line : Nat)
  | closed (line : Nat)
deriving DecidableEq, Repr

/-- A submission channel. -/
structure Channel where
  url : String
  backoff : Backoff
  /-- An attempt that takes longer has failed. -/
  connectTimeout : Nat
  connector : Connector
  /-- The lines that were set up; a line's number is its place. -/
  lines : List Line
  phase : Phase
  state : ChannelState
  /-- The failures since a connection stood. -/
  failures : Nat
  /-- It was torn down. -/
  stopping : Bool
  /-- The line that takes submissions. -/
  slot : Option Nat
  last : Option RunResult
  /-- How many results have come in. -/
  received : Nat
  /-- Who is called with each result. -/
  listener : Option String

namespace Channel

/-- A channel that has not begun. -/
def connect (url : String) (connector : Connector) (backoff : Backoff) (connectTimeout : Nat) :
    Channel where
  url := url
  backoff := backoff
  connectTimeout := connectTimeout
  connector := connector
  lines := []
  phase := .fresh
  state := .connecting
  failures := 0
  stopping := false
  slot := none
  last := none
  received := 0
  listener := none

/-- A connection stands. -/
def isConnected (c : Channel) : Bool := c.state == .opened

/-- Nothing more will happen. -/
def isFinished (c : Channel) : Bool := c.phase == .finished

/-- The text of a channel. -/
def text (c : Channel) : String :=
  "SubmissionChannel \x7b url: " ++ Text.quoted c.url ++ ", state: " ++ c.state.text ++ " \x7d"

/-! ### The owner -/

/-- Takes a submission that was encoded, or says why it was not. -/
def submit (c : Channel) (exercise : String) (submission : Except String Json.Value) :
    Except SubmitError Unit × Channel × Log :=
  match submission with
  | .error reason => (.error (.encode reason), c, [])
  | .ok v =>
    match c.slot, c.phase with
    | some n, .pumping m frames =>
      if n = m then
        (.ok (), { c with phase := .pumping m (frames ++ [(envelope exercise v).text]) },
          [debug s!"📤 已发送提交: {exercise}"])
      else (.error (.notConnected exercise), c, [warn s!"WebSocket 未连接，提交已丢弃: {exercise}"])
    | _, _ => (.error (.notConnected exercise), c, [warn s!"WebSocket 未连接，提交已丢弃: {exercise}"])

/-- Changes who is called with each result. -/
def listen (c : Channel) (listener : Option String) : Channel := { c with listener }

/-- Takes no more submissions and ends as soon as it can. -/
def tearDown (c : Channel) : Channel := { c with slot := none, stopping := true }

/-! ### The server -/

/-- What a server does on a line. -/
inductive ServerAction where
  | deliver (i : Inbound)
  | hangUp
deriving DecidableEq, Repr

/-- What becomes of a line. -/
def ServerAction.on (a : ServerAction) (l : Line) : Bool × Line :=
  match a with
  | deliver i => l.deliver i
  | hangUp => l.hangUp

/-- The server acts on a line, the newest one if none is named; whether it could. -/
def serve (c : Channel) (line : Option Nat) (a : ServerAction) : Bool × Channel :=
  let n := line.getD (c.lines.length - 1)
  match c.lines[n]? with
  | none => (false, c)
  | some l =>
    let (done, l) := a.on l
    (done, { c with lines := c.lines.set n l })

end Channel

end ExerciseClient
