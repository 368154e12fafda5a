import ExerciseClient.Arithmetic
import ExerciseClient.Channel.Error
import ExerciseClient.Log

/-!
The other side of a channel: what becomes of each connection attempt, and the lines that were set
up. A script of attempts is all that a channel knows of its connector, so a statement about every
script is one about every connector.
-/

namespace ExerciseClient

/-- What comes in on a line. -/
inductive Inbound where
  | text (s : String)
  /-- A frame that is only logged. -/
  | notice (line : LogLine)
  | broken (error : TransportError)
  | ended
deriving DecidableEq, Repr

/-- How the close of a line goes. -/
inductive Closing where
  | succeeds
  | hangs
  | fails (error : TransportError)
deriving DecidableEq, Repr

/-- A line, which one accepted connection set up, seen from both ends. -/
structure Line where
  /-- What has come in and was not read. -/
  inbox : List Inbound
  /-- After how many more frames sending fails, and why. -/
  limit : Option (Nat × TransportError)
  closing : Closing
  /-- What comes in after each frame that is sent. -/
  replies : List (List Inbound)
  /-- The client reads it. -/
  held : Bool
  /-- The server ended it. -/
  hungUp : Bool
deriving DecidableEq, Repr

namespace Line

/-- A line without limit whose close succeeds. -/
def plain : Line where
  inbox := []
  limit := none
  closing := .succeeds
  replies := []
  held := true
  hungUp := false

/-- Sends a frame; `error` if the line takes no more. -/
def send (l : Line) : Except TransportError Line :=
  let replied : Line :=
    { l with inbox := l.inbox ++ l.replies.head?.getD [], replies := l.replies.tail }
  match l.limit with
  | none => .ok replied
  | some (n + 1, e) => .ok { replied with limit := some (n, e) }
  | some (0, e) => .error e

/-- How much there is to read at most. -/
def load (l : Line) : Nat := l.inbox.length + l.replies.flatten.length

/-- The client stops reading. -/
def release (l : Line) : Line := { l with held := false }

/-- The server sends; whether there was anyone to read it. -/
def deliver (l : Line) (i : Inbound) : Bool × Line :=
  if l.held && !l.hungUp then (true, { l with inbox := l.inbox ++ [i] }) else (false, l)

/-- The server ends the line; whether it had not done so before. -/
def hangUp (l : Line) : Bool × Line :=
  if l.hungUp then (false, l)
  else (true, { l with hungUp := true, inbox := l.inbox ++ [.ended] })

end Line

/-- The answer to a connection attempt. -/
inductive Answer where
  | refused (error : TransportError)
  /-- The connection stands; lines are logged when it does. -/
  | accepted (log : Log) (line : Line)
deriving DecidableEq, Repr

/-- What becomes of a connection attempt. -/
inductive Attempt where
  | unanswered
  | answered (delay : Nat) (answer : Answer)
deriving DecidableEq, Repr

/-- How much there is to read at most after an attempt. -/
def Attempt.load : Attempt → Nat
  | answered _ (.accepted _ l) => l.load
  | _ => 0

/-- Makes connections: each attempt goes as the script has it, and all after its end alike. -/
structure Connector where
  script : List Attempt
  afterwards : Attempt
deriving DecidableEq, Repr

namespace Connector

/-- The next attempt. -/
def next (c : Connector) : Attempt × Connector :=
  match c.script with
  | [] => (c.afterwards, c)
  | a :: rest => (a, { c with script := rest })

/-- How much there is to read at most on all lines to come, and how many attempts are scripted. -/
def load (c : Connector) : Nat :=
  c.afterwards.load + (c.script.map Attempt.load).sum + c.script.length

end Connector

end ExerciseClient
