import ExerciseClient.Session.Turn

/-!
A session on a clock that moves only when everyone waits. Those who are called take their turns in
the order in which they were called; of those whose waits end at one instant, the one who began to
wait first goes first.
-/

namespace ExerciseClient

/-- A session with its clock. -/
structure Stage where
  /-- The clock, in milliseconds. -/
  now : Nat
  session : Session
  /-- Those who were called and had no turn since. -/
  ready : List Party
  /-- Those who wait for an instant, in the order in which they began to. -/
  alarms : List (Party × Nat)
  /-- What happened when, the newest first. -/
  journal : List (Nat × Happening)

namespace Stage

/-- A session at the start of its clock: everyone is called once. -/
def ofSession (s : Session) : Stage := ⟨0, s, [.channel, .autosaver], [], []⟩

/-- Puts what happens now into the journal. -/
def record (happenings : List Happening) (s : Stage) : Stage :=
  { s with journal := (happenings.map fun h => (s.now, h)).reverse ++ s.journal }

/-- Calls a party, who takes a turn once for several calls. -/
def call (s : Stage) (p : Party) : Stage :=
  if p ∈ s.ready then s else { s with ready := s.ready ++ [p] }

/-- Notes for what a party waits. -/
def watch (p : Party) (s : Stage) : Stage :=
  match s.session.due p with
  | none => { s with alarms := s.alarms.filter (·.1 != p) }
  | some t =>
    if (p, t) ∈ s.alarms then s
    else { s with alarms := s.alarms.filter (·.1 != p) ++ [(p, t)] }

/-- A party takes its turn. -/
def act (p : Party) (s : Stage) : Stage :=
  let t := s.session.turn s.now p
  ({ s with session := t.session }.record t.happenings |>.watch p) |> t.called.foldl call

/-- At most `fuel` turns. -/
def settleWithin : Nat → Stage → Stage
  | 0, s => s
  | fuel + 1, s =>
    match s.ready with
    | [] => s
    | p :: rest => settleWithin fuel ({ s with ready := rest }.act p)

/-- Turns are taken until everyone waits. A run is called by the channel at most once, and calls it
at most once. -/
def settle (s : Stage) : Stage :=
  s.settleWithin (2 * (s.ready.length + s.session.runs.length + 1))

/-- The next instant at which a wait ends. -/
def nextAlarm (s : Stage) : Option Nat := (s.alarms.map (·.2)).min?

/-- Moves the clock and calls those whose waits have ended. -/
def moveTo (t : Nat) (s : Stage) : Stage :=
  let (rung, alarms) := s.alarms.partition (·.2 ≤ t)
  (rung.map (·.1)).foldl call { s with now := t, alarms }

/-- Time passes from `now` up to `target`, or until something holds while everyone waits; turns that
are due at `target` are still to be taken. -/
def passTo (holds : Session → Bool) (target : Nat) (now : Nat) (s : Stage) : Stage :=
  let s := s.settle
  if holds s.session then s
  else
    match s.nextAlarm with
    | none => s.moveTo target
    | some t =>
      if now < t ∧ t < target then passTo holds target t (s.moveTo t) else s.moveTo target
termination_by target - now
decreasing_by omega

/-- A span of time passes. -/
def advance (ms : Nat) (s : Stage) : Stage :=
  if ms = 0 then s else s.passTo (fun _ => false) (s.now + ms) s.now

/-- Time passes until something holds that a party brings about; the party waits for at most `fuel`
instants. -/
def await (p : Party) (holds : Session → Bool) : Nat → Stage → Stage
  | 0, s => s.settle
  | fuel + 1, s =>
    let s := s.settle
    if holds s.session then s
    else
      match s.session.due p with
      | none => s
      | some t => await p holds fuel (s.passTo holds t s.now)

/-- The wait for a connection is over: it stands, or the channel is torn down. -/
def isDecided (s : Session) : Bool :=
  match s.channel.state with
  | .opened | .tornDown => true
  | _ => false

/-- Waits at most a span until the channel stands; whether it stands. -/
def waitConnected (ms : Nat) (s : Stage) : Bool × Stage :=
  let s := if isDecided s.session || ms = 0 then s else s.passTo isDecided (s.now + ms) s.now
  (s.session.channel.isConnected, s)

/-! ### The owner and the server -/

/-- Changes the channel and calls it. -/
def onChannel (f : Channel → Channel) (s : Stage) : Stage :=
  { s with session := { s.session with channel := f s.session.channel } }.call .channel

/-- Hands the channel a submission. -/
def submit (exercise : String) (submission : Except String Json.Value) (s : Stage) :
    Except SubmitError Unit × Stage :=
  let (answer, channel, log) := s.session.channel.submit exercise submission
  let s := { s with session := { s.session with channel } }.record (log.map .logged)
  (answer, if answer.isOk then s.call .channel else s)

/-- The server acts on a line; whether it could. -/
def serve (line : Option Nat) (a : Channel.ServerAction) (s : Stage) : Bool × Stage :=
  let (done, channel) := s.session.channel.serve line a
  let s := { s with session := { s.session with channel } }
  (done, if done then s.call .channel else s)

/-- Tears the channel down. -/
def tearDown (s : Stage) : Stage := s.onChannel Channel.tearDown

/-- Tears the channel down and waits for its end. -/
def closeChannel (s : Stage) : Stage :=
  s.tearDown.await .channel (·.channel.isFinished) 2

/-- Changes the draft. -/
def edit (submission : Submission) (s : Stage) : Stage :=
  { s with session := s.session.edit submission }

/-- Asks the autosaver to stop. -/
def stopSaving (s : Stage) : Stage :=
  { s with session := { s.session with autosaver := s.session.autosaver.stop } }.call .autosaver

/-- Asks the autosaver to stop and waits for its end. -/
def closeSaver (s : Stage) : Stage :=
  s.stopSaving.await .autosaver (·.autosaver.isFinished) 3

/-- Starts a run; its number. -/
def startRun (submission : Submission) (s : Stage) : Nat × Stage :=
  let number := s.session.runs.length
  (number, { s with session := s.session.startRun submission }.call (.run number))

/-- Ends the session: runs are cancelled, the draft is saved, the channel is closed. -/
def finish (s : Stage) : Stage :=
  let s := { s with session := s.session.cancelRuns }.closeSaver.closeChannel
  s.record [.logged (info s!"✓ 练习会话已结束: {s.session.exercise}")]

/-- What happened since the last time, the oldest first. -/
def takeJournal (s : Stage) : List (Nat × Happening) × Stage :=
  (s.journal.reverse, { s with journal := [] })

end Stage

end ExerciseClient
