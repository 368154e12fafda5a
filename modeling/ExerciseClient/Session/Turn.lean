import ExerciseClient.Autosave.Turn
import ExerciseClient.Channel.Turn
import ExerciseClient.Session.Basic

/-!
What the parties of a session do in their turns, and whom they call by it: a run that submits calls
the channel, and a channel that reads results calls the runs that wait for one.
-/

namespace ExerciseClient.Session

/-- What a turn gives: the session, what shows, and those who are called. -/
structure Turn where
  session : Session
  happenings : List Happening
  called : List Party

/-- A result makes a run end at once; without one it ends at its deadline. -/
def checkRun (now : Nat) (number : Nat) (run : Run) (seen deadline : Nat) (s : Session) : Turn :=
  let endWith (outcome : Except RunError RunOutcome) : Turn :=
    ⟨{ s with runs := s.runs.set number { run with phase := .ended outcome } },
      [.runEnded number], []⟩
  match (if seen < s.channel.received then s.channel.last else none) with
  | some r => endWith (.ok (.ofResult r))
  | none =>
    if deadline ≤ now then endWith (.error (.resultTimeout s.exercise s.resultTimeout))
    else ⟨{ s with runs := s.runs.set number { run with phase := .waiting seen deadline } }, [], []⟩

/-- A run begins: its submission is the draft, and it is handed to the channel. -/
def beginRun (now : Nat) (number : Nat) (run : Run) (s : Session) : Turn :=
  let s := s.edit run.submission
  let mismatch : List Happening :=
    if run.submission.kind = s.kind then []
    else
      [.logged (warn s!"提交类型 {run.submission.kind.label} 与练习类型 {s.kind.label} 不一致")]
  let (answer, channel, log) := s.channel.submit s.exercise (.ok run.submission.toJson)
  let s := { s with channel }
  let before := mismatch ++ log.map .logged
  match answer with
  | .error e =>
    ⟨{ s with runs := s.runs.set number { run with phase := .ended (.error (.submit e)) } },
      before ++ [.runEnded number], []⟩
  | .ok _ =>
    let t := s.checkRun now number run channel.received (now + s.resultTimeout * 1000)
    ⟨t.session, before ++ .logged (info s!"🚀 已提交练习: {s.exercise}") :: t.happenings, [.channel]⟩

/-- The runs that wait for a result. -/
def waitingRuns (s : Session) : List Party :=
  (s.runs.zipIdx.filter fun r =>
    match r.1.phase with
    | .waiting .. => true
    | _ => false).map fun r => .run r.2

/-- A party's turn. -/
def turn (now : Nat) (p : Party) (s : Session) : Turn :=
  match p with
  | .channel =>
    let (channel, effects) := s.channel.turn now
    let called := if channel.received = s.channel.received then [] else s.waitingRuns
    ⟨{ s with channel }, effects.map .channel, called⟩
  | .autosaver =>
    let (autosaver, effects) := s.autosaver.turn now
    ⟨{ s with autosaver }, effects.map .autosaver, []⟩
  | .run number =>
    match s.runs[number]? with
    | none => ⟨s, [], []⟩
    | some run =>
      match run.phase with
      | .fresh => s.beginRun now number run
      | .waiting seen deadline => s.checkRun now number run seen deadline
      | .ended _ | .cancelled => ⟨s, [], []⟩

/-- The instant at which a party's wait ends. -/
def due (s : Session) (p : Party) : Option Nat :=
  match p with
  | .channel => s.channel.due
  | .autosaver => s.autosaver.due
  | .run number =>
    match s.runs[number]? with
    | some ⟨_, .waiting _ deadline⟩ => some deadline
    | _ => none

end ExerciseClient.Session
