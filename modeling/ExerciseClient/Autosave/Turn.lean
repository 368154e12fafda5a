import ExerciseClient.Autosave.Basic

/-!
What an autosaver does by itself, in steps until it has to wait for an instant; `step?` is `none`
when it has to wait. Being stopped comes before the next look. A look that comes later
than the leeway allows puts off the one after it by a whole interval, so looks that a long save
delayed are not made up for.
-/

namespace ExerciseClient.Autosaver

/-- What a step gives. -/
abbrev Step := Autosaver × List SaverEffect

/-- The instant of the look after one that was due at `tick` and comes at `now`. -/
def nextTick (a : Autosaver) (tick now : Nat) : Nat :=
  if tick + a.leeway < now then now + a.interval else tick + a.interval

/-- Goes on after a look or its save: waits for the next look, or ends after the last one. -/
def goOn (tick : Option Nat) (a : Autosaver) : Step :=
  match tick with
  | some t => ({ a with phase := .idle t }, [])
  | none => ({ a with phase := .finished }, [.logged (debug s!"自动保存已停止: {a.exercise}")])

/-- Looks at the draft and saves it if need be. -/
def look (now : Nat) (tick : Option Nat) (a : Autosaver) : Step :=
  match a.dirty? with
  | none =>
    let (a, effects) := a.goOn tick
    (a, .looked tick.isNone :: effects)
  | some s =>
    let (answer, store) := a.store.next
    let save : Saving := ⟨s, now, answer⟩
    ({ a with store, phase := .saving save tick },
      .looked tick.isNone :: .requested save.request :: answer.log.map .logged)

/-- Takes the answer to a save. -/
def settle (save : Saving) (a : Autosaver) : Autosaver × LogLine :=
  match save.answer.failure with
  | none => ({ a with saved := some save.submission }, info s!"💾 草稿已保存: {a.exercise}")
  | some e => (a, warn s!"保存草稿失败: {e.message}")

/-- One step at an instant; `none` if the autosaver has to wait. -/
def step? (now : Nat) (a : Autosaver) : Option Step :=
  match a.phase with
  | .fresh => some ({ a with phase := .idle (now + a.interval) }, [])
  | .idle tick =>
    if a.stopping then some (a.look now none)
    else if tick ≤ now then some (a.look now (some (a.nextTick tick now)))
    else none
  | .saving save tick =>
    if save.due ≤ now then
      let (a, line) := a.settle save
      let (a, effects) := a.goOn tick
      some (a, .answered save :: .logged line :: effects)
    else none
  | .finished => none

/-- At most `fuel` steps at an instant. -/
def steps (now : Nat) : Nat → Autosaver → Step
  | 0, a => (a, [])
  | fuel + 1, a =>
    match a.step? now with
    | none => (a, [])
    | some (a, effects) =>
      let (a, more) := steps now fuel a
      (a, effects ++ more)

/-- No more steps than this are taken at one instant: begin, save, take the answer, look for the
last time, and take the answer. -/
def work : Nat := 6

/-- The autosaver works until it has to wait. -/
def turn (now : Nat) (a : Autosaver) : Step := a.steps now work

/-- The instant at which a wait ends. -/
def due (a : Autosaver) : Option Nat :=
  match a.phase with
  | .idle tick => some tick
  | .saving save _ => some save.due
  | _ => none

end ExerciseClient.Autosaver
