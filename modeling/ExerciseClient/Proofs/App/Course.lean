import ExerciseClient.Proofs.App.Start
import ExerciseClient.Proofs.Session.Errand

/-! The course of the application from its start to its end is an errand of its session. To run a
file that can be read is to make its code the draft, to run it, and to wait until the run has ended;
to shut down is to cancel, stop and close. The journal tells all of it. -/

namespace ExerciseClient

namespace App

open Stage

/-- How the end of a run is reported. -/
def reported : Except RunError RunOutcome → Except AppError Verdict
  | .ok o => .ok o.verdict
  | .error e => .error (.run e)

/-- What is logged of the end of a run. -/
def report : Except RunError RunOutcome → Log
  | .ok o => o.result.report ++ o.verdict.report
  | .error _ => []

/-- The code of a file as a submission. -/
def sourceOf (a : App) (files : Files) (path : String) : Option Submission :=
  (files.readText path).toOption.map a.stage.session.codeOf

section

variable (a : App) (path code : String)

/-- The line that is logged when a file is run. -/
def runLine : LogLine :=
  let size := Text.Utf8.length code
  info s!"📄 运行 {path} ({size} 字节, 语言: {a.config.language})"

/-- The stage with some code as its draft. -/
def drafted : Stage :=
  (a.stage.record [.logged (a.runLine path code)]).edit (a.stage.session.codeOf code)

/-- The stage when the wait for the run of the draft is over. -/
def runOver : Stage :=
  let number := a.stage.session.runs.length
  ((a.drafted path code).startRun (a.stage.session.codeOf code)).2.await (.run number)
    (runEnded number) 1

theorem ended_runOver : (a.runOver path code).Ended a.stage.session.runs.length :=
  (a.drafted path code).ended_startRun (a.stage.session.codeOf code)

variable {files : Files}

theorem run_of_unreadable {path : String} {e : ReadError} (he : files.readText path = .error e) :
    a.run files path = (.error (.file path e), a) := by
  simp only [run, he]

/-- To run a file that can be read is to wait for its run and to log its end. -/
theorem run_of_readable {path code : String} (hcode : files.readText path = .ok code) {run : Run}
    {outcome : Except RunError RunOutcome}
    (hr : (a.runOver path code).session.runs[a.stage.session.runs.length]? = some run)
    (ho : run.phase = .ended outcome) : a.run files path =
      (reported outcome, { a with
        stage := (a.runOver path code).record ((report outcome).map .logged) }) := by
  obtain ⟨submission, phase⟩ := run
  obtain rfl : phase = .ended outcome := ho
  rw [App.run, hcode]
  simp only
  split
  · rename_i hr'
    cases hr'.symm.trans hr
    rfl
  · rename_i hr'
    cases hr'.symm.trans hr
    rfl
  · rename_i hno hne
    cases outcome with
    | ok o => exact absurd hr (hno submission o)
    | error e => exact absurd hr (hne submission e)

/-! ### The errand -/

theorem coherent_run (h : a.stage.session.channel.Coherent) (files : Files) (path : String) :
    (a.run files path).2.stage.session.channel.Coherent := by
  cases hcode : files.readText path with
  | error e =>
      rw [a.run_of_unreadable hcode]
      exact h
  | ok code =>
      obtain ⟨run, outcome, hr, ho⟩ := a.ended_runOver path code
      rw [a.run_of_readable hcode hr ho]
      refine (drifts_await ..).coherent ?_
      rwa [startRun, call_session]

/-- What becomes of an application that runs a file and is shut down is an errand of its session. -/
structure Course (files : Files) (w : Session.Errand) : Prop where
  ran : (a.run files path).2.stage.Tells a.stage.deeds
    (w.ran (a.sourceOf files path) a.stage.life)
  last : (a.run files path).2.shutdown.stage.Tells a.stage.deeds
    (w.last (a.sourceOf files path) a.stage.life)
  rest_eq : (a.run files path).2.shutdown =
    { a with stage := (a.run files path).2.shutdown.stage }
  unread : ∀ e, files.readText path = .error e → (a.run files path).1 = .error (.file path e)
  ended : ∀ code, files.readText path = .ok code → ∃ run outcome,
    (a.run files path).2.stage.session.runs[a.stage.session.runs.length]? = some run ∧
      run.phase = .ended outcome ∧ (a.run files path).1 = reported outcome
  saved : (a.run files path).2.shutdown.stage.session.autosaver.isFinished = true
  closed : (a.run files path).2.shutdown.stage.session.channel.isFinished = true
  tornDown : (a.run files path).2.shutdown.stage.session.channel.state = .tornDown

/-- An errand is run up to the shutdown. -/
theorem errand_run (files : Files) (path : String) :
    ∃ running : List Session.Event, (∀ e ∈ running, e.Passes) ∧
      (a.run files path).2.stage.Tells a.stage.deeds
        (a.stage.life.run (Session.Errand.begin (a.sourceOf files path) ++ running)) ∧
      (a.run files path).2 = { a with stage := (a.run files path).2.stage } := by
  cases hcode : files.readText path with
  | error e =>
      have hnone : a.sourceOf files path = none := by rw [sourceOf, hcode]; rfl
      rw [a.run_of_unreadable hcode, hnone]
      exact ⟨[], by simp, a.stage.tells_life, rfl⟩
  | ok code =>
      obtain ⟨run, outcome, hr, ho⟩ := a.ended_runOver path code
      have hsome : a.sourceOf files path = some (a.stage.session.codeOf code) := by
        rw [sourceOf, hcode]
        rfl
      rw [a.run_of_readable hcode hr ho, hsome]
      have hstarted : ((a.drafted path code).startRun (a.stage.session.codeOf code)).2.Tells
          a.stage.deeds (a.stage.life.run (Session.Errand.begin
            (some (a.stage.session.codeOf code)))) :=
        ((a.stage.tells_life.logged [a.runLine path code]).edit _).startRun _
      obtain ⟨running, hpasses, htells⟩ := hstarted.await (.run a.stage.session.runs.length)
        (runEnded a.stage.session.runs.length) 1
      refine ⟨running, hpasses, ?_, rfl⟩
      rw [SessionLife.run_append]
      exact htells.logged (report outcome)

/-- Whatever is run, and whatever the back end does, an application is shut down in the end. -/
theorem exists_course (h : a.stage.session.channel.Coherent) (files : Files) (path : String) :
    ∃ w, a.Course path files w := by
  obtain ⟨running, hrunning, hran, hrest⟩ := a.errand_run files path
  obtain ⟨closing, leaving, hpasses, hlast, hsaved⟩ := hran.finish
  let w : Session.Errand :=
    { opening := []
      running
      closing := closing ++ .channel .tearDown :: leaving
      awaited := by
        intro e he
        simp only [List.nil_append, List.mem_append, List.mem_cons] at he
        rcases he with he | he | rfl | he
        · exact (hrunning e he).isAwaited
        · exact (hpasses e (List.mem_append_left _ he)).isAwaited
        · trivial
        · exact (hpasses e (List.mem_append_right _ he)).isAwaited }
  have hw : (a.run files path).2.shutdown.stage.Tells a.stage.deeds
      (w.last (a.sourceOf files path) a.stage.life) := by
    rw [Session.Errand.last, SessionLife.run_append]
    exact hlast
  have hstopped : (closeSaver { (a.run files path).2.stage with
      session := (a.run files path).2.stage.session.cancelRuns }).session.channel.Coherent := by
    refine (drifts_await ..).coherent ?_
    rw [stopSaving, call_session]
    exact a.coherent_run h files path
  obtain ⟨hclosed, hsilent⟩ := closed_for_good hstopped
  refine ⟨w, hran, hw, ?_, ?_, ?_, hsaved, hclosed, (hsilent []).1⟩
  · rw [shutdown, hrest]
  · intro e he
    rw [a.run_of_unreadable he]
  · intro code hcode
    obtain ⟨run, outcome, hr, ho⟩ := a.ended_runOver path code
    rw [a.run_of_readable hcode hr ho]
    exact ⟨run, outcome, hr, ho, rfl⟩

end

end App

end ExerciseClient
