import ExerciseClient.App.Command
import ExerciseClient.Proofs.App.Course
import ExerciseClient.Proofs.Session.Hearing

/-! How the program ends. It ends with success exactly if the application started and the run of
the file passed: a channel that stood took the code, and a text that was read since then is the
result that the run returns. Whatever becomes of the run, an application that started is shut down
before the program ends. -/

namespace ExerciseClient

theorem Verdict.isPassed_ofResult (r : RunResult) : (Verdict.ofResult r).isPassed = r.passed := by
  rw [ofResult]
  split <;> rename_i h
  · exact h.symm
  · exact (Bool.eq_false_iff.mpr h).symm

namespace App

open Session

variable {c : Config} {exercise : String} {b : Backend} {a : App}

/-- The runs of an application are accounted for from its start. -/
theorem Begun.accounts (h : Begun c exercise b a) : ∃ past,
    Accounts False False past exercise a.config.resultTimeoutSecs a.stage.life := by
  let connector :=
    Connector.ofHandshakes a.url a.config.authToken b.handshakes b.laterHandshakes
  obtain ⟨events, -, hdrift⟩ := Stage.drifts_waitConnected (a.config.connectTimeoutSecs * 1000)
    (.ofSession (.ofChannel (.connect a.url.text connector a.config.backoff
      (a.config.connectTimeoutSecs * 1000))))
  obtain ⟨past, hpast⟩ := hdrift []
  have hreported := (Channel.reported_connect 0 a.url.text connector a.config.backoff
    (a.config.connectTimeoutSecs * 1000)).run events
  refine ⟨past, ?_⟩
  rw [Stage.life, h.session_eq, h.now_eq]
  exact accounts_start (hpast ▸ hreported) _ _ _ _ _ False.elim

/-! ### A run that passes -/

/-- A file is run and passes. It can be read, a channel that stands takes its code, a text that is
read since then is a result that passed, and the run returns this result. -/
structure Passes (a : App) (files : Files) (path : String) (w : Errand) (code : String)
    (sooner later : List Event) (since : History) (r : RunResult) : Prop where
  course : a.Course path files w
  readable : files.readText path = .ok code
  events_eq : w.opening ++ Errand.begin (a.sourceOf files path) ++ w.running =
    sooner ++ .poll 0 :: later
  history_eq : (w.ran (a.sourceOf files path) a.stage.life).history =
    ((a.stage.life.run sooner).next (.poll 0)).history ++ since
  hears : Hears (a.stage.life.run sooner) since 0 (a.stage.session.codeOf code) r
  returned : ∃ run, (a.run files path).2.stage.session.runs[0]? = some run ∧
    run.phase = .ended (.ok (.ofResult r))
  passed : r.passed = true

/-- What is returned was heard by the run of the file. -/
theorem Begun.passes (h : Begun c exercise b a) {files : Files} {path code : String} {w : Errand}
    (hw : a.Course path files w) (hcode : files.readText path = .ok code) {run : Run}
    {o : RunOutcome} (hr : (a.run files path).2.stage.session.runs[0]? = some run)
    (ho : run.phase = .ended (.ok o)) (hpassed : o.verdict.isPassed = true) :
    ∃ sooner later since, a.Passes files path w code sooner later since o.result := by
  obtain ⟨past, haccounts⟩ := h.accounts
  have hran : Accounts False False past exercise a.config.resultTimeoutSecs
      (w.ran (a.sourceOf files path) a.stage.life) := haccounts.run False.elim False.elim
  obtain ⟨hresult, sooner, later, since, submission, hevents, hhistory, hhears⟩ :=
    hran.hears (by simp [Stage.life, NotBegun]) h.coherent (hw.ran.session_eq ▸ hr) ho
  have hsource : a.sourceOf files path = some submission := by
    refine w.source_of_run h.runs_eq ?_ (List.mem_of_getElem? hhears.fresh)
    rw [hevents]
    exact List.subset_append_left ..
  have hcodeOf : a.sourceOf files path = some (a.stage.session.codeOf code) := by
    rw [sourceOf, hcode]
    rfl
  obtain rfl := Option.some.inj (hcodeOf.symm.trans hsource)
  refine ⟨sooner, later, since, hw, hcode, hevents, hhistory, hhears, ⟨run, hr, hresult ▸ ho⟩, ?_⟩
  rw [← Verdict.isPassed_ofResult, ← hpassed, hresult]
  rfl

theorem Begun.passes_iff (h : Begun c exercise b a) (files : Files) (path : String) :
    (∃ v, (a.run files path).1 = .ok v ∧ v.isPassed = true) ↔
      ∃ w code sooner later since r, a.Passes files path w code sooner later since r := by
  have hnumber : a.stage.session.runs.length = 0 := by rw [h.runs_eq]; rfl
  constructor
  · rintro ⟨v, hv, hpassed⟩
    obtain ⟨w, hw⟩ := a.exists_course h.coherent files path
    cases hcode : files.readText path with
    | error e => cases (hw.unread e hcode).symm.trans hv
    | ok code =>
        obtain ⟨run, outcome, hr, ho, hreported⟩ := hw.ended code hcode
        rw [hnumber] at hr
        cases outcome with
        | error e => cases hreported.symm.trans hv
        | ok o =>
            obtain rfl := Except.ok.inj (hreported.symm.trans hv)
            obtain ⟨sooner, later, since, hpasses⟩ := h.passes hw hcode hr ho hpassed
            exact ⟨w, code, sooner, later, since, o.result, hpasses⟩
  · rintro ⟨w, code, sooner, later, since, r, hp⟩
    obtain ⟨run, hr, ho⟩ := hp.returned
    obtain ⟨run', outcome, hr', ho', hreported⟩ := hp.course.ended code hp.readable
    rw [hnumber] at hr'
    obtain rfl := Option.some.inj (hr.symm.trans hr')
    obtain rfl := RunPhase.ended.inj (ho.symm.trans ho')
    exact ⟨.ofResult r, hreported, (Verdict.isPassed_ofResult r).trans hp.passed⟩

end App

namespace Invocation

open App

/-- A command line with settings that can be loaded starts the application. -/
structure Launches (i : Invocation) (exercise source : String) (c : Config) (a : App) : Prop where
  loaded : ∃ rest log, i.arguments = exercise :: source :: rest ∧
    Config.load i.files (rest.head?.or (i.environment "CODIM_CONFIG")) i.environment = .ok (c, log)
  outcome_eq : (launch c exercise i.backend).outcome = .ok a

/-- What the program makes of an application that has started. -/
structure Ends (i : Invocation) (source : String) (c : Config) (a : App) : Prop where
  code_eq_zero_iff : i.exit.code = 0 ↔
    ∃ v, (a.run i.files source).1 = .ok v ∧ v.isPassed = true
  code_le_one : i.exit.code ≤ 1
  requests_eq : i.exit.requests = (a.run i.files source).2.shutdown.requests
  handshakes_eq : i.exit.handshakes = (a.run i.files source).2.shutdown.handshakes
  stdout_eq : ∃ last, i.exit.stdout =
    Log.shown (.ofEnvironment (i.environment "RUST_LOG") c.verboseLogging)
      ((a.run i.files source).2.shutdown.log ++ last)

theorem Launches.ends {i : Invocation} {exercise source : String} {c : Config} {a : App}
    (h : i.Launches exercise source c a) : i.Ends source c a := by
  obtain ⟨⟨rest, log, harguments, hload⟩, houtcome⟩ := h
  have hexit : i.exit = i.runWith exercise source c := by
    simp only [exit, harguments, hload]
  rw [runWith, houtcome] at hexit
  cases hr : (a.run i.files source).1 with
  | ok v =>
      simp only [hr] at hexit
      have hcode : i.exit.code = if v.isPassed then 0 else 1 := by rw [hexit]
      refine ⟨?_, ?_, by rw [hexit], by rw [hexit], [], by rw [hexit]⟩
      · cases hv : v.isPassed <;> simp [hcode, hr, hv]
      · rw [hcode]
        split <;> decide
  | error e =>
      simp only [hr] at hexit
      have hcode : i.exit.code = 1 := by rw [hexit]
      exact ⟨by simp [hcode, hr], Nat.le_of_eq hcode, by rw [hexit], by rw [hexit], _,
        by rw [hexit]⟩

theorem launches_or (i : Invocation) :
    (∃ exercise source c a, i.Launches exercise source c a) ∨ i.exit.code = 1 := by
  match harguments : i.arguments with
  | [] | [_] => exact .inr (by simp only [exit, harguments, Exit.early])
  | exercise :: source :: rest =>
      cases hload : Config.load i.files (rest.head?.or (i.environment "CODIM_CONFIG"))
          i.environment with
      | error e => exact .inr (by simp only [exit, harguments, hload, Exit.early])
      | ok settings =>
          obtain ⟨c, log⟩ := settings
          cases houtcome : (launch c exercise i.backend).outcome with
          | error e => exact .inr (by simp only [exit, harguments, hload, runWith, houtcome])
          | ok a =>
              exact .inl ⟨exercise, source, c, a, ⟨rest, log, harguments, hload⟩, houtcome⟩

/-- How the program ends. -/
structure Soundness (i : Invocation) : Prop where
  success_iff : i.exit.code = 0 ↔ ∃ exercise source c a, i.Launches exercise source c a ∧
    ∃ w code sooner later since r, a.Passes i.files source w code sooner later since r
  otherwise : i.exit.code ≠ 0 → i.exit.code = 1
  shutDown : ∀ exercise source c a, i.Launches exercise source c a →
    let last := (a.run i.files source).2.shutdown
    last.stage.session.autosaver.isFinished = true ∧
      last.stage.session.channel.isFinished = true ∧
      last.stage.session.channel.state = .tornDown ∧ i.Ends source c a

/-- The exit status is sound. -/
theorem exit_status_sound (i : Invocation) : i.Soundness := by
  constructor
  case success_iff =>
    constructor
    · intro hcode
      rcases i.launches_or with ⟨exercise, source, c, a, h⟩ | hone
      · refine ⟨exercise, source, c, a, h, ?_⟩
        rw [← (begun_of_ok h.outcome_eq).passes_iff, ← h.ends.code_eq_zero_iff]
        exact hcode
      · cases hcode.symm.trans hone
    · rintro ⟨exercise, source, c, a, h, hpasses⟩
      rw [← (begun_of_ok h.outcome_eq).passes_iff, ← h.ends.code_eq_zero_iff] at hpasses
      exact hpasses
  case otherwise =>
    intro hcode
    rcases i.launches_or with ⟨exercise, source, c, a, h⟩ | hone
    · have hle := h.ends.code_le_one
      omega
    · exact hone
  case shutDown =>
    intro exercise source c a h
    obtain ⟨w, hw⟩ := a.exists_course (begun_of_ok h.outcome_eq).coherent i.files source
    exact ⟨hw.saved, hw.closed, hw.tornDown, h.ends⟩

/-- Over an encrypted channel too, a program ends with success if the reply to the code says that it
passed, and not if it says that it did not. -/
example :
    let reply (passed : String) : String :=
      "\x7b\"job_id\":\"j\",\"exit_code\":0,\"passed\":" ++ passed ++ "\x7d"
    let program (passed : String) : Invocation :=
      { arguments := ["e", "main.rs"]
        environment := fun name =>
          if name = "CODIM_SERVER_ORIGIN" then some "https://codim.dev" else none
        files := fun path => if path = "main.rs" then .ok [0x66, 0x6E] else .error .notFound
        backend := { Backend.unreachable with
          handshakes := [.accepted { Line.plain with replies := [[.text (reply passed)]] }] } }
    (program "true").exit.code = 0 ∧ (program "false").exit.code = 1 := by
  decide +kernel

end Invocation

end ExerciseClient
