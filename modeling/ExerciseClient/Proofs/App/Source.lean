import ExerciseClient.Proofs.App.Exit
import ExerciseClient.Proofs.App.Reach

/-! The source of the user is not dropped. When the application runs a file that can be read and is
shut down, the code of the file is saved unless it is blank or was restored at the start. Whatever
becomes of the run and of the saves, what is saved is this code and nothing else, nothing follows a
save that succeeds, and without one the shutdown saves once more. -/

namespace ExerciseClient

open Http (Request Exchange)

/-! ### Saves at the back end -/

namespace ApiClient

end ApiClient

namespace App

open Session

/-! ### Saves in a journal -/

theorem savesAsked_eq (a : App) : a.savesAsked = savesIn a.stage.journal.reverse := rfl

theorem savesIn_deeds (s : Stage) : savesIn s.deeds = savesIn s.journal.reverse := by
  rw [Stage.deeds, savesIn, List.filterMap_filter, savesIn]
  congr 1
  funext m
  obtain ⟨now, e⟩ := m
  cases e <;> rfl

theorem savesIn_happenings (h : Session.History) :
    savesIn h.happenings = Autosaver.asked h.saver.effects := by
  simp only [savesIn, Session.History.happenings, Autosaver.asked, Autosaver.History.effects,
    Session.History.saver, List.filterMap_filterMap]
  congr 1
  funext m
  obtain ⟨now, d⟩ := m
  rcases d with (_ | _ | _ | _) | (e | _ | _) | _ | _ | _ <;> try rfl
  cases e <;> rfl

/-- A journal that tells of a life has the saves of its autosaver. -/
theorem savesIn_of_tells {s : Stage} {before : List (Nat × Happening)} {l : SessionLife}
    (h : s.Tells before l) : savesIn s.journal.reverse =
      savesIn before ++ Autosaver.asked l.history.saver.effects := by
  rw [← savesIn_deeds, h.deeds_eq, savesIn_append, savesIn_happenings]

variable {c : Config} {exercise : String} {b : Backend} {a : App}

/-- An application has asked for no save when it starts. -/
theorem Begun.unsaved (h : Begun c exercise b a) : a.savesAsked = [] := by
  have hnone := (Stage.steady_unsaved.waitConnected (s := Stage.ofSession (.ofChannel
    (Channel.connect a.url.text (Connector.ofHandshakes a.url a.config.authToken b.handshakes
      b.laterHandshakes) a.config.backoff (a.config.connectTimeoutSecs * 1000)))) ⟨rfl, rfl⟩
    (a.config.connectTimeoutSecs * 1000)).none
  rw [savesAsked_eq, h.stage_eq, Stage.call_journal]
  exact hnone

/-- What is saved of the source of a user when an application has run a file, and when it is shut
down then. -/
structure Saves (store : Store) (a : App) (files : Files) (path : String) (ran done : App) :
    Prop where
  /-- There is a save exactly if the file can be read, is not blank and is not what was restored. -/
  asked_iff : done.savesAsked ≠ [] ↔ ∃ code, files.readText path = .ok code ∧
    Text.allBlank code = false ∧
    a.stage.session.draft ≠ some (.code (.source code a.config.language))
  exact : ∀ r ∈ done.savesAsked, ∃ code, files.readText path = .ok code ∧
    r = .ofSubmission (.code (.source code a.config.language))
  /-- Nothing follows a save that succeeds. -/
  acknowledged : ∀ n, n < done.savesAsked.length → (store.answer n).failure = none →
    n + 1 = done.savesAsked.length
  /-- Without a save that succeeds there is one more after the run has ended. -/
  last : (∀ n, n < done.savesAsked.length → (store.answer n).failure ≠ none) →
    done.savesAsked ≠ [] → ∃ run outcome flush, ran.stage.session.runs[0]? = some run ∧
      run.phase = .ended outcome ∧ done.savesAsked = ran.savesAsked ++ flush ∧ flush ≠ []

/-- An application has a new session. -/
structure Fresh (a : App) (channel : Channel) (store : Store) (exercise : String)
    (kind : ExerciseKind) (saved : Option Submission) : Prop where
  session_eq : a.stage.session = .start a.config channel store exercise kind saved
  coherent : channel.Coherent
  unsaved : a.savesAsked = []

section

variable {channel : Channel} {store : Store} {exercise : String} {kind : ExerciseKind}
  {saved : Option Submission} {a : App}

theorem Fresh.sourceOf_eq_some_iff (h : Fresh a channel store exercise kind saved) (files : Files)
    (path : String) (s : Submission) : a.sourceOf files path = some s ↔
      ∃ code, files.readText path = .ok code ∧ s = .code (.source code a.config.language) := by
  have hlanguage : a.stage.session.language = a.config.language := by
    rw [h.session_eq]
    rfl
  rw [sourceOf]
  cases files.readText path with
  | error e => simp [Except.toOption]
  | ok code => simp [Except.toOption, Session.codeOf, hlanguage, eq_comm]

/-- The saves of an application are those of an autosaver that delivers the source. -/
theorem Fresh.delivers (h : Fresh a channel store exercise kind saved) {files : Files}
    {path : String} {w : Errand} (hw : a.Course path files w) :
    ∃ running closing : List SaverEffect,
      (a.run files path).2.savesAsked = Autosaver.asked running ∧
      (a.run files path).2.shutdown.savesAsked = Autosaver.asked (running ++ closing) ∧
      Autosaver.Delivers store a.stage.session.draft (a.sourceOf files path) running closing := by
  have hlife : a.stage.life =
      ⟨a.stage.now, .start a.config channel store exercise kind saved, []⟩ := by
    rw [Stage.life, h.session_eq]
  have hdraft : a.stage.session.draft = saved := by
    rw [h.session_eq]
    rfl
  have hnone : savesIn a.stage.deeds = [] := (savesIn_deeds a.stage).trans h.unsaved
  have hfinished : (w.last (a.sourceOf files path) a.stage.life).session.autosaver.isFinished =
      true := by
    rw [← hw.last.session_eq]
    exact hw.saved
  have hran := savesIn_of_tells hw.ran
  have hlast := savesIn_of_tells hw.last
  rw [hnone, List.nil_append] at hran hlast
  rw [hlife] at hfinished hran hlast
  obtain ⟨later, hhistory, hdelivers⟩ := w.delivers _ _ _ _ _ _ _ _ hfinished
  rw [hhistory, Autosaver.History.effects_append, Autosaver.History.effects_stopped] at hlast
  exact ⟨_, _, hran, hlast, hdraft ▸ hdelivers⟩

/-- What a new session saves of the source of its user. -/
theorem Fresh.saves (h : Fresh a channel store exercise kind saved) (files : Files)
    (path : String) :
    Saves store a files path (a.run files path).2 (a.run files path).2.shutdown := by
  have hcoherent : a.stage.session.channel.Coherent := by
    rw [h.session_eq]
    exact h.coherent
  obtain ⟨w, hw⟩ := a.exists_course hcoherent files path
  obtain ⟨running, closing, hran, hdone, hd⟩ := h.delivers hw
  have hsource := h.sourceOf_eq_some_iff files path
  constructor
  case asked_iff =>
    rw [hdone, hd.issued_iff]
    constructor
    · rintro ⟨s, hs, hb, hnew⟩
      obtain ⟨code, hcode, rfl⟩ := (hsource s).mp hs
      exact ⟨code, hcode, hb, hnew⟩
    · rintro ⟨code, hcode, hb, hnew⟩
      exact ⟨_, (hsource _).mpr ⟨code, hcode, rfl⟩, hb, hnew⟩
  case exact =>
    intro r hr
    rw [hdone] at hr
    obtain ⟨s, hs, rfl⟩ := hd.exact r hr
    obtain ⟨code, hcode, rfl⟩ := (hsource s).mp hs
    exact ⟨code, hcode, rfl⟩
  case acknowledged =>
    intro n hn hacknowledged
    rw [hdone] at hn ⊢
    exact hd.final n hn hacknowledged
  case last =>
    intro hnever hsome
    rw [hdone] at hnever hsome ⊢
    obtain ⟨earlier, s, later, hs, hclosing⟩ := hd.last (fun save hm hf => by
      obtain ⟨n, hn, hanswer⟩ := hd.answer_of_mem hm
      exact hnever n hn (hanswer ▸ hf)) hsome
    obtain ⟨code, hcode, -⟩ := (hsource s).mp hs
    obtain ⟨run, outcome, hr, ho, -⟩ := hw.ended code hcode
    have hruns : a.stage.session.runs = [] := by
      rw [h.session_eq]
      rfl
    rw [hruns] at hr
    refine ⟨run, outcome, Autosaver.asked closing, hr, ho, ?_, ?_⟩
    · rw [Autosaver.asked_append, hran]
    · rw [hclosing, Autosaver.asked_append]
      refine List.append_ne_nil_of_right_ne_nil _ ?_
      exact List.cons_ne_nil (SaveRequest.ofSubmission s) (Autosaver.asked later)

end

/-! ### Saves to the back end -/

end App

end ExerciseClient
