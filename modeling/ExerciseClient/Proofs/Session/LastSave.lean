import ExerciseClient.Proofs.Autosave.Stopping
import ExerciseClient.Proofs.Session.Waiting

/-! To stop an autosaver comes to an end. Whoever waits for it waits for the save that is under way
and for the last one, and finds it ended; if nobody waits it ends in the same way, by events that
are among those of the session. -/

namespace ExerciseClient

namespace Autosaver

variable {now : Nat} {a : Autosaver} {s : Step}

/-- The steps to the end after a stop. -/
def stepsToEnd : SaverPhase → Nat
  | .finished => 0
  | .saving _ none => 1
  | .idle _ => 2
  | .fresh | .saving _ (some _) => 3

/-- The waits to the end after a stop. -/
def waitsToEnd : SaverPhase → Nat
  | .finished => 0
  | .fresh | .idle _ | .saving _ none => 1
  | .saving _ (some _) => 2

theorem waitsToEnd_le (p : SaverPhase) : waitsToEnd p ≤ 2 := by
  rcases p with _ | _ | ⟨_, _ | _⟩ | _ <;> simp only [waitsToEnd] <;> omega

/-- A look leads to its save or to what comes after it. -/
theorem phase_look (now : Nat) (tick : Option Nat) (a : Autosaver) :
    (∃ save, (a.look now tick).1.phase = .saving save tick) ∨
      (a.look now tick).1.phase = (a.goOn tick).1.phase := by
  cases hd : a.dirty? with
  | none => exact .inr (by rw [look_of_clean hd])
  | some sub => exact .inl ⟨_, by rw [look_of_dirty hd]⟩

theorem stopping_goOn (tick : Option Nat) (a : Autosaver) :
    (a.goOn tick).1.stopping = a.stopping := by
  rcases goOn_cases tick a with ⟨t, rfl, he⟩ | ⟨rfl, l, he⟩ <;> rw [he]

theorem Move.stopping_eq (hm : Move now a s) : s.1.stopping = a.stopping := by
  have hlook (tick : Option Nat) : (a.look now tick).1.stopping = a.stopping := by
    cases hd : a.dirty? with
    | none => rw [look_of_clean hd, stopping_goOn]
    | some sub => rw [look_of_dirty hd]
  cases hm with
  | begin hp => rfl
  | last hs hp => exact hlook none
  | tick hs hp ht => exact hlook _
  | @answer save tick hp hd =>
      rw [stopping_goOn]
      rcases settle_cases save a with ⟨_, he⟩ | ⟨_, he⟩ <;> rw [he]

/-- After a stop every step leads on, and an answer ends a wait. -/
theorem Move.ends (hm : Move now a s) (hs : a.stopping = true) :
    stepsToEnd s.1.phase < stepsToEnd a.phase ∧ waitsToEnd s.1.phase ≤ waitsToEnd a.phase ∧
      (a.phase.save?.isSome → waitsToEnd s.1.phase < waitsToEnd a.phase) := by
  cases hm with
  | begin hp => simp [hp, stepsToEnd, waitsToEnd, SaverPhase.save?]
  | last _ hp =>
      rcases phase_look now none a with ⟨save, he⟩ | he <;>
        simp [hp, he, goOn, stepsToEnd, waitsToEnd, SaverPhase.save?]
  | tick hn => simp [hs] at hn
  | @answer save tick hp hd =>
      rcases goOn_cases tick (a.settle save).1 with ⟨t, rfl, he⟩ | ⟨rfl, l, he⟩ <;>
        simp [hp, he, stepsToEnd, waitsToEnd]

theorem steps_of_stopping (hs : a.stopping = true) (now fuel : Nat) :
    (a.steps now fuel).1.stopping = true ∧
      waitsToEnd (a.steps now fuel).1.phase ≤ waitsToEnd a.phase := by
  induction fuel generalizing a with
  | zero => exact ⟨hs, Nat.le_refl _⟩
  | succ fuel ih =>
      rw [steps]
      cases hm : a.step? now with
      | none => exact ⟨hs, Nat.le_refl _⟩
      | some m =>
          have hmove := (move_iff now a m).mpr hm
          obtain ⟨hstopping, hle⟩ := ih (hmove.stopping_eq.trans hs)
          exact ⟨hstopping, Nat.le_trans hle (hmove.ends hs).2.1⟩

/-- Where every step leads on, so many steps lead to a wait. -/
theorem steps_settled_of {P : Autosaver → Prop} {f : Autosaver → Nat}
    (hstep : ∀ a m, P a → Move now a m → P m.1 ∧ f m.1 < f a) (ha : P a) {fuel : Nat}
    (h : f a ≤ fuel) : (a.steps now fuel).1.step? now = none := by
  induction fuel generalizing a with
  | zero =>
      cases hm : a.step? now with
      | none => exact hm
      | some m =>
          have hlt := (hstep a m ha ((move_iff now a m).mpr hm)).2
          omega
  | succ fuel ih =>
      rw [steps]
      cases hm : a.step? now with
      | none => exact hm
      | some m =>
          obtain ⟨hnext, hlt⟩ := hstep a m ha ((move_iff now a m).mpr hm)
          exact ih hnext (by omega)

theorem steps_settled (hs : a.stopping = true) {fuel : Nat} (h : stepsToEnd a.phase ≤ fuel) :
    (a.steps now fuel).1.step? now = none :=
  steps_settled_of (P := (·.stopping = true)) (f := (stepsToEnd ·.phase))
    (fun _ _ hs hm => ⟨hm.stopping_eq.trans hs, (hm.ends hs).1⟩) hs h

/-- A turn ends with an autosaver that waits. -/
theorem turn_settled (hs : a.stopping = true) (now : Nat) :
    (a.turn now).1.step? now = none := by
  apply steps_settled hs
  rcases a.phase with _ | _ | ⟨_, _ | _⟩ | _ <;> simp only [stepsToEnd, work] <;> omega

/-- After a stop a turn leads to the end or to a save that is not answered yet. -/
theorem turn_cases (hs : a.stopping = true) (now : Nat) :
    (a.turn now).1.stopping = true ∧ ((a.turn now).1.phase = .finished ∨
      ∃ save tick, (a.turn now).1.phase = .saving save tick ∧ now < save.due) := by
  have hstopping : (a.turn now).1.stopping = true := (steps_of_stopping hs now work).1
  have hsettled := turn_settled hs now
  refine ⟨hstopping, ?_⟩
  cases hp : (a.turn now).1.phase with
  | fresh => simp [step?, hp] at hsettled
  | idle tick => simp [step?, hp, hstopping] at hsettled
  | saving save tick =>
      simp only [step?, hp, ite_eq_right_iff, reduceCtorEq, imp_false, Nat.not_le] at hsettled
      exact .inr ⟨save, tick, rfl, hsettled⟩
  | finished => exact .inl rfl

theorem turn_of_settled (h : a.step? now = none) : a.turn now = (a, []) := by
  simp [turn, work, steps, h]

/-- The turns of an autosaver that was stopped come to an end. -/
theorem ends_stopping : Ends (fun now a => (a.turn now).1) due isFinished
    (fun a => waitsToEnd a.phase) (fun a => a.stopping = true) := by
  refine ⟨fun now a hs => (turn_cases hs now).1, ?_, ?_, ?_⟩
  · intro now a t hs ht
    rcases (turn_cases hs now).2 with hp | ⟨save, tick, hp, hlt⟩
    · simp [due, hp] at ht
    · obtain rfl : save.due = t := by simpa [due, hp] using ht
      exact hlt
  · intro now a hs later hlater
    have hstill : (a.turn now).1.step? later = none := by
      rcases (turn_cases hs now).2 with hp | ⟨save, tick, hp, _⟩
      · simp [step?, hp]
      · have hlt := hlater save.due (by simp [due, hp])
        simp [step?, hp, Nat.not_le.mpr hlt]
    have hturn := congrArg Prod.fst (turn_of_settled hstill)
    exact hturn
  · intro now a hs hn
    obtain ⟨hstopping, hp | ⟨save, tick, hp, _⟩⟩ := turn_cases hs now
    · simp [isFinished, hp] at hn
    · refine ⟨save.due, by simp [due, hp], ?_⟩
      -- The answer is there, and it ends a wait before anything else happens.
      have hmove : Move save.due (a.turn now).1 _ := .answer hp (Nat.le_refl save.due)
      have hlt := (hmove.ends hstopping).2.2 (by simp [hp, SaverPhase.save?])
      have hrest := (steps_of_stopping (hmove.stopping_eq.trans hstopping) save.due 5).2
      have hturn : (a.turn now).1.turn save.due = steps save.due 6 (a.turn now).1 := rfl
      rw [hturn, steps, hmove.execution]
      exact Nat.lt_of_le_of_lt hrest hlt

end Autosaver

namespace Session

/-- No run is about to begin. -/
def NoneBegins (s : Session) : Prop := ∀ r ∈ s.runs, r.phase ≠ .fresh

theorem NoneBegins.setRun {s : Session} (h : s.NoneBegins) (number : Nat) (run : Run)
    {phase : RunPhase} (hp : phase ≠ .fresh) : (s.setRun number run phase).NoneBegins := by
  intro run' hr'
  rcases List.mem_or_eq_of_mem_set hr' with hm | rfl
  · exact h run' hm
  · exact hp

/-- If no run is about to begin, a turn leaves the autosaver alone or is its own. -/
theorem NoneBegins.turn {s : Session} (h : s.NoneBegins) (now : Nat) (p : Party) :
    (s.turn now p).session.NoneBegins ∧
      (p ≠ .autosaver → (s.turn now p).session.autosaver = s.autosaver) := by
  cases p with
  | channel => exact ⟨h, fun _ => rfl⟩
  | autosaver => exact ⟨h, fun hn => absurd rfl hn⟩
  | run number =>
      have hturn := s.turn_run now number
      generalize (s.turn now (.run number)).session = s' at hturn ⊢
      cases hturn with
      | idle hi => exact ⟨h, fun _ => rfl⟩
      | begun hr hf hp => exact absurd hf (h _ (List.mem_of_getElem? hr))
      | checked hr hw hp => exact ⟨h.setRun number _ hp.ne_fresh, fun _ => rfl⟩

/-- Nobody but the autosaver changes it. -/
theorem owned_autosaver : Owned .autosaver (·.autosaver) (fun now a => (a.turn now).1)
    Autosaver.due NoneBegins :=
  ⟨fun _ => rfl, fun _ _ => rfl, fun now p _ h hp => (h.turn now p).2 hp,
    fun now p _ h => (h.turn now p).1⟩

end Session

namespace Stage

open Autosaver

/-- The autosaver of a stage came there by itself. -/
structure SavesAlone (start : SaverLife) (s : Stage) : Prop where
  noneBegins : s.session.NoneBegins
  reached : ∃ events : List Event, (∀ sub, .update sub ∉ events) ∧
    (start.run events).now = s.now ∧ (start.run events).saver = s.session.autosaver

theorem steady_savesAlone (start : SaverLife) : Steady (SavesAlone start) := by
  constructor
  · intro p rest s h
    obtain ⟨events, hno, hnow, hsaver⟩ := h.reached
    have hturn := h.noneBegins.turn s.now p
    refine ⟨by rw [act_session]; exact hturn.1, ?_⟩
    by_cases hp : p = .autosaver
    · subst hp
      refine ⟨events ++ List.replicate work .work, ?_, ?_, ?_⟩
      · intro sub hm
        rcases List.mem_append.mp hm with hm | hm
        · exact hno sub hm
        · simp at hm
      · rw [SaverLife.run_append, SaverLife.run_work, act_now]
        exact hnow
      · rw [SaverLife.run_append, SaverLife.run_work, act_session, hnow, hsaver]
        rfl
    · refine ⟨events, hno, by rw [act_now]; exact hnow, ?_⟩
      rw [act_session, hturn.2 hp]
      exact hsaver
  · intro t s h
    obtain ⟨events, hno, _, hsaver⟩ := h.reached
    refine ⟨by rw [moveTo_session]; exact h.noneBegins, events ++ [.clock t], ?_, ?_, ?_⟩
    · intro sub hm
      rcases List.mem_append.mp hm with hm | hm
      · exact hno sub hm
      · simp at hm
    · rw [SaverLife.run_append, moveTo_now]
      rfl
    · rw [SaverLife.run_append, moveTo_session]
      exact hsaver

/-- Closing an autosaver ends it. -/
theorem isFinished_closeSaver {s : Stage} (h : s.session.NoneBegins) :
    s.closeSaver.session.autosaver.isFinished = true := by
  have hs : s.stopSaving.session.autosaver = s.session.autosaver.stop := by
    rw [stopSaving, call_session]
  have hcalled : .autosaver ∈ ([Party.autosaver].foldl call
      { s with session := { s.session with autosaver := s.session.autosaver.stop } }).ready :=
    mem_ready_foldl_call (.inr (by simp))
  have hnone : s.stopSaving.session.NoneBegins := by
    rw [stopSaving, call_session]
    exact h
  have hstopping : s.stopSaving.session.autosaver.stopping = true := by
    rw [hs]
    rfl
  have hwaits (a : Autosaver) : waitsToEnd a.phase < 3 :=
    Nat.lt_succ_of_le (waitsToEnd_le a.phase)
  exact isOver_await Session.owned_autosaver ends_stopping hnone hstopping hcalled (hwaits _)

end Stage

namespace Autosaver

/-- What an autosaver that was stopped has come to at its end: it looked once more, no save is under
way and none is ever made again, and nothing of the draft is lost. -/
structure Ended (initial : Option Submission) (past : History) (s : SaverLife) : Prop where
  once : ∃ later : History, s.history = past ++ .stopped :: later ∧ later.looks = [true]
  idle : s.history.underway = []
  never : ∀ more : List Event, (s.run more).saver.isFinished = true ∧
    (s.run more).history.requests = s.history.requests
  draft_eq : s.saver.draft = s.history.draft initial
  settled : Settled initial s.history

/-- What it means to stop an autosaver at some moment of a life. From then on nobody gives a draft;
until the end the autosaver looks once at most. Whoever closes it finds it ended, after nothing but
its own work. -/
structure Stops (initial : Option Submission) (reached : SaverLife) : Prop where
  once : ∀ after : List Event, (∀ sub, .update sub ∉ after) → ∃ later : History,
    ((reached.next .stop).run after).history = reached.history ++ .stopped :: later ∧
      (later.looks = [] ∨ later.looks = [true])
  ended : ∀ after : List Event, (∀ sub, .update sub ∉ after) →
    ((reached.next .stop).run after).saver.isFinished = true →
    Ended initial reached.history ((reached.next .stop).run after)
  closes : ∀ stage : Stage, stage.session.autosaver = reached.saver → stage.session.NoneBegins →
    stage.closeSaver.session.autosaver.isFinished = true ∧ ∃ after : List Event,
      (∀ sub, .update sub ∉ after) ∧
        ((reached.next .stop).run after).saver = stage.closeSaver.session.autosaver

theorem isFinished_iff (a : Autosaver) : a.isFinished = true ↔ a.phase = .finished := by
  simp [isFinished]

theorem Winding.ended_of_isFinished {initial : Option Submission} {past : History}
    {s : SaverLife} (h : Winding initial past s) (hf : s.saver.isFinished = true) :
    Ended initial past s := by
  have hp := (isFinished_iff s.saver).mp hf
  obtain ⟨later, hlater, ⟨_, hlast⟩ | ⟨hlooks, _⟩⟩ := h.looks
  · exact absurd (hp ▸ trivial) hlast
  · refine ⟨⟨later, hlater, hlooks⟩, ?_, ?_, h.tracked.draft_eq, h.ended hp⟩
    · rw [h.tracked.underway_eq, hp]
      rfl
    · intro more
      obtain ⟨hphase, hrequests⟩ := finished_run hp more
      exact ⟨(isFinished_iff _).mpr hphase, hrequests⟩

/-- To stop an autosaver loses nothing, whatever it was doing. -/
theorem stop_loses_nothing (now : Nat) (store : Store) (exercise : String) (interval : Nat)
    (initial : Option Submission) (before : List Event) (hb : .stop ∉ before) :
    Stops initial
      ((SaverLife.ofSaver now (spawn store exercise interval initial)).run before) := by
  have hunstopped : Unstopped (SaverLife.ofSaver now (spawn store exercise interval initial)) :=
    ⟨rfl, id⟩
  have htracked := (tracked_spawn now store exercise interval initial).run before
  have hwinding := (hunstopped.run hb).winding htracked
  refine ⟨?_, ?_, ?_⟩
  · intro after hno
    obtain ⟨later, hlater, hlooks⟩ := (hwinding.run hno).looks
    exact ⟨later, hlater, hlooks.imp And.left And.left⟩
  · intro after hno hf
    exact (hwinding.run hno).ended_of_isFinished hf
  · intro stage hstage hnone
    refine ⟨Stage.isFinished_closeSaver hnone, ?_⟩
    have hstop : stage.stopSaving.session.autosaver = stage.session.autosaver.stop := by
      rw [Stage.stopSaving, Stage.call_session]
    have hstart : Stage.SavesAlone (SaverLife.next
        ((SaverLife.ofSaver now (spawn store exercise interval initial)).run before) .stop)
        stage.stopSaving := by
      refine ⟨?_, [.clock stage.stopSaving.now], ?_, rfl, ?_⟩
      · rw [Stage.stopSaving, Stage.call_session]
        exact hnone
      · simp
      · rw [hstop, hstage]
        rfl
    have hclosed := (Stage.steady_savesAlone _).await hstart .autosaver
      (·.autosaver.isFinished) 3
    obtain ⟨events, hno, _, hsaver⟩ := hclosed.reached
    exact ⟨events, hno, hsaver⟩

/-- An edit made while an earlier draft is being saved is saved after the stop. -/
theorem stop_loses_no_late_edit :
    let draft (text : String) : Submission := .code (.source text "rust")
    let before : List Event :=
      [.work, .update (draft "fn a() {}"), .clock 1000, .work, .update (draft "fn b() {}")]
    let reached :=
      (SaverLife.ofSaver 0 (spawn ⟨[⟨[], 5000, none⟩], .success⟩ "e" 1000 none)).run before
    let ended := (reached.next .stop).run [.clock 6000, .work, .work, .work]
    .stop ∉ before ∧ reached.history.underway = [.ofSubmission (draft "fn a() {}")] ∧
      Stops none reached ∧ ended.saver.isFinished = true ∧
        ended.saver.saved = some (draft "fn b() {}") := by
  intro draft before reached ended
  have hb : .stop ∉ before := by simp [before]
  exact ⟨hb, by decide, stop_loses_nothing 0 _ "e" 1000 none before hb, by decide, by decide⟩

end Autosaver

end ExerciseClient
