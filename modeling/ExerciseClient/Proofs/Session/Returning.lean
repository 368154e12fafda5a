import ExerciseClient.App.Basic
import ExerciseClient.Proofs.Session.Life
import ExerciseClient.Proofs.Session.Waiting

/-! To wait for a run comes to an end. The run has its turn, after which it has ended or waits with
its alarm set; nobody else changes it, and at its deadline it has the turn that ends it. Meanwhile
the session goes through nothing but events of its life. -/

namespace ExerciseClient

/-- A run that has ended, or is to end by a deadline; one that begins has its own. -/
def RunPhase.EndsBy (own deadline : Nat) : RunPhase → Prop
  | .fresh => own = deadline
  | .waiting _ deadline' => deadline' = deadline
  | .ended _ => True
  | .cancelled => False

theorem RunPhase.endsBy_of_waiting {own seen deadline : Nat} {p : RunPhase}
    (h : p = .waiting seen deadline) : p.EndsBy own deadline := by
  subst h
  rfl

namespace Session

variable {s : Session} {number now deadline : Nat} {run : Run}

/-- A run that has its turn has ended then or waits until its deadline. -/
theorem turn_pending (hr : s.runs[number]? = some run)
    (hp : run.phase.EndsBy (now + s.resultTimeout * 1000) deadline) :
    ∃ phase, Pending now deadline phase ∧
      (s.turn now (.run number)).session.runs[number]? = some { run with phase } := by
  have hlt : number < s.runs.length := (List.getElem?_eq_some_iff.mp hr).1
  have hturn := s.turn_run now number
  generalize (s.turn now (.run number)).session = s' at hturn ⊢
  cases hturn with
  | idle hi =>
      obtain ⟨hfresh, hwaits⟩ := hi run hr
      obtain ⟨submission, phase⟩ := run
      cases phase with
      | fresh => exact absurd rfl hfresh
      | waiting seen deadline' => exact absurd rfl (hwaits seen deadline')
      | ended outcome => exact ⟨_, .ended outcome, hr⟩
      | cancelled => exact absurd hp id
  | @begun run' phase hr' hf hpending =>
      obtain rfl := Option.some.inj (hr.symm.trans hr')
      rw [hf] at hp
      obtain rfl : _ = deadline := hp
      exact ⟨phase, hpending, runs_setRun hlt run phase⟩
  | @checked run' seen deadline' phase hr' hw hpending =>
      obtain rfl := Option.some.inj (hr.symm.trans hr')
      rw [hw] at hp
      obtain rfl : deadline' = deadline := hp
      exact ⟨phase, hpending, runs_setRun hlt run phase⟩

/-- Nobody changes a run but itself. -/
theorem turn_others {p : Party} (hp : p ≠ .run number) :
    (s.turn now p).session.runs[number]? = s.runs[number]? ∧
      (s.turn now p).session.resultTimeout = s.resultTimeout := by
  cases p with
  | channel | autosaver => exact ⟨rfl, rfl⟩
  | run other =>
      have hne : other ≠ number := by
        rintro rfl
        exact hp rfl
      have hturn := s.turn_run now other
      generalize (s.turn now (.run other)).session = s' at hturn ⊢
      cases hturn with
      | idle hi => exact ⟨rfl, rfl⟩
      | begun hr hf hpending => exact ⟨runs_setRun_of_ne hne .., rfl⟩
      | checked hr hw hpending => exact ⟨runs_setRun_of_ne hne .., rfl⟩

/-- Nobody acts from outside. -/
def Event.Passes : Event → Prop
  | .channel .work | .channel (.clock _) | .saver .work | .poll _ => True
  | _ => False

end Session

namespace Stage

open Session

/-- A run has ended. -/
def Ended (number : Nat) (s : Stage) : Prop :=
  ∃ run outcome, s.session.runs[number]? = some run ∧ run.phase = .ended outcome

/-- A run has ended, or it waits and its alarm is set. -/
inductive Awaits (number deadline : Nat) (s : Stage) : Prop where
  | ended (h : Ended number s)
  | waiting {run seen} (hr : s.session.runs[number]? = some run)
      (hw : run.phase = .waiting seen deadline) (hlt : s.now < deadline)
      (ha : (.run number, deadline) ∈ s.alarms)

variable {s : Stage} {number deadline : Nat} {run : Run}

theorem runEnded_iff : App.runEnded number s.session = true ↔ Ended number s := by
  rw [App.runEnded, Ended]
  split
  · rename_i submission outcome hr
    exact ⟨fun _ => ⟨_, outcome, hr, rfl⟩, fun _ => rfl⟩
  · rename_i hn
    constructor
    · intro h
      cases h
    · rintro ⟨⟨submission, phase⟩, outcome, hr, rfl⟩
      exact absurd hr (hn submission outcome)

/-- A run that has its turn awaits its end. -/
theorem awaits_act (hr : s.session.runs[number]? = some run)
    (hp : run.phase.EndsBy (s.now + s.session.resultTimeout * 1000) deadline) :
    Awaits number deadline (s.act (.run number)) := by
  obtain ⟨phase, hpending, hturn⟩ := turn_pending hr hp
  cases hpending with
  | ended outcome => exact .ended ⟨_, outcome, by rw [act_session]; exact hturn, rfl⟩
  | waiting seen hlt =>
      refine .waiting (by rw [act_session]; exact hturn) rfl (by rw [act_now]; exact hlt) ?_
      simp only [act, foldl_call_alarms]
      apply due_mem_alarms_watch
      simp [due, hturn]

theorem Ended.act (h : Ended number s) (p : Party) (rest : List Party) :
    Ended number ({ s with ready := rest }.act p) := by
  obtain ⟨run, outcome, hr, he⟩ := h
  by_cases hp : p = .run number
  · subst hp
    obtain ⟨submission, phase⟩ := run
    obtain rfl : phase = _ := he
    exact ⟨⟨submission, .ended outcome⟩, outcome, by rw [act_session]; simp [turn, hr], rfl⟩
  · exact ⟨run, outcome, by rw [act_session]; exact (turn_others hp).1.trans hr, he⟩

theorem Ended.settle (h : Ended number s) : Ended number s.settle :=
  settleWithin_induction (fun p rest _ h => h.act p rest) h _

theorem Awaits.act (h : Awaits number deadline s) (p : Party) (rest : List Party) :
    Awaits number deadline ({ s with ready := rest }.act p) := by
  cases h with
  | ended h => exact .ended (h.act p rest)
  | waiting hr hw hlt ha =>
      by_cases hp : p = .run number
      · subst hp
        exact awaits_act (s := { s with ready := rest }) hr (RunPhase.endsBy_of_waiting hw)
      · refine .waiting (by rw [act_session]; exact (turn_others hp).1.trans hr) hw
          (by rwa [act_now]) ?_
        simp only [Stage.act, foldl_call_alarms]
        exact mem_alarms_watch p ha fun he => absurd he.symm hp

theorem Awaits.ended_of_le (h : Awaits number deadline s) (hle : deadline ≤ s.now) :
    Ended number s := by
  cases h with
  | ended h => exact h
  | waiting _ _ hlt _ => exact absurd hlt (Nat.not_lt.mpr hle)

theorem settle_now (s : Stage) : s.settle.now = s.now :=
  settleWithin_induction (P := fun s' => s'.now = s.now) (fun _ _ _ h => (act_now ..).trans h) rfl _

theorem Awaits.settle (h : Awaits number deadline s) : Awaits number deadline s.settle :=
  settleWithin_induction (fun p rest _ h => h.act p rest) h _

theorem Ended.moveTo (h : Ended number s) (t : Nat) : Ended number (s.moveTo t) := by
  rw [Ended, moveTo_session]
  exact h

/-- Before the deadline the clock may move. -/
theorem Awaits.moveTo (h : Awaits number deadline s) {t : Nat} (ht : t < deadline) :
    Awaits number deadline (s.moveTo t) := by
  cases h with
  | ended h => exact .ended (h.moveTo t)
  | waiting hr hw _ ha =>
      exact .waiting (by rw [moveTo_session]; exact hr) hw (by rwa [moveTo_now])
        (mem_alarms_moveTo ha ht)

/-- A run that is called has its turn while things settle. -/
theorem awaits_settle (hready : .run number ∈ s.ready) (hr : s.session.runs[number]? = some run)
    (hp : run.phase.EndsBy (s.now + s.session.resultTimeout * 1000) deadline) :
    Awaits number deadline s.settle := by
  let Still (s' : Stage) : Prop := s'.session.runs[number]? = some run ∧ s'.now = s.now ∧
    s'.session.resultTimeout = s.session.resultTimeout
  refine settle_of_ready (P := Still) ?_ ?_ (fun p rest _ h => h.act p rest) ⟨hr, rfl, rfl⟩ hready
  · intro p rest s' hne ⟨hr', hnow, htimeout⟩
    obtain ⟨hruns, hothers⟩ := turn_others (s := s'.session) hne
    refine ⟨?_, (act_now ..).trans hnow, ?_⟩
    · rw [act_session]
      exact hruns.trans hr'
    · rw [act_session]
      exact hothers.trans htimeout
  · intro rest s' ⟨hr', hnow, htimeout⟩
    rw [← hnow, ← htimeout] at hp
    exact awaits_act (s := { s' with ready := rest }) hr' hp

/-- Whoever waits for a run that was called sees it end. -/
theorem ended_await (hready : .run number ∈ s.ready) (hr : s.session.runs[number]? = some run)
    (hp : run.phase.EndsBy (s.now + s.session.resultTimeout * 1000) deadline) :
    Ended number (s.await (.run number) (App.runEnded number) 1) := by
  have hawaits := awaits_settle hready hr hp
  simp only [await]
  by_cases hover : App.runEnded number s.settle.session = true
  · rw [if_pos hover]
    exact runEnded_iff.mp hover
  · rw [if_neg hover]
    cases hawaits with
    | ended h => exact absurd (runEnded_iff.mpr h) hover
    | @waiting run seen hr hw hlt ha =>
        have hdue : s.settle.session.due (.run number) = some deadline := by
          obtain ⟨submission, phase⟩ := run
          obtain rfl : phase = _ := hw
          simp [due, hr]
        have hmove (t : Nat) (s : Stage) (ht : t < deadline) (h : Awaits number deadline s) :
            Awaits number deadline (s.moveTo t) := h.moveTo ht
        obtain ⟨s', hs', hpass⟩ := passTo_induction (fun _ h => h.settle) hmove
          (.waiting hr hw hlt ha) (App.runEnded number) s.settle.now
        simp only [hdue]
        rcases hpass with ⟨he, hover'⟩ | he <;> rw [he]
        · exact (runEnded_iff.mp hover').settle
        · cases hs' with
          | ended h => exact (h.moveTo deadline).settle
          | waiting hr' hw' _ ha' =>
              -- The alarm rings, and at the deadline a turn is the last.
              have hcalled := mem_ready_moveTo ha'
              have hlast := awaits_settle (s := s'.moveTo deadline) hcalled
                (by rw [moveTo_session]; exact hr') (RunPhase.endsBy_of_waiting hw')
              have hnow : (s'.moveTo deadline).settle.now = deadline := by
                rw [settle_now, moveTo_now]
              exact hlast.ended_of_le (Nat.le_of_eq hnow.symm)

/-- So does whoever starts a run. -/
theorem ended_startRun (s : Stage) (submission : Submission) :
    Ended s.session.runs.length ((s.startRun submission).2.await (.run s.session.runs.length)
      (App.runEnded s.session.runs.length) 1) := by
  let number := s.session.runs.length
  have hcalled : .run number ∈ (s.startRun submission).2.ready := mem_ready_call_self ..
  have hr : (s.startRun submission).2.session.runs[number]? = some ⟨submission, .fresh⟩ := by
    simp [Stage.startRun, Session.startRun, number]
  exact ended_await hcalled hr rfl

/-! ### What becomes of a session on a stage is a life of it -/

/-- A session on a stage came there by itself. -/
def Lives (start : SessionLife) (s : Stage) : Prop :=
  ∃ events : List Session.Event, (∀ e ∈ events, e.Passes) ∧
    (start.run events).now = s.now ∧ (start.run events).session = s.session

theorem Lives.more {start : SessionLife} {s s' : Stage} (h : Lives start s)
    (more : List Session.Event) (hpasses : ∀ e ∈ more, e.Passes)
    (hmore : ∀ l : SessionLife, l.now = s.now → l.session = s.session →
      (l.run more).now = s'.now ∧ (l.run more).session = s'.session) : Lives start s' := by
  obtain ⟨events, hevents, hnow, hsession⟩ := h
  refine ⟨events ++ more, ?_, ?_⟩
  · intro e he
    rcases List.mem_append.mp he with he | he
    · exact hevents e he
    · exact hpasses e he
  · rw [SessionLife.run_append]
    exact hmore _ hnow hsession

theorem steady_lives (start : SessionLife) : Steady (Lives start) := by
  constructor
  · intro p rest s h
    cases p with
    | channel =>
        refine h.more (List.replicate s.session.channel.work (.channel .work)) ?_ ?_
        · intro e he
          obtain rfl := List.eq_of_mem_replicate he
          trivial
        · intro l hnow hsession
          rw [l.run_channel_work, act_now, act_session, ← hnow, ← hsession]
          exact ⟨rfl, rfl⟩
    | autosaver =>
        refine h.more (List.replicate Autosaver.work (.saver .work)) ?_ ?_
        · intro e he
          obtain rfl := List.eq_of_mem_replicate he
          trivial
        · intro l hnow hsession
          rw [l.run_saver_work, act_now, act_session, ← hnow, ← hsession]
          exact ⟨rfl, rfl⟩
    | run number =>
        refine h.more [.poll number] (by simp [Event.Passes]) ?_
        intro l hnow hsession
        rw [act_now, act_session, ← hnow, ← hsession]
        exact ⟨rfl, rfl⟩
  · intro t s h
    refine h.more [.channel (.clock t)] (by simp [Event.Passes]) ?_
    intro l hnow hsession
    have hclock : (Event.channel (.clock t)).clock? = some t := rfl
    rw [SessionLife.run_cons, SessionLife.next_clock hclock, moveTo_now, moveTo_session]
    exact ⟨rfl, hsession⟩

end Stage

end ExerciseClient
