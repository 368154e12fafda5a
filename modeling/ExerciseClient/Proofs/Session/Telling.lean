import ExerciseClient.Proofs.Session.Closing
import ExerciseClient.Proofs.Session.Returning
import ExerciseClient.Proofs.Session.Scripts

/-! A journal tells what a life did. What the channel, the autosaver and the runs of a session do on
a stage is a life of the session, and the journal holds, in order and with its instants, what shows
of that life; the rest of the journal is lines of the log that the session itself wrote. -/

namespace ExerciseClient

/-- It is more than a line that the session itself logs. -/
def Happening.isDeed : Happening → Bool
  | .logged _ => false
  | _ => true

namespace Session

/-- What shows of a deed. -/
def Deed.happening? : Deed → Option Happening
  | .channel (.did e) => some (.channel e)
  | .saver (.did e) => some (.autosaver e)
  | .ended number _ => some (.runEnded number)
  | _ => none

namespace History

/-- What shows of a history. -/
def happenings (h : History) : List (Nat × Happening) :=
  h.filterMap fun m => m.2.happening?.map fun e => (m.1, e)

@[simp] theorem happenings_append (a b : History) :
    happenings (a ++ b) = a.happenings ++ b.happenings := by
  simp [happenings]

theorem happenings_map (now : Nat) (deeds : List Deed) :
    happenings (deeds.map fun d => (now, d)) =
      (deeds.filterMap Deed.happening?).map fun e => (now, e) := by
  simp [happenings, List.filterMap_map, List.map_filterMap, Function.comp_def]

end History

/-! ### What a run shows in its turn -/

section

variable {now number seen deadline : Nat} {run : Run} {s : Session}

theorem happenings_checkRun (hr : s.runs[number]? = some run) :
    (s.checkRun now number run seen deadline).happenings =
      ((s.checkRun now number run seen deadline).session.ending number).filterMap
        Deed.happening? := by
  have hending (phase : RunPhase) : (s.setRun number run phase).ending number =
      phase.outcome?.toList.map (.ended number) := ending_setRun hr run phase
  simp only [checkRun]
  split
  · rename_i r _
    exact (congrArg (List.filterMap Deed.happening?) (hending (.ended (.ok (.ofResult r))))).symm
  · split
    · exact (congrArg (List.filterMap Deed.happening?) (hending
        (.ended (.error (.resultTimeout s.exercise s.resultTimeout))))).symm
    · exact (congrArg (List.filterMap Deed.happening?) (hending (.waiting seen deadline))).symm

/-- A run that waits logs nothing. -/
theorem filter_checkRun : (s.checkRun now number run seen deadline).happenings.filter (·.isDeed) =
    (s.checkRun now number run seen deadline).happenings := by
  simp only [checkRun]
  split
  · rfl
  · split <;> rfl

theorem filter_logged_append (log : Log) (more : List Happening) :
    (log.map Happening.logged ++ more).filter (·.isDeed) = more.filter (·.isDeed) := by
  simp [Happening.isDeed]

theorem logged_ite (p : Prop) [Decidable p] (line : LogLine) :
    (if p then [] else [Happening.logged line]) =
      (if p then [] else [line]).map Happening.logged := by
  split <;> rfl

theorem map_logged_cons (log : Log) (line : LogLine) (more : List Happening) :
    log.map Happening.logged ++ .logged line :: more =
      (log ++ [line]).map Happening.logged ++ more := by
  simp

/-- A run that begins logs lines, and its end if the channel refuses it. -/
theorem happenings_of_rejected (now number : Nat) {e : SubmitError}
    (ha : s.answer run.submission = .error e) :
    ∃ lines : Log, (s.beginRun now number run).happenings =
      lines.map .logged ++ [.runEnded number] := by
  have hanswer : ((s.edit run.submission).channel.submit (s.edit run.submission).exercise
      (.ok run.submission.toJson)).1 = .error e := ha
  simp only [beginRun, hanswer, logged_ite, ← List.map_append]
  exact ⟨_, rfl⟩

theorem happenings_of_accepted (now number : Nat) (ha : s.answer run.submission = .ok ()) :
    ∃ lines : Log, (s.beginRun now number run).happenings = lines.map .logged ++
      (checkRun now number run s.channel.received (now + s.resultTimeout * 1000)
        (s.submitted run.submission)).happenings := by
  have hanswer : ((s.edit run.submission).channel.submit (s.edit run.submission).exercise
      (.ok run.submission.toJson)).1 = .ok () := ha
  have hreceived : ((s.edit run.submission).channel.submit (s.edit run.submission).exercise
      (.ok run.submission.toJson)).2.1.received = s.channel.received := (received_submit ..).1
  simp only [beginRun, hanswer, hreceived, logged_ite, ← List.map_append]
  exact ⟨_, map_logged_cons ..⟩

/-- A run that begins shows its end, if it comes at once. -/
theorem filter_beginRun (hr : s.runs[number]? = some run) :
    (s.beginRun now number run).happenings.filter (·.isDeed) =
      ((s.beginRun now number run).session.ending number).filterMap Deed.happening? := by
  cases ha : s.answer run.submission with
  | error e =>
      obtain ⟨lines, he⟩ := happenings_of_rejected now number ha
      rw [he, filter_logged_append, beginRun_of_rejected ha,
        ending_setRun (s := s.edit run.submission) hr]
      rfl
  | ok u =>
      obtain ⟨lines, he⟩ := happenings_of_accepted now number ha
      rw [he, filter_logged_append, filter_checkRun, beginRun_of_accepted ha]
      exact happenings_checkRun (s := s.submitted run.submission) hr

/-- The turn of a run shows what its life tells of it, among lines of the log. -/
theorem filter_turn (now number : Nat) (s : Session) :
    (s.turn now (.run number)).happenings.filter (·.isDeed) =
      (s.shown number (s.turn now (.run number)).session).filterMap Deed.happening? := by
  cases hr : s.runs[number]? with
  | none => simp [turn, shown, hr]
  | some run =>
      cases hf : run.phase with
      | fresh =>
          have hbeginning : (s.beginning number run.submission).filterMap Deed.happening? = [] :=
            rfl
          simp only [turn, shown, hr, hf, List.filterMap_append, hbeginning, List.nil_append]
          exact filter_beginRun hr
      | waiting seen deadline =>
          simp only [turn, shown, hr, hf]
          exact filter_checkRun.trans (happenings_checkRun hr)
      | ended | cancelled => simp [turn, shown, hr, hf]

end

end Session

namespace SessionLife

theorem happenings_record (l : SessionLife) (session : Session) (deeds : List Session.Deed) :
    (l.record session deeds).history.happenings = l.history.happenings ++
      (deeds.filterMap Session.Deed.happening?).map fun e => (l.now, e) := by
  rw [record, Session.History.happenings_append, Session.History.happenings_map]

end SessionLife

namespace Stage

open Session

/-! ### Journals -/

/-- The journal without the lines that the session itself logged, the oldest first. -/
def deeds (s : Stage) : List (Nat × Happening) := s.journal.reverse.filter (·.2.isDeed)

theorem deeds_record (new : List Happening) (s : Stage) : (s.record new).deeds =
    s.deeds ++ (new.filter (·.isDeed)).map fun e => (s.now, e) := by
  rw [deeds, record_journal, List.filter_append, List.filter_map]
  rfl

theorem deeds_act (p : Party) (s : Stage) : (s.act p).deeds = s.deeds ++
    ((s.session.turn s.now p).happenings.filter (·.isDeed)).map fun e => (s.now, e) := by
  rw [deeds, act_journal, List.filter_append, List.filter_map]
  rfl

@[simp] theorem deeds_call (s : Stage) (p : Party) : (s.call p).deeds = s.deeds := by
  rw [deeds, call_journal, deeds]

@[simp] theorem deeds_moveTo (t : Nat) (s : Stage) : (s.moveTo t).deeds = s.deeds := by
  rw [deeds, moveTo_journal, deeds]

/-- A stage is where a life has got to, and its journal goes on from an earlier one with what the
life did. -/
structure Tells (s : Stage) (before : List (Nat × Happening)) (l : SessionLife) : Prop where
  now_eq : s.now = l.now
  session_eq : s.session = l.session
  deeds_eq : s.deeds = before ++ l.history.happenings

/-- The life that begins with a stage as it is. -/
def life (s : Stage) : SessionLife := ⟨s.now, s.session, []⟩

theorem tells_life (s : Stage) : s.Tells s.deeds s.life :=
  ⟨rfl, rfl, (List.append_nil _).symm⟩

section

variable {before : List (Nat × Happening)} {s s' : Stage} {l start : SessionLife}

/-- What is done to a stage and to a life in the same way leaves them together. -/
theorem Tells.record (h : s.Tells before l) {session : Session} {new : List Session.Deed}
    (hnow : s'.now = s.now) (hsession : s'.session = session)
    (hdeeds : s'.deeds = s.deeds ++
      (new.filterMap Session.Deed.happening?).map fun e => (s.now, e)) :
    s'.Tells before (l.record session new) := by
  refine ⟨hnow.trans h.now_eq, hsession, ?_⟩
  rw [hdeeds, h.deeds_eq, SessionLife.happenings_record, List.append_assoc, h.now_eq]

/-! ### What a stage goes through by itself -/

/-- A stage got to where it is by itself, and its journal tells how. -/
def Follows (before : List (Nat × Happening)) (start : SessionLife) (s : Stage) : Prop :=
  ∃ events : List Session.Event, (∀ e ∈ events, e.Passes) ∧ s.Tells before (start.run events)

theorem Tells.follows (h : s.Tells before l) : Follows before l s := ⟨[], by simp, h⟩

theorem Follows.more (h : Follows before start s) (more : List Session.Event)
    (hpasses : ∀ e ∈ more, e.Passes)
    (hmore : ∀ l : SessionLife, s.Tells before l → s'.Tells before (l.run more)) :
    Follows before start s' := by
  obtain ⟨events, hevents, htells⟩ := h
  refine ⟨events ++ more, ?_, ?_⟩
  · intro e he
    rcases List.mem_append.mp he with he | he
    · exact hevents e he
    · exact hpasses e he
  · rw [SessionLife.run_append]
    exact hmore _ htells

theorem filter_channel (effects : List ChannelEffect) :
    (effects.map Happening.channel).filter (·.isDeed) =
      (effects.map fun e => Session.Deed.channel (.did e)).filterMap Session.Deed.happening? := by
  induction effects with
  | nil => rfl
  | cons e effects ih => exact congrArg (Happening.channel e :: ·) ih

theorem filter_autosaver (effects : List SaverEffect) :
    (effects.map Happening.autosaver).filter (·.isDeed) =
      (effects.map fun e => Session.Deed.saver (.did e)).filterMap Session.Deed.happening? := by
  induction effects with
  | nil => rfl
  | cons e effects ih => exact congrArg (Happening.autosaver e :: ·) ih

theorem steady_follows (before : List (Nat × Happening)) (start : SessionLife) :
    Steady (Follows before start) := by
  constructor
  · intro p rest s h
    cases p with
    | channel =>
        refine h.more (List.replicate s.session.channel.work (.channel .work)) ?_ ?_
        · intro e he
          obtain rfl := List.eq_of_mem_replicate he
          trivial
        · intro l htells
          rw [l.run_channel_work, ← htells.now_eq, ← htells.session_eq]
          have hsession : (s.session.turn s.now .channel).session = { s.session with
              channel := (s.session.channel.steps s.now s.session.channel.work).1 } := rfl
          have hshown : (s.session.turn s.now .channel).happenings =
              (s.session.channel.steps s.now s.session.channel.work).2.map .channel := rfl
          refine htells.record (act_now ..) ((act_session ..).trans hsession) ?_
          rw [deeds_act, hshown, filter_channel]
          rfl
    | autosaver =>
        refine h.more (List.replicate Autosaver.work (.saver .work)) ?_ ?_
        · intro e he
          obtain rfl := List.eq_of_mem_replicate he
          trivial
        · intro l htells
          rw [l.run_saver_work, ← htells.now_eq, ← htells.session_eq]
          have hsession : (s.session.turn s.now .autosaver).session = { s.session with
              autosaver := (s.session.autosaver.steps s.now Autosaver.work).1 } := rfl
          have hshown : (s.session.turn s.now .autosaver).happenings =
              (s.session.autosaver.steps s.now Autosaver.work).2.map .autosaver := rfl
          refine htells.record (act_now ..) ((act_session ..).trans hsession) ?_
          rw [deeds_act, hshown, filter_autosaver]
          rfl
    | run number =>
        refine h.more [.poll number] (by simp [Event.Passes]) ?_
        intro l htells
        rw [SessionLife.run_cons, SessionLife.run_nil, SessionLife.next, ← htells.now_eq,
          ← htells.session_eq]
        refine htells.record (act_now ..) (act_session ..) ?_
        rw [deeds_act, filter_turn]
        rfl
  · intro t s h
    refine h.more [.channel (.clock t)] (by simp [Event.Passes]) ?_
    intro l htells
    have hclock : (Event.channel (.clock t)).clock? = some t := rfl
    rw [SessionLife.run_cons, SessionLife.next_clock hclock, SessionLife.run_nil]
    exact ⟨moveTo_now .., (moveTo_session ..).trans htells.session_eq,
      (deeds_moveTo ..).trans htells.deeds_eq⟩

/-! ### What the owner does -/

theorem Tells.logged (h : s.Tells before l) (lines : Log) :
    (s.record (lines.map .logged)).Tells before l := by
  refine ⟨h.now_eq, h.session_eq, ?_⟩
  have hnone : (lines.map Happening.logged).filter (·.isDeed) = [] := by simp [Happening.isDeed]
  rw [deeds_record, hnone, List.map_nil, List.append_nil, h.deeds_eq]

/-- What the owner does to the session shows in no journal. -/
theorem Tells.owned (h : s.Tells before l) {session : Session} (new : List Session.Deed)
    (hnew : new.filterMap Session.Deed.happening? = []) (hnow : s'.now = s.now)
    (hsession : s'.session = session) (hdeeds : s'.deeds = s.deeds) :
    s'.Tells before (l.record session new) :=
  h.record hnow hsession (by rw [hdeeds, hnew, List.map_nil, List.append_nil])

theorem Tells.edit (h : s.Tells before l) (submission : Submission) :
    (s.edit submission).Tells before (l.next (.saver (.update submission))) :=
  h.owned [.saver (.updated submission)] rfl rfl (by rw [Stage.edit, h.session_eq]; rfl)
    rfl

theorem Tells.startRun (h : s.Tells before l) (submission : Submission) :
    (s.startRun submission).2.Tells before (l.next (.start submission)) :=
  h.owned [] rfl (call_now ..) (by rw [Stage.startRun, call_session, h.session_eq]) (deeds_call ..)

theorem Tells.cancelRuns (h : s.Tells before l) :
    Stage.Tells { s with session := s.session.cancelRuns } before (l.next .cancel) :=
  h.owned [.cancelled] rfl rfl (by rw [h.session_eq]) rfl

theorem Tells.stopSaving (h : s.Tells before l) :
    s.stopSaving.Tells before (l.next (.saver .stop)) :=
  h.owned [.saver .stopped] rfl (call_now ..)
    (by rw [Stage.stopSaving, call_session, h.session_eq]; rfl) (deeds_call ..)

theorem Tells.tearDown (h : s.Tells before l) :
    s.tearDown.Tells before (l.next (.channel .tearDown)) :=
  h.owned [.channel .tornDown] rfl (call_now ..)
    (by rw [Stage.tearDown, onChannel, call_session, h.session_eq]; rfl) (deeds_call ..)

/-! ### Waiting and the end -/

theorem Tells.await (h : s.Tells before l) (p : Party) (holds : Session → Bool) (fuel : Nat) :
    Follows before l (s.await p holds fuel) :=
  (steady_follows before l).await h.follows p holds fuel

/-- To cancel the runs leaves none that is yet to begin. -/
theorem noneBegins_cancelRuns (s : Session) : s.cancelRuns.NoneBegins := by
  intro r hr
  obtain ⟨run, _, rfl⟩ := List.mem_map.mp hr
  split
  · rename_i outcome hp
    rw [hp]
    exact RunPhase.noConfusion
  · exact RunPhase.noConfusion

/-- How a session ends on a stage: the autosaver ends, then the channel is torn down. -/
theorem Tells.finish (h : s.Tells before l) :
    ∃ closing leaving : List Session.Event, (∀ e ∈ closing ++ leaving, e.Passes) ∧
      let stopped := ((l.next .cancel).next (.saver .stop)).run closing
      s.finish.Tells before ((stopped.next (.channel .tearDown)).run leaving) ∧
        s.finish.session.autosaver.isFinished = true := by
  obtain ⟨closing, hclosing, hstopped⟩ :=
    h.cancelRuns.stopSaving.await .autosaver (·.autosaver.isFinished) 3
  obtain ⟨leaving, hleaving, hlast⟩ :=
    hstopped.tearDown.await .channel (·.channel.isFinished) 2
  let cancelled : Stage := { s with session := s.session.cancelRuns }
  have hsaved : cancelled.closeSaver.session.autosaver.isFinished = true :=
    isFinished_closeSaver (noneBegins_cancelRuns _)
  refine ⟨closing, leaving, ?_, hlast.logged [_], ?_⟩
  · intro e he
    exact (List.mem_append.mp he).elim (hclosing e) (hleaving e)
  · rw [Autosaver.isFinished_iff] at hsaved ⊢
    refine steady_finished.await ?_ ..
    rwa [Stage.tearDown, onChannel, call_session]

end

end Stage

end ExerciseClient
