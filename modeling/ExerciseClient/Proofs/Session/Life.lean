import ExerciseClient.Proofs.Autosave.Life
import ExerciseClient.Proofs.Channel.Coherence
import ExerciseClient.Proofs.Session.Turn

/-! Lives of a session. The channel and the autosaver live as they do alone, while runs are started,
take their turns and are cancelled, in any order. There is one clock: when it moves for the channel
or the autosaver it moves for all. What a run finds when it takes its turn is told apart further
than the run needs, since it also asks for a result where there may be none. -/

namespace ExerciseClient

/-- What a run that waits for a result finds. -/
inductive WaitEnd where
  | result (r : RunResult)
  | timeout
  /-- There is word of a result, but none is there. -/
  | channelClosed
deriving DecidableEq

/-- What a run finds that has seen so many results and waits until a deadline; `none` if it has to
wait on. -/
def Channel.waitEnd? (now seen deadline : Nat) (c : Channel) : Option WaitEnd :=
  if seen < c.received then some ((c.last.map .result).getD .channelClosed)
  else if deadline ≤ now then some .timeout
  else none

theorem Channel.waitEnd?_eq_result_iff {now seen deadline : Nat} {c : Channel} {r : RunResult} :
    c.waitEnd? now seen deadline = some (.result r) ↔ seen < c.received ∧ c.last = some r := by
  rw [waitEnd?]
  split
  · cases hl : c.last <;> simp_all
  · split <;> simp <;> omega

theorem Channel.waitEnd?_eq_timeout_iff {now seen deadline : Nat} {c : Channel} :
    c.waitEnd? now seen deadline = some .timeout ↔ c.received ≤ seen ∧ deadline ≤ now := by
  rw [waitEnd?]
  split
  · cases hl : c.last <;> simp <;> omega
  · split <;> simp <;> omega

theorem Channel.waitEnd?_eq_none_iff {now seen deadline : Nat} {c : Channel} :
    c.waitEnd? now seen deadline = none ↔ c.received ≤ seen ∧ now < deadline := by
  rw [waitEnd?]
  split
  · simp; omega
  · split <;> simp <;> omega

theorem Channel.waitEnd?_eq_closed_iff {now seen deadline : Nat} {c : Channel} :
    c.waitEnd? now seen deadline = some .channelClosed ↔ seen < c.received ∧ c.last = none := by
  rw [waitEnd?]
  split
  · cases hl : c.last <;> simp_all
  · split <;> simp <;> omega

def RunPhase.outcome? : RunPhase → Option (Except RunError RunOutcome)
  | .ended outcome => some outcome
  | _ => none

namespace Session

/-- What a check on a waiting run finds, unless a result came and none is kept. -/
inductive Check (now seen deadline : Nat) (s : Session) : RunPhase → Prop where
  | result {r} (hw : s.channel.waitEnd? now seen deadline = some (.result r)) :
      Check now seen deadline s (.ended (.ok (.ofResult r)))
  | timeout (hw : s.channel.waitEnd? now seen deadline = some .timeout) :
      Check now seen deadline s (.ended (.error (.resultTimeout s.exercise s.resultTimeout)))
  | waits (hw : s.channel.waitEnd? now seen deadline = none) :
      Check now seen deadline s (.waiting seen deadline)

/-- To check on a run is to do what is due to what it finds. -/
theorem checkRun_check {now seen deadline : Nat} {s : Session}
    (hc : s.channel.waitEnd? now seen deadline ≠ some .channelClosed) (number : Nat) (run : Run) :
    ∃ phase, Check now seen deadline s phase ∧
      (s.checkRun now number run seen deadline).session = s.setRun number run phase := by
  cases hw : s.channel.waitEnd? now seen deadline with
  | none =>
      obtain ⟨hseen, hd⟩ := Channel.waitEnd?_eq_none_iff.mp hw
      refine ⟨_, .waits hw, ?_⟩
      simp [checkRun, setRun, Nat.not_lt.mpr hseen, Nat.not_le.mpr hd]
  | some w =>
      cases w with
      | result r =>
          obtain ⟨hseen, hl⟩ := Channel.waitEnd?_eq_result_iff.mp hw
          refine ⟨_, .result hw, ?_⟩
          simp [checkRun, setRun, hseen, hl]
      | timeout =>
          obtain ⟨hseen, hd⟩ := Channel.waitEnd?_eq_timeout_iff.mp hw
          refine ⟨_, .timeout hw, ?_⟩
          simp [checkRun, setRun, Nat.not_lt.mpr hseen, hd]
      | channelClosed => exact absurd hw hc

/-- What happens to a session: its channel or its autosaver lives on, a run starts or has its turn,
or the runs are cancelled. -/
inductive Event where
  | channel (e : Channel.Event)
  | saver (e : Autosaver.Event)
  | start (submission : Submission)
  | poll (number : Nat)
  | cancel

/-- What a history keeps. -/
inductive Deed where
  | channel (d : Channel.Deed)
  | saver (d : Autosaver.Deed)
  | begun (number : Nat) (submission : Submission) (answer : Except SubmitError Unit)
  | ended (number : Nat) (outcome : Except RunError RunOutcome)
  /-- The runs that have not ended are cancelled. -/
  | cancelled

/-- What happened when, the oldest first. -/
abbrev History := List (Nat × Deed)

/-- The answer that the channel gives to a submission of the session. -/
def answer (s : Session) (submission : Submission) : Except SubmitError Unit :=
  (s.channel.submit s.exercise (.ok submission.toJson)).1

/-- The deeds by which a run begins: its submission becomes the draft before the channel gets it. -/
def beginning (s : Session) (number : Nat) (submission : Submission) : List Deed :=
  [.saver (.updated submission),
    .channel (.submitted s.channel.slot s.exercise (.ok submission.toJson) (s.answer submission)),
    .begun number submission (s.answer submission)]

/-- The deed by which a run has ended, if it has. -/
def ending (s : Session) (number : Nat) : List Deed :=
  (s.runs[number]?.bind (·.phase.outcome?)).toList.map (.ended number)

/-- What shows of a run's turn. -/
def shown (s : Session) (number : Nat) (after : Session) : List Deed :=
  match s.runs[number]? with
  | none => []
  | some run =>
    match run.phase with
    | .fresh => s.beginning number run.submission ++ after.ending number
    | .waiting .. => after.ending number
    | .ended _ | .cancelled => []

end Session

/-- A session with its clock and its history. -/
structure SessionLife where
  now : Nat
  session : Session
  history : Session.History

namespace SessionLife

open Session

/-- The session is another now, and what was done is dated. -/
def record (s : SessionLife) (session : Session) (deeds : List Deed) : SessionLife :=
  { s with session, history := s.history ++ deeds.map fun d => (s.now, d) }

/-- One event. The channel and the autosaver keep no history of their own here; what they did is
among the deeds of the session. -/
def next (s : SessionLife) : Event → SessionLife
  | .channel e =>
    let l := (Life.ofChannel s.now s.session.channel).next e
    { s.record { s.session with channel := l.channel } (l.history.deeds.map .channel) with
      now := l.now }
  | .saver e =>
    let l := (SaverLife.ofSaver s.now s.session.autosaver).next e
    { s.record { s.session with autosaver := l.saver } (l.history.map .saver) with now := l.now }
  | .start submission => s.record (s.session.startRun submission) []
  | .poll number =>
    let session := (s.session.turn s.now (.run number)).session
    s.record session (s.session.shown number session)
  | .cancel => s.record s.session.cancelRuns [.cancelled]

/-- Events one after another. -/
def run (s : SessionLife) (events : List Event) : SessionLife := events.foldl next s

@[simp] theorem run_nil (s : SessionLife) : s.run [] = s := rfl

@[simp] theorem run_cons (s : SessionLife) (e : Event) (events : List Event) :
    s.run (e :: events) = (s.next e).run events := rfl

theorem run_append (s : SessionLife) (before after : List Event) :
    s.run (before ++ after) = (s.run before).run after := List.foldl_append

@[simp] theorem history_record_nil (s : SessionLife) (session : Session) :
    (s.record session []).history = s.history := List.append_nil _

end SessionLife

namespace Session

theorem Check.congr {now seen deadline : Nat} {s s' : Session} {phase : RunPhase}
    (h : Check now seen deadline s phase) (hreceived : s'.channel.received = s.channel.received)
    (hlast : s'.channel.last = s.channel.last) (hexercise : s'.exercise = s.exercise)
    (htimeout : s'.resultTimeout = s.resultTimeout) : Check now seen deadline s' phase := by
  have hw : s'.channel.waitEnd? now seen deadline = s.channel.waitEnd? now seen deadline := by
    rw [Channel.waitEnd?, Channel.waitEnd?, hreceived, hlast]
  cases h with
  | result h => exact .result (hw.trans h)
  | timeout h => exact hexercise ▸ htimeout ▸ .timeout (hw.trans h)
  | waits h => exact .waits (hw.trans h)

/-- A turn of a run follows exactly one rule. -/
inductive Poll (now number : Nat) (s : Session) : Session → List Deed → Prop where
  | idle (hi : ∀ run, s.runs[number]? = some run →
      run.phase ≠ .fresh ∧ ∀ seen deadline, run.phase ≠ .waiting seen deadline) :
      Poll now number s s []
  | rejected {run e} (hr : s.runs[number]? = some run) (hf : run.phase = .fresh)
      (ha : s.answer run.submission = .error e) :
      Poll now number s ((s.edit run.submission).setRun number run (.ended (.error (.submit e))))
        (s.beginning number run.submission ++ [.ended number (.error (.submit e))])
  | accepted {run phase} (hr : s.runs[number]? = some run) (hf : run.phase = .fresh)
      (ha : s.answer run.submission = .ok ())
      (hc : Check now s.channel.received (now + s.resultTimeout * 1000) s phase) :
      Poll now number s ((s.submitted run.submission).setRun number run phase)
        (s.beginning number run.submission ++ phase.outcome?.toList.map (.ended number))
  | checked {run seen deadline phase} (hr : s.runs[number]? = some run)
      (hw : run.phase = .waiting seen deadline) (hc : Check now seen deadline s phase) :
      Poll now number s (s.setRun number run phase) (phase.outcome?.toList.map (.ended number))

theorem ending_setRun {s : Session} {number : Nat} {run : Run}
    (hr : s.runs[number]? = some run) (run' : Run) (phase : RunPhase) :
    (s.setRun number run' phase).ending number = phase.outcome?.toList.map (.ended number) := by
  have hlt : number < s.runs.length := (List.getElem?_eq_some_iff.mp hr).1
  simp [ending, setRun, hlt]

theorem received_submit (c : Channel) (exercise : String)
    (submission : Except String Json.Value) :
    (c.submit exercise submission).2.1.received = c.received ∧
      (c.submit exercise submission).2.1.last = c.last := by
  rcases Channel.submit_cases c exercise submission with ⟨_, _, _, _, _, _, _, he⟩ | ⟨_, _, he⟩ <;>
    rw [he] <;> exact ⟨rfl, rfl⟩

/-- A submission that is not taken leaves the channel as it is. -/
theorem channel_of_rejected {s : Session} {submission : Submission} {e : SubmitError}
    (ha : s.answer submission = .error e) :
    (s.channel.submit s.exercise (.ok submission.toJson)).2.1 = s.channel := by
  rcases Channel.submit_cases s.channel s.exercise (.ok submission.toJson) with
    ⟨_, _, _, _, _, _, hok, _⟩ | ⟨_, _, he⟩
  · rw [answer, hok] at ha
    cases ha
  · exact he

theorem beginRun_of_rejected {now number : Nat} {run : Run} {s : Session} {e : SubmitError}
    (ha : s.answer run.submission = .error e) : (s.beginRun now number run).session =
      (s.edit run.submission).setRun number run (.ended (.error (.submit e))) := by
  have hchannel := channel_of_rejected ha
  have hanswer : (s.channel.submit s.exercise (.ok run.submission.toJson)).1 = .error e := ha
  simp only [beginRun, edit, hanswer, hchannel, setRun]

/-- A run that is taken is checked at once. -/
theorem beginRun_of_accepted {now number : Nat} {run : Run} {s : Session}
    (ha : s.answer run.submission = .ok ()) : (s.beginRun now number run).session =
      (checkRun now number run s.channel.received (now + s.resultTimeout * 1000)
        (s.submitted run.submission)).session := by
  have hanswer : (s.channel.submit s.exercise (.ok run.submission.toJson)).1 = .ok () := ha
  have hreceived := (received_submit s.channel s.exercise (.ok run.submission.toJson)).1
  simp only [beginRun, edit, submitted, hanswer, hreceived]

theorem poll_turn (now number : Nat) {s : Session}
    (hc : ∀ seen deadline, s.channel.waitEnd? now seen deadline ≠ some .channelClosed) :
    Poll now number s (s.turn now (.run number)).session
      (s.shown number (s.turn now (.run number)).session) := by
  cases hr : s.runs[number]? with
  | none => simpa [turn, shown, hr] using Poll.idle (by simp [hr])
  | some run =>
      cases hf : run.phase with
      | fresh =>
          have hshown (after : Session) :
              s.shown number after = s.beginning number run.submission ++ after.ending number := by
            simp [shown, hr, hf]
          have hturn : s.turn now (.run number) = s.beginRun now number run := by
            simp [turn, hr, hf]
          rw [hturn, hshown]
          cases ha : s.answer run.submission with
          | error e =>
              rw [beginRun_of_rejected ha, ending_setRun (s := s.edit run.submission) hr]
              exact .rejected hr hf ha
          | ok u =>
              obtain ⟨hreceived, hlast⟩ :=
                received_submit s.channel s.exercise (.ok run.submission.toJson)
              have hopen : (s.submitted run.submission).channel.waitEnd? now s.channel.received
                  (now + s.resultTimeout * 1000) ≠ some .channelClosed := by
                rw [Ne, Channel.waitEnd?_eq_closed_iff]
                rintro ⟨hlt, _⟩
                exact Nat.ne_of_gt hlt hreceived
              obtain ⟨phase, hcheck, he⟩ := checkRun_check hopen number run
              rw [beginRun_of_accepted ha, he, ending_setRun (s := s.submitted run.submission) hr]
              exact .accepted hr hf ha (hcheck.congr hreceived.symm hlast.symm rfl rfl)
      | waiting seen deadline =>
          have hturn : s.turn now (.run number) = s.checkRun now number run seen deadline := by
            simp [turn, hr, hf]
          have hshown (after : Session) : s.shown number after = after.ending number := by
            simp [shown, hr, hf]
          obtain ⟨phase, hcheck, he⟩ := checkRun_check (hc seen deadline) number run
          rw [hturn, hshown, he, ending_setRun hr]
          exact .checked hr hf hcheck
      | ended outcome =>
          have hidle : Poll now number s s [] := .idle (by simp [hr, hf])
          simpa [turn, shown, hr, hf] using hidle
      | cancelled =>
          have hidle : Poll now number s s [] := .idle (by simp [hr, hf])
          simpa [turn, shown, hr, hf] using hidle

end Session

/-- A run need not wait for the channel, or it waits for it and has to wait on. -/
def RunPhase.IsAtRest (now : Nat) (c : Channel) : RunPhase → Prop
  | .waiting seen deadline => c.waitEnd? now seen deadline = none
  | _ => True

instance (now : Nat) (c : Channel) : (p : RunPhase) → Decidable (p.IsAtRest now c)
  | .waiting seen deadline =>
    inferInstanceAs (Decidable (c.waitEnd? now seen deadline = none))
  | .fresh | .ended _ | .cancelled => .isTrue trivial

def RunPhase.due? : RunPhase → Option Nat
  | .waiting _ deadline => some deadline
  | _ => none

def Session.Event.clock? : Event → Option Nat
  | .channel (.clock t) => some t
  | .saver (.clock t) => some t
  | _ => none

namespace SessionLife

open Session

/-- Nobody has anything to do before something else happens, but for runs that have not begun. -/
structure IsSettled (s : SessionLife) : Prop where
  channel : s.session.channel.step? s.now = none
  autosaver : (s.session.autosaver.step? s.now).isNone
  runs : ∀ run ∈ s.session.runs, run.phase.IsAtRest s.now s.session.channel

/-- No wait ends before an instant. -/
structure NoneDue (s : SessionLife) (t : Nat) : Prop where
  channel : t ≤ s.session.channel.due.getD t
  autosaver : t ≤ s.session.autosaver.due.getD t
  runs : ∀ run ∈ s.session.runs, t ≤ run.phase.due?.getD t

/-- The clock moves only while everyone waits, and not past the end of a wait. -/
def Allows (s : SessionLife) (e : Event) : Prop :=
  ∀ t, e.clock? = some t → s.IsSettled ∧ s.now ≤ t ∧ s.NoneDue t

/-- Everything happens on such a clock. -/
def Punctual (s : SessionLife) : List Event → Prop
  | [] => True
  | e :: events => s.Allows e ∧ (s.next e).Punctual events

/-- The clock is never set back, however late it may be. -/
def Forward (s : SessionLife) : List Event → Prop
  | [] => True
  | e :: events => (∀ t, e.clock? = some t → s.now ≤ t) ∧ (s.next e).Forward events

theorem Punctual.forward {s : SessionLife} {events : List Event} (h : s.Punctual events) :
    s.Forward events := by
  induction events generalizing s with
  | nil => trivial
  | cons e events ih => exact ⟨fun t ht => (h.1 t ht).2.1, ih h.2⟩

instance (s : SessionLife) : Decidable s.IsSettled :=
  decidable_of_iff ((s.session.channel.step? s.now).isNone ∧
    (s.session.autosaver.step? s.now).isNone ∧
      ∀ run ∈ s.session.runs, run.phase.IsAtRest s.now s.session.channel)
    ⟨fun ⟨hc, ha, hr⟩ => ⟨Option.isNone_iff_eq_none.mp hc, ha, hr⟩,
      fun h => ⟨Option.isNone_iff_eq_none.mpr h.channel, h.autosaver, h.runs⟩⟩

instance (s : SessionLife) (t : Nat) : Decidable (s.NoneDue t) :=
  decidable_of_iff (t ≤ s.session.channel.due.getD t ∧ t ≤ s.session.autosaver.due.getD t ∧
      ∀ run ∈ s.session.runs, t ≤ run.phase.due?.getD t)
    ⟨fun ⟨hc, ha, hr⟩ => ⟨hc, ha, hr⟩, fun h => ⟨h.channel, h.autosaver, h.runs⟩⟩

instance (s : SessionLife) (e : Event) : Decidable (s.Allows e) :=
  inferInstanceAs (Decidable (∀ t ∈ e.clock?, s.IsSettled ∧ s.now ≤ t ∧ s.NoneDue t))

instance decidablePunctual (s : SessionLife) : (events : List Event) →
    Decidable (s.Punctual events)
  | [] => .isTrue trivial
  | e :: events =>
    have := decidablePunctual (s.next e) events
    inferInstanceAs (Decidable (s.Allows e ∧ (s.next e).Punctual events))

theorem next_clock {s : SessionLife} {e : Event} {t : Nat} (h : e.clock? = some t) :
    s.next e = { s with now := t } := by
  cases e with
  | channel e =>
      cases e with
      | clock now =>
          obtain rfl := Option.some.inj h
          simp [next, record, Life.next, Life.ofChannel, Channel.History.deeds]
      | work | submit | listen | serve | tearDown => cases h
  | saver e =>
      cases e with
      | clock now =>
          obtain rfl := Option.some.inj h
          simp [next, record, SaverLife.next, SaverLife.ofSaver]
      | work | update | stop => cases h
  | start | poll | cancel => cases h

theorem next_poll {s : SessionLife} (number : Nat)
    (hc : ∀ seen deadline, s.session.channel.waitEnd? s.now seen deadline ≠ some .channelClosed) :
    ∃ session deeds, Poll s.now number s.session session deeds ∧
      s.next (.poll number) = s.record session deeds :=
  ⟨_, _, poll_turn s.now number hc, rfl⟩

/-- The channel lives on in a session as it does alone. -/
theorem next_channel {s : SessionLife} {e : Channel.Event}
    (h : (Session.Event.channel e).clock? = none) : ∃ (c : Channel) (deeds : List Channel.Deed),
      s.next (.channel e) = s.record { s.session with channel := c } (deeds.map .channel) ∧
        ∀ past, (⟨s.now, s.session.channel, past⟩ : Life).next e =
          ⟨s.now, c, past ++ deeds.map fun d => (s.now, d)⟩ := by
  have hnow : ((Life.ofChannel s.now s.session.channel).next e).now = s.now := by
    apply Life.next_now
    rintro t rfl
    cases h
  refine ⟨((Life.ofChannel s.now s.session.channel).next e).channel,
    ((Life.ofChannel s.now s.session.channel).next e).history.deeds, ?_, ?_⟩
  · simp only [next, hnow]
    rfl
  · intro past
    have hresume := Life.next_resume (Life.ofChannel s.now s.session.channel) past e
    have hhistory : ((Life.ofChannel s.now s.session.channel).next e).history =
        ((Life.ofChannel s.now s.session.channel).next e).history.deeds.map
          fun d => (s.now, d) :=
      Life.next_history (Life.ofChannel s.now s.session.channel) e
    have hpast : (Life.ofChannel s.now s.session.channel).resume past =
        ⟨s.now, s.session.channel, past⟩ := by
      simp [Life.resume, Life.ofChannel]
    rw [← hpast, hresume, ← hhistory, Life.resume, hnow]

/-- So does the autosaver. -/
theorem next_saver {s : SessionLife} {e : Autosaver.Event}
    (h : (Session.Event.saver e).clock? = none) : ∃ (a : Autosaver) (deeds : List Autosaver.Deed),
      s.next (.saver e) = s.record { s.session with autosaver := a } (deeds.map .saver) := by
  have hnow : ((SaverLife.ofSaver s.now s.session.autosaver).next e).now = s.now := by
    cases e with
    | work =>
        rcases (SaverLife.ofSaver s.now s.session.autosaver).next_work with
          ⟨_, hn⟩ | ⟨m, _, hn⟩ <;> rw [hn] <;> rfl
    | clock t => cases h
    | update | stop => rfl
  refine ⟨((SaverLife.ofSaver s.now s.session.autosaver).next e).saver,
    ((SaverLife.ofSaver s.now s.session.autosaver).next e).history, ?_⟩
  simp only [next, hnow]
  rfl

/-- As many steps of the channel as are allowed at an instant are as many events. -/
theorem run_channel_work (s : SessionLife) (fuel : Nat) :
    s.run (List.replicate fuel (.channel .work)) =
      s.record { s.session with channel := (s.session.channel.steps s.now fuel).1 }
        ((s.session.channel.steps s.now fuel).2.map fun e => .channel (.did e)) := by
  induction fuel generalizing s with
  | zero => simp [Channel.steps, record]
  | succ fuel ih =>
      rw [List.replicate_succ, run_cons, ih]
      cases h : s.session.channel.step? s.now with
      | none =>
          have hrest : s.session.channel.steps s.now fuel = (s.session.channel, []) := by
            cases fuel <;> simp [Channel.steps, h]
          simp [next, record, Life.next, Life.ofChannel, Channel.History.deeds, Channel.steps, h,
            hrest]
      | some m =>
          simp [next, record, Life.next, Life.record, Life.ofChannel, Channel.History.deeds,
            Channel.steps, h]

theorem run_saver_work (s : SessionLife) (fuel : Nat) :
    s.run (List.replicate fuel (.saver .work)) =
      s.record { s.session with autosaver := (s.session.autosaver.steps s.now fuel).1 }
        ((s.session.autosaver.steps s.now fuel).2.map fun e => .saver (.did e)) := by
  induction fuel generalizing s with
  | zero => simp [Autosaver.steps, record]
  | succ fuel ih =>
      rw [List.replicate_succ, run_cons, ih]
      cases h : s.session.autosaver.step? s.now with
      | none =>
          have hrest : s.session.autosaver.steps s.now fuel = (s.session.autosaver, []) := by
            cases fuel <;> simp [Autosaver.steps, h]
          simp [next, record, SaverLife.next, SaverLife.ofSaver, Autosaver.steps, h, hrest]
      | some m =>
          simp [next, record, SaverLife.next, SaverLife.record, SaverLife.ofSaver,
            Autosaver.steps, h]

end SessionLife

end ExerciseClient
