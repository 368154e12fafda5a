import ExerciseClient.Proofs.Autosave.Delivering
import ExerciseClient.Proofs.Session.Telling

/-! The way of one source through a session. Its owner makes the source the draft and runs it,
cancels what has not ended, stops the autosaver and waits for its end. Whatever the channel and the
server do meanwhile, what becomes of the autosaver is a life of its own in which it is given no
draft but the source; so the source is delivered. -/

namespace ExerciseClient

namespace Session

def Deed.saver? : Deed → Option Autosaver.Deed
  | .saver d => some d
  | _ => none

/-- What the autosaver did and had done to it. -/
def History.saver (h : History) : Autosaver.History := h.filterMap (·.2.saver?)

/-- It may happen while the owner of the session waits, whatever becomes of the channel. -/
def Event.IsAwaited : Event → Prop
  | .channel _ | .saver .work | .saver (.clock _) | .poll _ => True
  | _ => False

theorem Event.Passes.isAwaited {e : Event} (h : e.Passes) : e.IsAwaited := by
  rcases e with _ | (_ | _ | _ | _) | _ | _ | _ <;> trivial

/-- The submission of a run that has not begun. -/
def unbegun? (s : Session) (number : Nat) : Option Submission :=
  match s.runs[number]? with
  | some ⟨submission, .fresh⟩ => some submission
  | _ => none

theorem unbegun?_eq_some_iff {s : Session} {number : Nat} {submission : Submission} :
    s.unbegun? number = some submission ↔ s.runs[number]? = some ⟨submission, .fresh⟩ := by
  rw [unbegun?]
  split
  · rename_i hr
    simp [hr]
  · rename_i hn
    exact ⟨nofun, fun hr => absurd hr (hn submission)⟩

/-- A run that begins gives the autosaver its submission, and nothing else does in a turn of a
run. -/
theorem autosaver_turn_run (now number : Nat) (s : Session) :
    (s.turn now (.run number)).session.autosaver =
      ((s.unbegun? number).map s.autosaver.update).getD s.autosaver := by
  have hturn := s.turn_run now number
  generalize (s.turn now (.run number)).session = s' at hturn ⊢
  cases hturn with
  | idle hi =>
      have hnone : s.unbegun? number = none := Option.eq_none_iff_forall_ne_some.mpr
        fun submission h => (hi _ (unbegun?_eq_some_iff.mp h)).1 rfl
      rw [hnone]
      rfl
  | @begun run phase hr hf hp =>
      obtain ⟨submission, _⟩ := run
      obtain rfl : _ = RunPhase.fresh := hf
      rw [unbegun?_eq_some_iff.mpr hr]
      rfl
  | @checked run seen deadline phase hr hw hp =>
      have hnone : s.unbegun? number = none := Option.eq_none_iff_forall_ne_some.mpr
        fun submission h => by
          obtain rfl := Option.some.inj (hr.symm.trans (unbegun?_eq_some_iff.mp h))
          cases hw
      rw [hnone]
      rfl

theorem saver_shown (s : Session) (number : Nat) (after : Session) :
    (s.shown number after).filterMap (·.saver?) =
      (s.unbegun? number).toList.map .updated := by
  have hending : (after.ending number).filterMap (·.saver?) = [] := by
    simp [ending, Deed.saver?]
  rw [shown, unbegun?]
  cases s.runs[number]? with
  | none => rfl
  | some run =>
      obtain ⟨submission, phase⟩ := run
      cases phase with
      | fresh => exact congrArg (Autosaver.Deed.updated submission :: ·) hending
      | waiting => exact hending
      | ended | cancelled => rfl

end Session

theorem SaverLife.next_resume (now : Nat) (a : Autosaver) (past : Autosaver.History)
    (e : Autosaver.Event) : (⟨now, a, past⟩ : SaverLife).next e =
      ⟨((ofSaver now a).next e).now, ((ofSaver now a).next e).saver,
        past ++ ((ofSaver now a).next e).history⟩ := by
  cases e with
  | work =>
      cases h : a.step? now with
      | none => simp [next, ofSaver, h]
      | some m => simp [next, ofSaver, record, h]
  | clock | update | stop => simp [next, ofSaver, record]

namespace SessionLife

open Session

/-- The life of the autosaver. -/
def saver (l : SessionLife) : SaverLife := ⟨l.now, l.session.autosaver, l.history.saver⟩

/-- What an event of the session is to the autosaver; a run that begins gives it a draft. -/
def saverEvents (l : SessionLife) : Event → List Autosaver.Event
  | .channel e => [.clock (l.next (.channel e)).now]
  | .saver e => [e]
  | .poll number => (l.session.unbegun? number).toList.map .update
  | .start _ | .cancel => []

theorem saver_record (l : SessionLife) (session : Session) (deeds : List Deed) :
    (l.record session deeds).saver =
      ⟨l.now, session.autosaver, l.history.saver ++ deeds.filterMap (·.saver?)⟩ := by
  simp [record, saver, History.saver, List.filterMap_map, Function.comp_def]

theorem saver_poll (l : SessionLife) (number : Nat) :
    (l.next (.poll number)).saver = l.saver.run (l.saverEvents (.poll number)) := by
  rw [next, saver_record, saver_shown, autosaver_turn_run, saverEvents]
  cases l.session.unbegun? number with
  | none => simp [saver]
  | some submission => rfl

theorem saver_next (l : SessionLife) (e : Event) :
    (l.next e).saver = l.saver.run (l.saverEvents e) := by
  cases e with
  | channel e => simp [next, saver, record, saverEvents, History.saver, Deed.saver?, SaverLife.next]
  | saver e =>
      rw [saverEvents, SaverLife.run_cons, SaverLife.run_nil, saver, SaverLife.next_resume]
      simp [next, saver, record, History.saver, Deed.saver?, List.filterMap_map, Function.comp_def]
  | start submission => simp [next, saver, record, saverEvents, startRun]
  | poll number => exact l.saver_poll number
  | cancel => simp [next, saver, record, saverEvents, History.saver, Deed.saver?, cancelRuns]

/-- What a run of events is to the autosaver. -/
def saverRun (l : SessionLife) : List Event → List Autosaver.Event
  | [] => []
  | e :: events => l.saverEvents e ++ (l.next e).saverRun events

theorem saver_run (l : SessionLife) (events : List Event) :
    (l.run events).saver = l.saver.run (l.saverRun events) := by
  induction events generalizing l with
  | nil => rfl
  | cons e events ih => rw [run_cons, ih, saver_next, saverRun, SaverLife.run_append]

theorem saverRun_append (l : SessionLife) (a b : List Event) :
    l.saverRun (a ++ b) = l.saverRun a ++ (l.run a).saverRun b := by
  induction a generalizing l with
  | nil => rfl
  | cons e a ih => rw [List.cons_append, saverRun, ih, saverRun, run_cons, List.append_assoc]

theorem started_next {l : SessionLife} {e : Event} {run : Run}
    (hr : run ∈ (l.next e).session.runs) :
    (∃ earlier ∈ l.session.runs, earlier.submission = run.submission) ∨
      e = .start run.submission := by
  cases e with
  | channel e | saver e => exact .inl ⟨run, hr, rfl⟩
  | start submission =>
      rcases List.mem_append.mp hr with hm | hm
      · exact .inl ⟨run, hm, rfl⟩
      · obtain rfl := List.mem_singleton.mp hm
        exact .inr rfl
  | poll number =>
      left
      have hturn := l.session.turn_run l.now number
      replace hr : run ∈ (l.session.turn l.now (.run number)).session.runs := hr
      generalize (l.session.turn l.now (.run number)).session = s' at hturn hr
      cases hturn with
      | idle hi => exact ⟨run, hr, rfl⟩
      | @begun earlier phase hr' _ _ | @checked earlier _ _ phase hr' _ _ =>
          rcases List.mem_or_eq_of_mem_set hr with hm | rfl
          · exact ⟨run, hm, rfl⟩
          · exact ⟨earlier, List.mem_of_getElem? hr', rfl⟩
  | cancel =>
      obtain ⟨earlier, hm, rfl⟩ := List.mem_map.mp hr
      refine .inl ⟨earlier, hm, ?_⟩
      split <;> rfl

theorem started_run {l : SessionLife} {events : List Event} {run : Run}
    (hr : run ∈ (l.run events).session.runs) :
    (∃ earlier ∈ l.session.runs, earlier.submission = run.submission) ∨
      .start run.submission ∈ events := by
  induction events generalizing l with
  | nil => exact .inl ⟨run, hr, rfl⟩
  | cons e events ih =>
      rcases ih hr with ⟨earlier, hm, hs⟩ | hm
      · rw [← hs]
        rcases started_next hm with h | rfl
        · exact .inl h
        · exact .inr List.mem_cons_self
      · exact .inr (List.mem_cons_of_mem e hm)

/-! ### While the owner waits -/

/-- A run that has not begun yet is there from the start. -/
theorem fresh_next {l : SessionLife} {e : Event} (he : e.IsAwaited) {run : Run}
    (hr : run ∈ (l.next e).session.runs) (hf : run.phase = .fresh) : run ∈ l.session.runs := by
  cases e with
  | channel e | saver e => exact hr
  | poll number =>
      have hturn := l.session.turn_run l.now number
      rw [next] at hr
      replace hr : run ∈ (l.session.turn l.now (.run number)).session.runs := hr
      generalize (l.session.turn l.now (.run number)).session = s' at hturn hr
      cases hturn with
      | idle hi => exact hr
      | begun hr' _ hp | checked hr' _ hp =>
          rcases List.mem_or_eq_of_mem_set hr with hm | rfl
          · exact hm
          · exact absurd hf hp.ne_fresh
  | start | cancel => exact he.elim

/-- The autosaver is not stopped meanwhile, and the drafts that it is given are of runs that had not
begun. -/
theorem saverRun_of_awaited (l : SessionLife) (events : List Event)
    (he : ∀ e ∈ events, e.IsAwaited) : .stop ∉ l.saverRun events ∧
      ∀ submission, .update submission ∈ l.saverRun events →
        ⟨submission, .fresh⟩ ∈ l.session.runs := by
  induction events generalizing l with
  | nil => simp [saverRun]
  | cons e events ih =>
      have hawaited := he e List.mem_cons_self
      obtain ⟨hstop, hupdates⟩ := ih (l.next e) fun e' hm => he e' (List.mem_cons_of_mem e hm)
      simp only [saverRun, List.mem_append]
      refine ⟨?_, ?_⟩
      · rintro (hm | hm)
        · cases e with
          | channel e => simp [saverEvents] at hm
          | saver e => cases e <;> simp_all [saverEvents, Event.IsAwaited]
          | poll number => simp [saverEvents] at hm
          | start | cancel => exact hawaited
        · exact hstop hm
      · rintro submission (hm | hm)
        · cases e with
          | channel e => simp [saverEvents] at hm
          | saver e => cases e <;> simp_all [saverEvents, Event.IsAwaited]
          | poll number =>
              have hbegins : l.session.unbegun? number = some submission := by
                simpa [saverEvents] using hm
              exact List.mem_of_getElem? (unbegun?_eq_some_iff.mp hbegins)
          | start | cancel => exact hawaited.elim
        · exact fresh_next hawaited (hupdates submission hm) rfl

end SessionLife

namespace Session

/-! ### The errand -/

/-- What happens while the owner waits: before the run, as long as it goes on, and after it. -/
structure Errand where
  opening : List Event
  running : List Event
  closing : List Event
  awaited : ∀ e ∈ opening ++ running ++ closing, e.IsAwaited

namespace Errand

/-- The owner makes the source the draft and runs it, if there is one. -/
def begin (source : Option Submission) : List Event :=
  source.toList.flatMap fun s => [.saver (.update s), .start s]

/-- Where the session is when the wait for the run is over. -/
def ran (w : Errand) (source : Option Submission) (start : SessionLife) : SessionLife :=
  start.run (w.opening ++ begin source ++ w.running)

/-- The runs are cancelled and the autosaver is stopped. -/
def left (w : Errand) (source : Option Submission) (start : SessionLife) : SessionLife :=
  ((w.ran source start).next .cancel).next (.saver .stop)

/-- Where the session is when the wait for its end is over. -/
def last (w : Errand) (source : Option Submission) (start : SessionLife) : SessionLife :=
  (w.left source start).run w.closing

variable (w : Errand) {source : Option Submission} {start : SessionLife}

theorem last_eq : w.last source start = start.run
    (w.opening ++ begin source ++ w.running ++ .cancel :: .saver .stop :: w.closing) := by
  rw [SessionLife.run_append]
  rfl

/-- Nothing but the source is run. -/
theorem source_of_run (hruns : start.session.runs = []) {events : List Event}
    (hm : events ⊆ w.opening ++ begin source ++ w.running) {run : Run}
    (hr : run ∈ (start.run events).session.runs) : source = some run.submission := by
  have hnone : .start run.submission ∉ w.opening ++ w.running := fun hs =>
    w.awaited (.start run.submission) (List.mem_append_left _ hs)
  rcases SessionLife.started_run hr with ⟨earlier, he, -⟩ | hs
  · rw [hruns] at he
    cases he
  · have hbegin : .start run.submission ∈ begin source := by
      have hs := hm hs
      simp only [List.mem_append, not_or] at hs hnone
      exact (hs.resolve_right hnone.2).resolve_left hnone.1
    cases source with
    | none => cases hbegin
    | some s => simpa [begin, eq_comm] using hbegin

variable (source start)

/-- The autosaver is given the source and nothing else before the stop, which comes then. -/
theorem saverRun_ran (hruns : start.session.runs = []) :
    let before := start.saverRun (w.opening ++ begin source ++ w.running)
    .stop ∉ before ∧ ∀ submission, .update submission ∈ before ↔ source = some submission := by
  have hopening := start.saverRun_of_awaited w.opening fun e he => w.awaited e (by simp [he])
  have hrunning := (start.run (w.opening ++ begin source)).saverRun_of_awaited w.running
    fun e he => w.awaited e (by simp [he])
  have hbegin : (start.run w.opening).saverRun (begin source) = source.toList.map .update := by
    cases source <;> rfl
  simp only [SessionLife.saverRun_append, hbegin, List.mem_append]
  refine ⟨?_, ?_⟩
  · rintro ((hm | hm) | hm)
    · exact hopening.1 hm
    · simp at hm
    · exact hrunning.1 hm
  · intro submission
    constructor
    · rintro ((hm | hm) | hm)
      · have hfresh := hopening.2 submission hm
        rw [hruns] at hfresh
        cases hfresh
      · simpa using hm
      · exact w.source_of_run hruns (by simp) (hrunning.2 submission hm)
    · rintro rfl
      exact .inl (.inr (by simp))

/-- After the stop it is given nothing. -/
theorem saverRun_closing :
    ∀ submission, .update submission ∉ (w.left source start).saverRun w.closing := by
  intro submission hm
  have hclosing := (w.left source start).saverRun_of_awaited w.closing
    fun e he => w.awaited e (by simp [he])
  exact Stage.noneBegins_cancelRuns _ _ (hclosing.2 submission hm) rfl

end Errand

/-- The source of an errand is delivered, whatever happens on the way, when the autosaver has
ended. -/
theorem Errand.delivers (w : Errand) (source : Option Submission) (now : Nat) (c : Config)
    (channel : Channel) (store : Store) (exercise : String) (kind : ExerciseKind)
    (saved : Option Submission) :
    let start : SessionLife := ⟨now, .start c channel store exercise kind saved, []⟩
    (w.last source start).session.autosaver.isFinished = true →
    ∃ later : Autosaver.History, (w.last source start).history.saver =
      (w.ran source start).history.saver ++ .stopped :: later ∧
      Autosaver.Delivers store saved source (w.ran source start).history.saver.effects
        later.effects := by
  intro start hf
  let before := start.saverRun (w.opening ++ begin source ++ w.running)
  let after := (w.left source start).saverRun w.closing
  obtain ⟨hb, hupdates⟩ := w.saverRun_ran source start rfl
  have hno := w.saverRun_closing source start
  have hran : (w.ran source start).saver = start.saver.run before := start.saver_run _
  have hleft : (w.left source start).saver = (w.ran source start).saver.next .stop := by
    rw [left, SessionLife.saver_next, SessionLife.saver_next]
    rfl
  have hlast : (w.last source start).saver = ((w.ran source start).saver.next .stop).run after := by
    rw [last, SessionLife.saver_run, hleft]
  have hunstopped : Autosaver.Unstopped start.saver := ⟨rfl, id⟩
  have htracked : Autosaver.Tracked saved (start.saver.run before) :=
    (Autosaver.tracked_spawn now store exercise _ saved).run before
  have hwinding : Autosaver.Winding saved (w.ran source start).saver.history
      (w.last source start).saver := by
    rw [hlast, hran]
    exact ((hunstopped.run hb).winding htracked).run hno
  have hended := hwinding.ended_of_isFinished hf
  obtain ⟨later, hhistory, hquiet⟩ : ∃ later : Autosaver.History,
      (w.last source start).saver.history =
        (w.ran source start).saver.history ++ .stopped :: later ∧ later.drafts = [] := by
    obtain ⟨later, hnew, hdrafts⟩ :=
      Autosaver.grows_without_drafts ((w.ran source start).saver.next .stop) hno
    refine ⟨later, ?_, hdrafts⟩
    rw [hlast, hnew, SaverLife.next, SaverLife.record, List.append_assoc]
    rfl
  have hsource : ∀ t, t ∈ (w.last source start).saver.history.drafts ↔ source = some t := by
    obtain ⟨new, hnew, hgiven⟩ := Autosaver.grows_with_drafts start.saver before
    have hall : (w.last source start).saver.history.drafts = before.filterMap (·.update?) := by
      have hlater : Autosaver.History.drafts (.stopped :: later) = [] := hquiet
      have hfirst : start.saver.history = [] := rfl
      rw [hhistory, Autosaver.History.drafts_append, hlater, hran, hnew, hfirst, List.append_nil,
        List.nil_append, hgiven]
    intro t
    rw [hall, ← hupdates t, List.mem_filterMap]
    constructor
    · rintro ⟨e, he, ht⟩
      cases e with
      | update submission => exact Option.some.inj ht ▸ he
      | work | clock | stop => cases ht
    · intro h
      exact ⟨_, h, rfl⟩
  have hserved : Autosaver.Served store (w.last source start).saver := by
    rw [hlast, hran]
    exact (((Autosaver.served_spawn now store exercise _ saved).run before).next .stop).run after
  exact ⟨later, hhistory,
    hended.delivers hwinding.tracked.lawful hserved hsource hhistory hquiet⟩

end Session

end ExerciseClient
