import ExerciseClient.App.Basic
import ExerciseClient.Proofs.Autosave.Life
import ExerciseClient.Proofs.Session.Drift
import ExerciseClient.Proofs.Session.LastSave

/-! What a session uses up of the scripts that it was started with. Each attempt to connect takes
one from the connector and each save one from the store, so what is left of either is told by the
journal. -/

namespace ExerciseClient

/-- A connector after some attempts. -/
def Connector.skip (c : Connector) (n : Nat) : Connector := { c with script := c.script.drop n }

@[simp] theorem Connector.skip_zero (c : Connector) : c.skip 0 = c := rfl

theorem Connector.skip_skip (c : Connector) (m n : Nat) : (c.skip m).skip n = c.skip (m + n) := by
  simp [skip]

theorem Connector.next_snd (c : Connector) : c.next.2 = c.skip 1 := by
  rcases c with ⟨_ | ⟨a, rest⟩, afterwards⟩ <;> rfl

/-- A store after some saves. -/
def Store.skip (s : Store) (n : Nat) : Store := { s with script := s.script.drop n }

@[simp] theorem Store.skip_zero (s : Store) : s.skip 0 = s := rfl

theorem Store.skip_skip (s : Store) (m n : Nat) : (s.skip m).skip n = s.skip (m + n) := by
  simp [skip]

theorem Store.next_snd (s : Store) : s.next.2 = s.skip 1 := by
  rcases s with ⟨_ | ⟨a, rest⟩, afterwards⟩ <;> rfl

namespace Channel

variable {now : Nat} {c : Channel} {s : Step}

theorem count_attempted_dispatch (n : Nat) (text : String) (c : Channel) :
    (c.dispatch n text).2.count .attempted = 0 := by
  rw [List.count_eq_zero]
  intro hm
  rcases mem_dispatch hm with he | ⟨l, he⟩ | ⟨name, r, he⟩ <;> cases he

theorem Move.connector (h : Move now c s) :
    s.1.connector = c.connector.skip (s.2.count .attempted) := by
  cases h with
  | begin | again => exact c.connector.next_snd
  | @accepted _ log =>
      have hlog : (log.map ChannelEffect.logged).count .attempted = 0 := by
        simp [List.count_eq_zero]
      simp [take, List.count_append, hlog]
  | @readText n l text inbox =>
      obtain ⟨last, received, he⟩ :=
        dispatch_fst n text { c with lines := c.lines.set n { l with inbox } }
      rw [he, count_attempted_dispatch]
      rfl
  | @closeEnded _ _ forGood e _ he =>
      rcases closeEnd?_cases he with rfl | ⟨l, rfl⟩ <;> cases forGood <;> rfl
  | _ => rfl

theorem connector_steps (now fuel : Nat) (c : Channel) :
    (c.steps now fuel).1.connector = c.connector.skip ((c.steps now fuel).2.count .attempted) := by
  induction fuel generalizing c with
  | zero => rfl
  | succ fuel ih =>
      rw [steps]
      cases hm : c.step? now with
      | none => rfl
      | some m =>
          have hmove := ((move_iff now c m).mpr hm).connector
          simp only [ih, hmove, Connector.skip_skip, List.count_append]

theorem connector_submit (exercise : String) (submission : Except String Json.Value)
    (c : Channel) : (c.submit exercise submission).2.1.connector = c.connector := by
  rcases submit_cases c exercise submission with ⟨_, _, _, _, _, _, _, he⟩ | ⟨_, _, he⟩ <;> rw [he]

end Channel

namespace Autosaver

/-- The saves that some effects ask for. -/
def asked (effects : List SaverEffect) : List SaveRequest :=
  effects.filterMap fun
    | .requested r => some r
    | _ => none

theorem asked_append (a b : List SaverEffect) : asked (a ++ b) = asked a ++ asked b :=
  List.filterMap_append

theorem asked_logged (log : Log) : asked (log.map .logged) = [] := by
  rw [asked, List.filterMap_map, List.filterMap_eq_nil_iff]
  intro _ _
  rfl

variable {now : Nat} {a : Autosaver} {s : Step}

theorem goOn_asked (tick : Option Nat) (a : Autosaver) :
    (a.goOn tick).1.store = a.store ∧ asked (a.goOn tick).2 = [] := by
  rcases goOn_cases tick a with ⟨t, rfl, he⟩ | ⟨rfl, l, he⟩ <;> rw [he] <;> exact ⟨rfl, rfl⟩

theorem store_look (now : Nat) (tick : Option Nat) (a : Autosaver) :
    (a.look now tick).1.store = a.store.skip (asked (a.look now tick).2).length := by
  cases hd : a.dirty? with
  | none =>
      obtain ⟨hstore, hasked⟩ := goOn_asked tick a
      have hnone : asked (.looked tick.isNone :: (a.goOn tick).2) = [] := hasked
      rw [look_of_clean hd, hnone, hstore]
      rfl
  | some sub =>
      have hone : asked (.looked tick.isNone :: .requested (.ofSubmission sub) ::
          a.store.next.1.log.map .logged) = [.ofSubmission sub] :=
        congrArg (SaveRequest.ofSubmission sub :: ·) (asked_logged _)
      rw [look_of_dirty hd, hone]
      exact a.store.next_snd

theorem Move.store (h : Move now a s) : s.1.store = a.store.skip (asked s.2).length := by
  cases h with
  | begin hp => rfl
  | last hs hp => exact store_look now none a
  | tick hs hp ht => exact store_look now _ a
  | @answer save tick hp hd =>
      obtain ⟨hstore, hasked⟩ := goOn_asked tick (a.settle save).1
      have hnone : asked (.answered save :: .logged (a.settle save).2 ::
          ((a.settle save).1.goOn tick).2) = [] := hasked
      rw [hnone, hstore]
      rcases settle_cases save a with ⟨_, he⟩ | ⟨_, he⟩ <;> rw [he] <;> rfl

theorem store_steps (now fuel : Nat) (a : Autosaver) :
    (a.steps now fuel).1.store = a.store.skip (asked (a.steps now fuel).2).length := by
  induction fuel generalizing a with
  | zero => rfl
  | succ fuel ih =>
      rw [steps]
      cases hm : a.step? now with
      | none => rfl
      | some m =>
          have hmove := ((move_iff now a m).mpr hm).store
          simp only [ih, hmove, Store.skip_skip, asked_append, List.length_append]

end Autosaver

namespace App

/-- The saves that a journal asks for. -/
def savesIn (journal : List (Nat × Happening)) : List SaveRequest :=
  journal.filterMap fun h =>
    match h.2 with
    | .autosaver (.requested r) => some r
    | _ => none

theorem attemptsIn_append (j k : List (Nat × Happening)) :
    attemptsIn (j ++ k) = attemptsIn j + attemptsIn k := by
  simp [attemptsIn]

theorem savesIn_append (j k : List (Nat × Happening)) :
    savesIn (j ++ k) = savesIn j ++ savesIn k := by
  simp [savesIn]

theorem attemptsIn_channel (now : Nat) (effects : List ChannelEffect) :
    attemptsIn ((effects.map Happening.channel).map fun h => (now, h)) =
      effects.count .attempted := by
  induction effects with
  | nil => rfl
  | cons e effects ih =>
      have hcons := attemptsIn_append [(now, .channel e)]
        ((effects.map Happening.channel).map fun h => (now, h))
      rw [ih] at hcons
      cases e <;> simpa [attemptsIn, Nat.add_comm] using hcons

theorem savesIn_autosaver (now : Nat) (effects : List SaverEffect) :
    savesIn ((effects.map Happening.autosaver).map fun h => (now, h)) =
      Autosaver.asked effects := by
  rw [savesIn, Autosaver.asked, List.map_map, List.filterMap_map]
  congr 1
  funext e
  cases e <;> rfl

end App

theorem App.savesIn_channel (now : Nat) (effects : List ChannelEffect) :
    savesIn ((effects.map Happening.channel).map fun h => (now, h)) = [] := by
  rw [savesIn, List.map_map, List.filterMap_map, List.filterMap_eq_nil_iff]
  intro _ _
  rfl

theorem App.attemptsIn_autosaver (now : Nat) (effects : List SaverEffect) :
    attemptsIn ((effects.map Happening.autosaver).map fun h => (now, h)) = 0 := by
  rw [attemptsIn, List.length_eq_zero_iff, List.filter_eq_nil_iff]
  simp

/-- It is neither the channel's nor the autosaver's. -/
def Happening.IsOwn : Happening → Prop
  | .logged _ | .runEnded _ => True
  | _ => False

theorem App.uses_nothing {new : List Happening} (h : ∀ e ∈ new, e.IsOwn) (now : Nat) :
    attemptsIn (new.map fun e => (now, e)) = 0 ∧ savesIn (new.map fun e => (now, e)) = [] := by
  constructor
  · rw [attemptsIn, List.length_eq_zero_iff, List.filter_eq_nil_iff]
    intro m hm
    obtain ⟨e, he, rfl⟩ := List.mem_map.mp hm
    have hown := h e he
    cases e <;> simp_all [Happening.IsOwn]
  · rw [savesIn, List.filterMap_eq_nil_iff]
    intro m hm
    obtain ⟨e, he, rfl⟩ := List.mem_map.mp hm
    have hown := h e he
    cases e <;> simp_all [Happening.IsOwn]

namespace Session

open App Happening

variable {now number : Nat} {s : Session}

theorem checkRun_own (now number : Nat) (run : Run) (seen deadline : Nat) (s : Session) :
    ∀ e ∈ (s.checkRun now number run seen deadline).happenings, e.IsOwn := by
  simp only [checkRun]
  split
  · simp [IsOwn]
  · split <;> simp [IsOwn]

theorem beginRun_own (now number : Nat) (run : Run) (s : Session) :
    ∀ e ∈ (s.beginRun now number run).happenings, e.IsOwn := by
  have hlogged (log : Log) : ∀ e ∈ log.map Happening.logged, e.IsOwn := by
    intro e he
    obtain ⟨l, _, rfl⟩ := List.mem_map.mp he
    trivial
  simp only [beginRun]
  split
  all_goals
    intro e he
    simp only [List.mem_append, List.mem_cons, List.not_mem_nil, or_false] at he
  · rcases he with (he | he) | rfl
    · split at he
      · simp at he
      · exact List.mem_singleton.mp he ▸ trivial
    · exact hlogged _ e he
    · trivial
  · rcases he with (he | he) | rfl | he
    · split at he
      · simp at he
      · exact List.mem_singleton.mp he ▸ trivial
    · exact hlogged _ e he
    · trivial
    · exact checkRun_own _ _ _ _ _ _ e he

/-- What the turn of a run shows is its own. -/
theorem turn_run_own (now number : Nat) (s : Session) :
    ∀ e ∈ (s.turn now (.run number)).happenings, e.IsOwn := by
  simp only [turn]
  split
  · simp
  · split
    · exact beginRun_own now number _ s
    · exact checkRun_own now number _ _ _ s
    · simp
    · simp

/-- What a turn uses up of the scripts, it shows. -/
structure Uses (s s' : Session) (new : List (Nat × Happening)) : Prop where
  connector_eq : s'.channel.connector = s.channel.connector.skip (attemptsIn new)
  store_eq : s'.autosaver.store = s.autosaver.store.skip (savesIn new).length
  exercise_eq : s'.exercise = s.exercise

theorem turn_uses (now : Nat) (p : Party) (s : Session) : Uses s (s.turn now p).session
    ((s.turn now p).happenings.map fun e => (now, e)) := by
  cases p with
  | channel =>
      refine ⟨?_, ?_, rfl⟩
      · simp only [turn, attemptsIn_channel]
        exact s.channel.connector_steps now _
      · simp only [turn, savesIn_channel]
        rfl
  | autosaver =>
      refine ⟨?_, ?_, rfl⟩
      · simp only [turn, attemptsIn_autosaver]
        rfl
      · simp only [turn, savesIn_autosaver]
        exact s.autosaver.store_steps now _
  | run number =>
      obtain ⟨hattempts, hsaves⟩ := uses_nothing (turn_run_own now number s) now
      have hturn := s.turn_run now number
      generalize (s.turn now (.run number)).session = s' at hturn ⊢
      rw [← List.length_eq_zero_iff] at hsaves
      refine ⟨?_, ?_, ?_⟩
      · rw [hattempts]
        cases hturn with
        | idle | checked => rfl
        | begun => exact s.channel.connector_submit ..
      · rw [hsaves]
        cases hturn <;> rfl
      · cases hturn <;> rfl

/-- An autosaver that is at its end stays there and saves nothing. -/
theorem turn_of_finished (h : s.autosaver.phase = .finished) (now : Nat) (p : Party) :
    (s.turn now p).session.autosaver.phase = .finished ∧
      savesIn ((s.turn now p).happenings.map fun e => (now, e)) = [] := by
  cases p with
  | channel => exact ⟨h, savesIn_channel now _⟩
  | autosaver =>
      have hsettled : s.autosaver.step? now = none := by simp [Autosaver.step?, h]
      have hturn := Autosaver.turn_of_settled hsettled
      simp only [turn, hturn]
      exact ⟨h, rfl⟩
  | run number =>
      refine ⟨?_, (uses_nothing (turn_run_own now number s) now).2⟩
      have hturn := s.turn_run now number
      generalize (s.turn now (.run number)).session = s' at hturn ⊢
      cases hturn <;> exact h

end Session

namespace Stage

open App

@[simp] theorem call_journal (s : Stage) (p : Party) : (s.call p).journal = s.journal := by
  rw [call]
  split <;> rfl

@[simp] theorem foldl_call_journal (ps : List Party) (s : Stage) :
    (ps.foldl call s).journal = s.journal := by
  induction ps generalizing s with
  | nil => rfl
  | cons p ps ih => rw [List.foldl_cons, ih, call_journal]

@[simp] theorem watch_journal (p : Party) (s : Stage) : (s.watch p).journal = s.journal := by
  rw [watch]
  split
  · rfl
  · split <;> rfl

@[simp] theorem moveTo_journal (t : Nat) (s : Stage) : (s.moveTo t).journal = s.journal := by
  simp [moveTo]

theorem act_journal (p : Party) (s : Stage) : (s.act p).journal.reverse =
    s.journal.reverse ++ (s.session.turn s.now p).happenings.map fun e => (s.now, e) := by
  simp [act, record]

theorem record_journal (new : List Happening) (s : Stage) : (s.record new).journal.reverse =
    s.journal.reverse ++ new.map fun e => (s.now, e) := by
  simp [record]

/-- The journal tells what is left of a connector and of a store. -/
structure Spent (connector : Connector) (store : Store) (exercise : String) (s : Stage) :
    Prop where
  connector_eq : s.session.channel.connector = connector.skip (attemptsIn s.journal.reverse)
  store_eq : s.session.autosaver.store = store.skip (savesIn s.journal.reverse).length
  exercise_eq : s.session.exercise = exercise

/-- Nothing was ever saved, and the autosaver is at its end. -/
structure Unsaved (s : Stage) : Prop where
  finished : s.session.autosaver.phase = .finished
  none : savesIn s.journal.reverse = []

section

variable {connector : Connector} {store : Store} {exercise : String} {s : Stage}

theorem steady_spent (connector : Connector) (store : Store) (exercise : String) :
    Steady (Spent connector store exercise) := by
  constructor
  · intro p rest s h
    have hturn := s.session.turn_uses s.now p
    refine ⟨?_, ?_, ?_⟩
    · rw [act_journal, attemptsIn_append, act_session, ← Connector.skip_skip]
      exact hturn.connector_eq.trans (congrArg (Connector.skip · _) h.connector_eq)
    · rw [act_journal, savesIn_append, List.length_append, act_session, ← Store.skip_skip]
      exact hturn.store_eq.trans (congrArg (Store.skip · _) h.store_eq)
    · rw [act_session]
      exact hturn.exercise_eq.trans h.exercise_eq
  · intro t s h
    refine ⟨?_, ?_, ?_⟩ <;> rw [moveTo_session]
    · rw [moveTo_journal]
      exact h.connector_eq
    · rw [moveTo_journal]
      exact h.store_eq
    · exact h.exercise_eq

theorem steady_finished : Steady fun s => s.session.autosaver.phase = .finished := by
  constructor
  · intro p rest s h
    rw [act_session]
    exact (s.session.turn_of_finished h s.now p).1
  · intro t s h
    rwa [moveTo_session]

theorem steady_unsaved : Steady Unsaved := by
  constructor
  · intro p rest s h
    refine ⟨steady_finished.act p rest s h.finished, ?_⟩
    rw [act_journal, savesIn_append, h.none, List.nil_append]
    exact (s.session.turn_of_finished h.finished s.now p).2
  · intro t s h
    refine ⟨steady_finished.moveTo t s h.finished, ?_⟩
    rw [moveTo_journal]
    exact h.none

theorem Spent.record (h : Spent connector store exercise s) {new : List Happening}
    (hn : ∀ e ∈ new, e.IsOwn) : Spent connector store exercise (s.record new) := by
  obtain ⟨hattempts, hsaves⟩ := uses_nothing hn s.now
  refine ⟨?_, ?_, h.exercise_eq⟩
  · rw [record_journal, attemptsIn_append, hattempts]
    exact h.connector_eq
  · rw [record_journal, savesIn_append, hsaves, List.append_nil]
    exact h.store_eq

theorem Spent.call (h : Spent connector store exercise s) (p : Party) :
    Spent connector store exercise (s.call p) := by
  refine ⟨?_, ?_, ?_⟩ <;> rw [call_session]
  · rw [call_journal]
    exact h.connector_eq
  · rw [call_journal]
    exact h.store_eq
  · exact h.exercise_eq

theorem Spent.startRun (h : Spent connector store exercise s) (submission : Submission) :
    Spent connector store exercise (s.startRun submission).2 := by
  have hstarted : Spent connector store exercise
      { s with session := s.session.startRun submission } :=
    ⟨h.connector_eq, h.store_eq, h.exercise_eq⟩
  exact hstarted.call _

theorem Spent.edit (h : Spent connector store exercise s) (submission : Submission) :
    Spent connector store exercise (s.edit submission) :=
  ⟨h.connector_eq, h.store_eq, h.exercise_eq⟩

theorem Spent.closeSaver (h : Spent connector store exercise s) :
    Spent connector store exercise s.closeSaver := by
  have hstopped : Spent connector store exercise
      { s with session := { s.session with autosaver := s.session.autosaver.stop } } :=
    ⟨h.connector_eq, h.store_eq, h.exercise_eq⟩
  exact (steady_spent connector store exercise).await (hstopped.call .autosaver) ..

theorem Spent.closeChannel (h : Spent connector store exercise s) :
    Spent connector store exercise s.closeChannel := by
  have htorn : Spent connector store exercise
      { s with session := { s.session with channel := s.session.channel.tearDown } } :=
    ⟨h.connector_eq, h.store_eq, h.exercise_eq⟩
  exact (steady_spent connector store exercise).await (htorn.call .channel) ..

theorem Spent.finish (h : Spent connector store exercise s) :
    Spent connector store exercise s.finish := by
  have hcancelled : Spent connector store exercise { s with session := s.session.cancelRuns } :=
    ⟨h.connector_eq, h.store_eq, h.exercise_eq⟩
  exact hcancelled.closeSaver.closeChannel.record (by simp [Happening.IsOwn])

end

end Stage

end ExerciseClient
