import ExerciseClient.Proofs.Channel.Move

/-! Lives of a channel. Its owner, the server, the clock and the channel itself act in any order,
and a history keeps what came of it. The steps of a channel are the stretches between two of its
waits, so whatever interleaves with it comes between two events. -/

namespace ExerciseClient

namespace Channel

/-- What happens to a channel: it takes its next step, time passes, its owner acts, or the server does. -/
inductive Event where
  | work
  | clock (now : Nat)
  | submit (exercise : String) (submission : Except String Json.Value)
  | listen (listener : Option String)
  | serve (line : Option Nat) (action : ServerAction)
  /-- The owner closes the channel or lets it go. -/
  | tearDown

/-- What a history keeps. -/
inductive Deed where
  | did (e : ChannelEffect)
  /-- A submission, the line that took submissions at the time, and the answer. -/
  | submitted (slot : Option Nat) (exercise : String) (submission : Except String Json.Value)
    (answer : Except SubmitError Unit)
  | listened (listener : Option String)
  | served (line : Option Nat) (action : ServerAction) (done : Bool)
  | tornDown

/-- What happened when, the oldest first. -/
abbrev History := List (Nat × Deed)

def History.deeds (h : History) : List Deed := h.map (·.2)

end Channel

/-- A channel with its clock and its history. -/
structure Life where
  now : Nat
  channel : Channel
  history : Channel.History

namespace Life

open Channel

/-- A life begins with no history. -/
def ofChannel (now : Nat) (c : Channel) : Life := ⟨now, c, []⟩

/-- The channel is another now, and what was done is dated. -/
def record (s : Life) (c : Channel) (deeds : List Deed) : Life :=
  { s with channel := c, history := s.history ++ deeds.map fun d => (s.now, d) }

/-- One event. A channel that waits does not move. -/
def next (s : Life) : Event → Life
  | .work =>
    match s.channel.step? s.now with
    | none => s
    | some (c, effects) => s.record c (effects.map .did)
  | .clock now => { s with now }
  | .submit exercise submission =>
    let (answer, c, _) := s.channel.submit exercise submission
    s.record c [.submitted s.channel.slot exercise submission answer]
  | .listen listener => s.record (s.channel.listen listener) [.listened listener]
  | .serve line action =>
    let (done, c) := s.channel.serve line action
    s.record c [.served line action done]
  | .tearDown => s.record s.channel.tearDown [.tornDown]

/-- Events one after another. -/
def run (s : Life) (events : List Event) : Life := events.foldl next s

/-- The channel has nothing to do before something else happens. -/
def IsSettled (s : Life) : Prop := s.channel.step? s.now = none

instance (s : Life) : Decidable s.IsSettled :=
  decidable_of_iff (s.channel.step? s.now).isNone Option.isNone_iff_eq_none

@[simp] theorem run_nil (s : Life) : s.run [] = s := rfl

@[simp] theorem run_cons (s : Life) (e : Event) (events : List Event) :
    s.run (e :: events) = (s.next e).run events := rfl

theorem run_append (s : Life) (before after : List Event) :
    s.run (before ++ after) = (s.run before).run after := List.foldl_append

/-- What every event preserves holds of every run. -/
theorem run_induction {P : Life → Prop} (hstep : ∀ s e, P s → P (s.next e)) {s : Life}
    (h : P s) (events : List Event) : P (s.run events) := by
  induction events generalizing s with
  | nil => exact h
  | cons e events ih => exact ih (hstep s e h)

/-- A step is a move; a channel that waits stays as it is. -/
theorem next_work (s : Life) :
    s.IsSettled ∧ s.next .work = s ∨
      ∃ m, Move s.now s.channel m ∧ s.next .work = s.record m.1 (m.2.map .did) := by
  cases h : s.channel.step? s.now with
  | none => exact .inl ⟨h, by simp only [next, h]⟩
  | some m => exact .inr ⟨m, (move_iff _ _ _).mpr h, by simp only [next, h]⟩

theorem next_submit (s : Life) (exercise : String) (submission : Except String Json.Value) :
    s.next (.submit exercise submission) =
      s.record (s.channel.submit exercise submission).2.1
        [.submitted s.channel.slot exercise submission
          (s.channel.submit exercise submission).1] := rfl

theorem next_serve (s : Life) (line : Option Nat) (a : ServerAction) :
    s.next (.serve line a) =
      s.record (s.channel.serve line a).2 [.served line a (s.channel.serve line a).1] := rfl

@[simp] theorem record_channel (s : Life) (c : Channel) (deeds : List Deed) :
    (s.record c deeds).channel = c := rfl

theorem record_history (s : Life) (c : Channel) (deeds : List Deed) :
    (s.record c deeds).history = s.history ++ deeds.map fun d => (s.now, d) := rfl

@[simp] theorem deeds_record (s : Life) (c : Channel) (deeds : List Deed) :
    (s.record c deeds).history.deeds = s.history.deeds ++ deeds := by
  simp [record, History.deeds, List.map_map, Function.comp_def]

/-- As many steps as are allowed at an instant are as many events. -/
theorem run_work (s : Life) (fuel : Nat) :
    s.run (List.replicate fuel .work) =
      s.record (s.channel.steps s.now fuel).1 ((s.channel.steps s.now fuel).2.map .did) := by
  induction fuel generalizing s with
  | zero => simp [steps, record]
  | succ fuel ih =>
      rw [List.replicate_succ, run_cons, ih]
      cases h : s.channel.step? s.now with
      | none =>
          have hn : s.next .work = s := by simp only [next, h]
          have hs : s.channel.steps s.now fuel = (s.channel, []) := by
            cases fuel <;> simp [steps, h]
          simp [hn, hs, steps, h]
      | some m =>
          have hn : s.next .work = s.record m.1 (m.2.map .did) := by simp only [next, h]
          rw [hn]
          simp [steps, h, record]

/-! ### The past has no part in what comes -/

/-- Only what is still to come. -/
def forget (s : Life) : Life := { s with history := [] }

/-- A life goes on as if it began now. -/
def resume (s : Life) (before : Channel.History) : Life :=
  { s with history := before ++ s.history }

theorem next_resume (s : Life) (before : Channel.History) (e : Event) :
    (s.resume before).next e = (s.next e).resume before := by
  cases e with
  | work =>
      have hs : (s.resume before).channel.step? (s.resume before).now =
          s.channel.step? s.now := rfl
      cases h : s.channel.step? s.now with
      | none => simp only [next, hs, h]
      | some m => simp [next, h, record, resume]
  | clock now => rfl
  | submit | listen | serve | tearDown => simp [next, record, resume]

theorem run_resume (s : Life) (before : Channel.History) (events : List Event) :
    (s.resume before).run events = (s.run events).resume before := by
  induction events generalizing s with
  | nil => rfl
  | cons e events ih => rw [run_cons, next_resume, ih, run_cons]

/-- What an event adds to the history happens at the instant of the event. -/
theorem next_history (s : Life) (e : Event) :
    (s.next e).history = s.history ++ (s.forget.next e).history.deeds.map fun d => (s.now, d) := by
  cases e with
  | work =>
      cases h : s.channel.step? s.now with
      | none => simp [next, h, forget, History.deeds]
      | some m => simp [next, h, record, forget, History.deeds, Function.comp_def]
  | clock now => simp [next, forget, History.deeds]
  | submit | listen | serve | tearDown => simp [next, record, forget, History.deeds]

/-- Only the clock changes the instant. -/
theorem next_now (s : Life) {e : Event} (he : ∀ t, e ≠ .clock t) : (s.next e).now = s.now := by
  cases e with
  | work =>
      rcases s.next_work with ⟨_, hn⟩ | ⟨m, _, hn⟩ <;> rw [hn]
      rfl
  | clock t => exact absurd rfl (he t)
  | submit | listen | serve | tearDown => rfl

theorem run_eq (s : Life) (events : List Event) :
    s.run events = (s.forget.run events).resume s.history := by
  rw [← run_resume]
  simp [resume, forget]

end Life

end ExerciseClient
