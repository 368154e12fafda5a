import ExerciseClient.Autosave.Turn

/-! The rules by which an autosaver moves, and its lives. Its owner, the clock and the autosaver
itself act in any order; how each save goes, and after how long, is up to the store. -/

namespace ExerciseClient

def SaverPhase.save? : SaverPhase → Option Saving
  | .saving save _ => some save
  | _ => none

namespace Autosaver

theorem dirty?_eq_some_iff (a : Autosaver) (s : Submission) :
    a.dirty? = some s ↔ a.draft = some s ∧ a.saved ≠ some s ∧ s.isBlank = false := by
  simp only [dirty?, Option.filter_eq_some_iff, Bool.and_eq_true, bne_iff_ne, ne_eq,
    Bool.not_eq_eq_eq_not, Bool.not_true]

/-- A step follows exactly one rule. Being stopped comes before the next look. -/
inductive Move (now : Nat) (a : Autosaver) : Step → Prop where
  | begin (hp : a.phase = .fresh) : Move now a ({ a with phase := .idle (now + a.interval) }, [])
  | last {tick} (hs : a.stopping = true) (hp : a.phase = .idle tick) :
      Move now a (a.look now none)
  | tick {tick} (hs : a.stopping = false) (hp : a.phase = .idle tick) (ht : tick ≤ now) :
      Move now a (a.look now (some (a.nextTick tick now)))
  | answer {save tick} (hp : a.phase = .saving save tick) (hd : save.due ≤ now) :
      Move now a (((a.settle save).1.goOn tick).1,
        .answered save :: .logged (a.settle save).2 :: ((a.settle save).1.goOn tick).2)

theorem Move.execution {now : Nat} {a : Autosaver} {s : Step} (h : Move now a s) :
    a.step? now = some s := by
  cases h with
  | begin hp => simp [step?, hp]
  | last hs hp => simp [step?, hp, hs]
  | tick hs hp ht => simp [step?, hp, hs, ht]
  | answer hp hd => simp [step?, hp, hd]

theorem move_of_step? {now : Nat} {a : Autosaver} {s : Step} (h : a.step? now = some s) :
    Move now a s := by
  rw [step?] at h
  cases hp : a.phase with
  | fresh =>
      rw [hp] at h
      exact Option.some.inj h ▸ .begin hp
  | idle tick =>
      rw [hp] at h
      cases hs : a.stopping with
      | true =>
          simp only [hs, if_true] at h
          exact Option.some.inj h ▸ .last hs hp
      | false =>
          simp only [hs, Bool.false_eq_true, if_false, Option.ite_none_right_eq_some] at h
          exact Option.some.inj h.2 ▸ .tick hs hp h.1
  | saving save tick =>
      simp only [hp, Option.ite_none_right_eq_some] at h
      exact Option.some.inj h.2 ▸ .answer hp h.1
  | finished => simp [hp] at h

theorem move_iff (now : Nat) (a : Autosaver) (s : Step) :
    Move now a s ↔ a.step? now = some s :=
  ⟨Move.execution, move_of_step?⟩

theorem look_of_clean {a : Autosaver} (h : a.dirty? = none) (now : Nat) (tick : Option Nat) :
    a.look now tick = ((a.goOn tick).1, .looked tick.isNone :: (a.goOn tick).2) := by
  simp [look, h]

theorem look_of_dirty {a : Autosaver} {s : Submission} (h : a.dirty? = some s) (now : Nat)
    (tick : Option Nat) :
    a.look now tick =
      ({ a with store := a.store.next.2, phase := .saving ⟨s, now, a.store.next.1⟩ tick },
        .looked tick.isNone :: .requested (.ofSubmission s) ::
          a.store.next.1.log.map .logged) := by
  simp only [look, h]
  rfl

/-- Going on changes no more than the phase, and shows a line of the log at most. -/
theorem goOn_cases (tick : Option Nat) (a : Autosaver) :
    (∃ t, tick = some t ∧ a.goOn tick = ({ a with phase := .idle t }, [])) ∨
      tick = none ∧ ∃ l, a.goOn tick = ({ a with phase := .finished }, [.logged l]) := by
  cases tick with
  | some t => exact .inl ⟨t, rfl, rfl⟩
  | none => exact .inr ⟨rfl, _, rfl⟩

/-- The answer to a save says whether its submission is saved now. -/
theorem settle_cases (save : Saving) (a : Autosaver) :
    (save.answer.failure = none ∧ (a.settle save).1 = { a with saved := some save.submission }) ∨
      (∃ e, save.answer.failure = some e) ∧ (a.settle save).1 = a := by
  cases h : save.answer.failure with
  | none => exact .inl ⟨rfl, by simp [settle, h]⟩
  | some e => exact .inr ⟨⟨e, rfl⟩, by simp [settle, h]⟩

/-- What happens to an autosaver: it takes its next step, time passes, or its owner acts. -/
inductive Event where
  | work
  | clock (now : Nat)
  | update (submission : Submission)
  /-- The owner stops the autosaver or lets it go. -/
  | stop

/-- What a history keeps. -/
inductive Deed where
  | did (e : SaverEffect)
  | updated (submission : Submission)
  | stopped

/-- What was done, the oldest first. -/
abbrev History := List Deed

end Autosaver

/-- An autosaver with its clock and its history. -/
structure SaverLife where
  now : Nat
  saver : Autosaver
  history : Autosaver.History

namespace SaverLife

open Autosaver

/-- A life begins with no history. -/
def ofSaver (now : Nat) (a : Autosaver) : SaverLife := ⟨now, a, []⟩

/-- The autosaver is another now, and what was done is kept. -/
def record (s : SaverLife) (a : Autosaver) (deeds : List Deed) : SaverLife :=
  { s with saver := a, history := s.history ++ deeds }

/-- One event. An autosaver that waits does not move. -/
def next (s : SaverLife) : Event → SaverLife
  | .work =>
    match s.saver.step? s.now with
    | none => s
    | some (a, effects) => s.record a (effects.map .did)
  | .clock now => { s with now }
  | .update submission => s.record (s.saver.update submission) [.updated submission]
  | .stop => s.record s.saver.stop [.stopped]

/-- Events one after another. -/
def run (s : SaverLife) (events : List Event) : SaverLife := events.foldl next s

@[simp] theorem run_nil (s : SaverLife) : s.run [] = s := rfl

@[simp] theorem run_cons (s : SaverLife) (e : Event) (events : List Event) :
    s.run (e :: events) = (s.next e).run events := rfl

theorem run_append (s : SaverLife) (before after : List Event) :
    s.run (before ++ after) = (s.run before).run after := List.foldl_append

/-- What the events of a kind preserve holds of every run of them. -/
theorem run_induction {P : SaverLife → Prop} {Q : Event → Prop}
    (hstep : ∀ s e, Q e → P s → P (s.next e)) {s : SaverLife} (h : P s) {events : List Event}
    (hq : ∀ e ∈ events, Q e) : P (s.run events) := by
  induction events generalizing s with
  | nil => exact h
  | cons e events ih =>
      apply ih
      · exact hstep s e (hq e List.mem_cons_self) h
      · exact fun e' he => hq e' (List.mem_cons_of_mem e he)

/-- A step is a move; an autosaver that waits stays as it is. -/
theorem next_work (s : SaverLife) :
    s.saver.step? s.now = none ∧ s.next .work = s ∨
      ∃ m, Move s.now s.saver m ∧ s.next .work = s.record m.1 (m.2.map .did) := by
  cases h : s.saver.step? s.now with
  | none => exact .inl ⟨rfl, by simp only [next, h]⟩
  | some m => exact .inr ⟨m, (move_iff _ _ _).mpr h, by simp only [next, h]⟩

/-- As many steps as are allowed at an instant are as many events. -/
theorem run_work (s : SaverLife) (fuel : Nat) :
    s.run (List.replicate fuel .work) =
      s.record (s.saver.steps s.now fuel).1 ((s.saver.steps s.now fuel).2.map .did) := by
  induction fuel generalizing s with
  | zero => simp [steps, record]
  | succ fuel ih =>
      rw [List.replicate_succ, run_cons, ih]
      cases h : s.saver.step? s.now with
      | none =>
          have hn : s.next .work = s := by simp only [next, h]
          have hs : s.saver.steps s.now fuel = (s.saver, []) := by
            cases fuel <;> simp [steps, h]
          simp [hn, hs, steps, h]
      | some m =>
          have hn : s.next .work = s.record m.1 (m.2.map .did) := by simp only [next, h]
          rw [hn]
          simp [steps, h, record]

end SaverLife

end ExerciseClient
