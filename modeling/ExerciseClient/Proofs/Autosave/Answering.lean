import ExerciseClient.Proofs.Session.Scripts

/-! How the saves of an autosaver go. The store answers them in the order in which they begin, each
as its script has it. -/

namespace ExerciseClient

/-- How the saves to a store go, counted from zero. -/
def Store.answer (s : Store) (n : Nat) : SaveAnswer := s.script[n]?.getD s.afterwards

theorem Store.next_fst (s : Store) : s.next.1 = s.answer 0 := by
  rcases s with ⟨_ | ⟨a, rest⟩, afterwards⟩ <;> rfl

theorem Store.answer_skip (s : Store) (m n : Nat) : (s.skip m).answer n = s.answer (m + n) := by
  simp [answer, skip, List.getElem?_drop]

/-- The saves that began, the oldest first. -/
def SaverLife.saves (l : SaverLife) : List Saving :=
  l.history.answers ++ l.saver.phase.save?.toList

theorem SaverLife.saves_record (l : SaverLife) (a : Autosaver) (deeds : List Autosaver.Deed) :
    (l.record a deeds).saves = l.history.answers ++ Autosaver.History.answers deeds ++
      a.phase.save?.toList := by
  rw [saves, record, Autosaver.History.answers_append]

namespace Autosaver

/-- Each save that began goes as the script has it, and the store is left with the rest of it. -/
structure Served (store : Store) (l : SaverLife) : Prop where
  store_eq : l.saver.store = store.skip l.saves.length
  answers_eq : l.saves.map (·.answer) = (List.range l.saves.length).map store.answer

variable {store : Store} {l l' : SaverLife}

theorem served_spawn (now : Nat) (store : Store) (exercise : String) (interval : Nat)
    (initial : Option Submission) :
    Served store (SaverLife.ofSaver now (spawn store exercise interval initial)) :=
  ⟨rfl, rfl⟩

theorem Served.keeps (h : Served store l) (hstore : l'.saver.store = l.saver.store)
    (hsaves : l'.saves = l.saves) : Served store l' := by
  refine ⟨?_, ?_⟩ <;> rw [hsaves]
  · exact hstore.trans h.store_eq
  · exact h.answers_eq

/-- A save that begins takes the next answer. -/
theorem Served.begin (h : Served store l) {save : Saving}
    (hanswer : save.answer = l.saver.store.next.1) (hstore : l'.saver.store = l.saver.store.next.2)
    (hsaves : l'.saves = l.saves ++ [save]) : Served store l' := by
  rw [h.store_eq, Store.next_fst, Store.answer_skip] at hanswer
  rw [h.store_eq, Store.next_snd, Store.skip_skip] at hstore
  refine ⟨?_, ?_⟩ <;> rw [hsaves, List.length_append]
  · exact hstore
  · simp [List.range_succ, h.answers_eq, hanswer]

theorem answers_did_logged (log : Log) :
    History.answers ((log.map SaverEffect.logged).map .did) = [] := by
  rw [List.map_map]
  exact (logged_eq_nil log).2.2

theorem answers_goOn (tick : Option Nat) (a : Autosaver) :
    History.answers ((a.goOn tick).2.map .did) = [] ∧ (a.goOn tick).1.phase.save? = none ∧
      (a.goOn tick).1.store = a.store := by
  rcases goOn_cases tick a with ⟨t, -, he⟩ | ⟨-, line, he⟩ <;> rw [he] <;> exact ⟨rfl, rfl, rfl⟩

theorem Served.look (h : Served store l) (hp : l.saver.phase.save? = none) (tick : Option Nat) :
    Served store
      (l.record (l.saver.look l.now tick).1 ((l.saver.look l.now tick).2.map .did)) := by
  cases hd : l.saver.dirty? with
  | none =>
      obtain ⟨hanswers, hphase, hstore⟩ := answers_goOn tick l.saver
      have hnone : History.answers (.did (.looked tick.isNone) ::
          (l.saver.goOn tick).2.map .did) = [] := hanswers
      rw [look_of_clean hd]
      refine h.keeps hstore ?_
      rw [SaverLife.saves_record, List.map_cons, hnone, hphase, List.append_nil, SaverLife.saves,
        hp]
  | some submission =>
      have hnone : History.answers (.did (.looked tick.isNone) ::
          .did (.requested (.ofSubmission submission)) ::
            (l.saver.store.next.1.log.map SaverEffect.logged).map .did) = [] :=
        answers_did_logged _
      let save : Saving := ⟨submission, l.now, l.saver.store.next.1⟩
      have hanswer : save.answer = l.saver.store.next.1 := rfl
      rw [look_of_dirty hd]
      refine h.begin hanswer rfl ?_
      rw [SaverLife.saves_record, List.map_cons, List.map_cons, hnone, List.append_nil,
        SaverLife.saves, hp]
      exact congrArg (· ++ [save]) (List.append_nil _).symm

theorem Served.next (h : Served store l) (e : Event) : Served store (l.next e) := by
  cases e with
  | clock now => exact h.keeps rfl rfl
  | update | stop =>
      refine h.keeps rfl ?_
      rw [SaverLife.next, SaverLife.saves_record]
      exact congrArg (· ++ _) (List.append_nil _)
  | work =>
      rcases l.next_work with ⟨_, he⟩ | ⟨m, hm, he⟩
      · rwa [he]
      · rw [he]
        cases hm with
        | begin hp =>
            refine h.keeps rfl ?_
            rw [SaverLife.saves_record, SaverLife.saves, hp]
            exact congrArg (· ++ []) (List.append_nil _)
        | last hs hp => exact h.look (by rw [hp]; rfl) none
        | tick hs hp ht => exact h.look (by rw [hp]; rfl) _
        | @answer save tick hp hd =>
            obtain ⟨hanswers, hphase, hstore⟩ := answers_goOn tick (l.saver.settle save).1
            have hone : History.answers (.did (.answered save) ::
                .did (.logged (l.saver.settle save).2) ::
                  ((l.saver.settle save).1.goOn tick).2.map .did) = [save] :=
              congrArg (save :: ·) hanswers
            have hsettle : (l.saver.settle save).1.store = l.saver.store := by
              rcases settle_cases save l.saver with ⟨_, he⟩ | ⟨_, he⟩ <;> rw [he]
            refine h.keeps (hstore.trans hsettle) ?_
            rw [SaverLife.saves_record, List.map_cons, List.map_cons, hone, hphase, SaverLife.saves,
              hp]
            exact List.append_nil _

theorem Served.run (h : Served store l) (events : List Event) : Served store (l.run events) := by
  induction events generalizing l with
  | nil => exact h
  | cons e events ih => exact ih (h.next e)

end Autosaver

end ExerciseClient
