import ExerciseClient.Proofs.Autosave.Saving

/-! How an autosaver ends. Once it is asked to stop it looks once more, after the save that is under
way if there is one; what that look finds dirty it saves, and whether that save succeeds or fails
it is the last. -/

namespace ExerciseClient

/-- The last look is made. -/
def SaverPhase.IsLast : SaverPhase → Prop
  | .saving _ none | .finished => True
  | _ => False

namespace Autosaver

@[simp] def Deed.look? : Deed → Option Bool
  | .did (.looked last) => some last
  | _ => none

/-- The looks that were made, each with whether it was the last. -/
def History.looks (h : History) : List Bool := h.filterMap (·.look?)

@[simp] theorem History.looks_append (a b : History) : looks (a ++ b) = a.looks ++ b.looks := by
  simp [looks]

/-- Nothing of the draft is lost: there is none, it is blank, it is what was saved last, or it was
the submission of the very last save, which failed. -/
inductive Settled (initial : Option Submission) (h : History) : Prop where
  | absent (hd : h.draft initial = none)
  | blank {s} (hd : h.draft initial = some s) (hb : s.isBlank = true)
  | saved {s} (hd : h.draft initial = some s) (hs : h.saved initial = some s)
  | failed {save} (hd : h.draft initial = some save.submission)
      (hr : h.requests.getLast? = some save.request) (ha : h.answers.getLast? = some save)
      (hf : save.answer.failure ≠ none)

section

variable {initial : Option Submission} {h past new : History} {s : SaverLife}

theorem settled_of_clean (hc : ∀ s, ¬ Dirty initial h s) : Settled initial h := by
  cases hd : h.draft initial with
  | none => exact .absent hd
  | some s =>
      by_cases hs : h.saved initial = some s
      · exact .saved hd hs
      · cases hb : s.isBlank with
        | true => exact .blank hd hb
        | false => exact absurd ⟨hd, hs, hb⟩ (hc s)

theorem Settled.append (hs : Settled initial h) (hd : new.drafts = []) (hr : new.requests = [])
    (ha : new.answers = []) : Settled initial (h ++ new) := by
  have hsuccesses : new.successes = [] := by rw [History.successes, ha, List.filterMap_nil]
  cases hs with
  | absent hdraft => exact .absent (by rw [History.draft_of_no_drafts hd, hdraft])
  | blank hdraft hb => exact .blank (by rw [History.draft_of_no_drafts hd, hdraft]) hb
  | saved hdraft hsaved =>
      apply Settled.saved
      · rw [History.draft_of_no_drafts hd, hdraft]
      · rw [History.saved_of_no_successes hsuccesses, hsaved]
  | failed hdraft hrequest hanswer hf =>
      refine .failed ?_ ?_ ?_ hf
      · rw [History.draft_of_no_drafts hd, hdraft]
      · rw [History.requests_append, hr, List.append_nil, hrequest]
      · rw [History.answers_append, ha, List.append_nil, hanswer]

/-- The answer to a save of the draft settles it. -/
theorem Lawful.settled {save : Saving} (hl : Lawful initial h) (hu : h.underway = [save.request])
    (hd : h.draft initial = some save.submission) :
    Settled initial (h ++ [.did (.answered save)]) := by
  have hdraft : History.draft initial (h ++ [.did (.answered save)]) = some save.submission := by
    rw [History.draft_of_no_drafts rfl, hd]
  by_cases hf : save.answer.failure = none
  · apply Settled.saved hdraft
    have hkept := (save.kept?_eq_some_iff save.submission).mpr ⟨hf, rfl⟩
    rw [History.saved_append, successes_of_answer, hkept]
    rfl
  · have hrequests := hl.requests_eq
    refine .failed hdraft ?_ ?_ hf
    · have hsame : History.requests (h ++ [.did (.answered save)]) = h.requests := by
        rw [History.requests_append]
        exact List.append_nil _
      rw [hsame, hrequests, hu, List.getLast?_concat]
    · rw [History.answers_append]
      exact List.getLast?_concat

/-- No one has stopped the autosaver. -/
structure Unstopped (s : SaverLife) : Prop where
  stopping : s.saver.stopping = false
  notLast : ¬ s.saver.phase.IsLast

theorem Unstopped.next (h : Unstopped s) {e : Event} (he : e ≠ .stop) : Unstopped (s.next e) := by
  cases e with
  | work =>
      rcases s.next_work with ⟨_, hn⟩ | ⟨m, hm, hn⟩
      · rwa [hn]
      · rw [hn]
        cases hm with
        | begin hp => exact ⟨h.stopping, id⟩
        | last hs hp => simp [h.stopping] at hs
        | @tick tick hs hp ht =>
            cases hd : s.saver.dirty? with
            | none =>
                rw [look_of_clean hd]
                exact ⟨h.stopping, id⟩
            | some sub =>
                rw [look_of_dirty hd]
                exact ⟨h.stopping, id⟩
        | @answer save tick hp hd =>
            cases tick with
            | none => exact absurd (hp ▸ trivial) h.notLast
            | some t =>
                rcases settle_cases save s.saver with ⟨_, he⟩ | ⟨_, he⟩ <;> rw [he] <;>
                  exact ⟨h.stopping, id⟩
  | clock now => exact ⟨h.stopping, h.notLast⟩
  | update sub => exact ⟨h.stopping, h.notLast⟩
  | stop => exact absurd rfl he

theorem Unstopped.run (h : Unstopped s) {events : List Event} (he : .stop ∉ events) :
    Unstopped (s.run events) :=
  SaverLife.run_induction (Q := (· ≠ .stop)) (fun _ _ he h => h.next he) h
    fun _ hm he' => he (he' ▸ hm)

/-- What holds from the stop on while no new draft is given. -/
structure Winding (initial : Option Submission) (past : History) (s : SaverLife) : Prop where
  tracked : Tracked initial s
  stopping : s.saver.stopping = true
  looks : ∃ later : History, s.history = past ++ .stopped :: later ∧
    (later.looks = [] ∧ ¬ s.saver.phase.IsLast ∨ later.looks = [true] ∧ s.saver.phase.IsLast)
  saving : ∀ save, s.saver.phase = .saving save none →
    s.history.draft initial = some save.submission
  ended : s.saver.phase = .finished → Settled initial s.history

theorem Unstopped.winding (h : Unstopped s) (ht : Tracked initial s) :
    Winding initial s.history (s.next .stop) := by
  refine ⟨ht.next .stop, rfl, ⟨[], rfl, .inl ⟨rfl, h.notLast⟩⟩, ?_, ?_⟩
  · intro save hp
    have hp : s.saver.phase = .saving save none := hp
    exact absurd (hp ▸ trivial) h.notLast
  · intro hp
    have hp : s.saver.phase = .finished := hp
    exact absurd (hp ▸ trivial) h.notLast

theorem Winding.looks_of_notLast (h : Winding initial past s) (hp : ¬ s.saver.phase.IsLast) :
    ∃ later : History, s.history = past ++ .stopped :: later ∧ later.looks = [] := by
  obtain ⟨later, hlater, ⟨hlooks, _⟩ | ⟨_, hlast⟩⟩ := h.looks
  · exact ⟨later, hlater, hlooks⟩
  · exact absurd hlast hp

/-- The history grows. -/
theorem grown {deeds later : History} (hl : h = past ++ .stopped :: later) :
    h ++ deeds = past ++ .stopped :: (later ++ deeds) := by
  rw [hl, List.append_assoc, List.cons_append]

/-- The last look settles the draft or begins its save. -/
theorem Winding.look (h : Winding initial past s) {tick : Nat} (hp : s.saver.phase = .idle tick)
    (ht : Tracked initial
      (s.record (s.saver.look s.now none).1 ((s.saver.look s.now none).2.map .did))) :
    Winding initial past
      (s.record (s.saver.look s.now none).1 ((s.saver.look s.now none).2.map .did)) := by
  obtain ⟨later, hlater, hlooks⟩ := h.looks_of_notLast (by rw [hp]; exact id)
  cases hd : s.saver.dirty? with
  | none =>
      have hclean : ∀ sub, ¬ Dirty initial s.history sub := by
        intro sub hdirty
        have hsome := (dirty_iff h.tracked sub).mp hdirty
        simp [hd] at hsome
      rw [look_of_clean hd] at ht ⊢
      refine ⟨ht, h.stopping, ⟨_, grown hlater, .inr ⟨?_, trivial⟩⟩, ?_, ?_⟩
      · rw [History.looks_append, hlooks]
        rfl
      · intro save hp'
        cases hp'
      · intro _
        exact (settled_of_clean hclean).append rfl rfl rfl
  | some sub =>
      rw [look_of_dirty hd] at ht ⊢
      refine ⟨ht, h.stopping, ⟨_, grown hlater, .inr ⟨?_, trivial⟩⟩, ?_, ?_⟩
      · rw [History.looks_append, hlooks, List.map_cons, List.map_cons, List.map_map]
        simp [History.looks]
      · intro save hsave
        obtain ⟨rfl, _⟩ := SaverPhase.saving.inj hsave
        rw [← ht.draft_eq]
        exact ((dirty?_eq_some_iff _ _).mp hd).1
      · intro hp'
        cases hp'

/-- The answer to a save ends the autosaver if it was the last, and else leads to the last look. -/
theorem Winding.answer (h : Winding initial past s) {save : Saving} {tick : Option Nat}
    (hp : s.saver.phase = .saving save tick)
    (ht : Tracked initial (s.record ((s.saver.settle save).1.goOn tick).1
      (.did (.answered save) :: .did (.logged (s.saver.settle save).2) ::
        ((s.saver.settle save).1.goOn tick).2.map .did))) :
    Winding initial past (s.record ((s.saver.settle save).1.goOn tick).1
      (.did (.answered save) :: .did (.logged (s.saver.settle save).2) ::
        ((s.saver.settle save).1.goOn tick).2.map .did)) := by
  obtain ⟨later, hlater, hlooks⟩ := h.looks
  have hstopping : (s.saver.settle save).1.stopping = true := by
    rcases settle_cases save s.saver with ⟨_, he⟩ | ⟨_, he⟩ <;> rw [he] <;> exact h.stopping
  rw [hp] at hlooks
  rcases goOn_cases tick (s.saver.settle save).1 with ⟨t, rfl, he⟩ | ⟨rfl, l, he⟩ <;>
    rw [he] at ht ⊢
  · have hlooks : later.looks = [] := hlooks.elim (·.1) (·.2.elim)
    refine ⟨ht, hstopping, ⟨_, grown hlater, .inl ⟨?_, id⟩⟩, ?_, ?_⟩
    · rw [History.looks_append, hlooks]
      rfl
    · intro save' hp'
      cases hp'
    · intro hp'
      cases hp'
  · have hlooks : later.looks = [true] := hlooks.elim (fun hn => absurd trivial hn.2) (·.1)
    refine ⟨ht, hstopping, ⟨_, grown hlater, .inr ⟨?_, trivial⟩⟩, ?_, ?_⟩
    · rw [History.looks_append, hlooks]
      rfl
    · intro save' hp'
      cases hp'
    · intro _
      have hu : s.history.underway = [save.request] := by rw [h.tracked.underway_eq, hp]; rfl
      have hsettled := h.tracked.lawful.settled hu (h.saving save hp)
      have hlogged : Settled initial ((s.history ++ [.did (.answered save)]) ++
          [.did (.logged (s.saver.settle save).2), .did (.logged l)]) :=
        hsettled.append rfl rfl rfl
      rwa [List.append_assoc] at hlogged

theorem Winding.next (h : Winding initial past s) {e : Event} (he : ∀ sub, e ≠ .update sub) :
    Winding initial past (s.next e) := by
  have ht := h.tracked.next e
  cases e with
  | work =>
      rcases s.next_work with ⟨_, hn⟩ | ⟨m, hm, hn⟩
      · rwa [hn]
      · rw [hn] at ht ⊢
        cases hm with
        | begin hp =>
            obtain ⟨later, hlater, hlooks⟩ := h.looks_of_notLast (by rw [hp]; exact id)
            refine ⟨ht, h.stopping, ⟨_, grown hlater, .inl ⟨?_, id⟩⟩, ?_, ?_⟩
            · rw [History.looks_append, hlooks]
              rfl
            · intro save hp'
              cases hp'
            · intro hp'
              cases hp'
        | last hs hp => exact h.look hp ht
        | tick hs hp htick => simp [h.stopping] at hs
        | answer hp hd => exact h.answer hp ht
  | clock now => exact ⟨ht, h.stopping, h.looks, h.saving, h.ended⟩
  | update sub => exact absurd rfl (he sub)
  | stop =>
      obtain ⟨later, hlater, hlooks⟩ := h.looks
      refine ⟨ht, rfl, ⟨_, grown hlater, ?_⟩, ?_, ?_⟩
      · rw [History.looks_append]
        exact (List.append_nil later.looks).symm ▸ hlooks
      · intro save hp
        rw [← ht.draft_eq]
        exact h.tracked.draft_eq.trans (h.saving save hp)
      · intro hp
        exact (h.ended hp).append rfl rfl rfl

theorem Winding.run (h : Winding initial past s) {events : List Event}
    (he : ∀ sub, .update sub ∉ events) : Winding initial past (s.run events) :=
  SaverLife.run_induction (Q := fun e => ∀ sub, e ≠ .update sub) (fun _ _ he h => h.next he) h
    fun _ hm sub he' => he sub (he' ▸ hm)

/-- An autosaver that has ended does nothing more. -/
theorem finished_run (hp : s.saver.phase = .finished) (events : List Event) :
    (s.run events).saver.phase = .finished ∧
      (s.run events).history.requests = s.history.requests := by
  induction events generalizing s with
  | nil => exact ⟨hp, rfl⟩
  | cons e events ih =>
      have hstep : (s.next e).saver.phase = .finished ∧
          (s.next e).history.requests = s.history.requests := by
        cases e with
        | work =>
            rcases s.next_work with ⟨_, hn⟩ | ⟨m, hm, _⟩
            · rw [hn]
              exact ⟨hp, rfl⟩
            · cases hm with
              | begin hp' | last _ hp' | tick _ hp' | answer hp' => simp [hp] at hp'
        | clock now => exact ⟨hp, rfl⟩
        | update sub =>
            refine ⟨hp, ?_⟩
            rw [SaverLife.next, SaverLife.record, History.requests_append]
            exact List.append_nil _
        | stop =>
            refine ⟨hp, ?_⟩
            rw [SaverLife.next, SaverLife.record, History.requests_append]
            exact List.append_nil _
      obtain ⟨hphase, hrequests⟩ := ih hstep.1
      exact ⟨hphase, hrequests.trans hstep.2⟩

end

end Autosaver

end ExerciseClient
