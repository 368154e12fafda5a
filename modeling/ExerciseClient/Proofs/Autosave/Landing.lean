import ExerciseClient.Proofs.Session.LastSave

/-! What the store holds when a save may take effect although it fails. An autosaver looks for a
draft that is not what was saved last, and what it takes for saved is what was acknowledged; so
after a failure that took effect, a draft that goes back to what was acknowledged before is not
saved, and the store keeps the other one. -/

namespace ExerciseClient

/-- The submission that reaches the store with an answer. It does if the save is acknowledged, and
otherwise if it `landed` all the same. -/
def Saving.landed? (save : Saving) (landed : Bool) : Option Submission :=
  if save.answer.failure.isNone || landed then some save.submission else none

theorem Saving.landed?_of_success {save : Saving} (h : save.answer.failure = none)
    (landed : Bool) : save.landed? landed = some save.submission := by
  simp [landed?, h]

theorem Saving.landed?_of_failure {save : Saving} (h : save.answer.failure ≠ none)
    (landed : Bool) : save.landed? landed = if landed then some save.submission else none := by
  simp [landed?, h]

namespace Autosaver

variable {lands : Nat → Bool} {initial : Option Submission} {h past new rest : History}
  {d : Submission}

/-- What the store holds after a history, where `lands` says by their places among the answers which
saves take effect although they fail. -/
def History.stored (lands : Nat → Bool) (initial : Option Submission) (h : History) :
    Option Submission :=
  (h.answers.zipIdx.filterMap fun (save, n) => save.landed? (lands n)).getLast?.or initial

/-- The answers since the last look. -/
def History.lastFlush (h : History) : List Saving :=
  History.answers (h.reverse.takeWhile (·.look?.isNone)).reverse

/-- A save failed and took effect, and none was acknowledged since. -/
def Astray (lands : Nat → Bool) (h : History) : Prop :=
  ∃ before save after, h.answers = before ++ save :: after ∧ save.answer.failure ≠ none ∧
    lands before.length = true ∧ ∀ later ∈ after, later.answer.failure ≠ none

/-! ### One more answer -/

theorem answers_concat (h : History) (save : Saving) :
    History.answers (h ++ [.did (.answered save)]) = h.answers ++ [save] :=
  History.answers_append h _

theorem History.stored_append (ha : new.answers = []) :
    History.stored lands initial (h ++ new) = h.stored lands initial := by
  simp [stored, ha]

theorem History.stored_answer (save : Saving) :
    History.stored lands initial (h ++ [.did (.answered save)]) =
      (save.landed? (lands h.answers.length)).or (h.stored lands initial) := by
  rw [stored, answers_concat, List.zipIdx_append, List.filterMap_append, List.getLast?_append,
    Option.or_assoc, stored]
  cases hl : save.landed? (lands h.answers.length) <;> simp [hl]

theorem astray_append (ha : new.answers = []) : Astray lands (h ++ new) ↔ Astray lands h := by
  rw [Astray, Astray, History.answers_append, ha, List.append_nil]

theorem astray_answer (save : Saving) : Astray lands (h ++ [.did (.answered save)]) ↔
    save.answer.failure ≠ none ∧ (lands h.answers.length = true ∨ Astray lands h) := by
  rw [Astray, answers_concat]
  constructor
  · rintro ⟨before, failed, after, hs, hf, hlands, hafter⟩
    rcases split_append hs with ⟨later, hold, rfl⟩ | ⟨pre, rfl, hnew⟩
    · refine ⟨hafter save (by simp), .inr ⟨before, failed, later, hold, hf, hlands, ?_⟩⟩
      exact fun s hm => hafter s (List.mem_append_left _ hm)
    · obtain ⟨rfl, rfl, rfl⟩ := split_singleton.mp hnew.symm
      rw [List.append_nil] at hlands
      exact ⟨hf, .inl hlands⟩
  · rintro ⟨hf, hlands | ⟨before, failed, after, hs, hfailed, hlands, hafter⟩⟩
    · exact ⟨h.answers, save, [], rfl, hf, hlands, by simp⟩
    · refine ⟨before, failed, after ++ [save], by simp [hs], hfailed, hlands, ?_⟩
      intro s hm
      rcases List.mem_append.mp hm with hm | hm
      · exact hafter s hm
      · exact List.mem_singleton.mp hm ▸ hf

/-! ### What is stored and what was saved last -/

/-- The store holds what was saved last, unless the history went astray. A save is never made for
what was saved last, so one that fails and takes effect parts the two. -/
theorem Lawful.stored_eq_saved_iff (hl : Lawful initial h) (lands : Nat → Bool) :
    h.stored lands initial = h.saved initial ↔ ¬ Astray lands h := by
  induction hl with
  | nil => simp [History.stored, History.saved, History.successes,
      History.answers, Astray]
  | @snoc h new hl hr ih =>
      cases hr with
      | quiet hd =>
          have ha := answers_of_quiet hd
          rw [History.stored_append ha, History.saved_of_no_successes (successes_of_quiet hd),
            astray_append ha]
          exact ih
      | pass | save =>
          rw [History.stored_append rfl, History.saved_of_no_successes rfl, astray_append rfl]
          exact ih
      | @answer save hu =>
          have hunsaved := (hl.answerable hu).1
          rw [History.stored_answer, History.saved_append, successes_of_answer, astray_answer]
          by_cases hf : save.answer.failure = none
          · have hkept := (save.kept?_eq_some_iff save.submission).mpr ⟨hf, rfl⟩
            simp [save.landed?_of_success hf, hf, hkept]
          · have hkept := (save.kept?_eq_none_iff).mpr hf
            rw [save.landed?_of_failure hf, hkept]
            cases hlands : lands h.answers.length with
            | true => simp [hf, Ne.symm hunsaved]
            | false => simpa [hf] using ih

theorem History.lastFlush_eq {last : Bool} (hs : h = past ++ .did (.looked last) :: rest)
    (hn : rest.looks = []) : h.lastFlush = rest.answers := by
  have hall : ∀ m ∈ rest.reverse, m.look?.isNone = true := by
    intro m hm
    have hnone := List.filterMap_eq_nil_iff.mp hn m (List.mem_reverse.mp hm)
    rw [hnone]
    rfl
  rw [lastFlush, hs, List.reverse_append, List.reverse_cons, List.append_assoc,
    List.takeWhile_append_of_pos hall]
  simp

/-- Nothing that failed since the last look keeps the draft from being what was saved last. -/
theorem Lawful.saved_of_settled {last : Bool} (hl : Lawful initial h) (hu : h.underway = [])
    (hs : h = past ++ .did (.looked last) :: rest) (hsettled : Settled initial h)
    (hno : rest.drafts = []) (hd : h.draft initial = some d) (hb : d.isBlank = false)
    (hok : ∀ save ∈ rest.answers, save.answer.failure = none) : h.saved initial = some d := by
  cases hsettled with
  | absent hd' => simp [hd] at hd'
  | blank hd' hb' =>
      obtain rfl := Option.some.inj (hd.symm.trans hd')
      simp [hb] at hb'
  | saved hd' hsaved =>
      obtain rfl := Option.some.inj (hd.symm.trans hd')
      exact hsaved
  | @failed save hd' _ ha hf =>
      have hanswers : h.answers = past.answers ++ rest.answers := by
        rw [hs, History.answers_append]
        rfl
      cases hrest : rest.answers.getLast? with
      | some answered =>
          -- The failed save was the last flush's own.
          rw [hanswers, List.getLast?_append, hrest, Option.some_or] at ha
          obtain rfl := Option.some.inj ha
          exact absurd (hok answered (List.mem_of_getLast? hrest)) hf
      | none =>
          -- It came before the last look, which found nothing to save.
          rw [List.getLast?_eq_none_iff] at hrest
          obtain ⟨hpast, hidle, ⟨s, later, _, rfl⟩ | ⟨hclean, _⟩⟩ := hl.look hs
          · have hall := hl.requests_eq
            rw [hu, List.append_nil, hanswers, hrest, List.append_nil] at hall
            have hbefore := hpast.requests_eq
            rw [hidle, List.append_nil, ← hall, hs, History.requests_append] at hbefore
            simp [History.requests] at hbefore
          · have hnone : History.drafts (.did (.looked last) :: rest) = [] := hno
            have hsuccesses : History.successes (.did (.looked last) :: rest) = [] := by
              have ha' : History.answers (.did (.looked last) :: rest) = [] := hrest
              rw [History.successes, ha', List.filterMap_nil]
            rw [hs, History.draft_of_no_drafts hnone] at hd
            rw [hs, History.saved_of_no_successes hsuccesses]
            by_cases hsaved : past.saved initial = some d
            · exact hsaved
            · exact absurd ⟨hd, hsaved, hb⟩ (hclean d)

/-! ### Stopping -/

/-- The only look of a history, with what comes before and after it. -/
theorem split_of_looks {last : Bool} (hl : h.looks = [last]) :
    ∃ pre rest : History, h = pre ++ .did (.looked last) :: rest ∧ rest.looks = [] := by
  obtain ⟨pre, m, rest, rfl, _, hm, hrest⟩ := List.filterMap_eq_cons_iff.mp hl
  cases m with
  | did e =>
      cases e with
      | looked b =>
          obtain rfl := Option.some.inj hm
          exact ⟨pre, rest, rfl, hrest⟩
      | logged | requested | answered => simp at hm
  | updated | stopped => simp at hm

/-- The draft that the owner gives. -/
def Event.update? : Event → Option Submission
  | .update submission => some submission
  | _ => none

/-- The history grows by the drafts that are given. -/
theorem grows_with_drafts (s : SaverLife) (events : List Event) :
    ∃ new : History, (s.run events).history = s.history ++ new ∧
      new.drafts = events.filterMap (·.update?) := by
  induction events generalizing s with
  | nil => exact ⟨[], (List.append_nil _).symm, rfl⟩
  | cons e events ih =>
      obtain ⟨new, hnew, hdrafts⟩ := ih (s.next e)
      obtain ⟨deeds, hdeeds, he⟩ : ∃ deeds : History, (s.next e).history = s.history ++ deeds ∧
          deeds.drafts = e.update?.toList := by
        cases e with
        | work =>
            rcases s.next_work with ⟨_, hn⟩ | ⟨m, _, hn⟩
            · exact ⟨[], by rw [hn, List.append_nil], rfl⟩
            · refine ⟨m.2.map .did, by rw [hn]; rfl, ?_⟩
              rw [History.drafts, List.filterMap_map]
              exact List.filterMap_eq_nil_iff.mpr fun _ _ => rfl
        | clock now => exact ⟨[], (List.append_nil _).symm, rfl⟩
        | update sub | stop => exact ⟨[_], rfl, rfl⟩
      refine ⟨deeds ++ new, ?_, ?_⟩
      · rw [SaverLife.run_cons, hnew, hdeeds, List.append_assoc]
      · rw [History.drafts_append, he, hdrafts]
        cases he' : e.update? <;> simp [he']

/-- Without a new draft the history shows none. -/
theorem grows_without_drafts (s : SaverLife) {events : List Event}
    (he : ∀ sub, .update sub ∉ events) :
    ∃ new : History, (s.run events).history = s.history ++ new ∧ new.drafts = [] := by
  obtain ⟨new, hnew, hdrafts⟩ := grows_with_drafts s events
  refine ⟨new, hnew, hdrafts.trans (List.filterMap_eq_nil_iff.mpr fun e hm => ?_)⟩
  cases e with
  | update sub => exact absurd hm (he sub)
  | work | clock | stop => rfl

/-- When an autosaver was stopped and its last flush had no failed save, the store holds the final
draft unless the last save to take effect was one that failed. -/
theorem store_holds_final_draft_iff (lands : Nat → Bool) (now : Nat) (store : Store)
    (exercise : String) (interval : Nat) (initial : Option Submission) (before : List Event)
    (hb : .stop ∉ before) (after : List Event) (hno : ∀ sub, .update sub ∉ after)
    (reached ended : SaverLife)
    (hr : reached = (SaverLife.ofSaver now (spawn store exercise interval initial)).run before)
    (he : ended = (reached.next .stop).run after) (hf : ended.saver.isFinished = true)
    (d : Submission) (hd : ended.saver.draft = some d) (hblank : d.isBlank = false)
    (hok : ∀ save ∈ ended.history.lastFlush, save.answer.failure = none) :
    ended.history.stored lands initial = some d ↔ ¬ Astray lands ended.history := by
  subst hr he
  have htracked := (tracked_spawn now store exercise interval initial).run before
  have hunstopped : Unstopped (SaverLife.ofSaver now (spawn store exercise interval initial)) :=
    ⟨rfl, id⟩
  have hwinding := ((hunstopped.run hb).winding htracked).run hno
  have hended := hwinding.ended_of_isFinished hf
  obtain ⟨later, hlater, hlooks⟩ := hended.once
  obtain ⟨new, hnew, hdrafts⟩ := grows_without_drafts _ hno
  obtain rfl : later = new := by
    rw [hnew, SaverLife.next, SaverLife.record] at hlater
    simpa using hlater.symm
  obtain ⟨pre, rest, rfl, hrest⟩ := split_of_looks hlooks
  rw [History.drafts_append, List.append_eq_nil_iff] at hdrafts
  rw [← List.cons_append, ← List.append_assoc] at hlater
  rw [History.lastFlush_eq hlater hrest] at hok
  have hsaved := hwinding.tracked.lawful.saved_of_settled hended.idle hlater hended.settled
    hdrafts.2 (hended.draft_eq ▸ hd) hblank hok
  rw [← hsaved]
  exact hwinding.tracked.lawful.stored_eq_saved_iff lands

/-- The save of the first draft takes effect and fails, and is made again at the next look. -/
theorem store_holds_draft_saved_again :
    let draft (text : String) : Submission := .code (.source text "rust")
    let before : List Event :=
      [.work, .update (draft "fn b() {}"), .clock 1000, .work, .work, .clock 2000, .work, .work]
    let store : Store := ⟨[⟨[], 0, some (.requestFailed "e" (.dropped "e"))⟩], .success⟩
    let reached :=
      (SaverLife.ofSaver 0 (spawn store "e" 1000 (some (draft "fn a() {}")))).run before
    let ended := (reached.next .stop).run [.work]
    .stop ∉ before ∧ ended.saver.isFinished = true ∧
      ended.saver.draft = some (draft "fn b() {}") ∧ ended.history.lastFlush = [] ∧
      ¬ Astray (fun _ => true) ended.history := by
  intro draft before store reached ended
  have hb : .stop ∉ before := by simp [before]
  have hno : ∀ sub, Event.update sub ∉ [Event.work] := by simp
  have hf : ended.saver.isFinished = true := by decide
  have hd : ended.saver.draft = some (draft "fn b() {}") := by decide
  have hflush : ended.history.lastFlush = [] := by decide
  have hstored : ended.history.stored (fun _ => true) (some (draft "fn a() {}")) =
      some (draft "fn b() {}") := by decide
  have hblank : (draft "fn b() {}").isBlank = false := by decide
  have hok : ∀ save ∈ ended.history.lastFlush, save.answer.failure = none := by simp [hflush]
  have hiff := store_holds_final_draft_iff (fun _ => true) 0 store "e" 1000
    (some (draft "fn a() {}")) before hb [.work] hno reached ended rfl rfl hf _ hd hblank hok
  exact ⟨hb, hf, hd, hflush, hiff.mp hstored⟩

/-- The save of the second draft takes effect and fails, and the draft goes back to the first one
before the next look, which then finds nothing to save. -/
theorem store_keeps_abandoned_draft :
    let draft (text : String) : Submission := .code (.source text "rust")
    let before : List Event := [.work, .update (draft "fn b() {}"), .clock 1000, .work, .work,
      .update (draft "fn a() {}")]
    let store : Store := ⟨[⟨[], 0, some (.badResponse "store" 500 "" none)⟩], .success⟩
    let reached :=
      (SaverLife.ofSaver 0 (spawn store "e" 1000 (some (draft "fn a() {}")))).run before
    let ended := (reached.next .stop).run [.work]
    .stop ∉ before ∧ ended.saver.isFinished = true ∧
      ended.saver.draft = some (draft "fn a() {}") ∧ (draft "fn a() {}").isBlank = false ∧
      ended.history.lastFlush = [] ∧
      ended.history.stored (fun _ => true) (some (draft "fn a() {}")) =
        some (draft "fn b() {}") := by
  intro draft before store reached ended
  exact ⟨by simp [before], by decide, by decide, by decide, by decide, by decide⟩

end Autosaver

end ExerciseClient
