import ExerciseClient.Proofs.Autosave.Lawful

/-! What an autosaver saves. Its history is lawful, so it saves what has to be saved and nothing
else; that no edit is lost on the way, whatever becomes of the saves, follows for all lawful
histories. -/

namespace ExerciseClient

namespace Autosaver

section

variable {initial : Option Submission} {h earlier later : History}

/-! ### Lawful histories -/

theorem saved_eq_getLast? (initial : Option Submission) (h : History) :
    h.saved initial = (initial.toList ++ h.successes).getLast? := by
  rw [History.saved, List.getLast?_append]
  cases initial <;> rfl

theorem successes_of_answer (save : Saving) :
    History.successes [.did (.answered save)] = save.kept?.toList := by
  cases hk : save.kept? <;> simp [History.successes, History.answers, hk]

/-- A save that is answered was for something that was not saved last and is not blank. -/
theorem Lawful.answerable {save : Saving} (hl : Lawful initial h)
    (hu : h.underway = [save.request]) :
    h.saved initial ≠ some save.submission ∧ save.submission.isBlank = false := by
  rcases hl.underway_cases with hn | ⟨s, he, hsaved, hblank⟩
  · simp [hu] at hn
  · rw [hu] at he
    obtain rfl : save.submission = s := congrArg SaveRequest.submission (List.cons.inj he).1
    exact ⟨hsaved, hblank⟩

/-- Nothing is saved twice in a row. -/
theorem Lawful.distinct (hl : Lawful initial h) {before after : List Submission} {a b : Submission}
    (hs : initial.toList ++ h.successes = before ++ a :: b :: after) : a ≠ b := by
  induction hl generalizing after with
  | nil =>
      have hlen := congrArg List.length hs
      cases initial <;> simp [History.successes, History.answers] at hlen
      omega
  | @snoc h new hl hr ih =>
      rw [History.successes_append, ← List.append_assoc] at hs
      cases hr with
      | quiet hd =>
          rw [successes_of_quiet hd, List.append_nil] at hs
          exact ih hs
      | pass hu hc => exact ih (by simpa [History.successes, History.answers] using hs)
      | save hu hd => exact ih (by simpa [History.successes, History.answers] using hs)
      | @answer save hu =>
          rw [successes_of_answer] at hs
          cases hk : save.kept? with
          | none => exact ih (by simpa [hk] using hs)
          | some s =>
              obtain ⟨_, rfl⟩ := (save.kept?_eq_some_iff s).mp hk
              rw [hk, Option.toList_some] at hs
              rcases split_append hs with ⟨rest, hold, hnew⟩ | ⟨rest, rfl, hnew⟩
              · cases rest with
                | nil =>
                    -- The earlier of the two is what was saved last when the save began.
                    obtain ⟨rfl, _⟩ := List.cons.inj hnew
                    intro he
                    apply (hl.answerable hu).1
                    rw [saved_eq_getLast?, hold, he]
                    simp
                | cons c rest =>
                    obtain ⟨rfl, _⟩ := List.cons.inj hnew
                    exact ih hold
              · obtain ⟨_, _, hnone⟩ := split_singleton.mp hnew.symm
                simp at hnone

/-- Until the next look, what a failed save was for is not saved, and no save is under way. -/
theorem Lawful.failed {save : Saving} (hl : Lawful initial h)
    (hs : h = earlier ++ .did (.answered save) :: later) (hf : save.answer.failure ≠ none)
    (hn : ∀ last, .did (.looked last) ∉ later) :
    h.underway = [] ∧ h.saved initial ≠ some save.submission ∧
      save.submission.isBlank = false := by
  induction hl generalizing later with
  | nil => simp at hs
  | @snoc h new hl hr ih =>
      rcases split_append hs with ⟨rest, hold, rfl⟩ | ⟨pre, rfl, hnew⟩
      · have hpast := ih hold fun last hm => hn last (List.mem_append_left _ hm)
        cases hr with
        | quiet hd =>
            rw [History.underway_append (requests_of_quiet hd) (answers_of_quiet hd),
              History.saved_of_no_successes (successes_of_quiet hd)]
            exact hpast
        | @pass last => exact absurd (by simp) (hn last)
        | @save last => exact absurd (by simp) (hn last)
        | answer hu => simp [hpast.1] at hu
      · cases hr with
        | quiet hd =>
            obtain ⟨_, rfl, _⟩ := split_singleton.mp hnew.symm
            simp at hd
        | pass =>
            obtain ⟨_, he, _⟩ := split_singleton.mp hnew.symm
            simp at he
        | save => rcases split_pair.mp hnew.symm with ⟨_, he, _⟩ | ⟨_, he, _⟩ <;> simp at he
        | @answer save' hu =>
            obtain ⟨_, he, _⟩ := split_singleton.mp hnew.symm
            simp only [Deed.did.injEq, SaverEffect.answered.injEq] at he
            subst he
            have hkept := (save.kept?_eq_none_iff).mpr hf
            have hrequests := hl.requests_eq
            rw [hu] at hrequests
            refine ⟨underway_of_answer hrequests, ?_⟩
            rw [History.saved_of_no_successes (by rw [successes_of_answer, hkept]; rfl)]
            exact hl.answerable hu

/-- A failed save is made again at the next look if the draft is still the same. -/
theorem Lawful.retried {save : Saving} {middle : History} {last : Bool} (hl : Lawful initial h)
    (hs : h = earlier ++ .did (.answered save) :: middle ++ .did (.looked last) :: later)
    (hf : save.answer.failure ≠ none) (hn : ∀ last, .did (.looked last) ∉ middle)
    (hd : History.draft initial (earlier ++ .did (.answered save) :: middle) =
      some save.submission) :
    ∃ rest, later = .did (.requested save.request) :: rest := by
  obtain ⟨hpast, _, ⟨s, rest, hdirty, rfl⟩ | ⟨hclean, _⟩⟩ := hl.look hs
  · obtain rfl : save.submission = s := Option.some.inj (hd.symm.trans hdirty.draft_eq)
    exact ⟨rest, rfl⟩
  · obtain ⟨_, hsaved, hblank⟩ := hpast.failed rfl hf hn
    exact absurd ⟨hd, hsaved, hblank⟩ (hclean save.submission)

/-- What becomes of a draft that is not blank until there is another: it has to be saved, or it is
what was saved last all the while, or it was saved by a save that began since or was under way. -/
inductive Kept (initial : Option Submission) (earlier : History) (s : Submission)
    (later : History) : Prop where
  | dirty (hd : Dirty initial (earlier ++ .updated s :: later) s)
  | same (hs : earlier.saved initial = some s) (hn : later.successes = [])
  | saved {mid save rest} (hl : later = mid ++ .did (.answered save) :: rest)
      (hf : save.answer.failure = none) (hs : save.submission = s)
      (hr : .did (.requested (.ofSubmission s)) ∈ mid ∨ .ofSubmission s ∈ earlier.underway)

theorem draft_of_updated {s : Submission} (hn : later.drafts = []) :
    History.draft initial (earlier ++ .updated s :: later) = some s := by
  have hcons : History.drafts (.updated s :: later) = s :: later.drafts := rfl
  rw [History.draft_append, hcons, hn]
  rfl

theorem drafts_eq_nil (hn : ∀ s, .updated s ∉ later) : later.drafts = [] := by
  rw [History.drafts, List.filterMap_eq_nil_iff]
  intro d hd
  cases d with
  | updated s => exact absurd hd (hn s)
  | did | stopped => rfl

theorem Kept.append {s : Submission} {new : History} (hk : Kept initial earlier s later)
    (hd : new.drafts = []) (hs : new.successes = []) : Kept initial earlier s (later ++ new) := by
  cases hk with
  | dirty hdirty =>
      apply Kept.dirty
      have hwhole : earlier ++ .updated s :: (later ++ new) =
          (earlier ++ .updated s :: later) ++ new := by simp
      rw [hwhole]
      refine ⟨?_, ?_, hdirty.notBlank⟩
      · rw [History.draft_of_no_drafts hd]
        exact hdirty.draft_eq
      · rw [History.saved_of_no_successes hs]
        exact hdirty.unsaved
  | same hsame hn => exact .same hsame (by rw [History.successes_append, hn, hs, List.nil_append])
  | saved hl hf hsub hr => exact .saved (by rw [hl, List.append_assoc, List.cons_append]) hf hsub hr

theorem Lawful.kept {s : Submission} (hl : Lawful initial h)
    (hs : h = earlier ++ .updated s :: later) (hn : ∀ s', .updated s' ∉ later)
    (hb : s.isBlank = false) : Kept initial earlier s later := by
  induction hl generalizing later with
  | nil => simp at hs
  | @snoc h new hl hr ih =>
      rcases split_append hs with ⟨rest, hold, rfl⟩ | ⟨pre, rfl, hnew⟩
      · have hpast := ih hold fun s' hm => hn s' (List.mem_append_left _ hm)
        have hdrafts := drafts_eq_nil fun s' hm => hn s' (List.mem_append_right rest hm)
        cases hr with
        | quiet hd => exact hpast.append hdrafts (successes_of_quiet hd)
        | pass hu hc => exact hpast.append rfl rfl
        | save hu hd => exact hpast.append rfl rfl
        | @answer save hu =>
            by_cases hf : save.answer.failure = none
            · by_cases hsub : save.submission = s
              · -- The save began after the draft was given, or it was under way at the time.
                rw [hold] at hu
                have hmem := History.mem_underway_append (hu ▸ List.mem_singleton_self save.request)
                refine .saved rfl hf hsub ?_
                rw [Saving.request, hsub] at hmem
                simpa [or_comm] using hmem
              · apply Kept.dirty
                refine ⟨draft_of_updated (drafts_eq_nil hn), ?_, hb⟩
                have hkept := (save.kept?_eq_some_iff save.submission).mpr ⟨hf, rfl⟩
                rw [← hs, History.saved_append, successes_of_answer, hkept]
                simpa using hsub
            · have hkept := (save.kept?_eq_none_iff).mpr hf
              exact hpast.append rfl (by rw [successes_of_answer, hkept]; rfl)
      · cases hr with
        | quiet hd =>
            obtain ⟨rfl, _, rfl⟩ := split_singleton.mp hnew.symm
            rw [List.append_nil]
            by_cases hsaved : h.saved initial = some s
            · exact .same hsaved rfl
            · apply Kept.dirty
              refine ⟨draft_of_updated rfl, ?_, hb⟩
              rw [History.saved_of_no_successes rfl]
              exact hsaved
        | pass | answer =>
            obtain ⟨_, he, _⟩ := split_singleton.mp hnew.symm
            simp at he
        | save => rcases split_pair.mp hnew.symm with ⟨_, he, _⟩ | ⟨_, he, _⟩ <;> simp at he

end

/-! ### Lives -/

/-- An autosaver's history is lawful, and tells what the autosaver holds. -/
structure Tracked (initial : Option Submission) (s : SaverLife) : Prop where
  lawful : Lawful initial s.history
  draft_eq : s.saver.draft = s.history.draft initial
  saved_eq : s.saver.saved = s.history.saved initial
  underway_eq : s.history.underway = s.saver.phase.save?.toList.map (·.request)

theorem tracked_spawn (now : Nat) (store : Store) (exercise : String) (interval : Nat)
    (initial : Option Submission) :
    Tracked initial (SaverLife.ofSaver now (spawn store exercise interval initial)) :=
  ⟨.nil, rfl, rfl, rfl⟩

theorem Lawful.logged {initial : Option Submission} {h : History} (hl : Lawful initial h)
    (log : Log) : Lawful initial (h ++ log.map fun l => .did (.logged l)) := by
  induction log generalizing h with
  | nil => simpa using hl
  | cons l log ih =>
      have hnext := ih (hl.snoc (.quiet (d := .did (.logged l)) trivial))
      simpa using hnext

theorem logged_eq_nil (log : Log) :
    History.drafts (log.map fun l => .did (.logged l)) = [] ∧
      History.requests (log.map fun l => .did (.logged l)) = [] ∧
        History.answers (log.map fun l => .did (.logged l)) = [] := by
  induction log with
  | nil => exact ⟨rfl, rfl, rfl⟩
  | cons l log ih => exact ih

variable {initial : Option Submission} {s : SaverLife}

/-- A rule is followed, and then some lines are logged. -/
theorem Tracked.record (h : Tracked initial s) {a : Autosaver} {new : History}
    (hr : Rule initial s.history new) (log : Log)
    (hd : a.draft = new.drafts.getLast?.or s.saver.draft)
    (hs : a.saved = new.successes.getLast?.or s.saver.saved)
    (hu : History.underway (s.history ++ new) = a.phase.save?.toList.map (·.request)) :
    Tracked initial (s.record a (new ++ log.map fun l => .did (.logged l))) := by
  obtain ⟨hdrafts, hrequests, hanswers⟩ := logged_eq_nil log
  have hhistory : (s.record a (new ++ log.map fun l => .did (.logged l))).history =
      (s.history ++ new) ++ log.map fun l => .did (.logged l) :=
    (List.append_assoc ..).symm
  refine ⟨?_, ?_, ?_, ?_⟩ <;> rw [hhistory]
  · exact (h.lawful.snoc hr).logged log
  · rw [History.draft_of_no_drafts hdrafts, History.draft_append, ← h.draft_eq]
    exact hd
  · have hsuccesses : History.successes (log.map fun l => .did (.logged l)) = [] := by
      rw [History.successes, hanswers, List.filterMap_nil]
    rw [History.saved_of_no_successes hsuccesses, History.saved_append, ← h.saved_eq]
    exact hs
  · rw [History.underway_append hrequests hanswers]
    exact hu

theorem dirty_iff (h : Tracked initial s) (sub : Submission) :
    Dirty initial s.history sub ↔ s.saver.dirty? = some sub := by
  rw [dirty?_eq_some_iff, h.draft_eq, h.saved_eq]
  exact ⟨fun hd => ⟨hd.draft_eq, hd.unsaved, hd.notBlank⟩, fun ⟨hd, hs, hb⟩ => ⟨hd, hs, hb⟩⟩

theorem Tracked.look (h : Tracked initial s) (hp : s.saver.phase.save? = none)
    (tick : Option Nat) : Tracked initial
      (s.record (s.saver.look s.now tick).1 ((s.saver.look s.now tick).2.map .did)) := by
  have hu : s.history.underway = [] := by rw [h.underway_eq, hp]; rfl
  cases hd : s.saver.dirty? with
  | none =>
      have hrule : Rule initial s.history [.did (.looked tick.isNone)] := by
        refine .pass hu ?_
        intro sub hdirty
        have hsome := (dirty_iff h sub).mp hdirty
        simp [hd] at hsome
      have hunderway : History.underway (s.history ++ [.did (.looked tick.isNone)]) = [] := by
        rw [History.underway_append rfl rfl, hu]
      rw [look_of_clean hd]
      rcases goOn_cases tick s.saver with ⟨t, rfl, he⟩ | ⟨rfl, l, he⟩ <;> rw [he]
      · exact h.record hrule [] rfl rfl hunderway
      · exact h.record hrule [l] rfl rfl hunderway
  | some sub =>
      have hrule : Rule initial s.history
          [.did (.looked tick.isNone), .did (.requested (.ofSubmission sub))] :=
        .save hu ((dirty_iff h sub).mpr hd)
      have he := h.lawful.requests_eq
      rw [hu, List.append_nil] at he
      rw [look_of_dirty hd, List.map_cons, List.map_cons, List.map_map]
      exact h.record hrule _ rfl rfl (underway_of_request rfl rfl he)

theorem Tracked.answer (h : Tracked initial s) {save : Saving} {tick : Option Nat}
    (hp : s.saver.phase = .saving save tick) : Tracked initial
      (s.record ((s.saver.settle save).1.goOn tick).1
        (.did (.answered save) :: .did (.logged (s.saver.settle save).2) ::
          ((s.saver.settle save).1.goOn tick).2.map .did)) := by
  have hu : s.history.underway = [save.request] := by rw [h.underway_eq, hp]; rfl
  have hrequests := h.lawful.requests_eq
  rw [hu] at hrequests
  have hunderway := underway_of_answer hrequests
  have hdraft : (s.saver.settle save).1.draft = s.saver.draft := by
    rcases settle_cases save s.saver with ⟨_, he⟩ | ⟨_, he⟩ <;> rw [he]
  have hsaved : (s.saver.settle save).1.saved = save.kept?.or s.saver.saved := by
    rcases settle_cases save s.saver with ⟨hf, he⟩ | ⟨⟨e, hf⟩, he⟩ <;>
      rw [he] <;> simp [Saving.kept?, hf]
  have hsuccesses : (History.successes [.did (.answered save)]).getLast? = save.kept? := by
    rw [successes_of_answer]
    cases save.kept? <;> rfl
  rw [← hsuccesses] at hsaved
  rcases goOn_cases tick (s.saver.settle save).1 with ⟨t, rfl, he⟩ | ⟨rfl, l, he⟩ <;> rw [he]
  · exact h.record (.answer hu) [_] hdraft hsaved hunderway
  · exact h.record (.answer hu) [_, l] hdraft hsaved hunderway

theorem Tracked.next (h : Tracked initial s) (e : Event) : Tracked initial (s.next e) := by
  cases e with
  | work =>
      rcases s.next_work with ⟨_, he⟩ | ⟨m, hm, he⟩
      · rwa [he]
      · rw [he]
        cases hm with
        | begin hp =>
            refine ⟨?_, ?_, ?_, ?_⟩ <;> simp only [SaverLife.record, List.map_nil, List.append_nil]
            · exact h.lawful
            · exact h.draft_eq
            · exact h.saved_eq
            · rw [h.underway_eq, hp]
              rfl
        | last hs hp => exact h.look (by rw [hp]; rfl) none
        | tick hs hp ht => exact h.look (by rw [hp]; rfl) _
        | answer hp hd => exact h.answer hp
  | clock now => exact ⟨h.lawful, h.draft_eq, h.saved_eq, h.underway_eq⟩
  | update sub =>
      refine h.record (.quiet (d := .updated sub) trivial) [] rfl rfl ?_
      rw [History.underway_append rfl rfl]
      exact h.underway_eq
  | stop =>
      refine h.record (.quiet (d := .stopped) trivial) [] rfl rfl ?_
      rw [History.underway_append rfl rfl]
      exact h.underway_eq

theorem Tracked.run (h : Tracked initial s) (events : List Event) :
    Tracked initial (s.run events) :=
  SaverLife.run_induction (Q := fun _ => True) (fun _ e _ h => h.next e) h fun _ _ => trivial

/-- What is promised about saves, told from a history. -/
structure Saves (initial : Option Submission) (s : SaverLife) : Prop where
  draft_eq : s.saver.draft = s.history.draft initial
  saved_eq : s.saver.saved = s.history.saved initial
  /-- At any time all saves but one at most are answered. -/
  one : ∀ earlier later, s.history = earlier ++ later →
    earlier.requests = earlier.answers.map (·.request) ++ earlier.underway ∧
      earlier.underway.length ≤ 1
  underway_eq : s.history.underway = s.saver.phase.save?.toList.map (·.request)
  looks : ∀ earlier last later, s.history = earlier ++ .did (.looked last) :: later →
    (∃ sub rest, Dirty initial earlier sub ∧
      later = .did (.requested (.ofSubmission sub)) :: rest) ∨
    (∀ sub, ¬ Dirty initial earlier sub) ∧ ∀ r rest, later ≠ .did (.requested r) :: rest
  requests : ∀ earlier r later, s.history = earlier ++ .did (.requested r) :: later →
    ∃ before last, earlier = before ++ [.did (.looked last)] ∧
      Dirty initial before r.submission ∧ r.kind = r.submission.kind
  distinct : ∀ before a b after,
    initial.toList ++ s.history.successes = before ++ a :: b :: after → a ≠ b
  retried : ∀ earlier save middle last later,
    s.history = earlier ++ .did (.answered save) :: middle ++ .did (.looked last) :: later →
    save.answer.failure ≠ none → (∀ last, .did (.looked last) ∉ middle) →
    History.draft initial (earlier ++ .did (.answered save) :: middle) = some save.submission →
    ∃ rest, later = .did (.requested save.request) :: rest
  kept : ∀ earlier sub later, s.history = earlier ++ .updated sub :: later →
    (∀ sub', .updated sub' ∉ later) → sub.isBlank = false → Kept initial earlier sub later

/-- The autosaver saves what has to be saved, one save at a time and nothing twice in a row, and it
does not rest until an edit is saved. -/
theorem saves_dirty_drafts (now : Nat) (store : Store) (exercise : String) (interval : Nat)
    (initial : Option Submission) (events : List Event) :
    Saves initial
      ((SaverLife.ofSaver now (spawn store exercise interval initial)).run events) := by
  have h := (tracked_spawn now store exercise interval initial).run events
  refine ⟨h.draft_eq, h.saved_eq, ?_, h.underway_eq, ?_, ?_, ?_, ?_, ?_⟩
  · intro earlier later hs
    exact h.lawful.one hs
  · intro earlier last later hs
    exact (h.lawful.look hs).2.2
  · intro earlier r later hs
    obtain ⟨before, last, sub, he, _, hd, rfl⟩ := h.lawful.request hs
    exact ⟨before, last, he, hd, rfl⟩
  · intro before a b after hs
    exact h.lawful.distinct hs
  · intro earlier save middle last later hs hf hn hd
    exact h.lawful.retried hs hf hn hd
  · intro earlier sub later hs hn hb
    exact h.lawful.kept hs hn hb

end Autosaver

end ExerciseClient
