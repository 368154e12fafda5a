import ExerciseClient.Proofs.Autosave.Answering
import ExerciseClient.Proofs.Autosave.Landing
import ExerciseClient.Proofs.Submission.Saved

/-! How the one draft of a session gets to the store. If all drafts that an autosaver is given are
one and the same, every save is of this draft; there is one unless it is blank or was there at the
start; after a save that succeeds there is none; and without such a save the last look after the
stop makes one more. -/

namespace ExerciseClient

namespace Autosaver

/-- The saves that are answered in some effects. -/
def answered (effects : List SaverEffect) : List Saving :=
  effects.filterMap fun
    | .answered save => some save
    | _ => none

/-- What shows of a deed. -/
def Deed.effect? : Deed → Option SaverEffect
  | .did e => some e
  | _ => none

namespace History

/-- What shows of a history. -/
def effects (h : History) : List SaverEffect := h.filterMap (·.effect?)

@[simp] theorem effects_append (a b : History) : effects (a ++ b) = a.effects ++ b.effects := by
  simp [effects]

@[simp] theorem effects_stopped (h : History) : effects (.stopped :: h) = h.effects := rfl

theorem asked_effects (h : History) : asked h.effects = h.requests := by
  simp only [asked, effects, requests, List.filterMap_filterMap]
  congr 1
  funext d
  rcases d with (_ | _ | _ | _) | _ | _ <;> rfl

theorem answered_effects (h : History) : answered h.effects = h.answers := by
  simp only [answered, effects, answers, List.filterMap_filterMap]
  congr 1
  funext d
  rcases d with (_ | _ | _ | _) | _ | _ <;> rfl

theorem mem_effects {h : History} {e : SaverEffect} : e ∈ h.effects ↔ .did e ∈ h := by
  rw [effects, List.mem_filterMap]
  constructor
  · rintro ⟨d, hd, he⟩
    cases d with
    | did e' => exact Option.some.inj he ▸ hd
    | updated | stopped => cases he
  · intro h
    exact ⟨_, h, rfl⟩

end History

/-- What an autosaver does before its stop and after it, `saved` being what the store had at first,
brings a source to the store. -/
structure Delivers (store : Store) (saved source : Option Submission)
    (running closing : List SaverEffect) : Prop where
  exact : ∀ r ∈ asked (running ++ closing), ∃ s, source = some s ∧ r = .ofSubmission s
  issued_iff : asked (running ++ closing) ≠ [] ↔
    ∃ s, source = some s ∧ s.isBlank = false ∧ saved ≠ some s
  /-- Unless a save succeeds, the last look makes one. -/
  last : (∀ save, .answered save ∈ running ++ closing → save.answer.failure ≠ none) →
    asked (running ++ closing) ≠ [] → ∃ earlier s later, source = some s ∧
      closing = earlier ++ .looked true :: .requested (.ofSubmission s) :: later
  /-- The saves go as the store has it. -/
  answers : (answered (running ++ closing)).map (·.answer) =
    (List.range (asked (running ++ closing)).length).map store.answer
  /-- Nothing follows a save that succeeds. -/
  final : ∀ n, n < (asked (running ++ closing)).length → (store.answer n).failure = none →
    n + 1 = (asked (running ++ closing)).length

/-- A save that is answered is one that was asked for, and goes as the store has it. -/
theorem Delivers.answer_of_mem {store : Store} {saved source : Option Submission}
    {running closing : List SaverEffect} (h : Delivers store saved source running closing)
    {save : Saving} (hm : .answered save ∈ running ++ closing) :
    ∃ n, n < (asked (running ++ closing)).length ∧ store.answer n = save.answer := by
  have hanswered : save ∈ answered (running ++ closing) :=
    List.mem_filterMap.mpr ⟨_, hm, rfl⟩
  have hanswer := List.mem_map_of_mem (f := (·.answer)) hanswered
  rw [h.answers] at hanswer
  obtain ⟨n, hn, he⟩ := List.mem_map.mp hanswer
  exact ⟨n, List.mem_range.mp hn, he⟩

section

variable {initial source : Option Submission} {h earlier later past : History} {s : Submission}

/-- What has to be saved is the one draft, and it was not saved at first. -/
theorem Lawful.source_of_dirty (hl : Lawful initial h) (hd : ∀ t ∈ h.drafts, source = some t)
    (hs : Dirty initial h s) : source = some s ∧ initial ≠ some s := by
  have hdraft : h.drafts.getLast?.or initial = some s := hs.draft_eq
  have hsame : ∀ t ∈ h.drafts, t = s := by
    intro t ht
    cases hlast : h.drafts.getLast? with
    | none => exact absurd (List.getLast?_eq_none_iff.mp hlast) (List.ne_nil_of_mem ht)
    | some last =>
        rw [hlast] at hdraft
        obtain rfl : last = s := Option.some.inj hdraft
        exact Option.some.inj ((hd t ht).symm.trans (hd last (List.mem_of_getLast? hlast)))
  have hinitial : initial ≠ some s := by
    rintro rfl
    have hnews : ∀ t ∈ h.drafts, ¬ IsNews s t := fun t ht hn => hn.1 (hsame t ht)
    exact hl.clean_of_no_news hnews (hl.requests_of_no_news hnews) s hs
  refine ⟨?_, hinitial⟩
  cases hlast : h.drafts.getLast? with
  | none =>
      rw [hlast] at hdraft
      exact absurd hdraft hinitial
  | some last =>
      have hm := List.mem_of_getLast? hlast
      rw [hd last hm, hsame last hm]

theorem mem_requests {r : SaveRequest} : r ∈ h.requests ↔ .did (.requested r) ∈ h := by
  rw [History.requests, List.mem_filterMap]
  constructor
  · rintro ⟨d, hd, hr⟩
    cases d with
    | did e => cases e <;> simp_all
    | updated | stopped => simp at hr
  · intro h
    exact ⟨_, h, rfl⟩

theorem mem_answers {save : Saving} : save ∈ h.answers ↔ .did (.answered save) ∈ h := by
  rw [History.answers, List.mem_filterMap]
  constructor
  · rintro ⟨d, hd, hr⟩
    cases d with
    | did e => cases e <;> simp_all
    | updated | stopped => simp at hr
  · intro h
    exact ⟨_, h, rfl⟩

/-- What is asked for at a place is the one draft, which had to be saved there. -/
theorem Lawful.source_at {r : SaveRequest} (hl : Lawful initial h)
    (hd : ∀ t ∈ h.drafts, source = some t) (hs : h = earlier ++ .did (.requested r) :: later) :
    ∃ before last s, earlier = before ++ [.did (.looked last)] ∧ Lawful initial before ∧
      Dirty initial before s ∧ r = .ofSubmission s ∧ source = some s ∧ initial ≠ some s := by
  obtain ⟨before, last, s, rfl, -, hdirty, hr⟩ := hl.request hs
  have hbefore : Lawful initial before := by
    rw [List.append_assoc] at hs
    exact (hl.look hs).1
  have hdrafts : ∀ t ∈ before.drafts, source = some t := fun t ht => hd t (by simp [hs, ht])
  obtain ⟨hsource, hinitial⟩ := hbefore.source_of_dirty hdrafts hdirty
  exact ⟨before, last, s, rfl, hbefore, hdirty, hr, hsource, hinitial⟩

theorem Lawful.source_of_request {r : SaveRequest} (hl : Lawful initial h)
    (hd : ∀ t ∈ h.drafts, source = some t) (hr : r ∈ h.requests) :
    ∃ s, source = some s ∧ initial ≠ some s ∧ s.isBlank = false ∧ r = .ofSubmission s := by
  obtain ⟨earlier, later, hs⟩ := List.append_of_mem (mem_requests.mp hr)
  obtain ⟨before, last, s, -, -, hdirty, hr, hsource, hinitial⟩ := hl.source_at hd hs
  exact ⟨s, hsource, hinitial, hdirty.notBlank, hr⟩

/-- So is every save that is answered. -/
theorem Lawful.source_of_answer {save : Saving} (hl : Lawful initial h)
    (hd : ∀ t ∈ h.drafts, source = some t) (ha : save ∈ h.answers) :
    source = some save.submission := by
  have hr : save.request ∈ h.requests := by
    rw [hl.requests_eq]
    exact List.mem_append_left _ (List.mem_map_of_mem ha)
  obtain ⟨s, hsource, -, -, he⟩ := hl.source_of_request hd hr
  obtain rfl : save.submission = s := congrArg SaveRequest.submission he
  exact hsource

/-- Once the one draft is saved it is what was saved last. -/
theorem Lawful.saved_of_answer {save : Saving} (hl : Lawful initial h)
    (hd : ∀ t ∈ h.drafts, source = some t) (ha : save ∈ h.answers)
    (hf : save.answer.failure = none) : h.saved initial = source := by
  have hkept : save.submission ∈ h.successes :=
    List.mem_filterMap.mpr ⟨save, ha, (save.kept?_eq_some_iff _).mpr ⟨hf, rfl⟩⟩
  rw [History.saved]
  cases hlast : h.successes.getLast? with
  | none => exact absurd (List.getLast?_eq_none_iff.mp hlast) (List.ne_nil_of_mem hkept)
  | some last =>
      obtain ⟨save', ha', hk⟩ := List.mem_filterMap.mp (List.mem_of_getLast? hlast)
      obtain ⟨-, rfl⟩ := (save'.kept?_eq_some_iff last).mp hk
      exact (hl.source_of_answer hd ha').symm

/-- After a save that succeeds none is made. -/
theorem Lawful.requests_after_answer {save : Saving} (hl : Lawful initial h)
    (hd : ∀ t ∈ h.drafts, source = some t) (hs : h = earlier ++ .did (.answered save) :: later)
    (hf : save.answer.failure = none) : later.requests = [] := by
  refine List.eq_nil_iff_forall_not_mem.mpr fun r hr => ?_
  obtain ⟨front, back, rfl⟩ := List.append_of_mem (mem_requests.mp hr)
  have hplace : h = (earlier ++ .did (.answered save) :: front) ++ .did (.requested r) :: back := by
    rw [hs, List.append_assoc, List.cons_append]
  obtain ⟨before, last, s, hbefore, hlawful, hdirty, -, hsource, -⟩ := hl.source_at hd hplace
  have hanswered : save ∈ before.answers := by
    have hm : save ∈ History.answers (earlier ++ .did (.answered save) :: front) := by
      simp [History.answers]
    rw [hbefore, History.answers_append] at hm
    simpa [History.answers] using hm
  have hdrafts : ∀ t ∈ before.drafts, source = some t := by
    intro t ht
    have hm : t ∈ History.drafts (earlier ++ .did (.answered save) :: front) := by
      rw [hbefore, History.drafts_append]
      exact List.mem_append_left _ ht
    rw [hplace, History.drafts_append]  at hd
    exact hd t (List.mem_append_left _ hm)
  exact hdirty.unsaved ((hlawful.saved_of_answer hdrafts hanswered hf).trans hsource)

/-- The place of an answer in a history. -/
theorem exists_place {save : Saving} {front back : List Saving}
    (hs : h.answers = front ++ save :: back) : ∃ earlier later : History,
      h = earlier ++ .did (.answered save) :: later ∧ earlier.answers = front := by
  obtain ⟨earlier, rest, rfl, hfront, hrest⟩ := List.filterMap_eq_append_iff.mp hs
  obtain ⟨quiet, d, later, rfl, hquiet, hd, -⟩ := List.filterMap_eq_cons_iff.mp hrest
  have hnone : History.answers quiet = [] := List.filterMap_eq_nil_iff.mpr hquiet
  obtain rfl : d = .did (.answered save) := by
    cases d with
    | did e => cases e <;> simp_all
    | updated | stopped => simp at hd
  exact ⟨earlier ++ quiet, later, by simp, by rw [History.answers_append, hnone, List.append_nil,
    History.answers, hfront]⟩

/-- A save that succeeds is the last one that began. -/
theorem Lawful.last_of_success {save : Saving} {front back : List Saving} (hl : Lawful initial h)
    (hd : ∀ t ∈ h.drafts, source = some t) (hs : h.answers = front ++ save :: back)
    (hf : save.answer.failure = none) : h.requests.length = front.length + 1 := by
  obtain ⟨earlier, later, hplace, hfront⟩ := exists_place hs
  obtain ⟨hearlier, hunderway⟩ := hl.answer hplace
  have hnone := hl.requests_after_answer hd hplace hf
  have hall : h.requests = earlier.requests := by
    have hcons : History.requests (.did (.answered save) :: later) = later.requests := rfl
    rw [hplace, History.requests_append, hcons, hnone, List.append_nil]
  rw [hall, hearlier.requests_eq, hunderway, List.length_append, List.length_map, hfront]
  rfl

/-- When an autosaver has ended, all its saves were answered as the store has it. -/
theorem Ended.answers_eq {life : SaverLife} {store : Store} (h : Ended initial past life)
    (hl : Lawful initial life.history) (hs : Served store life) :
    life.history.answers.map (·.answer) =
      (List.range life.history.requests.length).map store.answer := by
  have hphase : life.saver.phase = .finished :=
    (isFinished_iff _).mp (h.never []).1
  have hsaves : life.saves = life.history.answers := by
    rw [SaverLife.saves, hphase]
    exact List.append_nil _
  have hlength : life.history.requests.length = life.history.answers.length := by
    rw [hl.requests_eq, h.idle, List.append_nil, List.length_map]
  rw [hlength, ← hsaves]
  exact hs.answers_eq

/-- Without a save that succeeds, the saved submission is the first one. -/
theorem saved_of_failures (hf : ∀ save ∈ h.answers, save.answer.failure ≠ none) :
    h.saved initial = initial := by
  have hnone : h.successes = [] := List.filterMap_eq_nil_iff.mpr fun save hm =>
    (save.kept?_eq_none_iff).mpr (hf save hm)
  rw [History.saved, hnone]
  rfl

/-- The draft is the source if there is one. -/
theorem draft_of_source (hd : ∀ t, t ∈ h.drafts ↔ source = some t) (hs : source = some s) :
    h.draft initial = some s := by
  rw [History.draft]
  cases hlast : h.drafts.getLast? with
  | none =>
      have hm := (hd s).mpr hs
      rw [List.getLast?_eq_none_iff.mp hlast] at hm
      cases hm
  | some last =>
      have hm := (hd last).mp (List.mem_of_getLast? hlast)
      exact hm.symm.trans hs

/-- An autosaver that has ended has made a save of a draft that had to be saved. -/
theorem Settled.requested (hs : Settled initial h) (hl : Lawful initial h)
    (hdraft : h.draft initial = some s) (hb : s.isBlank = false) (hi : initial ≠ some s) :
    h.requests ≠ [] := by
  cases hs with
  | absent hd => simp [hd] at hdraft
  | blank hd hblank =>
      obtain rfl := Option.some.inj (hd.symm.trans hdraft)
      simp [hblank] at hb
  | saved hd hsaved =>
      obtain rfl := Option.some.inj (hd.symm.trans hdraft)
      intro hnone
      have hanswers : h.answers = [] := by
        have he := hl.requests_eq
        rw [hnone] at he
        simpa using (List.append_eq_nil_iff.mp he.symm).1
      rw [saved_of_failures (by simp [hanswers])] at hsaved
      exact hi hsaved
  | failed hd hr ha hf =>
      intro hnone
      simp [hnone] at hr

/-- The last look makes a save of a draft that none was made of with success. -/
theorem Lawful.last_look (hl : Lawful initial (past ++ .stopped :: later))
    (hlooks : later.looks = [true]) (hlast : later.drafts = [])
    (hd : History.draft initial (past ++ .stopped :: later) = some s) (hb : s.isBlank = false)
    (hi : initial ≠ some s) (hf : ∀ save ∈ History.answers (past ++ .stopped :: later),
      save.answer.failure ≠ none) :
    ∃ front back, later =
      front ++ .did (.looked true) :: .did (.requested (.ofSubmission s)) :: back := by
  obtain ⟨front, back, rfl, -⟩ := split_of_looks hlooks
  have hplace : past ++ .stopped :: (front ++ .did (.looked true) :: back) =
      (past ++ .stopped :: front) ++ .did (.looked true) :: back := by simp
  rw [History.drafts_append] at hlast
  obtain ⟨-, hback⟩ := List.append_eq_nil_iff.mp hlast
  rw [hplace] at hl hd hf
  obtain ⟨-, -, hnext⟩ := hl.look rfl
  have hdraft : History.draft initial (past ++ .stopped :: front) = some s := by
    rwa [History.draft_of_no_drafts hback] at hd
  have hsaved : History.saved initial (past ++ .stopped :: front) = initial :=
    saved_of_failures fun save hm => hf save (by
      rw [History.answers_append]
      exact List.mem_append_left _ hm)
  rcases hnext with ⟨s', rest, hdirty, rfl⟩ | ⟨hclean, -⟩
  · obtain rfl : s' = s := Option.some.inj (hdirty.draft_eq.symm.trans hdraft)
    exact ⟨front, rest, rfl⟩
  · exact absurd ⟨hdraft, hsaved.symm ▸ hi, hb⟩ (hclean s)

/-- An autosaver that was given no draft but a source, and has ended, delivers it. -/
theorem Ended.delivers {life : SaverLife} {store : Store} (h : Ended initial past life)
    (hl : Lawful initial life.history) (hserved : Served store life)
    (hsource : ∀ t, t ∈ life.history.drafts ↔ source = some t)
    (hhistory : life.history = past ++ .stopped :: later) (hlast : later.drafts = []) :
    Delivers store initial source past.effects later.effects := by
  have hd : ∀ t ∈ life.history.drafts, source = some t := fun t => (hsource t).mp
  have heffects : past.effects ++ later.effects = life.history.effects := by
    rw [hhistory, History.effects_append, History.effects_stopped]
  have hlooks : later.looks = [true] := by
    obtain ⟨later', hsplit, hlooks⟩ := h.once
    obtain rfl : later' = later := by simpa using hsplit.symm.trans hhistory
    exact hlooks
  constructor
  case exact =>
    intro r hr
    rw [heffects, History.asked_effects] at hr
    obtain ⟨s, hs, -, -, he⟩ := hl.source_of_request hd hr
    exact ⟨s, hs, he⟩
  case issued_iff =>
    rw [heffects, History.asked_effects]
    constructor
    · intro hr
      obtain ⟨r, hr⟩ := List.exists_mem_of_ne_nil _ hr
      obtain ⟨s, hs, hi, hb, -⟩ := hl.source_of_request hd hr
      exact ⟨s, hs, hb, hi⟩
    · rintro ⟨s, hs, hb, hi⟩
      exact h.settled.requested hl (draft_of_source hsource hs) hb hi
  case last =>
    intro hf hr
    rw [heffects] at hf hr
    rw [History.asked_effects] at hr
    obtain ⟨r, hr⟩ := List.exists_mem_of_ne_nil _ hr
    obtain ⟨s, hs, hi, hb, -⟩ := hl.source_of_request hd hr
    have hfailed : ∀ save ∈ life.history.answers, save.answer.failure ≠ none := by
      intro save hm
      exact hf save (History.mem_effects.mpr (mem_answers.mp hm))
    have hdraft : life.history.draft initial = some s := draft_of_source hsource hs
    rw [hhistory] at hl hdraft hfailed
    obtain ⟨front, back, rfl⟩ := hl.last_look hlooks hlast hdraft hb hi hfailed
    exact ⟨History.effects front, s, History.effects back, hs, History.effects_append ..⟩
  case answers =>
    rw [heffects, History.answered_effects, History.asked_effects]
    exact h.answers_eq hl hserved
  case final =>
    intro n hn hf
    rw [heffects, History.asked_effects] at hn ⊢
    have hanswers := h.answers_eq hl hserved
    have hlt : n < life.history.answers.length := by
      have hlength := congrArg List.length hanswers
      simp only [List.length_map, List.length_range] at hlength
      omega
    have hanswer : life.history.answers[n].answer = store.answer n := by
      have hat := congrArg (·[n]?) hanswers
      simpa [hlt, hn] using hat
    have hsplit : life.history.answers = life.history.answers.take n ++
        life.history.answers[n] :: life.history.answers.drop (n + 1) := by simp
    have hlast := hl.last_of_success hd hsplit (hanswer ▸ hf)
    rw [hlast, List.length_take, Nat.min_eq_left (Nat.le_of_lt hlt)]

end

end Autosaver

end ExerciseClient
