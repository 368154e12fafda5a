import ExerciseClient.Proofs.Autosave.Life
import ExerciseClient.Proofs.Place

/-! What a history of an autosaver tells, and which histories are lawful. The draft, what was saved
last and the save under way are all found from a history; the rules say when a look may lead to a
save and when a save is answered, without a word about how the autosaver is built. -/

namespace ExerciseClient

/-- The submission that is saved once the answer is there. -/
def Saving.kept? (save : Saving) : Option Submission :=
  match save.answer.failure with
  | none => some save.submission
  | some _ => none

theorem Saving.kept?_eq_some_iff (save : Saving) (s : Submission) :
    save.kept? = some s ↔ save.answer.failure = none ∧ save.submission = s := by
  cases h : save.answer.failure <;> simp [kept?, h]

theorem Saving.kept?_eq_none_iff (save : Saving) :
    save.kept? = none ↔ save.answer.failure ≠ none := by
  cases h : save.answer.failure <;> simp [kept?, h]

namespace Autosaver

@[simp] def Deed.updated? : Deed → Option Submission
  | .updated s => some s
  | _ => none

@[simp] def Deed.request? : Deed → Option SaveRequest
  | .did (.requested r) => some r
  | _ => none

@[simp] def Deed.answer? : Deed → Option Saving
  | .did (.answered save) => some save
  | _ => none

/-- The autosaver neither looks nor hears of a save. -/
@[simp] def Deed.IsQuiet : Deed → Prop
  | .did (.logged _) | .updated _ | .stopped => True
  | _ => False

namespace History

/-- What the owner set, the oldest first. -/
def drafts (h : History) : List Submission := h.filterMap (·.updated?)

/-- The saves that were asked for. -/
def requests (h : History) : List SaveRequest := h.filterMap (·.request?)

/-- The saves that were answered. -/
def answers (h : History) : List Saving := h.filterMap (·.answer?)

/-- What was saved. -/
def successes (h : History) : List Submission := h.answers.filterMap (·.kept?)

/-- The draft after a history. -/
def draft (initial : Option Submission) (h : History) : Option Submission :=
  h.drafts.getLast?.or initial

/-- What is saved after a history. -/
def saved (initial : Option Submission) (h : History) : Option Submission :=
  h.successes.getLast?.or initial

/-- Saves are answered in the order in which they begin; what is left is under way. -/
def underway (h : History) : List SaveRequest := h.requests.drop h.answers.length

@[simp] theorem drafts_append (a b : History) : drafts (a ++ b) = a.drafts ++ b.drafts := by
  simp [drafts]

@[simp] theorem requests_append (a b : History) :
    requests (a ++ b) = a.requests ++ b.requests := by
  simp [requests]

@[simp] theorem answers_append (a b : History) : answers (a ++ b) = a.answers ++ b.answers := by
  simp [answers]

@[simp] theorem successes_append (a b : History) :
    successes (a ++ b) = a.successes ++ b.successes := by
  simp [successes]

/-- What comes later changes the draft if the owner gives one. -/
theorem draft_append (initial : Option Submission) (a b : History) :
    draft initial (a ++ b) = b.drafts.getLast?.or (draft initial a) := by
  simp [draft, List.getLast?_append, Option.or_assoc]

theorem saved_append (initial : Option Submission) (a b : History) :
    saved initial (a ++ b) = b.successes.getLast?.or (saved initial a) := by
  simp [saved, List.getLast?_append, Option.or_assoc]

theorem draft_of_no_drafts {b : History} (hb : b.drafts = []) (initial : Option Submission)
    (a : History) : draft initial (a ++ b) = draft initial a := by
  simp [draft_append, hb]

theorem saved_of_no_successes {b : History} (hb : b.successes = [])
    (initial : Option Submission) (a : History) : saved initial (a ++ b) = saved initial a := by
  simp [saved_append, hb]

/-- Deeds that neither begin nor answer a save leave the saves under way alone. -/
theorem underway_append {b : History} (hr : b.requests = []) (ha : b.answers = [])
    (a : History) : underway (a ++ b) = a.underway := by
  simp [underway, hr, ha]

/-- What is under way was so before, or it began since. -/
theorem mem_underway_append {a b : History} {r : SaveRequest} (h : r ∈ underway (a ++ b)) :
    r ∈ a.underway ∨ .did (.requested r) ∈ b := by
  rw [underway, requests_append, List.drop_append, List.mem_append] at h
  rcases h with h | h
  · left
    rw [answers_append, List.length_append, ← List.drop_drop] at h
    exact List.mem_of_mem_drop h
  · right
    have hb := List.mem_of_mem_drop h
    rw [requests, List.mem_filterMap] at hb
    obtain ⟨d, hd, hr⟩ := hb
    cases d with
    | did e => cases e <;> simp_all
    | updated | stopped => simp at hr

end History

/-- After a history, a draft has to be saved: it is not what was saved last, and not blank. -/
structure Dirty (initial : Option Submission) (h : History) (s : Submission) : Prop where
  draft_eq : h.draft initial = some s
  unsaved : h.saved initial ≠ some s
  notBlank : s.isBlank = false

/-- The rules for what may come after a history. The autosaver looks only when no save is under
way, and what it then finds dirty it saves at once. -/
inductive Rule (initial : Option Submission) (h : History) : List Deed → Prop where
  | quiet {d} (hd : d.IsQuiet) : Rule initial h [d]
  | pass {last} (hu : h.underway = []) (hc : ∀ s, ¬ Dirty initial h s) :
      Rule initial h [.did (.looked last)]
  | save {last s} (hu : h.underway = []) (hd : Dirty initial h s) :
      Rule initial h [.did (.looked last), .did (.requested (.ofSubmission s))]
  | answer {save} (hu : h.underway = [save.request]) : Rule initial h [.did (.answered save)]

/-- The histories that follow the rules. -/
inductive Lawful (initial : Option Submission) : History → Prop where
  | nil : Lawful initial []
  | snoc {h new} (hl : Lawful initial h) (hr : Rule initial h new) : Lawful initial (h ++ new)

section

variable {initial : Option Submission} {h earlier later new : History} {d : Deed}

/-! ### Places in a lawful history -/

theorem Rule.ne_request (hr : Rule initial h new) (rest : History) (r : SaveRequest)
    (after : History) : new ++ rest ≠ .did (.requested r) :: after := by
  cases hr with
  | quiet hd =>
      intro he
      obtain ⟨rfl, _⟩ := List.cons.inj he
      exact hd
  | pass | save | answer => simp

/-- A deed in a lawful history is there by a rule, and what other rules bring later does not begin
with a request. -/
theorem Lawful.place (hl : Lawful initial h) (hs : h = earlier ++ d :: later) :
    ∃ before pre post rest, Lawful initial before ∧ Rule initial before (pre ++ d :: post) ∧
      earlier = before ++ pre ∧ later = post ++ rest ∧
        ∀ r after, rest ≠ .did (.requested r) :: after := by
  induction hl generalizing later with
  | nil => simp at hs
  | @snoc h new hl hr ih =>
      rcases split_append hs with ⟨later', hold, rfl⟩ | ⟨pre, rfl, rfl⟩
      · obtain ⟨before, pre, post, rest, hbefore, hrule, rfl, rfl, hrest⟩ := ih hold
        refine ⟨before, pre, post, rest ++ new, hbefore, hrule, rfl, by simp, ?_⟩
        intro r after he
        cases rest with
        | nil =>
            apply hr.ne_request [] r after
            simpa using he
        | cons m rest =>
            obtain ⟨rfl, _⟩ := List.cons.inj he
            exact hrest r rest rfl
      · exact ⟨h, pre, later, [], hl, hr, rfl, by simp, by simp⟩

/-- A look comes when no save is under way. A request follows if the draft has to be saved, and
none does otherwise. -/
theorem Lawful.look {last : Bool} (hl : Lawful initial h)
    (hs : h = earlier ++ .did (.looked last) :: later) :
    Lawful initial earlier ∧ earlier.underway = [] ∧
      ((∃ s rest, Dirty initial earlier s ∧
        later = .did (.requested (.ofSubmission s)) :: rest) ∨
      (∀ s, ¬ Dirty initial earlier s) ∧ ∀ r rest, later ≠ .did (.requested r) :: rest) := by
  obtain ⟨before, pre, post, rest, hbefore, hrule, rfl, rfl, hrest⟩ := hl.place hs
  generalize hnew : pre ++ .did (.looked last) :: post = new at hrule
  cases hrule with
  | quiet hd =>
      obtain ⟨_, rfl, _⟩ := split_singleton.mp hnew
      simp at hd
  | pass hu hc =>
      obtain ⟨rfl, _, rfl⟩ := split_singleton.mp hnew
      rw [List.append_nil]
      exact ⟨hbefore, hu, .inr ⟨hc, hrest⟩⟩
  | @save _ s hu hd =>
      rcases split_pair.mp hnew with ⟨rfl, _, rfl⟩ | ⟨_, he, _⟩
      · rw [List.append_nil]
        exact ⟨hbefore, hu, .inl ⟨s, rest, hd, rfl⟩⟩
      · simp at he
  | answer hu =>
      obtain ⟨_, he, _⟩ := split_singleton.mp hnew
      simp at he

/-- A request comes with a look, for the draft that has to be saved. -/
theorem Lawful.request {r : SaveRequest} (hl : Lawful initial h)
    (hs : h = earlier ++ .did (.requested r) :: later) :
    ∃ before last s, earlier = before ++ [.did (.looked last)] ∧ before.underway = [] ∧
      Dirty initial before s ∧ r = .ofSubmission s := by
  obtain ⟨before, pre, post, rest, hbefore, hrule, rfl, rfl, hrest⟩ := hl.place hs
  generalize hnew : pre ++ .did (.requested r) :: post = new at hrule
  cases hrule with
  | quiet hd =>
      obtain ⟨_, rfl, _⟩ := split_singleton.mp hnew
      simp at hd
  | pass hu hc | answer hu =>
      obtain ⟨_, he, _⟩ := split_singleton.mp hnew
      simp at he
  | @save last s hu hd =>
      rcases split_pair.mp hnew with ⟨_, he, _⟩ | ⟨rfl, he, _⟩
      · simp at he
      · simp only [Deed.did.injEq, SaverEffect.requested.injEq] at he
        exact ⟨before, last, s, rfl, hu, hd, he⟩

/-- An answer is to the save under way. -/
theorem Lawful.answer {save : Saving} (hl : Lawful initial h)
    (hs : h = earlier ++ .did (.answered save) :: later) :
    Lawful initial earlier ∧ earlier.underway = [save.request] := by
  obtain ⟨before, pre, post, rest, hbefore, hrule, rfl, rfl, hrest⟩ := hl.place hs
  generalize hnew : pre ++ .did (.answered save) :: post = new at hrule
  cases hrule with
  | quiet hd =>
      obtain ⟨_, rfl, _⟩ := split_singleton.mp hnew
      simp at hd
  | pass hu hc =>
      obtain ⟨_, he, _⟩ := split_singleton.mp hnew
      simp at he
  | save hu hd =>
      rcases split_pair.mp hnew with ⟨_, he, _⟩ | ⟨_, he, _⟩ <;> simp at he
  | answer hu =>
      obtain ⟨rfl, he, _⟩ := split_singleton.mp hnew
      simp only [Deed.did.injEq, SaverEffect.answered.injEq] at he
      subst he
      rw [List.append_nil]
      exact ⟨hbefore, hu⟩

/-- What comes before a place is lawful, but for a look whose request is to follow. -/
theorem Lawful.before (hl : Lawful initial h) (hs : h = earlier ++ later) :
    Lawful initial earlier ∨
      ∃ before last, earlier = before ++ [.did (.looked last)] ∧ Lawful initial before := by
  rcases List.eq_nil_or_concat earlier with rfl | ⟨front, d, rfl⟩
  · exact .inl .nil
  · rw [List.concat_eq_append, List.append_assoc] at hs
    obtain ⟨before, pre, post, rest, hbefore, hrule, rfl, rfl, _⟩ := hl.place hs
    cases post with
    | nil =>
        left
        rw [List.concat_eq_append, List.append_assoc]
        exact .snoc hbefore hrule
    | cons m post =>
        right
        generalize hnew : pre ++ d :: m :: post = new at hrule
        cases hrule with
        | @save last s hu hd =>
            rcases split_pair.mp hnew with ⟨rfl, rfl, _⟩ | ⟨_, _, he⟩
            · exact ⟨before, last, by simp, hbefore⟩
            · simp at he
        | quiet | pass | answer =>
            obtain ⟨_, _, he⟩ := split_singleton.mp hnew
            simp at he

/-! ### The save under way -/

/-- A save that begins when all others are answered is the one under way. -/
theorem underway_of_request {r : SaveRequest} (hn : new.requests = [r]) (ha : new.answers = [])
    (he : h.requests = h.answers.map (·.request)) : History.underway (h ++ new) = [r] := by
  have hlen : h.answers.length = h.requests.length := by simp [he]
  rw [History.underway, History.requests_append, History.answers_append, hn, ha, List.append_nil,
    hlen, List.drop_left]

theorem underway_of_answer {save : Saving}
    (he : h.requests = h.answers.map (·.request) ++ [save.request]) :
    History.underway (h ++ [.did (.answered save)]) = [] := by
  have hlen : h.requests.length = h.answers.length + 1 := by simp [he]
  rw [History.underway, List.drop_eq_nil_iff]
  simp [History.requests, History.answers] at hlen ⊢
  omega

theorem requests_of_quiet (hd : d.IsQuiet) : History.requests [d] = [] := by
  cases d with
  | did e => cases e <;> first | rfl | exact hd.elim
  | updated | stopped => rfl

theorem answers_of_quiet (hd : d.IsQuiet) : History.answers [d] = [] := by
  cases d with
  | did e => cases e <;> first | rfl | exact hd.elim
  | updated | stopped => rfl

theorem successes_of_quiet (hd : d.IsQuiet) : History.successes [d] = [] := by
  rw [History.successes, answers_of_quiet hd, List.filterMap_nil]

theorem Lawful.requests_eq (hl : Lawful initial h) :
    h.requests = h.answers.map (·.request) ++ h.underway := by
  induction hl with
  | nil => rfl
  | @snoc h new hl hr ih =>
      cases hr with
      | quiet hd =>
          rw [History.underway_append (requests_of_quiet hd) (answers_of_quiet hd)]
          simpa [requests_of_quiet hd, answers_of_quiet hd] using ih
      | pass hu hc =>
          rw [History.underway_append rfl rfl]
          simpa [History.requests, History.answers] using ih
      | save hu hd =>
          rw [hu, List.append_nil] at ih
          rw [underway_of_request rfl rfl ih, History.requests_append, ih]
          simp [History.requests, History.answers]
      | answer hu =>
          rw [hu] at ih
          rw [underway_of_answer ih, History.requests_append, ih]
          simp [History.requests, History.answers]

/-- At most one save is under way, and its submission was not saved last and is not blank. -/
theorem Lawful.underway_cases (hl : Lawful initial h) :
    h.underway = [] ∨ ∃ s, h.underway = [.ofSubmission s] ∧ h.saved initial ≠ some s ∧
      s.isBlank = false := by
  induction hl with
  | nil => exact .inl rfl
  | @snoc h new hl hr ih =>
      cases hr with
      | quiet hd =>
          rw [History.underway_append (requests_of_quiet hd) (answers_of_quiet hd),
            History.saved_of_no_successes (successes_of_quiet hd)]
          exact ih
      | pass hu hc =>
          left
          rw [History.underway_append rfl rfl]
          exact hu
      | @save last s hu hd =>
          have he := hl.requests_eq
          rw [hu, List.append_nil] at he
          right
          refine ⟨s, underway_of_request rfl rfl he, ?_, hd.notBlank⟩
          rw [History.saved_of_no_successes rfl]
          exact hd.unsaved
      | answer hu =>
          have he := hl.requests_eq
          rw [hu] at he
          exact .inl (underway_of_answer he)

/-- So it is at any time before. -/
theorem Lawful.one (hl : Lawful initial h) (hs : h = earlier ++ later) :
    earlier.requests = earlier.answers.map (·.request) ++ earlier.underway ∧
      earlier.underway.length ≤ 1 := by
  have hlength {h : History} (hl : Lawful initial h) : h.underway.length ≤ 1 := by
    rcases hl.underway_cases with hu | ⟨s, hu, _⟩ <;> simp [hu]
  rcases hl.before hs with hbefore | ⟨before, last, rfl, hbefore⟩
  · exact ⟨hbefore.requests_eq, hlength hbefore⟩
  · have hu : History.underway (before ++ [.did (.looked last)]) = before.underway :=
      History.underway_append rfl rfl before
    rw [hu]
    have he := hbefore.requests_eq
    exact ⟨by simpa [History.requests, History.answers] using he, hlength hbefore⟩

end

end Autosaver

end ExerciseClient
