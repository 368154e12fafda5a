import ExerciseClient.Proofs.Autosave.Saving
import ExerciseClient.Proofs.Exercise.Reply
import ExerciseClient.Proofs.Submission.Restoring

/-! Work that was saved comes back as it was, and is not saved again. The request of a save is read
back whatever the texts in it hold; the reply that carries its submission gives exactly this
submission; and an autosaver that begins with it waits for a draft that is something else. -/

namespace ExerciseClient

open Json

/-! ### No numbers are written -/

namespace FileTree

mutual

theorem isReread_toJson : ∀ t : FileTree, t.toJson.IsReread
  | ⟨name, content, []⟩ => by cases content <;> simp [toJson, Value.IsReread, Value.MembersReread]
  | ⟨name, content, c :: cs⟩ => by
      have hcs := itemsReread_toJsons (c :: cs)
      cases content <;> simp [toJson, Value.IsReread, Value.MembersReread, hcs]

theorem itemsReread_toJsons : ∀ ts : List FileTree, Value.ItemsReread (toJsons ts)
  | [] => trivial
  | t :: ts => ⟨isReread_toJson t, itemsReread_toJsons ts⟩

end

end FileTree

namespace AnswerSheet

theorem membersReread_entries {α : Type} {f : α → Value} (hf : ∀ a, (f a).IsReread)
    (es : List (String × α)) : Value.MembersReread (es.map fun e => (e.1, f e.2)) := by
  induction es with
  | nil => trivial
  | cons e es ih => exact ⟨hf e.2, ih⟩

theorem isReread_toJson (s : AnswerSheet) : s.toJson.IsReread := by
  obtain ⟨answers, results⟩ := s
  have hanswers := membersReread_entries (f := Value.str) (fun _ => trivial) answers.entries
  cases results with
  | none => exact ⟨hanswers, trivial⟩
  | some m =>
      have hresults := membersReread_entries (f := Value.bool) (fun _ => trivial) m.entries
      exact ⟨hanswers, hresults, trivial⟩

end AnswerSheet

namespace Submission

theorem isReread_toJson (s : Submission) : s.toJson.IsReread := by
  cases s with
  | quiz answers => exact answers.isReread_toJson
  | code t => exact t.isReread_toJson

/-! ### The request -/

/-- The text of the request that saves a submission. -/
def requestText (s : Submission) : String := (SaveRequest.ofSubmission s).toJson.text

/-- The submission stands in the text of its request, unless it is too deep to be read. -/
theorem field?_requestText (s : Submission) :
    field? s.requestText "submission" =
      if s.toJson.depth ≤ 126 then some s.toJson.sorted else none := by
  have hreread : (SaveRequest.ofSubmission s).toJson.IsReread :=
    ⟨trivial, s.isReread_toJson, trivial⟩
  have hdepth : (SaveRequest.ofSubmission s).toJson.depth = s.toJson.depth + 1 := by
    simp [SaveRequest.toJson, SaveRequest.ofSubmission, ExerciseKind.toJson, Value.depth,
      Value.membersDepth]
  have hget : (SaveRequest.ofSubmission s).toJson.sorted.get? "submission" =
      some s.toJson.sorted := by
    simp [SaveRequest.toJson, SaveRequest.ofSubmission, ExerciseKind.toJson, Value.sorted,
      Value.sortedMembers, Value.get?, KeyedMap.ofList, KeyedMap.insert,
      KeyedMap.lookup_insertEntry_self]
  rw [field?, requestText, parse, decodeText_text _ hreread, Decoder.value, toValue_tree, hdepth]
  by_cases h : s.toJson.depth ≤ 126
  · have hroom : s.toJson.depth + 1 ≤ maxDepth := Nat.succ_le_succ h
    simp only [if_pos hroom, if_pos h, hget]
  · have hroom : ¬ s.toJson.depth + 1 ≤ maxDepth := fun hle => h (Nat.le_of_succ_le_succ hle)
    simp only [if_neg hroom, if_neg h]

end Submission

/-! ### Nothing is saved again -/

namespace Autosaver

variable {s : Submission} {h earlier later : History}

/-- A draft that is neither the saved one nor blank. -/
def IsNews (s t : Submission) : Prop := t ≠ s ∧ t.isBlank = false

theorem Lawful.clean_of_no_news (hl : Lawful (some s) h) (hd : ∀ t ∈ h.drafts, ¬ IsNews s t)
    (hr : h.requests = []) (t : Submission) : ¬ Dirty (some s) h t := by
  intro hdirty
  have hanswers : h.answers = [] := by
    have he := hl.requests_eq
    rw [hr] at he
    simpa using (List.append_eq_nil_iff.mp he.symm).1
  have hsaved : h.saved (some s) = some s := by
    simp [History.saved, History.successes, hanswers]
  have hne : t ≠ s := fun he => hdirty.unsaved (he ▸ hsaved)
  have hdraft := hdirty.draft_eq
  rw [History.draft] at hdraft
  cases hlast : h.drafts.getLast? with
  | none =>
      rw [hlast] at hdraft
      exact hne (Option.some.inj hdraft).symm
  | some last =>
      rw [hlast] at hdraft
      obtain rfl : last = t := Option.some.inj hdraft
      exact hd last (List.mem_of_getLast? hlast) ⟨hne, hdirty.notBlank⟩

/-- Without news no save begins. -/
theorem Lawful.requests_of_no_news (hl : Lawful (some s) h)
    (hd : ∀ t ∈ h.drafts, ¬ IsNews s t) : h.requests = [] := by
  induction hl with
  | nil => rfl
  | @snoc h new hl hr ih =>
      have hpast : ∀ t ∈ h.drafts, ¬ IsNews s t := fun t ht => hd t (by simp [ht])
      have hrequests : h.requests = [] := ih hpast
      cases hr with
      | quiet hq => simp [hrequests, requests_of_quiet hq]
      | pass | answer => rw [History.requests_append, hrequests]; rfl
      | save hu hdirty => exact absurd hdirty (hl.clean_of_no_news hpast hrequests _)

/-- A save begins only after news. -/
theorem Lawful.news_of_request {r : SaveRequest} (hl : Lawful (some s) h)
    (hs : h = earlier ++ .did (.requested r) :: later) : ∃ t ∈ earlier.drafts, IsNews s t := by
  obtain ⟨before, last, t, rfl, -, hdirty, -⟩ := hl.request hs
  rw [List.append_assoc] at hs
  obtain ⟨hbefore, -⟩ := hl.look hs
  apply Classical.byContradiction
  intro hnone
  have hd : ∀ t ∈ before.drafts, ¬ IsNews s t := fun t ht hnews =>
    hnone ⟨t, by simp [ht], hnews⟩
  exact hbefore.clean_of_no_news hd (hbefore.requests_of_no_news hd) t hdirty

end Autosaver

/-! ### The way there and back -/

/-- The text of a reply with a submission among its other members. -/
def Progress.reply (before after : List (String × Value)) (submission : Value) : String :=
  (Value.obj (before ++ ("submission", submission) :: after)).text

theorem Progress.decode_reply {before after : List (String × Value)}
    (hbefore : Value.MembersReread before) (hafter : Value.MembersReread after) {q : Progress}
    (hq : decodeText decode (reply before after .null) = .ok q) {v : Value} (hv : v.IsReread)
    (hdepth : v.depth ≤ 126) :
    decodeText decode (reply before after v) = .ok { q with submission := v.sorted } := by
  have hreread {w : Value} (hw : w.IsReread) :
      (Value.obj (before ++ ("submission", w) :: after)).IsReread := by
    simp [Value.IsReread, Value.MembersReread, hbefore, hafter, hw]
  rw [reply, decodeText_text _ (hreread (w := .null) trivial)] at hq
  rw [reply, decodeText_text _ (hreread hv)]
  exact decode_replace hq hdepth

namespace Submission

/-- What is kept of a submission that is saved. -/
structure Restored (s : Submission) : Prop where
  /-- It stands in the text of its request. -/
  sent : ∃ w, field? s.requestText "submission" = some w
  /-- A reply that carries it is read whenever it would be without it. -/
  carried : ∀ before after q, Value.MembersReread before → Value.MembersReread after →
    decodeText Progress.decode (Progress.reply before after .null) = .ok q →
    decodeText Progress.decode (Progress.reply before after s.toJson) =
      .ok { q with submission := s.toJson.sorted }
  /-- Whatever reply it comes back in, it is what it was. -/
  returned : ∀ response p, decodeText Progress.decode response = .ok p →
    field? response "submission" = field? s.requestText "submission" →
    p.savedSubmission = some s
  held : ∀ p : Progress, p.submission = s.toJson.sorted → p.savedSubmission = some s
  /-- An autosaver that has it as saved makes no save before it is given something else. -/
  unsaved : ∀ store exercise interval now events (earlier : Autosaver.History) r later,
    ((SaverLife.ofSaver now (.spawn store exercise interval (some s))).run events).history =
      earlier ++ .did (.requested r) :: later →
    ∃ t ∈ earlier.drafts, Autosaver.IsNews s t

/-- Nothing is kept of a submission, however it is held. -/
structure Dropped (s : Submission) : Prop where
  returned : ∀ response p w, decodeText Progress.decode response = .ok p →
    field? s.requestText "submission" = some w → field? response "submission" = some w →
    p.savedSubmission = none
  held : ∀ p : Progress, p.submission = s.toJson.sorted → p.savedSubmission = none

theorem restored {s : Submission} (hs : ¬ s.IsWorthless) (hdepth : s.toJson.depth ≤ 126) :
    s.Restored := by
  have hsent : field? s.requestText "submission" = some s.toJson.sorted := by
    rw [field?_requestText, if_pos hdepth]
  have hheld : ∀ p : Progress, p.submission = s.toJson.sorted → p.savedSubmission = some s := by
    intro p hp
    have hsorted : s.toJson.sorted.depth ≤ maxDepth :=
      Nat.le_trans (depth_sorted _) (Nat.le_succ_of_le hdepth)
    rw [Progress.savedSubmission_of_sorted hp, if_pos ⟨hsorted, hs⟩]
  constructor
  case sent => exact ⟨_, hsent⟩
  case carried =>
    intro before after q hbefore hafter hq
    exact Progress.decode_reply hbefore hafter hq s.isReread_toJson hdepth
  case returned =>
    intro response p hp hfield
    exact hheld p (Progress.submission_of_field? hp (hfield.trans hsent))
  case held => exact hheld
  case unsaved =>
    intro store exercise interval now events earlier r later hhistory
    have htracked := (Autosaver.tracked_spawn now store exercise interval (some s)).run events
    exact htracked.lawful.news_of_request hhistory

theorem dropped {s : Submission} (hs : s.IsWorthless) : s.Dropped := by
  have hheld : ∀ p : Progress, p.submission = s.toJson.sorted → p.savedSubmission = none := by
    intro p hp
    rw [Progress.savedSubmission_of_sorted hp, if_neg fun h => h.2 hs]
  constructor
  case held => exact hheld
  case returned =>
    intro response p w hp hsent hfield
    rw [field?_requestText] at hsent
    split at hsent
    · obtain rfl := Option.some.inj hsent
      exact hheld p (Progress.submission_of_field? hp hfield)
    · simp at hsent

/-- A submission that the autosaver saves comes back as it was, if code has a name, and is not
saved again. Of blank code and of code without a name nothing comes back. -/
theorem saved_work_returns (s : Submission) :
    (s.isBlank = false → (∀ t, s = .code t → t.name ≠ "") → s.toJson.depth ≤ 126 →
      s.Restored) ∧
    (∀ t, s = .code t → t.isBlank = true ∨ t.name = "" → s.Dropped) := by
  constructor
  · intro hblank hname hdepth
    refine restored ?_ hdepth
    cases s with
    | quiz answers => exact id
    | code t =>
        have hne : t.name ≠ "" := hname t rfl
        have hb : t.isBlank = false := hblank
        simp [IsWorthless, hne, hb]
  · rintro t rfl ht
    apply dropped
    rcases ht with ht | ht <;> simp [IsWorthless, ht]

/-- A project in a directory, in a reply with an unknown member and a number; and a file without a
name. -/
theorem saved_work_returns_project :
    let s : Submission := .code (.directory "src" [.file "main.rs" "fn main() \x7b\n\t\"é\"\n\x7d"])
    let nameless : Submission := .code (.file "" "fn main() \x7b\x7d")
    let before := [("uuid", .str "1"), ("owner", .obj [("uuid", .str "2")])]
    let after := [("attempts", .ofInt 3), ("exercise_uuid", .str "e")]
    s.isBlank = false ∧ s.toJson.depth ≤ 126 ∧ s.Restored ∧ nameless.Dropped ∧
      ∃ p, decodeText Progress.decode (Progress.reply before after s.toJson) = .ok p ∧
        p.attempts = 3 ∧ p.savedSubmission = some s := by
  intro s nameless before after
  have hblank : s.isBlank = false := by decide
  have hname : ∀ t, s = .code t → t.name ≠ "" := by
    rintro t ht
    obtain rfl := Submission.code.inj ht
    decide
  have hdepth : s.toJson.depth ≤ 126 := by decide
  have hrestored : s.Restored := (saved_work_returns s).1 hblank hname hdepth
  have hdropped : nameless.Dropped := (saved_work_returns nameless).2 _ rfl (.inr rfl)
  have hattempts : (Number.int 3).IsReread := Number.isReread_int (by decide) (by decide)
  have hbefore : Value.MembersReread before := ⟨trivial, ⟨trivial, trivial⟩, trivial⟩
  have hafter : Value.MembersReread after := ⟨hattempts, trivial, trivial⟩
  have hreread : (Value.obj (before ++ ("submission", .null) :: after)).IsReread := by
    simp [Value.IsReread, Value.MembersReread, hbefore, hafter]
  have hq : decodeText Progress.decode (Progress.reply before after .null) =
      .ok ⟨"1", "e", .null, 3, none, none, none⟩ := by
    rw [Progress.reply, decodeText_text _ hreread]
    rfl
  have hcarried := hrestored.carried before after _ hbefore hafter hq
  exact ⟨hblank, hdepth, hrestored, hdropped, _, hcarried, rfl, hrestored.held _ rfl⟩

end Submission

end ExerciseClient
