import ExerciseClient.Exercise.Progress
import ExerciseClient.Proofs.Json.Fields

/-! A submission comes back from its own JSON. Sorting moves the members of an entry, and drops
nothing, and in whatever order they stand the entry is read; it is never taken for quiz answers,
since it has no `answers`. What is then handed out as the submission saved last depends only on
whether it is worth anything. -/

namespace ExerciseClient

open Json

/-! ### Quiz answers -/

namespace AnswerSheet

theorem sorted_entries {α : Type} {f : α → Value} (hf : ∀ a, (f a).sorted = f a)
    (m : KeyedMap α) :
    (Value.obj (m.entries.map fun e => (e.1, f e.2))).sorted =
      .obj (m.entries.map fun e => (e.1, f e.2)) := by
  apply sorted_obj
  · exact List.pairwise_map.mpr m.ascending
  · intro e he
    obtain ⟨x, -, rfl⟩ := List.mem_map.mp he
    exact hf x.2

/-- Quiz answers are written in order. -/
theorem sorted_toJson (s : AnswerSheet) : s.toJson.sorted = s.toJson := by
  have hanswers := sorted_entries (f := Value.str) (fun _ => rfl) s.answers
  obtain ⟨answers, results⟩ := s
  cases results with
  | none => exact sorted_obj (List.pairwise_singleton _ _) (by simpa using hanswers)
  | some m =>
      have hresults := sorted_entries (f := Value.bool) (fun _ => rfl) m
      have hlt : "answers" < "results" := by decide
      exact sorted_obj (List.pairwise_pair.mpr hlt) (by simpa using ⟨hanswers, hresults⟩)

theorem decode_toJson (s : AnswerSheet) (origin : Origin) (room : Nat) :
    decode ⟨origin, room + 2⟩ s.toJson.tree = .ok s := by
  obtain ⟨answers, results⟩ := s
  have hanswers : Decoder.keyed .text ⟨origin, room + 1⟩
      (.obj (Value.treeMembers (answers.entries.map fun e => (e.1, .str e.2)))) = .ok answers :=
    Decoder.keyed_tree (fun _ => rfl) answers
  cases results with
  | none =>
      simp [decode, toJson, Value.tree, Value.treeMembers, schema, Schema.read, Schema.readMembers,
        Schema.checkRequired, Field.of, hanswers]
  | some m =>
      have hresults : Decoder.keyed .bool ⟨origin, room + 1⟩
          (.obj (Value.treeMembers (m.entries.map fun e => (e.1, .bool e.2)))) = .ok m :=
        Decoder.keyed_tree (fun _ => rfl) m
      simp [decode, toJson, Value.tree, Value.treeMembers, schema, Schema.read, Schema.readMembers,
        Schema.checkRequired, Field.of, Decoder.optional, hanswers, hresults]

theorem two_le_depth_toJson (s : AnswerSheet) : 2 ≤ s.toJson.depth := by
  simp only [toJson, Value.depth, Value.membersDepth]
  omega

/-- Only `answers` gives the answers. -/
theorem reads_without_answers {p : Place} {ms : List (String × Value)} {r r' : Draft}
    (h : Schema.Reads schema.fields p (Value.treeMembers ms) r r')
    (hms : ∀ m ∈ ms, m.1 ≠ "answers") (hr : r.answers = none) : r'.answers = none := by
  induction ms generalizing r with
  | nil =>
      cases h
      exact hr
  | cons m ms ih =>
      have hm : m.1 ≠ "answers" := hms m List.mem_cons_self
      have hrest : ∀ e ∈ ms, e.1 ≠ "answers" := fun e he => hms e (List.mem_cons_of_mem m he)
      cases h with
      | skip hf hv h => exact ih h hrest hr
      | @read f _ _ _ _ r₁ _ hf hset hread h =>
          obtain ⟨hmem, hname⟩ := Schema.mem_of_find? hf
          simp only [schema, List.mem_cons, List.not_mem_nil, or_false] at hmem
          rcases hmem with rfl | rfl
          · exact absurd hname.symm hm
          · obtain ⟨a, -, rfl⟩ := Field.read_of_eq_ok.mp hread
            exact ih h hrest hr

/-- An object without `answers` is no quiz answers. -/
theorem decode_without_answers {p : Place} {ms : List (String × Value)}
    (hms : ∀ m ∈ ms, m.1 ≠ "answers") (s : AnswerSheet) :
    decode p (Value.obj ms).tree ≠ .ok s := by
  intro h
  obtain ⟨origin, room⟩ := p
  cases room with
  | zero => simp [decode, Value.tree, Schema.read] at h
  | succ room =>
      cases hr : schema.read ⟨origin, room + 1⟩ (Value.obj ms).tree with
      | error e => simp [decode, hr] at h
      | ok r =>
          obtain ⟨hreads, hset⟩ := Schema.read_obj_eq_ok.mp hr
          have hnone : r.answers = none := reads_without_answers hreads hms rfl
          have hsome := hset _ List.mem_cons_self rfl
          simp [Field.of, hnone] at hsome

end AnswerSheet

/-! ### Code -/

namespace FileTree

/-- An entry in order: its children come first, and its name last. -/
theorem sorted_toJson (t : FileTree) : t.toJson.sorted = .obj (
    (match t.children with
      | [] => []
      | c :: cs => [("children", .arr (Value.sortedItems (toJsons (c :: cs))))]) ++
    (match t.content with
      | none => []
      | some c => [("content", .str c)]) ++
    [("name", .str t.name)]) := by
  have hcontent : "children" < "content" := by decide
  have hname : "children" < "name" := by decide
  have hlast : "content" < "name" := by decide
  obtain ⟨name, content, children⟩ := t
  cases content <;> cases children <;>
    simp only [toJson, Value.sorted, Value.sortedMembers, KeyedMap.ofList, KeyedMap.insert,
      KeyedMap.insertEntry, KeyedMap.empty, List.foldl_cons, List.foldl_nil, List.cons_append,
      List.nil_append, List.append_nil, hcontent, hname, hlast, if_true]

theorem toJsons_eq_map (ts : List FileTree) : toJsons ts = ts.map toJson := by
  induction ts with
  | nil => rfl
  | cons t ts ih => rw [toJsons, ih, List.map_cons]

theorem sortedItems_toJsons (ts : List FileTree) :
    Value.sortedItems (toJsons ts) = ts.map fun t => t.toJson.sorted := by
  induction ts with
  | nil => rfl
  | cons t ts ih => rw [toJsons, Value.sortedItems, ih, List.map_cons]

/-- A way to write entries: an object with each member under its name, in whatever order. -/
def Written (write : FileTree → Value) : Prop :=
  ∀ t, ∃ ms, write t = .obj ms ∧ (ms.map (·.1)).Nodup ∧
    ms.lookup "name" = some (.str t.name) ∧ ms.lookup "content" = t.content.map .str ∧
    ms.lookup "children" =
      (if t.children = [] then none else some (.arr (t.children.map write))) ∧
    ∀ m ∈ ms, m.1 ≠ "answers"

theorem written_toJson : Written toJson := by
  rintro ⟨name, content, children⟩
  refine ⟨_, toJson.eq_def _, ?_⟩
  cases content <;> cases children <;> simp [toJsons_eq_map, List.lookup_cons]

theorem written_sorted : Written fun t => t.toJson.sorted := by
  rintro ⟨name, content, children⟩
  refine ⟨_, sorted_toJson _, ?_⟩
  cases content <;> cases children <;> simp [sortedItems_toJsons, List.lookup_cons]

def slots (child : Decoder FileTree) : List (Slot Draft) := [
  ⟨String, "name", true, (·.name), fun a r => { r with name := some a }, .text⟩,
  ⟨Option String, "content", false, (·.content), fun a r => { r with content := some a },
    .optional .text⟩,
  ⟨List FileTree, "children", false, (·.children), fun a r => { r with children := some a },
    .list child⟩]

theorem lawful (child : Decoder FileTree) : Lawful (schema child) (slots child) where
  fields := rfl
  apart := by simp [slots, Slot.apart_iff]
  kept := by simp [slots]
  blank := by simp [slots, schema]
  ext := by
    rintro ⟨⟩ ⟨⟩ h
    simp_all [slots]

/-- An entry is read if its children are. -/
theorem Written.read {write : FileTree → Value} (hw : Written write) (child : Decoder FileTree)
    (t : FileTree) (origin : Origin) (room : Nat)
    (hchildren : t.children ≠ [] → Decoder.list child ⟨origin, room⟩
      (.arr (Value.treeItems (t.children.map write))) = .ok t.children) :
    Draft.finish <$> (schema child).read ⟨origin, room + 1⟩ (write t).tree = .ok t := by
  obtain ⟨ms, he, hkeys, hname, hcontent, hlist, -⟩ := hw t
  have hread : (schema child).read ⟨origin, room + 1⟩ (.obj (Value.treeMembers ms)) =
      .ok ⟨some t.name, t.content.map some, if t.children = [] then none else some t.children⟩ := by
    rw [(lawful child).read_obj_eq_ok hkeys]
    simp only [slots, List.forall_mem_cons, List.not_mem_nil, false_imp_iff, implies_true, and_true,
      hname, hcontent, hlist]
    refine ⟨⟨⟨_, rfl, rfl⟩, fun _ => rfl⟩, ⟨?_, by simp⟩, ?_, by simp⟩
    · cases t.content with
      | none => rfl
      | some c => exact ⟨_, rfl, rfl⟩
    · by_cases hc : t.children = []
      · simp [hc, Decoder.Fills]
      · rw [if_neg hc, if_neg hc]
        exact ⟨_, hchildren hc, rfl⟩
  rw [he, Value.tree, hread]
  obtain ⟨name, content, children⟩ := t
  cases content <;> cases children <;> simp [Draft.finish]

theorem Written.depth {write : FileTree → Value} (hw : Written write) (t : FileTree) :
    0 < (write t).depth ∧
      (t.children ≠ [] → Value.itemsDepth (t.children.map write) + 2 ≤ (write t).depth) := by
  obtain ⟨ms, he, -, -, -, hlist, -⟩ := hw t
  rw [he]
  refine ⟨Nat.succ_pos _, fun hc => ?_⟩
  rw [if_neg hc] at hlist
  exact Nat.succ_le_succ (depth_le_membersDepth (KeyedMap.mem_of_lookup hlist))

/-- At any depth an entry without children is read. -/
theorem Written.decodeWithin_of_leaf {write : FileTree → Value} (hw : Written write)
    {t : FileTree} (h : t.children = []) (n : Nat) (origin : Origin) (room : Nat) :
    decodeWithin n ⟨origin, room + 1⟩ (write t).tree = .ok t := by
  cases n <;> exact hw.read _ t origin room fun hne => absurd h hne

mutual

/-- An entry comes back, with all that is below it, when it is not too deep to be read. -/
theorem Written.decodeWithin_eq {write : FileTree → Value} (hw : Written write) :
    ∀ (t : FileTree) (n : Nat) (p : Place), (write t).depth ≤ p.room →
      (write t).depth ≤ 2 * n + 1 → decodeWithin n p (write t).tree = .ok t
  | ⟨name, content, []⟩, n, ⟨origin, room⟩, hroom, _ => by
      obtain ⟨room, rfl⟩ := Nat.exists_eq_add_of_le' (Nat.le_trans (hw.depth _).1 hroom)
      exact hw.decodeWithin_of_leaf rfl n origin room
  | ⟨name, content, c :: cs⟩, n, ⟨origin, room⟩, hroom, hn => by
      have hdepth := (hw.depth ⟨name, content, c :: cs⟩).2 (List.cons_ne_nil c cs)
      simp only at hroom hdepth
      obtain ⟨room, rfl⟩ : ∃ r, room = r + 2 := ⟨room - 2, by omega⟩
      obtain ⟨n, rfl⟩ : ∃ m, n = m + 1 := ⟨n - 1, by omega⟩
      have hitems := hw.items_eq (c :: cs) n ⟨origin, room⟩ (by simp only; omega) (by omega)
      exact hw.read _ ⟨name, content, c :: cs⟩ origin (room + 1) fun _ => hitems

theorem Written.items_eq {write : FileTree → Value} (hw : Written write) :
    ∀ (ts : List FileTree) (n : Nat) (p : Place),
      Value.itemsDepth (ts.map write) ≤ p.room → Value.itemsDepth (ts.map write) ≤ 2 * n + 1 →
      Decoder.items (decodeWithin n) p (Value.treeItems (ts.map write)) = .ok ts
  | [], _, _, _, _ => rfl
  | t :: ts, n, p, hroom, hn => by
      simp only [List.map_cons, Value.itemsDepth, Nat.max_le] at hroom hn
      have ht := hw.decodeWithin_eq t n p hroom.1 hn.1
      have hts := hw.items_eq ts n p hroom.2 hn.2
      simp [Value.treeItems, Decoder.items, ht, hts]

end

/-- No entry is taken for quiz answers. -/
theorem Written.not_answers {write : FileTree → Value} (hw : Written write) (t : FileTree)
    (p : Place) (s : AnswerSheet) : AnswerSheet.decode p (write t).tree ≠ .ok s := by
  obtain ⟨ms, he, -, -, -, -, hms⟩ := hw t
  rw [he]
  exact AnswerSheet.decode_without_answers hms s

end FileTree

/-! ### Submissions -/

namespace Submission

/-- Code comes back however its entries are written. -/
theorem decode_written {write : FileTree → Value} (hw : FileTree.Written write) (t : FileTree)
    {p : Place} (h : (write t).depth ≤ p.room) : decode p (write t).tree = .ok (code t) := by
  have hcode : FileTree.decode p (write t).tree = .ok t := hw.decodeWithin_eq t p.room p h (by omega)
  rw [decode, toValue_tree, if_pos h]
  cases hquiz : AnswerSheet.decode p (write t).tree with
  | ok answers => exact absurd hquiz (hw.not_answers t p answers)
  | error e => simp [hcode]

theorem decode_quiz (s : AnswerSheet) {p : Place} (h : s.toJson.depth ≤ p.room) :
    decode p s.toJson.tree = .ok (quiz s) := by
  obtain ⟨origin, room⟩ := p
  have htwo : 2 ≤ room := Nat.le_trans s.two_le_depth_toJson h
  rw [decode, toValue_tree, if_pos h]
  obtain ⟨room, rfl⟩ := Nat.exists_eq_add_of_le' htwo
  simp [s.decode_toJson]

/-- A submission comes back from its JSON in order, as what it was. -/
theorem decode_toJson (s : Submission) {p : Place} (h : s.toJson.sorted.depth ≤ p.room) :
    decode p s.toJson.sorted.tree = .ok s := by
  cases s with
  | quiz answers =>
      simp only [toJson, AnswerSheet.sorted_toJson] at h ⊢
      exact decode_quiz answers h
  | code t => exact decode_written FileTree.written_sorted t h

/-- A submission comes back from its JSON as it is written. -/
theorem decode_toJson_as_written (s : Submission) {p : Place} (h : s.toJson.depth ≤ p.room) :
    decode p s.toJson.tree = .ok s := by
  cases s with
  | quiz answers => exact decode_quiz answers h
  | code t => exact decode_written FileTree.written_toJson t h

/-- What nests too deep is no submission. -/
theorem decode_of_deep {v : Value} {p : Place} (h : p.room < v.depth) :
    decode p v.tree = .error .malformed := by
  rw [decode, toValue_tree, if_neg (Nat.not_le.mpr h)]

/-- Code without a name, or blank code; quiz answers are always worth keeping. -/
def IsWorthless : Submission → Prop
  | quiz _ => False
  | code t => t.name.isEmpty || t.isBlank

instance (s : Submission) : Decidable s.IsWorthless :=
  match s with
  | quiz _ => inferInstanceAs (Decidable False)
  | code t => inferInstanceAs (Decidable ((t.name.isEmpty || t.isBlank) = true))

theorem isNull_sorted_toJson (s : Submission) : s.toJson.sorted.isNull = false := by
  cases s with
  | quiz answers => rfl
  | code t =>
      obtain ⟨name, content, children⟩ := t
      rfl

end Submission

namespace Progress

variable {p : Progress} {s : Submission}

/-- What is not too deep is handed out, unless it is worthless. -/
theorem savedSubmission_of_sorted (hp : p.submission = s.toJson.sorted) :
    p.savedSubmission =
      if s.toJson.sorted.depth ≤ maxDepth ∧ ¬ s.IsWorthless then some s else none := by
  simp only [savedSubmission, hp, s.isNull_sorted_toJson, decodeValue]
  by_cases hdepth : s.toJson.sorted.depth ≤ maxDepth
  · rw [s.decode_toJson hdepth]
    cases s with
    | quiz answers => simp [hdepth, Submission.IsWorthless]
    | code t =>
        cases hw : t.name.isEmpty || t.isBlank <;> simp [hdepth, Submission.IsWorthless, hw]
  · rw [Submission.decode_of_deep (Nat.not_le.mp hdepth)]
    simp [hdepth]

end Progress

end ExerciseClient
