import ExerciseClient.Proofs.Submission.Saved

/-! The two texts in which a submission leaves, read again by whoever gets them. Whatever its texts
hold and however its directories nest, it is found in both as it was, as code or as quiz answers,
unless it is too deep to be read at all. -/

namespace ExerciseClient

open Json

namespace SaveRequest

theorem isReread_toJson (r : SaveRequest) : r.toJson.IsReread :=
  ⟨trivial, r.submission.isReread_toJson, trivial⟩

theorem decode_kind (k : ExerciseKind) (p : Place) : ExerciseKind.decode p k.toJson.tree = .ok k := by
  cases k <;> rfl

/-- A request is read if its submission is. -/
theorem decode_toJson (r : SaveRequest) (origin : Origin) (room : Nat) :
    decode ⟨origin, room + 1⟩ r.toJson.tree =
      if r.submission.toJson.depth ≤ room then .ok r else .error .malformed := by
  obtain ⟨kind, s⟩ := r
  have hkind := decode_kind kind ⟨origin, room⟩
  by_cases h : s.toJson.depth ≤ room
  · have hs : Submission.decode ⟨origin, room⟩ s.toJson.tree = .ok s :=
      s.decode_toJson_as_written h
    simp [decode, toJson, Value.tree, Value.treeMembers, schema, Schema.read, Schema.readMembers,
      Schema.checkRequired, Field.of, hkind, hs, h]
    rfl
  · have hs : Submission.decode ⟨origin, room⟩ s.toJson.tree = .error .malformed :=
      Submission.decode_of_deep (Nat.not_le.mp h)
    simp [decode, toJson, Value.tree, Value.treeMembers, schema, Schema.read, Schema.readMembers,
      Field.of, hkind, hs, h]

/-- The text of a request is read as the request. -/
theorem decodeText_text (r : SaveRequest) :
    decodeText decode r.toJson.text =
      if r.submission.toJson.depth ≤ 126 then .ok r else .error .malformed := by
  rw [Json.decodeText_text _ r.isReread_toJson]
  exact r.decode_toJson .text 126

end SaveRequest

/-- The text of a frame is read as an object with two members. -/
theorem parse_envelope (exercise : String) {v : Value} (hv : v.IsReread) :
    parse (envelope exercise v).text =
      if v.depth ≤ 126 then .ok (.obj [("exercise_uuid", .str exercise), ("submission", v.sorted)])
      else .error .malformed := by
  have hreread : (envelope exercise v).IsReread := ⟨trivial, hv, trivial⟩
  have hdepth : (envelope exercise v).depth = v.depth + 1 := by
    simp [envelope, Value.depth, Value.membersDepth]
  have hlt : ¬ "submission" < "exercise_uuid" ∧ "exercise_uuid" < "submission" := by decide
  have hsorted : (envelope exercise v).sorted =
      .obj [("exercise_uuid", .str exercise), ("submission", v.sorted)] := by
    simp [envelope, Value.sorted, Value.sortedMembers, KeyedMap.ofList, KeyedMap.insert,
      KeyedMap.insertEntry, KeyedMap.empty, hlt]
  rw [parse, Json.decodeText_text _ hreread, Decoder.value, toValue_tree, hdepth, hsorted]
  by_cases h : v.depth ≤ 126
  · have hroom : v.depth + 1 ≤ maxDepth := Nat.succ_le_succ h
    rw [if_pos hroom, if_pos h]
  · have hroom : ¬ v.depth + 1 ≤ maxDepth := fun hle => h (Nat.le_of_succ_le_succ hle)
    rw [if_neg hroom, if_neg h]

namespace Submission

/-- What is read from the texts in which a submission leaves. -/
structure Arrives (s : Submission) : Prop where
  /-- The request that saves it, under any kind, is read as itself. -/
  request : ∀ kind, decodeText SaveRequest.decode (SaveRequest.toJson ⟨kind, s⟩).text =
    .ok ⟨kind, s⟩
  /-- The frame that has it run is an object of the exercise and of a value that is read as the
  submission, and of nothing else. -/
  frame : ∀ exercise, ∃ v,
    parse (envelope exercise s.toJson).text =
      .ok (.obj [("exercise_uuid", .str exercise), ("submission", v)]) ∧
    decodeValue decode v = .ok s

/-- A submission that nests at most 126 levels arrives as it was; deeper ones are not read. -/
theorem arrives_iff (s : Submission) : s.Arrives ↔ s.toJson.depth ≤ 126 := by
  constructor
  · intro h
    apply Classical.byContradiction
    intro hdeep
    have hrequest := h.request s.kind
    rw [SaveRequest.decodeText_text, if_neg hdeep] at hrequest
    cases hrequest
  · intro h
    have hdepth : s.toJson.sorted.depth ≤ maxDepth :=
      Nat.le_trans (depth_sorted _) (Nat.le_succ_of_le h)
    constructor
    · intro kind
      rw [SaveRequest.decodeText_text, if_pos h]
    · intro exercise
      refine ⟨s.toJson.sorted, ?_, s.decode_toJson hdepth⟩
      rw [parse_envelope exercise s.isReread_toJson, if_pos h]

end Submission

end ExerciseClient
