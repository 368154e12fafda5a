import ExerciseClient.Exercise.Progress
import ExerciseClient.Proofs.Json.Records

/-! The submission in a reply. Progress read from a text has as its submission what a reading
without a schema finds under that name. A reply that is read with `null` there is read with any
other value that is not too deep, and nothing else of it changes. -/

namespace ExerciseClient

open Json

namespace Progress

def Draft.withSubmission (w : Value) (r : Draft) : Draft := { r with submission := some w }

/-- The field has nothing to do with the submission. -/
structure Spares (f : Json.Field Draft) : Prop where
  isSet_eq : ∀ w r, f.isSet (r.withSubmission w) = f.isSet r
  read_eq : ∀ p t w r, f.read p t (r.withSubmission w) = (·.withSubmission w) <$> f.read p t r
  keeps : ∀ p t r r', f.read p t r = .ok r' → r'.submission = r.submission

theorem spares_of {α : Type} {name : String} {required : Bool} {get : Draft → Option α}
    {set : α → Draft → Draft} {d : Decoder α} (hget : ∀ w r, get (r.withSubmission w) = get r)
    (hset : ∀ a w r, set a (r.withSubmission w) = (set a r).withSubmission w)
    (hkeep : ∀ a r, (set a r).submission = r.submission) :
    Spares (.of name required get set d) where
  isSet_eq w r := by simp [Field.of, hget]
  read_eq p t w r := by
    simp only [Field.of]
    cases d p t <;> simp [hset]
  keeps p t r r' h := by
    obtain ⟨a, -, rfl⟩ := Field.read_of_eq_ok.mp h
    exact hkeep a r

/-- Of the fields of progress one is the submission, and no other has to do with it. -/
theorem field_cases {f : Json.Field Draft} (hf : f ∈ schema.fields) :
    (f.name = "submission" ∧ f.required = false ∧ (∀ r, f.isSet r = r.submission.isSome) ∧
      ∀ p t r r', f.read p t r = .ok r' ↔
        ∃ w, t.toValue p.room = .ok w ∧ r.withSubmission w = r') ∨
    (f.name ≠ "submission" ∧ Spares f) := by
  simp only [schema, List.mem_cons, List.not_mem_nil, or_false] at hf
  rcases hf with rfl | rfl | rfl | rfl | rfl | rfl | rfl
  case inr.inr.inl => exact .inl ⟨rfl, rfl, fun r => rfl, fun p t r r' => Field.read_of_eq_ok⟩
  all_goals
    refine .inr ⟨by simp [Field.of], ?_⟩
    exact spares_of (fun _ _ => rfl) (fun _ _ _ => rfl) (fun _ _ => rfl)

theorem find?_submission_ne_none :
    schema.fields.find? (·.name == "submission") ≠ none := by
  simp [schema, Field.of]

/-! ### What was read -/

/-- The submission that is read is the one that stands in the text. -/
theorem reads_submission {origin : Origin} {room : Nat} {ms : Members} {r r' : Draft}
    (h : Schema.Reads schema.fields ⟨origin, room⟩ ms r r') {acc es : List (String × Value)}
    (hes : ms.toEntries room acc = .ok es) (hr : r.submission = acc.lookup "submission") :
    r'.submission = es.lookup "submission" := by
  induction h generalizing acc with
  | done r =>
      obtain rfl := Except.ok.inj hes
      exact hr
  | @skip key value rest r r' hf hv h ih =>
      have hne : "submission" ≠ key := fun he => find?_submission_ne_none (he ▸ hf)
      rw [Members.toEntries] at hes
      cases hw : value.toValue room with
      | error e => simp [hw] at hes
      | ok w =>
          apply ih (by simpa [hw] using hes)
          rw [KeyedMap.lookup_insertEntry_of_ne hne, hr]
  | @read f key value rest r r₁ r' hf hset hread h ih =>
      rw [Members.toEntries] at hes
      cases hw : value.toValue room with
      | error e => simp [hw] at hes
      | ok w =>
          apply ih (by simpa [hw] using hes)
          obtain ⟨hmem, rfl⟩ := Schema.mem_of_find? hf
          rcases field_cases hmem with ⟨hname, -, -, hsub⟩ | ⟨hne, hspares⟩
          · obtain ⟨w', hw', rfl⟩ := (hsub _ _ _ _).mp hread
            rw [hname, KeyedMap.lookup_insertEntry_self]
            rw [hw] at hw'
            exact congrArg some (Except.ok.inj hw').symm
          · rw [hspares.keeps _ _ _ _ hread, hr, KeyedMap.lookup_insertEntry_of_ne hne.symm]

/-- The progress of a complete draft. -/
def Draft.finish (r : Draft) : Progress where
  id := r.id.getD ""
  exercise := r.exercise.getD ""
  submission := r.submission.getD .null
  attempts := r.attempts.getD 0
  startedAt := r.startedAt.getD none
  lastAccessedAt := r.lastAccessedAt.getD none
  completedAt := r.completedAt.getD none

theorem decode_eq_ok {p : Place} {t : Tree} {q : Progress} :
    decode p t = .ok q ↔ ∃ r, schema.read p t = .ok r ∧ r.finish = q := by
  simp only [decode]
  cases schema.read p t <;> simp [Draft.finish]

/-- Progress has as its submission what its text has under that name. -/
theorem submission_of_field? {text : String} {q : Progress} {w : Value}
    (hq : decodeText decode text = .ok q) (hw : field? text "submission" = some w) :
    q.submission = w := by
  obtain ⟨ms, es, hroot, hes, hlookup⟩ := field?_eq_some hw
  obtain ⟨r, hr, rfl⟩ := decode_eq_ok.mp (decodeText_eq_ok.mp hq).1
  rw [hroot] at hr
  obtain ⟨hreads, -⟩ := Schema.read_obj_eq_ok.mp hr
  have hsubmission : r.submission = es.lookup "submission" := reads_submission hreads hes rfl
  simp [Draft.finish, hsubmission, hlookup]

/-! ### What may stand there -/

/-- Once the submission is read, its value plays no part in reading the rest. -/
theorem reads_withSubmission {p : Place} {ms : Members} {r r' : Draft}
    (h : Schema.Reads schema.fields p ms r r') (hr : r.submission.isSome = true) (w : Value) :
    Schema.Reads schema.fields p ms (r.withSubmission w) (r'.withSubmission w) := by
  induction h with
  | done r => exact .done _
  | skip hf hv _ ih => exact .skip hf hv (ih hr)
  | @read f key value rest r r₁ r' hf hset hread _ ih =>
      rcases field_cases (Schema.mem_of_find? hf).1 with ⟨-, -, hsub, -⟩ | ⟨-, hspares⟩
      · rw [hsub, hr] at hset
        exact absurd hset (by decide)
      · have hset' : f.isSet (r.withSubmission w) = false := by rw [hspares.isSet_eq, hset]
        have hread' : f.read p value (r.withSubmission w) = .ok (r₁.withSubmission w) := by
          rw [hspares.read_eq, hread, map_ok]
        exact .read hf hset' hread' (ih (by rw [hspares.keeps _ _ _ _ hread, hr]))

/-- In place of `null` any value may stand that is not too deep. -/
theorem reads_replace {p : Place} {before after : List (String × Value)} {r r' : Draft}
    (h : Schema.Reads schema.fields p
      (Value.treeMembers (before ++ ("submission", .null) :: after)) r r')
    {v : Value} (hv : v.depth ≤ p.room) :
    Schema.Reads schema.fields p (Value.treeMembers (before ++ ("submission", v) :: after)) r
      (r'.withSubmission v.sorted) := by
  induction before generalizing r with
  | nil =>
      cases h with
      | skip hf => exact absurd hf find?_submission_ne_none
      | read hf hset hread hrest =>
          obtain ⟨hmem, hname⟩ := Schema.mem_of_find? hf
          rcases field_cases hmem with ⟨-, -, -, hsub⟩ | ⟨hne, -⟩
          · obtain ⟨w, -, rfl⟩ := (hsub _ _ _ _).mp hread
            have hvalue : v.tree.toValue p.room = .ok v.sorted := by
              rw [toValue_tree, if_pos hv]
            refine .read hf hset ((hsub _ _ _ _).mpr ⟨v.sorted, hvalue, rfl⟩) ?_
            exact reads_withSubmission hrest rfl v.sorted
          · exact absurd hname hne
  | cons m before ih =>
      cases h with
      | skip hf hw hrest => exact .skip hf hw (ih hrest)
      | read hf hset hread hrest => exact .read hf hset hread (ih hrest)

/-- A reply that is read with `null` as its submission is read with any other that is not too
deep. -/
theorem decode_replace {before after : List (String × Value)} {origin : Origin} {room : Nat}
    {q : Progress}
    (hq : decode ⟨origin, room + 1⟩
      (Value.obj (before ++ ("submission", .null) :: after)).tree = .ok q)
    {v : Value} (hv : v.depth ≤ room) :
    decode ⟨origin, room + 1⟩ (Value.obj (before ++ ("submission", v) :: after)).tree =
      .ok { q with submission := v.sorted } := by
  obtain ⟨r, hr, rfl⟩ := decode_eq_ok.mp hq
  obtain ⟨hreads, hset⟩ := Schema.read_obj_eq_ok.mp hr
  refine decode_eq_ok.mpr ⟨r.withSubmission v.sorted, ?_, rfl⟩
  refine Schema.read_obj_eq_ok.mpr ⟨reads_replace hreads hv, fun f hf hrequired => ?_⟩
  rcases field_cases hf with ⟨-, hoptional, -⟩ | ⟨-, hspares⟩
  · rw [hoptional] at hrequired
    exact absurd hrequired (by decide)
  · rw [hspares.isSet_eq]
    exact hset f hf hrequired

end Progress

end ExerciseClient
