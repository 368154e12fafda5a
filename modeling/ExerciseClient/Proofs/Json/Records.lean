import ExerciseClient.Proofs.Json.Sorting

/-! How a record is read from an object, member by member. A member is passed over when no field
has its name; else it is read into its field, which must not have been read before. A map is read
back from its entries. -/

namespace ExerciseClient.Json

variable {σ α : Type}

theorem Field.read_of_eq_ok {name : String} {required : Bool} {get : σ → Option α}
    {set : α → σ → σ} {d : Decoder α} {p : Place} {t : Tree} {r r' : σ} :
    (Field.of name required get set d).read p t r = .ok r' ↔
      ∃ a, d p t = .ok a ∧ set a r = r' := by
  simp only [Field.of]
  cases d p t <;> simp

namespace Schema

/-- What reading the members `ms` makes of a record. -/
inductive Reads (fields : List (Field σ)) (p : Place) : Members → σ → σ → Prop where
  | done (r) : Reads fields p .done r r
  | skip {key value rest r r'} (hf : fields.find? (·.name == key) = none)
      (hv : value.isWhole = true) (h : Reads fields p rest r r') :
      Reads fields p (.cons (some key) value rest) r r'
  | read {f key value rest r r₁ r'} (hf : fields.find? (·.name == key) = some f)
      (hset : f.isSet r = false) (hr : f.read p value r = .ok r₁)
      (h : Reads fields p rest r₁ r') : Reads fields p (.cons (some key) value rest) r r'

variable {fields : List (Field σ)} {p : Place}

theorem mem_of_find? {key : String} {f : Field σ}
    (hf : fields.find? (·.name == key) = some f) : f ∈ fields ∧ f.name = key :=
  ⟨List.mem_of_find?_eq_some hf, by simpa using List.find?_some hf⟩

theorem Reads.execution {ms : Members} {r r' : σ} (h : Reads fields p ms r r') :
    readMembers fields p ms r = .ok r' := by
  induction h with
  | done => rfl
  | skip hf hv _ ih => simp [readMembers, hf, hv, ih]
  | read hf hset hr _ ih => simp [readMembers, hf, hset, hr, ih]

theorem reads_of_readMembers : ∀ {ms : Members} {r r' : σ},
    readMembers fields p ms r = .ok r' → Reads fields p ms r r'
  | .done, r, _, h => Except.ok.inj h ▸ .done r
  | .broken, _, _, h => by simp [readMembers] at h
  | .cons none _ _, _, _, h => by simp [readMembers] at h
  | .cons (some key) value rest, r, r', h => by
      rw [readMembers] at h
      cases hf : fields.find? (·.name == key) with
      | none =>
          cases hv : value.isWhole with
          | true => exact .skip hf hv (reads_of_readMembers (by simpa [hf, hv] using h))
          | false => simp [hf, hv] at h
      | some f =>
          cases hset : f.isSet r with
          | true => simp [hf, hset] at h
          | false =>
              cases hr : f.read p value r with
              | error e => simp [hf, hset, hr] at h
              | ok r₁ =>
                  exact .read hf hset hr (reads_of_readMembers (by simpa [hf, hset, hr] using h))

theorem reads_iff (ms : Members) (r r' : σ) :
    Reads fields p ms r r' ↔ readMembers fields p ms r = .ok r' :=
  ⟨Reads.execution, reads_of_readMembers⟩

theorem checkRequired_eq_ok {r r' : σ} :
    checkRequired fields r = .ok r' ↔
      r = r' ∧ ∀ f ∈ fields, f.required = true → f.isSet r = true := by
  have hall : (fields.find? fun f => f.required && !f.isSet r) = none ↔
      ∀ f ∈ fields, f.required = true → f.isSet r = true := by
    simp [List.find?_eq_none]
  rw [checkRequired, ← hall]
  cases fields.find? fun f => f.required && !f.isSet r <;> simp

/-- A record is read from an object when its members fit and no required field is left out. -/
theorem read_obj_eq_ok {s : Schema σ} {origin : Origin} {room : Nat} {ms : Members} {r : σ} :
    s.read ⟨origin, room + 1⟩ (.obj ms) = .ok r ↔
      Reads s.fields ⟨origin, room⟩ ms s.blank r ∧
        ∀ f ∈ s.fields, f.required = true → f.isSet r = true := by
  simp only [read, reads_iff]
  cases hread : readMembers s.fields ⟨origin, room⟩ ms s.blank with
  | error e => simp
  | ok r₁ =>
      simp only [ok_bind, checkRequired_eq_ok, Except.ok.injEq]
      exact and_congr_right fun he => by rw [he]

end Schema

/-! ### Maps -/

namespace Decoder

variable {α : Type} {d : Decoder α} {f : α → Value}

theorem members_tree {p : Place} (hd : ∀ a, d p (f a).tree = .ok a) (es : List (String × α))
    (m : KeyedMap α) :
    members d p (Value.treeMembers (es.map fun e => (e.1, f e.2))) m =
      .ok (es.foldl (fun m e => m.insert e.1 e.2) m) := by
  induction es generalizing m with
  | nil => rfl
  | cons e es ih => simp [Value.treeMembers, members, hd, ih]

/-- A map is read back from its entries. -/
theorem keyed_tree {origin : Origin} {room : Nat}
    (hd : ∀ a, d ⟨origin, room⟩ (f a).tree = .ok a) (m : KeyedMap α) :
    keyed d ⟨origin, room + 1⟩ (.obj (Value.treeMembers (m.entries.map fun e => (e.1, f e.2)))) =
      .ok m :=
  (members_tree hd m.entries KeyedMap.empty).trans (congrArg Except.ok m.ofList_entries)

end Decoder

end ExerciseClient.Json
