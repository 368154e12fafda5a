import ExerciseClient.Proofs.Json.Records

/-! A record whose fields keep to themselves is read field by field: in what order its members
stand is the same to it, and an array of values is read as the object that has them under the
names of the fields. -/

namespace ExerciseClient

namespace KeyedMap

variable {α : Type}

theorem lookup_eq_none_of_lt {key : String} {es : List (String × α)}
    (h : ∀ e ∈ es, key < e.1) : es.lookup key = none := by
  rw [List.lookup_eq_none_iff]
  intro e he
  rw [bne_iff_ne]
  rintro rfl
  exact String.lt_irrefl _ (h e he)

/-- Entries in order are known by what stands under each key. -/
theorem eq_of_lookup {es fs : List (String × α)} (hes : Ascending es) (hfs : Ascending fs)
    (h : ∀ key, es.lookup key = fs.lookup key) : es = fs := by
  induction es generalizing fs with
  | nil =>
      cases fs with
      | nil => rfl
      | cons f fs =>
          have hf := h f.1
          rw [List.lookup_cons_self] at hf
          cases hf
  | cons e es ih =>
      obtain ⟨he, hes'⟩ := List.pairwise_cons.mp hes
      cases fs with
      | nil =>
          have hf := h e.1
          rw [List.lookup_cons_self] at hf
          cases hf
      | cons f fs =>
          obtain ⟨hf, hfs'⟩ := List.pairwise_cons.mp hfs
          have hle {a b : String × α} {as bs : List (String × α)} (hb : ∀ x ∈ bs, b.1 < x.1)
              (h : ∀ key, (a :: as).lookup key = (b :: bs).lookup key) : ¬ a.1 < b.1 := by
            intro hlt
            have hnone : (b :: bs).lookup a.1 = none := by
              apply lookup_eq_none_of_lt
              intro x hx
              rcases List.mem_cons.mp hx with rfl | hx
              · exact hlt
              · exact String.lt_trans hlt (hb x hx)
            rw [← h a.1, List.lookup_cons_self] at hnone
            simp at hnone
          have hkey : e.1 = f.1 := eq_of_not_lt (hle hf h) (hle he fun key => (h key).symm)
          have hvalue := h e.1
          obtain ⟨key, v⟩ := e
          obtain ⟨_, w⟩ := f
          obtain rfl : key = _ := hkey
          rw [List.lookup_cons_self, List.lookup_cons_self] at hvalue
          obtain rfl := Option.some.inj hvalue
          rw [ih hes' hfs' fun k => ?_]
          by_cases hk : k = key
          · rw [hk, lookup_eq_none_of_lt he, lookup_eq_none_of_lt hf]
          · have hk' := h k
            rwa [lookup_cons_of_ne hk, lookup_cons_of_ne hk] at hk'

theorem lookup_filter (p : String → Bool) (key : String) (es : List (String × α)) :
    (es.filter fun e => p e.1).lookup key = if p key then es.lookup key else none := by
  induction es with
  | nil => simp
  | cons e es ih =>
      obtain ⟨k, v⟩ := e
      by_cases hk : key = k
      · subst hk
        cases hp : p key <;> simp [hp, ih]
      · cases hp : p k <;> simp [hp, ih, lookup_cons_of_ne (e := (k, v)) hk]

end KeyedMap

namespace Json

variable {σ : Type}

/-- Members under other names than those of the fields are as if they were not there. -/
theorem Schema.readMembers_known (fields : List (Field σ)) (p : Place)
    (ms : List (String × Value)) (r : σ) :
    Schema.readMembers fields p (Value.treeMembers ms) r =
      Schema.readMembers fields p
        (Value.treeMembers (ms.filter fun m => (fields.find? (·.name == m.1)).isSome)) r := by
  induction ms generalizing r with
  | nil => rfl
  | cons m ms ih =>
      obtain ⟨key, v⟩ := m
      cases hf : fields.find? (·.name == key) with
      | none => simp [Value.treeMembers, Schema.readMembers, hf, ih]
      | some f => simp [Value.treeMembers, Schema.readMembers, hf, ih]

/-- What a record is read as rests on what stands under the names of its fields. -/
theorem Schema.read_obj_congr (s : Schema σ) (p : Place) {ms ms' : List (String × Value)}
    (hms : Ascending ms) (hms' : Ascending ms')
    (h : ∀ name ∈ s.fields.map (·.name), ms.lookup name = ms'.lookup name) :
    s.read p (.obj (Value.treeMembers ms)) = s.read p (.obj (Value.treeMembers ms')) := by
  have hknown : (ms.filter fun m => (s.fields.find? (·.name == m.1)).isSome) =
      ms'.filter fun m => (s.fields.find? (·.name == m.1)).isSome := by
    apply KeyedMap.eq_of_lookup (hms.filter _) (hms'.filter _)
    intro key
    simp only [KeyedMap.lookup_filter fun k => (s.fields.find? (·.name == k)).isSome]
    split
    · rename_i hkey
      obtain ⟨f, hf⟩ := Option.isSome_iff_exists.mp hkey
      obtain ⟨hmem, rfl⟩ := mem_of_find? hf
      exact h _ (List.mem_map_of_mem hmem)
    · rfl
  obtain ⟨origin, room⟩ := p
  cases room with
  | zero => rfl
  | succ room =>
      simp only [Schema.read]
      rw [readMembers_known s.fields _ ms, readMembers_known s.fields _ ms', hknown]

/-- What is kept once a value was read; what was kept before if there was none to read. -/
def Decoder.Fills {α : Type} (d : Decoder α) (p : Place) (v : Option Value)
    (kept kept' : Option α) : Prop :=
  match v with
  | none => kept' = kept
  | some v => ∃ x, d p v.tree = .ok x ∧ kept' = some x

/-- A field with the place in the record that it fills. -/
structure Slot (σ : Type) where
  α : Type
  name : String
  required : Bool
  get : σ → Option α
  set : α → σ → σ
  decoder : Decoder α

namespace Slot

/-- The field that is read into the slot. -/
def field (a : Slot σ) : Field σ :=
  .of a.name a.required a.get a.set a.decoder

/-- Two slots have different names, and to fill one leaves the other. -/
structure Apart (a b : Slot σ) : Prop where
  name : a.name ≠ b.name
  left : ∀ x r, a.get (b.set x r) = a.get r
  right : ∀ x r, b.get (a.set x r) = b.get r

theorem apart_iff {a b : Slot σ} :
    a.Apart b ↔ a.name ≠ b.name ∧ (∀ x r, a.get (b.set x r) = a.get r) ∧
      ∀ x r, b.get (a.set x r) = b.get r :=
  ⟨fun h => ⟨h.name, h.left, h.right⟩, fun h => ⟨h.1, h.2.1, h.2.2⟩⟩

theorem Apart.symm {a b : Slot σ} (h : Apart a b) : Apart b a :=
  ⟨h.name.symm, h.right, h.left⟩

theorem read_bind_eq_ok {a : Slot σ} {p : Place} {t : Tree} {r : σ} {β : Type}
    {f : σ → Except Fault β} {b : β} :
    (a.field.read p t r >>= f) = .ok b ↔ ∃ x, a.decoder p t = .ok x ∧ f (a.set x r) = .ok b := by
  simp only [field, Field.of]
  cases a.decoder p t <;> simp

end Slot

/-- The fields of a record are slots apart from each other, empty at first, and nothing else is
in the record. -/
structure Lawful (s : Schema σ) (slots : List (Slot σ)) : Prop where
  fields : s.fields = slots.map Slot.field
  apart : slots.Pairwise Slot.Apart
  kept : ∀ a ∈ slots, ∀ x r, a.get (a.set x r) = some x
  blank : ∀ a ∈ slots, a.get s.blank = none
  ext : ∀ r r', (∀ a ∈ slots, a.get r' = a.get r) → r = r'

namespace Lawful

variable {s : Schema σ} {slots : List (Slot σ)} {p : Place}

theorem eq_or_apart (h : Lawful s slots) {a b : Slot σ} (ha : a ∈ slots) (hb : b ∈ slots) :
    a = b ∨ a.Apart b := by
  have hpairs := h.apart
  clear h
  induction hpairs with
  | nil => cases ha
  | cons hc _ ih =>
      rcases List.mem_cons.mp ha with rfl | ha'
      · rcases List.mem_cons.mp hb with rfl | hb'
        · exact .inl rfl
        · exact .inr (hc b hb')
      · rcases List.mem_cons.mp hb with rfl | hb'
        · exact .inr (hc a ha').symm
        · exact ih ha' hb'

theorem find?_of_mem (h : Lawful s slots) {a : Slot σ} (ha : a ∈ slots) :
    s.fields.find? (·.name == a.name) = some a.field := by
  have hpairs := h.apart
  rw [h.fields]
  clear h
  induction hpairs with
  | nil => cases ha
  | @cons c slots hc _ ih =>
      rcases List.mem_cons.mp ha with rfl | ha'
      · simp [Slot.field, Field.of]
      · have hne : c.name ≠ a.name := (hc a ha').name
        have hfield : (c.field.name == a.name) = false := beq_false_of_ne hne
        rw [List.map_cons, List.find?_cons_of_neg (by simp [hfield]), ih ha']

theorem find?_eq_some (h : Lawful s slots) {key : String} {f : Field σ}
    (hf : s.fields.find? (·.name == key) = some f) :
    ∃ a ∈ slots, a.field = f ∧ a.name = key := by
  obtain ⟨hmem, rfl⟩ := Schema.mem_of_find? hf
  rw [h.fields] at hmem
  obtain ⟨a, ha, rfl⟩ := List.mem_map.mp hmem
  exact ⟨a, ha, rfl, rfl⟩

theorem ne_of_find?_eq_none (h : Lawful s slots) {key : String}
    (hf : s.fields.find? (·.name == key) = none) {a : Slot σ} (ha : a ∈ slots) : a.name ≠ key := by
  rintro rfl
  simp [h.find?_of_mem ha] at hf

theorem readMembers_cons (h : Lawful s slots) {a : Slot σ} (ha : a ∈ slots) {r r' : σ}
    (hr : a.get r = none) (t : Tree) (rest : Members) :
    Schema.readMembers s.fields p (.cons (some a.name) t rest) r = .ok r' ↔
      ∃ x, a.decoder p t = .ok x ∧ Schema.readMembers s.fields p rest (a.set x r) = .ok r' := by
  have hset : a.field.isSet r = false := by simp [Slot.field, Field.of, hr]
  simp only [Schema.readMembers, h.find?_of_mem ha, hset, Bool.false_eq_true, if_false]
  exact Slot.read_bind_eq_ok

theorem lookup_eq_none {key : String} {ms : List (String × Value)} (h : key ∉ ms.map (·.1)) :
    ms.lookup key = none := by
  rw [List.lookup_eq_none_iff]
  intro m hm
  rw [bne_iff_ne]
  rintro rfl
  exact h (List.mem_map_of_mem hm)

/-- Members with different keys are read each into its slot. -/
theorem readMembers_eq_ok (h : Lawful s slots) {ms : List (String × Value)} {r r' : σ}
    (hkeys : (ms.map (·.1)).Nodup) (hfree : ∀ a ∈ slots, a.name ∈ ms.map (·.1) → a.get r = none) :
    Schema.readMembers s.fields p (Value.treeMembers ms) r = .ok r' ↔
      ∀ a ∈ slots, a.decoder.Fills p (ms.lookup a.name) (a.get r) (a.get r') := by
  induction ms generalizing r with
  | nil =>
      simp only [Value.treeMembers, Schema.readMembers, Except.ok.injEq]
      exact ⟨fun hr a _ => hr ▸ rfl, fun hr => h.ext r r' hr⟩
  | cons m ms ih =>
      obtain ⟨key, v⟩ := m
      obtain ⟨hkey, hrest⟩ := List.nodup_cons.mp hkeys
      rw [Value.treeMembers]
      cases hf : s.fields.find? (·.name == key) with
      | none =>
          simp only [Schema.readMembers, hf, isWhole_tree, if_true]
          rw [ih hrest fun a ha hmem => hfree a ha (List.mem_cons_of_mem _ hmem)]
          refine forall₂_congr fun a ha => ?_
          rw [KeyedMap.lookup_cons_of_ne (h.ne_of_find?_eq_none hf ha)]
      | some f =>
          obtain ⟨a, ha, rfl, rfl⟩ := h.find?_eq_some hf
          have hfree' (x : a.α) : ∀ b ∈ slots, b.name ∈ ms.map (·.1) →
              b.get (a.set x r) = none := by
            intro b hb hmem
            rcases h.eq_or_apart ha hb with rfl | hab
            · exact absurd hmem hkey
            · rw [hab.right]
              exact hfree b hb (List.mem_cons_of_mem _ hmem)
          rw [h.readMembers_cons ha (hfree a ha List.mem_cons_self)]
          simp only [ih hrest (hfree' _)]
          -- the slot is filled now, and its name does not come again among the other members
          constructor
          · rintro ⟨x, hx, hfills⟩ b hb
            rcases h.eq_or_apart ha hb with rfl | hab
            · have ha' := hfills a ha
              rw [lookup_eq_none hkey] at ha'
              rw [List.lookup_cons_self]
              exact ⟨x, hx, ha'.trans (h.kept a ha x r)⟩
            · have hb' := hfills b hb
              rw [KeyedMap.lookup_cons_of_ne hab.name.symm]
              rwa [hab.right] at hb'
          · intro hfills
            have ha' := hfills a ha
            rw [List.lookup_cons_self] at ha'
            obtain ⟨x, hx, hget⟩ := ha'
            refine ⟨x, hx, fun b hb => ?_⟩
            rcases h.eq_or_apart ha hb with rfl | hab
            · rw [lookup_eq_none hkey]
              exact hget.trans (h.kept a ha x r).symm
            · have hb' := hfills b hb
              rw [KeyedMap.lookup_cons_of_ne hab.name.symm] at hb'
              rwa [hab.right]

/-- A record is read from an object with different keys if every slot is filled with what stands
under its name, and no required one is left out. -/
theorem read_obj_eq_ok (h : Lawful s slots) {origin : Origin} {room : Nat}
    {ms : List (String × Value)} {r : σ} (hkeys : (ms.map (·.1)).Nodup) :
    s.read ⟨origin, room + 1⟩ (.obj (Value.treeMembers ms)) = .ok r ↔
      ∀ a ∈ slots, a.decoder.Fills ⟨origin, room⟩ (ms.lookup a.name) none (a.get r) ∧
        (a.required = true → (a.get r).isSome = true) := by
  have hrequired : (∀ f ∈ s.fields, f.required = true → f.isSet r = true) ↔
      ∀ a ∈ slots, a.required = true → (a.get r).isSome = true := by
    rw [h.fields]
    simp [Slot.field, Field.of]
  rw [Schema.read_obj_eq_ok, Schema.reads_iff, hrequired,
    h.readMembers_eq_ok hkeys fun a ha _ => h.blank a ha]
  constructor
  · rintro ⟨hfills, hset⟩ a ha
    have ha' := hfills a ha
    rw [h.blank a ha] at ha'
    exact ⟨ha', hset a ha⟩
  · intro hr
    refine ⟨fun a ha => ?_, fun a ha => (hr a ha).2⟩
    rw [h.blank a ha]
    exact (hr a ha).1

/-- The names of the slots put to values in the order of the slots. -/
def named (slots : List (Slot σ)) (vs : List Value) : List (String × Value) :=
  (slots.map Slot.name).zip vs

theorem mem_of_lookup_named {vs : List Value} {key : String} {v : Value}
    (h : (named slots vs).lookup key = some v) : v ∈ vs :=
  (List.of_mem_zip (KeyedMap.mem_of_lookup h)).2

theorem nodup_named (h : Lawful s slots) (vs : List Value) :
    ((named slots vs).map (·.1)).Nodup := by
  have hpairs := h.apart
  clear h
  induction hpairs generalizing vs with
  | nil => simp [named]
  | @cons a slots ha _ ih =>
      cases vs with
      | nil => simp [named]
      | cons v vs =>
          refine List.nodup_cons.mpr ⟨fun hmem => ?_, ih vs⟩
          obtain ⟨m, hm, hname⟩ := List.mem_map.mp hmem
          obtain ⟨b, hb, hbname⟩ := List.mem_map.mp (List.of_mem_zip hm).1
          exact (ha b hb).name (hname.symm.trans hbname.symm)

theorem readItems_eq_ok (h : Lawful s slots) {fs : List (Slot σ)} (hfs : fs.Sublist slots)
    (vs : List Value) (n : Nat) {r r' : σ} (hfree : ∀ a ∈ fs, a.get r = none)
    (hoptional : ∀ a ∈ fs, a.required = false) :
    s.readItems p (fs.map Slot.field) n (Value.treeItems vs) r = .ok r' ↔
      vs.length ≤ fs.length ∧
        Schema.readMembers s.fields p (Value.treeMembers (named fs vs)) r = .ok r' := by
  induction fs generalizing vs n r with
  | nil =>
      cases vs with
      | nil => simp [Schema.readItems, Value.treeItems, named, Value.treeMembers, Schema.readMembers]
      | cons v vs =>
          simp only [Schema.readItems, Value.treeItems, List.map_nil]
          split <;> simp
  | cons a fs ih =>
      have ha : a ∈ slots := hfs.subset List.mem_cons_self
      cases vs with
      | nil =>
          have hskip := ih (List.sublist_of_cons_sublist hfs) [] (n + 1)
            (fun b hb => hfree b (List.mem_cons_of_mem a hb))
            (fun b hb => hoptional b (List.mem_cons_of_mem a hb))
          have hrequired : a.field.required = false := hoptional a List.mem_cons_self
          simp only [Value.treeItems] at hskip
          simp [Schema.readItems, Value.treeItems, hrequired, hskip, named]
      | cons v vs =>
          have hfree' (x : a.α) : ∀ b ∈ fs, b.get (a.set x r) = none := by
            intro b hb
            have hab : a.Apart b := (List.pairwise_cons.mp (h.apart.sublist hfs)).1 b hb
            rw [hab.right]
            exact hfree b (List.mem_cons_of_mem a hb)
          have hrest (x : a.α) := ih (List.sublist_of_cons_sublist hfs) vs (n + 1)
            (hfree' x) (fun b hb => hoptional b (List.mem_cons_of_mem a hb))
          have hnamed : named (a :: fs) (v :: vs) = (a.name, v) :: named fs vs := rfl
          rw [hnamed, Value.treeMembers, h.readMembers_cons ha (hfree a List.mem_cons_self)]
          simp only [List.map_cons, Schema.readItems, Value.treeItems, Slot.read_bind_eq_ok, hrest,
            List.length_cons, Nat.succ_le_succ_iff]
          constructor
          · rintro ⟨x, hx, hlength, hr⟩
            exact ⟨hlength, x, hx, hr⟩
          · rintro ⟨hlength, x, hx, hr⟩
            exact ⟨x, hx, hlength, hr⟩

/-- A record without required fields is read from an array as from the object that has the values
under the names of its fields. -/
theorem read_arr_eq_ok (h : Lawful s slots) (hoptional : ∀ a ∈ slots, a.required = false)
    {origin : Origin} {room : Nat} {vs : List Value} {r : σ} :
    s.read ⟨origin, room + 1⟩ (.arr (Value.treeItems vs)) = .ok r ↔
      vs.length ≤ slots.length ∧
        s.read ⟨origin, room + 1⟩ (.obj (Value.treeMembers (named slots vs))) = .ok r := by
  have hrequired : ∀ f ∈ s.fields, f.required = true → f.isSet r = true := by
    rw [h.fields]
    intro f hf hr
    obtain ⟨a, ha, rfl⟩ := List.mem_map.mp hf
    have hnot : a.field.required = false := hoptional a ha
    simp [hnot] at hr
  rw [Schema.read_obj_eq_ok, Schema.reads_iff, and_iff_left hrequired,
    ← h.readItems_eq_ok (List.Sublist.refl slots) vs 0 h.blank hoptional, ← h.fields]
  rfl

end Lawful

end Json

end ExerciseClient
