/-!
Finite maps with text keys, kept as a list in strictly ascending key order. Code-point order is the
byte order of UTF-8, so the list is also the order in which the map is written. Main statements:
the entries determine the map, and inserting the entries of a map into the empty map gives it back.
-/

namespace ExerciseClient

/-- Keys strictly ascend. -/
abbrev Ascending {α : Type} (entries : List (String × α)) : Prop :=
  entries.Pairwise fun a b => a.1 < b.1

/-- A finite map from texts, as its ascending list of entries. -/
structure KeyedMap (α : Type) where
  entries : List (String × α)
  ascending : Ascending entries

namespace KeyedMap

variable {α : Type}

/-- Puts a value under a key; a value already there is replaced. -/
def insertEntry (key : String) (value : α) : List (String × α) → List (String × α)
  | [] => [(key, value)]
  | e :: es =>
    if key < e.1 then (key, value) :: e :: es
    else if e.1 < key then e :: insertEntry key value es
    else (key, value) :: es

theorem eq_of_not_lt {a b : String} (hab : ¬ a < b) (hba : ¬ b < a) : a = b :=
  String.le_antisymm (String.not_lt.mp hba) (String.not_lt.mp hab)

theorem mem_insertEntry {key : String} {value : α} {es : List (String × α)} {e : String × α}
    (h : e ∈ insertEntry key value es) : e = (key, value) ∨ e ∈ es := by
  induction es with
  | nil => simpa [insertEntry] using h
  | cons x xs ih =>
    rw [insertEntry] at h
    split at h
    · simpa using h
    · split at h
      · rcases List.mem_cons.mp h with h | h
        · simp [h]
        · rcases ih h with h | h <;> simp [h]
      · rcases List.mem_cons.mp h with h | h <;> simp [h]

theorem ascending_insertEntry (key : String) (value : α) {es : List (String × α)}
    (h : Ascending es) : Ascending (insertEntry key value es) := by
  induction es with
  | nil => simp [insertEntry]
  | cons e es ih =>
    rw [Ascending, List.pairwise_cons] at h
    rw [insertEntry]
    split
    case isTrue hlt =>
      refine List.pairwise_cons.mpr ⟨?_, List.pairwise_cons.mpr h⟩
      intro x hx
      rcases List.mem_cons.mp hx with rfl | hx
      · exact hlt
      · exact String.lt_trans hlt (h.1 x hx)
    case isFalse hnlt =>
      split
      case isTrue hgt =>
        refine List.pairwise_cons.mpr ⟨?_, ih h.2⟩
        intro x hx
        rcases mem_insertEntry hx with rfl | hx
        · exact hgt
        · exact h.1 x hx
      case isFalse hngt =>
        have hk : key = e.1 := eq_of_not_lt hnlt hngt
        exact List.pairwise_cons.mpr ⟨fun x hx => hk ▸ h.1 x hx, h.2⟩

/-- The map without entries. -/
def empty : KeyedMap α := ⟨[], List.Pairwise.nil⟩

instance : Inhabited (KeyedMap α) := ⟨empty⟩

/-- The map with `value` under `key`. -/
def insert (m : KeyedMap α) (key : String) (value : α) : KeyedMap α :=
  ⟨insertEntry key value m.entries, ascending_insertEntry key value m.ascending⟩

/-- The map of a list of entries, in which a later entry replaces an earlier one of its key. -/
def ofList (es : List (String × α)) : KeyedMap α :=
  es.foldl (fun m e => m.insert e.1 e.2) empty

/-- The value under a key. -/
def get? (m : KeyedMap α) (key : String) : Option α :=
  m.entries.lookup key

/-- No entries. -/
def isEmpty (m : KeyedMap α) : Bool :=
  m.entries.isEmpty

@[ext] theorem ext {m n : KeyedMap α} (h : m.entries = n.entries) : m = n := by
  cases m; cases n; simp_all

instance [DecidableEq α] : DecidableEq (KeyedMap α) := fun m n =>
  decidable_of_iff (m.entries = n.entries) ⟨ext, fun h => h ▸ rfl⟩

theorem insertEntry_append {key : String} {value : α} {es : List (String × α)}
    (h : ∀ e ∈ es, e.1 < key) : insertEntry key value es = es ++ [(key, value)] := by
  induction es with
  | nil => rfl
  | cons e es ih =>
    have he : e.1 < key := h e (by simp)
    have hne : ¬ key < e.1 := String.lt_asymm he
    simp [insertEntry, he, hne, ih fun x hx => h x (by simp [hx])]

private theorem foldl_insert_entries (done rest : List (String × α)) (m : KeyedMap α)
    (hm : m.entries = done) (h : Ascending (done ++ rest)) :
    (rest.foldl (fun m e => m.insert e.1 e.2) m).entries = done ++ rest := by
  induction rest generalizing done m with
  | nil => simpa using hm
  | cons e rest ih =>
    have hlt : ∀ x ∈ done, x.1 < e.1 := fun x hx =>
      (List.pairwise_append.mp h).2.2 x hx e (by simp)
    have := ih (done ++ [e]) (m.insert e.1 e.2)
      (by simp [insert, hm, insertEntry_append hlt]) (by simpa using h)
    simpa using this

/-- The entries of a map give the map back. -/
theorem ofList_entries (m : KeyedMap α) : ofList m.entries = m := by
  ext1
  exact foldl_insert_entries [] m.entries empty rfl m.ascending

end KeyedMap

end ExerciseClient
