import ExerciseClient.Proofs.Json.Reading

/-! A value as it is once it was read without a schema: its members ascend. So it is exactly when
it nests no deeper than the reader may go, and sorting makes nothing deeper. -/

namespace ExerciseClient

namespace KeyedMap

variable {α : Type}

/-- Entries in order are left in order. -/
theorem entries_ofList {es : List (String × α)} (h : Ascending es) : (ofList es).entries = es :=
  congrArg entries (ofList_entries ⟨es, h⟩)

theorem entries_foldl (es : List (String × α)) (m : KeyedMap α) :
    (es.foldl (fun m e => m.insert e.1 e.2) m).entries =
      es.foldl (fun acc e => insertEntry e.1 e.2 acc) m.entries := by
  induction es generalizing m with
  | nil => rfl
  | cons e es ih => exact ih (m.insert e.1 e.2)

theorem lookup_cons_of_ne {k : String} {e : String × α} (h : k ≠ e.1) (es : List (String × α)) :
    (e :: es).lookup k = es.lookup k := by
  obtain ⟨key, value⟩ := e
  simp [List.lookup_cons, beq_false_of_ne h]

theorem mem_of_lookup {key : String} {value : α} {es : List (String × α)}
    (h : es.lookup key = some value) : (key, value) ∈ es := by
  obtain ⟨before, after, rfl, -⟩ := List.lookup_eq_some_iff.mp h
  exact List.mem_append_cons_self

theorem lookup_insertEntry_self (key : String) (value : α) (es : List (String × α)) :
    (insertEntry key value es).lookup key = some value := by
  induction es with
  | nil => exact List.lookup_cons_self
  | cons e es ih =>
      rw [insertEntry]
      split
      · exact List.lookup_cons_self
      · split
        case isTrue h =>
          have hne : key ≠ e.1 := fun he => String.lt_irrefl _ (he ▸ h)
          rw [lookup_cons_of_ne hne, ih]
        case isFalse => exact List.lookup_cons_self

theorem lookup_insertEntry_of_ne {key k : String} (h : k ≠ key) (value : α)
    (es : List (String × α)) : (insertEntry key value es).lookup k = es.lookup k := by
  induction es with
  | nil => exact lookup_cons_of_ne h []
  | cons e es ih =>
      obtain ⟨other, old⟩ := e
      rw [insertEntry]
      split
      · exact lookup_cons_of_ne h _
      · split
        case isTrue => simp only [List.lookup_cons, ih]
        case isFalse hlow hhigh =>
          have he : key = other := eq_of_not_lt hlow hhigh
          rw [lookup_cons_of_ne h, lookup_cons_of_ne (he ▸ h)]

end KeyedMap

namespace Json

mutual

/-- How deep arrays and objects stand within each other. -/
def Value.depth : Value → Nat
  | .arr items => Value.itemsDepth items + 1
  | .obj members => Value.membersDepth members + 1
  | _ => 0

def Value.itemsDepth : List Value → Nat
  | [] => 0
  | v :: vs => max v.depth (Value.itemsDepth vs)

def Value.membersDepth : List (String × Value) → Nat
  | [] => 0
  | (_, v) :: ms => max v.depth (Value.membersDepth ms)

end

theorem depth_le_itemsDepth {v : Value} {vs : List Value} (h : v ∈ vs) :
    v.depth ≤ Value.itemsDepth vs := by
  induction vs with
  | nil => cases h
  | cons w vs ih =>
      rw [Value.itemsDepth]
      rcases List.mem_cons.mp h with rfl | h
      · exact Nat.le_max_left _ _
      · exact Nat.le_trans (ih h) (Nat.le_max_right _ _)

theorem depth_le_membersDepth {m : String × Value} {ms : List (String × Value)} (h : m ∈ ms) :
    m.2.depth ≤ Value.membersDepth ms := by
  induction ms with
  | nil => cases h
  | cons e ms ih =>
      rw [Value.membersDepth]
      rcases List.mem_cons.mp h with rfl | h
      · exact Nat.le_max_left _ _
      · exact Nat.le_trans (ih h) (Nat.le_max_right _ _)

mutual

/-- The value with its members ascending, at every level. -/
def Value.sorted : Value → Value
  | .arr items => .arr (Value.sortedItems items)
  | .obj members => .obj (KeyedMap.ofList (Value.sortedMembers members)).entries
  | v => v

def Value.sortedItems : List Value → List Value
  | [] => []
  | v :: vs => v.sorted :: Value.sortedItems vs

/-- The members with their values sorted, still in the order in which they stood. -/
def Value.sortedMembers : List (String × Value) → List (String × Value)
  | [] => []
  | (k, v) :: ms => (k, v.sorted) :: Value.sortedMembers ms

end

/-! ### Reading without a schema -/

mutual

/-- A value is read if it is not too deep, and then it is sorted. -/
theorem toValue_tree : ∀ (v : Value) (room : Nat),
    v.tree.toValue room = if v.depth ≤ room then .ok v.sorted else .error .malformed
  | .null, _ | .bool _, _ | .num _, _ | .str _, _ => by
      simp [Value.tree, Tree.toValue, Value.depth, Value.sorted]
  | .arr _, 0 | .obj _, 0 => by simp [Value.tree, Tree.toValue, Value.depth]
  | .arr items, room + 1 => by
      rw [Value.tree, Tree.toValue, toValues_tree items room]
      by_cases h : Value.itemsDepth items ≤ room
      · simp [Value.depth, Value.sorted, h]
      · simp [Value.depth, h]
  | .obj members, room + 1 => by
      rw [Value.tree, Tree.toValue, toEntries_tree members room []]
      by_cases h : Value.membersDepth members ≤ room
      · simp [Value.depth, Value.sorted, h, KeyedMap.ofList, KeyedMap.entries_foldl,
          KeyedMap.empty]
      · simp [Value.depth, h]

theorem toValues_tree : ∀ (vs : List Value) (room : Nat),
    (Value.treeItems vs).toValues room =
      if Value.itemsDepth vs ≤ room then .ok (Value.sortedItems vs) else .error .malformed
  | [], _ => by simp [Value.treeItems, Items.toValues, Value.itemsDepth, Value.sortedItems]
  | v :: vs, room => by
      rw [Value.treeItems, Items.toValues, toValue_tree v room, toValues_tree vs room]
      by_cases hv : v.depth ≤ room
      · by_cases hvs : Value.itemsDepth vs ≤ room
        · simp [Value.itemsDepth, Value.sortedItems, Nat.max_le, hv, hvs]
        · simp [Value.itemsDepth, Nat.max_le, hv, hvs]
      · simp [Value.itemsDepth, Nat.max_le, hv]

theorem toEntries_tree : ∀ (ms : List (String × Value)) (room : Nat)
    (acc : List (String × Value)),
    (Value.treeMembers ms).toEntries room acc =
      if Value.membersDepth ms ≤ room then
        .ok ((Value.sortedMembers ms).foldl (fun acc e => KeyedMap.insertEntry e.1 e.2 acc) acc)
      else .error .malformed
  | [], _, _ => by
      simp [Value.treeMembers, Members.toEntries, Value.membersDepth, Value.sortedMembers]
  | (k, v) :: ms, room, acc => by
      rw [Value.treeMembers, Members.toEntries, toValue_tree v room]
      by_cases hv : v.depth ≤ room
      · simp [Value.membersDepth, Value.sortedMembers, Nat.max_le, hv, toEntries_tree ms room]
      · simp [Value.membersDepth, Nat.max_le, hv]

end

/-- Only an object is read as one. -/
theorem toValue_eq_obj {room : Nat} {t : Tree} {es : List (String × Value)}
    (h : t.toValue (room + 1) = .ok (.obj es)) :
    ∃ ms, t = .obj ms ∧ ms.toEntries room [] = .ok es := by
  cases t with
  | obj ms =>
      refine ⟨ms, rfl, ?_⟩
      cases hes : ms.toEntries room [] with
      | error e => simp [Tree.toValue, hes] at h
      | ok es' => simpa [Tree.toValue, hes] using h
  | arr items => cases hvs : items.toValues room <;> simp [Tree.toValue, hvs] at h
  | num n => cases n <;> simp [Tree.toValue] at h
  | str s => cases s <;> simp [Tree.toValue] at h
  | null | bool | foreign | broken => simp [Tree.toValue] at h

/-- What stands under a key of a text. -/
def field? (text key : String) : Option Value :=
  match parse text with
  | .ok v => v.get? key
  | .error _ => none

/-- A text with something under a key is an object. -/
theorem field?_eq_some {text key : String} {w : Value} (h : field? text key = some w) :
    ∃ ms es, (Document.read text).root = .obj ms ∧ ms.toEntries 126 [] = .ok es ∧
      es.lookup key = some w := by
  rw [field?] at h
  cases hv : parse text with
  | error e => simp [hv] at h
  | ok v =>
      simp only [hv] at h
      cases v with
      | obj es =>
          obtain ⟨ms, hroot, hes⟩ := toValue_eq_obj (decodeText_eq_ok.mp hv).1
          exact ⟨ms, es, hroot, hes, h⟩
      | _ => simp [Value.get?] at h

/-! ### Sorting -/

/-- Members whose values are in order are left as they are. -/
theorem sortedMembers_of_sorted {ms : List (String × Value)} (h : ∀ m ∈ ms, m.2.sorted = m.2) :
    Value.sortedMembers ms = ms := by
  induction ms with
  | nil => rfl
  | cons m ms ih =>
      have hm : m.2.sorted = m.2 := h m List.mem_cons_self
      have hms : Value.sortedMembers ms = ms := ih fun e he => h e (List.mem_cons_of_mem m he)
      rw [Value.sortedMembers, hm, hms]

/-- An object in order is left as it is. -/
theorem sorted_obj {ms : List (String × Value)} (hms : Ascending ms)
    (h : ∀ m ∈ ms, m.2.sorted = m.2) : (Value.obj ms).sorted = .obj ms := by
  rw [Value.sorted, sortedMembers_of_sorted h, KeyedMap.entries_ofList hms]

theorem membersDepth_append (ms ns : List (String × Value)) :
    Value.membersDepth (ms ++ ns) = max (Value.membersDepth ms) (Value.membersDepth ns) := by
  induction ms with
  | nil => simp [Value.membersDepth]
  | cons m ms ih =>
      rw [List.cons_append, Value.membersDepth, ih, Value.membersDepth, Nat.max_assoc]

theorem membersDepth_insertEntry (k : String) (v : Value) (es : List (String × Value)) :
    Value.membersDepth (KeyedMap.insertEntry k v es) ≤ max v.depth (Value.membersDepth es) := by
  induction es with
  | nil => simp [KeyedMap.insertEntry, Value.membersDepth]
  | cons e es ih =>
      rw [KeyedMap.insertEntry]
      split
      · simp [Value.membersDepth]
      · split
        · simp only [Value.membersDepth]
          omega
        · simp only [Value.membersDepth]
          omega

theorem membersDepth_ofList (es : List (String × Value)) :
    Value.membersDepth (KeyedMap.ofList es).entries ≤ Value.membersDepth es := by
  have hfold : ∀ acc, Value.membersDepth
      (es.foldl (fun acc e => KeyedMap.insertEntry e.1 e.2 acc) acc) ≤
        max (Value.membersDepth acc) (Value.membersDepth es) := by
    induction es with
    | nil => simp [Value.membersDepth]
    | cons e es ih =>
        intro acc
        have hrest := ih (KeyedMap.insertEntry e.1 e.2 acc)
        have hfirst := membersDepth_insertEntry e.1 e.2 acc
        simp only [List.foldl_cons, Value.membersDepth] at hrest ⊢
        omega
  rw [KeyedMap.ofList, KeyedMap.entries_foldl]
  simpa [Value.membersDepth, KeyedMap.empty] using hfold []

mutual

theorem depth_sorted : ∀ v : Value, v.sorted.depth ≤ v.depth
  | .null | .bool _ | .num _ | .str _ => Nat.le_refl _
  | .arr items => Nat.succ_le_succ (itemsDepth_sorted items)
  | .obj members => Nat.succ_le_succ
      (Nat.le_trans (membersDepth_ofList _) (membersDepth_sorted members))

theorem itemsDepth_sorted : ∀ vs : List Value,
    Value.itemsDepth (Value.sortedItems vs) ≤ Value.itemsDepth vs
  | [] => Nat.le_refl _
  | v :: vs => by
      have hv := depth_sorted v
      have hvs := itemsDepth_sorted vs
      simp only [Value.sortedItems, Value.itemsDepth]
      omega

theorem membersDepth_sorted : ∀ ms : List (String × Value),
    Value.membersDepth (Value.sortedMembers ms) ≤ Value.membersDepth ms
  | [] => Nat.le_refl _
  | (_, v) :: ms => by
      have hv := depth_sorted v
      have hms := membersDepth_sorted ms
      simp only [Value.sortedMembers, Value.membersDepth]
      omega

end

/-! ### Passing over a value -/

mutual

@[simp] theorem isWhole_tree : ∀ v : Value, v.tree.isWhole = true
  | .null | .bool _ | .num _ | .str _ => rfl
  | .arr items => isWhole_treeItems items
  | .obj members => isWhole_treeMembers members

@[simp] theorem isWhole_treeItems : ∀ vs : List Value, (Value.treeItems vs).isWhole = true
  | [] => rfl
  | v :: vs => by simp [Value.treeItems, Items.isWhole, isWhole_tree v, isWhole_treeItems vs]

@[simp] theorem isWhole_treeMembers :
    ∀ ms : List (String × Value), (Value.treeMembers ms).isWhole = true
  | [] => rfl
  | (_, v) :: ms => by
      simp [Value.treeMembers, Members.isWhole, isWhole_tree v, isWhole_treeMembers ms]

end

end Json

end ExerciseClient
