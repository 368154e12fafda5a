import Mathlib.Data.List.Forall2
import ExerciseClient.Proofs.Json.Fields
import ExerciseClient.Proofs.Json.Spelling

/-! What values are of a type, said without the decoders, and that the decoders take exactly these:
texts, truth values, integers within bounds, numbers, lists, and members that may be absent or
`null`. It is said of values that were read without a schema, whose members have different keys,
and that nest no deeper than the decoder may go. -/

namespace ExerciseClient.Json

open Decimal (Binary64)

/-! ### Values that were read -/

/-- A value as it is read without a schema, in at most `room` levels. -/
structure Value.Fits (v : Value) (room : Nat) : Prop where
  inOrder : ∃ raw : Value, raw.sorted = v
  depth : v.depth ≤ room

theorem Denotes.fits {text : String} {v : Value} (h : Denotes text v) : v.Fits maxDepth := by
  obtain ⟨_, _, hdepth⟩ := h
  exact ⟨⟨_, rfl⟩, Nat.le_trans (depth_sorted _) hdepth⟩

theorem mem_sortedItems {v : Value} {vs : List Value} (h : v ∈ Value.sortedItems vs) :
    ∃ raw : Value, raw.sorted = v := by
  induction vs with
  | nil => cases h
  | cons w vs ih =>
      rcases List.mem_cons.mp h with rfl | h
      · exact ⟨w, rfl⟩
      · exact ih h

theorem mem_sortedMembers {m : String × Value} {ms : List (String × Value)}
    (h : m ∈ Value.sortedMembers ms) : ∃ raw : Value, raw.sorted = m.2 := by
  induction ms with
  | nil => cases h
  | cons e ms ih =>
      rcases List.mem_cons.mp h with rfl | h
      · exact ⟨e.2, rfl⟩
      · exact ih h

theorem mem_entries_ofList {α : Type} {e : String × α} {es : List (String × α)}
    (h : e ∈ (KeyedMap.ofList es).entries) : e ∈ es := by
  rw [KeyedMap.ofList, KeyedMap.entries_foldl] at h
  have hfold : ∀ acc : List (String × α),
      e ∈ es.foldl (fun acc e => KeyedMap.insertEntry e.1 e.2 acc) acc → e ∈ acc ∨ e ∈ es := by
    clear h
    induction es with
    | nil => exact fun _ => .inl
    | cons x es ih =>
        intro acc h
        rcases ih _ h with h | h
        · rcases KeyedMap.mem_insertEntry h with rfl | h
          · exact .inr List.mem_cons_self
          · exact .inl h
        · exact .inr (List.mem_cons_of_mem x h)
  exact (hfold [] h).resolve_left List.not_mem_nil

theorem Value.Fits.item {vs : List Value} {room : Nat} (h : (Value.arr vs).Fits (room + 1))
    {v : Value} (hv : v ∈ vs) : v.Fits room := by
  obtain ⟨⟨raw, hraw⟩, hdepth⟩ := h
  refine ⟨?_, Nat.le_trans (depth_le_itemsDepth hv) (Nat.le_of_succ_le_succ hdepth)⟩
  cases raw with
  | arr items =>
      obtain rfl := Value.arr.inj hraw
      exact mem_sortedItems hv
  | null | bool | num | str | obj => simp [Value.sorted] at hraw

theorem Value.Fits.exists_entries {ms : List (String × Value)} {room : Nat}
    (h : (Value.obj ms).Fits room) :
    ∃ raws, (KeyedMap.ofList (Value.sortedMembers raws)).entries = ms := by
  obtain ⟨⟨raw, hraw⟩, -⟩ := h
  cases raw with
  | obj members => exact ⟨members, Value.obj.inj hraw⟩
  | null | bool | num | str | arr => simp [Value.sorted] at hraw

theorem Value.Fits.ascending {ms : List (String × Value)} {room : Nat}
    (h : (Value.obj ms).Fits room) : Ascending ms := by
  obtain ⟨raws, rfl⟩ := h.exists_entries
  exact KeyedMap.ascending _

theorem Value.Fits.nodup {ms : List (String × Value)} {room : Nat}
    (h : (Value.obj ms).Fits room) : (ms.map (·.1)).Nodup := by
  rw [List.Nodup, List.pairwise_map]
  refine h.ascending.imp fun {a b} hlt he => ?_
  rw [he] at hlt
  exact String.lt_irrefl _ hlt

theorem Value.Fits.member {ms : List (String × Value)} {room : Nat}
    (h : (Value.obj ms).Fits (room + 1)) {key : String} {v : Value}
    (hv : ms.lookup key = some v) : v.Fits room := by
  have hmem : (key, v) ∈ ms := KeyedMap.mem_of_lookup hv
  obtain ⟨raws, hraws⟩ := h.exists_entries
  refine ⟨mem_sortedMembers (mem_entries_ofList (hraws ▸ hmem)), ?_⟩
  exact Nat.le_trans (depth_le_membersDepth hmem) (Nat.le_of_succ_le_succ h.depth)

/-! ### Types -/

/-- The values that stand for something of type `α`, with what each stands for. -/
abbrev Typing (α : Type) := Value → α → Prop

namespace Typing

/-- A text. -/
inductive Text : Typing String where
  | mk (s) : Text (.str s) s

/-- A truth value. -/
inductive Truth : Typing Bool where
  | mk (b) : Truth (.bool b) b

/-- A number that is an integer between two bounds. -/
inductive Whole (low high : Int) : Typing Int where
  | mk {i} (hlow : low ≤ i) (hhigh : i ≤ high) : Whole low high (.num (.int i)) i

/-- An integer of 64 bits. -/
abbrev Int64 : Typing Int := Whole (-2 ^ 63) (2 ^ 63 - 1)

/-- Any number, as the nearest of binary64. -/
inductive Real : Typing Binary64 where
  | mk (n) : Real (.num n) n.toReal

/-- An array with every element of a type. -/
inductive Listed {α : Type} (T : Typing α) : Typing (List α) where
  | mk {vs as} (h : List.Forall₂ T vs as) : Listed T (.arr vs) as

/-- What may be there or not. -/
inductive Present {α : Type} (T : Typing α) : Typing (Option α) where
  | mk {v a} (h : T v a) : Present T v (some a)

/-- What is absent or `null` is the default, and all else is of its type. -/
inductive Holds {α : Type} (T : Typing α) (default : α) : Option Value → α → Prop where
  | absent : Holds T default none default
  | null : Holds T default (some .null) default
  | value {v a} (hv : v ≠ .null) (h : T v a) : Holds T default (some v) a

end Typing

/-! ### Decoders and types -/

/-- The decoder takes exactly the values of a type, in that many levels. -/
def Decoder.Is {α : Type} (d : Decoder α) (T : Typing α) (room : Nat) : Prop :=
  ∀ v : Value, v.Fits room → ∀ a, d ⟨.value, room⟩ v.tree = .ok a ↔ T v a

namespace Decoder

open Typing

variable {α : Type} {d : Decoder α} {T : Typing α} {room : Nat}

theorem text_is (room : Nat) : Decoder.text.Is Text room := by
  intro v _ a
  constructor
  · intro h
    cases v <;> simp only [Value.tree, Decoder.text, Except.ok.injEq, reduceCtorEq] at h
    exact h ▸ .mk _
  · rintro ⟨s⟩
    rfl

theorem bool_is (room : Nat) : Decoder.bool.Is Truth room := by
  intro v _ a
  constructor
  · intro h
    cases v <;> simp only [Value.tree, Decoder.bool, Except.ok.injEq, reduceCtorEq] at h
    exact h ▸ .mk _
  · rintro ⟨b⟩
    rfl

theorem real_is (room : Nat) : Decoder.real.Is Real room := by
  intro v _ a
  constructor
  · intro h
    cases v <;> simp only [Value.tree, Decoder.real, Except.ok.injEq, reduceCtorEq] at h
    exact h ▸ .mk _
  · rintro ⟨n⟩
    rfl

theorem integer_is (name : String) (low high : Int) (room : Nat) :
    (Decoder.integer name low high).Is (Whole low high) room := by
  intro v _ a
  constructor
  · intro h
    cases v with
    | num n =>
        cases n with
        | int i =>
            simp only [Value.tree, Decoder.integer] at h
            split at h
            · rename_i hi
              obtain rfl := Except.ok.inj h
              exact .mk hi.1 hi.2
            · simp at h
        | real x => simp [Value.tree, Decoder.integer] at h
    | null | bool | str | arr | obj => simp [Value.tree, Decoder.integer] at h
  · rintro ⟨hlow, hhigh⟩
    simp [Value.tree, Decoder.integer, hlow, hhigh]

theorem int64_is (room : Nat) : Decoder.int64.Is Int64 room :=
  integer_is "i64" (-2 ^ 63) (2 ^ 63 - 1) room

theorem items_is (h : d.Is T room) {vs : List Value} (hvs : ∀ v ∈ vs, v.Fits room) (as : List α) :
    items d ⟨.value, room⟩ (Value.treeItems vs) = .ok as ↔ List.Forall₂ T vs as := by
  induction vs generalizing as with
  | nil => simp [Value.treeItems, items, eq_comm]
  | cons v vs ih =>
      have hv := h v (hvs v List.mem_cons_self)
      have hrest := ih fun w hw => hvs w (List.mem_cons_of_mem v hw)
      rw [Value.treeItems, items, List.forall₂_cons_left_iff]
      simp only [← hv, ← hrest]
      cases d ⟨.value, room⟩ v.tree with
      | error e => simp
      | ok a =>
          cases items d ⟨.value, room⟩ (Value.treeItems vs) with
          | error e => simp
          | ok bs => simp [eq_comm]

theorem list_is (h : d.Is T room) : (Decoder.list d).Is (Listed T) (room + 1) := by
  intro v hv as
  cases v with
  | arr vs =>
      rw [Value.tree, list, items_is h fun w hw => hv.item hw]
      exact ⟨.mk, fun ⟨h⟩ => h⟩
  | null | bool | str | obj | num =>
      constructor
      · intro h
        simp [Value.tree, list] at h
      · rintro ⟨⟩

theorem orDefault_eq (d : Decoder α) (default : α) {v : Value} (hv : v ≠ .null) (p : Place) :
    orDefault default d p v.tree = d p v.tree := by
  cases v with
  | null => exact absurd rfl hv
  | bool | num | str | arr | obj => rfl

theorem optional_eq (d : Decoder α) (p : Place) (t : Tree) :
    optional d p t = orDefault none (fun p t => some <$> d p t) p t := by
  cases t with
  | null => rfl
  | bool | num | str | arr | obj | foreign | broken => rfl

theorem present_is (h : d.Is T room) :
    Decoder.Is (fun p t => some <$> d p t) (Present T) room := by
  intro v hv a
  have hd := h v hv
  constructor
  · intro ha
    cases hx : d ⟨.value, room⟩ v.tree with
    | error e => simp [hx] at ha
    | ok x =>
        obtain rfl : some x = a := by simpa [hx] using ha
        exact .mk ((hd x).mp hx)
  · rintro ⟨hx⟩
    simp [(hd _).mpr hx]

/-- A member that may be left out or `null` is read as it is held. -/
theorem fills_orDefault (h : d.Is T room) (default a : α) {v : Option Value}
    (hv : ∀ w, v = some w → w.Fits room) :
    (∃ kept, (orDefault default d).Fills ⟨.value, room⟩ v none kept ∧ kept.getD default = a) ↔
      Holds T default v a := by
  cases v with
  | none =>
      simp only [Fills, exists_eq_left, Option.getD_none]
      constructor
      · rintro rfl
        exact .absent
      · rintro ⟨⟩
        rfl
  | some w =>
      have hfills : (∃ kept, (orDefault default d).Fills ⟨.value, room⟩ (some w) none kept ∧
          kept.getD default = a) ↔ orDefault default d ⟨.value, room⟩ w.tree = .ok a := by
        constructor
        · rintro ⟨_, ⟨x, hx, rfl⟩, rfl⟩
          exact hx
        · exact fun hx => ⟨some a, ⟨a, hx, rfl⟩, rfl⟩
      rw [hfills]
      by_cases hnull : w = .null
      · subst hnull
        constructor
        · intro ha
          obtain rfl := Except.ok.inj ha
          exact .null
        · rintro (_ | _ | ⟨hne, _⟩)
          · rfl
          · exact absurd rfl hne
      · rw [orDefault_eq d default hnull, h w (hv w rfl)]
        constructor
        · exact .value hnull
        · rintro (_ | _ | ⟨_, ha⟩)
          · exact absurd rfl hnull
          · exact ha

theorem fills_optional (h : d.Is T room) (a : Option α) {v : Option Value}
    (hv : ∀ w, v = some w → w.Fits room) :
    (∃ kept, (optional d).Fills ⟨.value, room⟩ v none kept ∧ kept.getD none = a) ↔
      Holds (Present T) none v a := by
  have heq : optional d = orDefault none (fun p t => some <$> d p t) :=
    funext fun p => funext fun t => optional_eq d p t
  rw [heq]
  exact fills_orDefault (present_is h) none a hv

end Decoder

end ExerciseClient.Json
