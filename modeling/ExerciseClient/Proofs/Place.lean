/-! Places in a history. When a history grows, a place in it is a place in what was there before or
one in what is new. -/

namespace ExerciseClient

variable {α : Type} {xs ys before after : List α} {x : α}

theorem split_append (h : xs ++ ys = before ++ x :: after) :
    (∃ rest, xs = before ++ x :: rest ∧ after = rest ++ ys) ∨
      ∃ rest, before = xs ++ rest ∧ ys = rest ++ x :: after := by
  rcases List.append_eq_append_iff.mp h with ⟨rest, hb, hy⟩ | ⟨rest, hx, hy⟩
  · exact .inr ⟨rest, hb, hy⟩
  · cases rest with
    | nil => exact .inr ⟨[], by simpa using hx.symm, by simpa using hy.symm⟩
    | cons z rest =>
        obtain ⟨rfl, rfl⟩ := List.cons.inj hy
        exact .inl ⟨rest, hx, rfl⟩

theorem split_singleton {y : α} :
    before ++ x :: after = [y] ↔ before = [] ∧ x = y ∧ after = [] := by
  cases before <;> simp

theorem split_cons {y : α} : before ++ x :: after = y :: ys ↔
    before = [] ∧ x = y ∧ after = ys ∨ ∃ rest, before = y :: rest ∧ rest ++ x :: after = ys := by
  rcases before with _ | ⟨w, before⟩
  · simp
  · simp [and_assoc]

theorem split_pair {y z : α} : before ++ x :: after = [y, z] ↔
    before = [] ∧ x = y ∧ after = [z] ∨ before = [y] ∧ x = z ∧ after = [] := by
  rcases before with _ | ⟨w, before⟩
  · simp
  · simp only [List.cons_append, List.cons.injEq, split_singleton]
    simp [and_assoc]

end ExerciseClient
