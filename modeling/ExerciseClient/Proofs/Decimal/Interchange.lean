import ExerciseClient.Decimal.Shortest

/-! The characters of a number's interchange text. None of them is a blank, and the text is never
that of an integer: it has a point, or it has a power of ten. -/

namespace ExerciseClient.Decimal

/-- Every character is a digit. -/
def AllDigits (cs : List Char) : Prop := ∀ c ∈ cs, c.isDigit = true

theorem allDigits_toString (n : Nat) : AllDigits (toString n).toList := by
  intro c hc
  rw [show (toString n).toList = Nat.toDigits 10 n from Nat.toList_repr] at hc
  exact Nat.isDigit_of_mem_toDigits (by omega) (by omega) hc

theorem Binary64.allDigits_shortest (x : Binary64) : AllDigits x.shortest.digits := by
  have hzero : AllDigits ['0'] := by simp [AllDigits]
  rw [shortest]
  split
  · exact hzero
  · dsimp only
    split
    · exact hzero
    · intro c hc
      rw [List.mem_reverse] at hc
      have hmem := (List.dropWhile_sublist _).subset hc
      exact allDigits_toString _ c (List.mem_reverse.mp hmem)

/-- A digit, or what else may stand in a number. -/
def IsNumeral (c : Char) : Prop := c.isDigit = true ∨ c ∈ ['-', '+', '.', 'e']

theorem Digits.isNumeral_positional {d : Digits} (h : AllDigits d.digits) {c : Char}
    (hc : c ∈ d.positional) : IsNumeral c := by
  have hpoint : IsNumeral '.' := .inr (by simp)
  have hzero : ∀ n, c ∈ List.replicate n '0' → IsNumeral c := by
    intro n hn
    rw [List.eq_of_mem_replicate hn]
    exact .inl rfl
  rw [positional] at hc
  split at hc
  · simp only [List.cons_append, List.mem_cons, List.mem_append] at hc
    rcases hc with rfl | rfl | hc | hc
    · exact .inl rfl
    · exact hpoint
    · exact hzero _ hc
    · exact .inl (h c hc)
  · dsimp only at hc
    split at hc
    · rcases List.mem_append.mp hc with hc | hc
      · exact .inl (h c hc)
      · exact hzero _ hc
    · simp only [List.mem_append, List.mem_cons] at hc
      rcases hc with hc | rfl | hc
      · exact .inl (h c (List.mem_of_mem_take hc))
      · exact hpoint
      · exact .inl (h c (List.mem_of_mem_drop hc))

theorem Digits.isNumeral_scientific {d : Digits} (h : AllDigits d.digits) {c : Char}
    (hc : c ∈ d.scientific) : IsNumeral c := by
  simp only [scientific, List.mem_append, List.mem_cons] at hc
  rcases hc with (hc | hc) | rfl | rfl | hc
  · exact .inl (h c (List.mem_of_mem_take hc))
  · split at hc
    · cases hc
    · rcases List.mem_cons.mp hc with rfl | hc
      · exact .inr (by simp)
      · exact .inl (h c (List.mem_of_mem_drop hc))
  · exact .inr (by simp)
  · split
    · exact .inr (by simp)
    · exact .inr (by simp)
  · exact .inl (allDigits_toString _ c hc)

theorem isNumeral_withPoint {cs : List Char} (h : ∀ c ∈ cs, IsNumeral c) {c : Char}
    (hc : c ∈ withPoint cs) : IsNumeral c := by
  rw [withPoint] at hc
  split at hc
  · exact h c hc
  · simp only [List.mem_append, List.mem_cons, List.not_mem_nil, or_false] at hc
    rcases hc with hc | rfl | rfl
    · exact h c hc
    · exact .inr (by simp)
    · exact .inl rfl

/-- Interchange text is made of numerals. -/
theorem Binary64.isNumeral_interchangeText (x : Binary64) {c : Char}
    (hc : c ∈ x.interchangeText.toList) : IsNumeral c := by
  have hdigits := x.allDigits_shortest
  simp only [interchangeText, String.toList_ofList, List.mem_append] at hc
  rcases hc with hc | hc
  · rw [sign] at hc
    split at hc
    · rw [List.mem_singleton.mp hc]
      exact .inr (by simp)
    · cases hc
  · split at hc
    · exact isNumeral_withPoint (fun _ => Digits.isNumeral_positional hdigits) hc
    · exact Digits.isNumeral_scientific hdigits hc

/-- Interchange text shows that its number is read as a real one. -/
theorem Binary64.marked_interchangeText (x : Binary64) :
    '.' ∈ x.interchangeText.toList ∨ 'e' ∈ x.interchangeText.toList := by
  simp only [interchangeText, String.toList_ofList, List.mem_append]
  split
  · left
    right
    rw [withPoint]
    split
    · exact List.contains_iff_mem.mp ‹_›
    · simp
  · right
    right
    simp [Digits.scientific]

theorem notMarked_toString (i : Int) : '.' ∉ (toString i).toList ∧ 'e' ∉ (toString i).toList := by
  have hdigits {c : Char} {n : Nat} (hc : c.isDigit = false) : c ∉ (toString n).toList := by
    intro hmem
    have := allDigits_toString n c hmem
    simp [hc] at this
  cases i with
  | ofNat n => exact ⟨hdigits rfl, hdigits rfl⟩
  | negSucc n =>
      have htext : (toString (Int.negSucc n)).toList = '-' :: (toString (n + 1)).toList := by
        simp [toString, Int.repr]
      simp only [htext, List.mem_cons, not_or]
      exact ⟨⟨by decide, hdigits rfl⟩, by decide, hdigits rfl⟩

/-- No integer is written as a real number is. -/
theorem Binary64.interchangeText_ne (x : Binary64) (i : Int) : x.interchangeText ≠ toString i := by
  intro he
  have hmarked := x.marked_interchangeText
  rw [he] at hmarked
  obtain ⟨hpoint, hpower⟩ := notMarked_toString i
  exact hmarked.elim hpoint hpower

end ExerciseClient.Decimal
