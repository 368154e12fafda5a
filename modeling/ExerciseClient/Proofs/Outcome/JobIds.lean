import ExerciseClient.Proofs.Json.Numbers
import ExerciseClient.Proofs.Outcome.Classification

/-! What becomes of a job id that is written as a number. It is kept as the text of that number, and
for an integer literal this is the integer itself as long as it fits 64 bits, signed or not; a
longer one is kept as a real number is, in which integers that are near each other are the same. -/

namespace ExerciseClient

namespace Frame

open Json

/-- The job id of a text frame is written as an integer. -/
def HasIntegerId (text : String) (i : Int) : Prop :=
  ∃ l : Literal, Writes text "job_id" l ∧ l.IsInteger ∧ l.integer = i

/-- A job id that is written as a number is kept as the text of that number. -/
theorem jobId_of_writes {text : String} {l : Literal} {r : RunResult}
    (hr : classify text = .result r) (hl : Writes text "job_id" l) :
    ∃ n, l.value = some n ∧ r.jobId = n.text := by
  obtain ⟨ms, hdenotes, hdescribes⟩ := classify_eq_result.mp hr
  obtain ⟨n, hn⟩ : ∃ n, l.value = some n := by
    obtain ⟨-, h, -⟩ := hl
    obtain ⟨_, n, -, hn, -⟩ := h.exists_members
    exact ⟨n, hn⟩
  have hlookup := hdenotes.lookup_eq_num_iff.mpr ⟨l, hl, hn⟩
  obtain ⟨v, hv, hid⟩ := hdescribes.jobId
  obtain rfl : v = .num n := Option.some.inj (hv.symm.trans hlookup)
  generalize r.jobId = id at hid
  cases hid with
  | number => exact ⟨n, hn, rfl⟩

/-- An integer id other than zero is kept as its decimal text if it fits 64 bits, and as the text of
a real number otherwise. -/
theorem jobId_of_integer {text : String} {i : Int} {r : RunResult} (hid : HasIntegerId text i)
    (hi : i ≠ 0) (hr : classify text = .result r) :
    (FitsWord i ∧ r.jobId = toString i) ∨
      (¬ FitsWord i ∧ ∃ x : Decimal.Binary64, r.jobId = x.interchangeText) := by
  obtain ⟨l, hl, hinteger, rfl⟩ := hid
  obtain ⟨n, hn, hjob⟩ := jobId_of_writes hr hl
  rw [hjob]
  rcases hinteger.value_cases hi hn with ⟨hfits, rfl⟩ | ⟨hlarge, x, rfl⟩
  · exact .inl ⟨hfits, rfl⟩
  · exact .inr ⟨hlarge, x, rfl⟩

/-- An integer id is kept as it is exactly if it fits 64 bits, signed or not; and ids that are not
the same are kept under different texts unless both are too large. -/
theorem integer_ids_kept_iff {text : String} {i : Int} {r : RunResult}
    (hid : HasIntegerId text i) (hi : i ≠ 0) (hr : classify text = .result r) :
    (r.jobId = toString i ↔ FitsWord i) ∧
      ∀ text' i' r', HasIntegerId text' i' → i' ≠ 0 → classify text' = .result r' → i ≠ i' →
        r.jobId = r'.jobId → ¬ FitsWord i ∧ ¬ FitsWord i' := by
  have hkept := jobId_of_integer hid hi hr
  constructor
  · rcases hkept with ⟨hfits, hjob⟩ | ⟨hlarge, x, hjob⟩
    · exact ⟨fun _ => hfits, fun _ => hjob⟩
    · rw [hjob]
      exact ⟨fun he => absurd he (x.interchangeText_ne i), fun hfits => absurd hfits hlarge⟩
  · intro text' i' r' hid' hi' hr' hne hsame
    have hkept' := jobId_of_integer hid' hi' hr'
    rcases hkept with ⟨hfits, hjob⟩ | ⟨hlarge, x, hjob⟩ <;>
      rcases hkept' with ⟨hfits', hjob'⟩ | ⟨hlarge', x', hjob'⟩
    · rw [hjob, hjob'] at hsame
      exact absurd (eq_of_toString_eq hfits hfits' hsame) hne
    · rw [hjob, hjob'] at hsame
      exact absurd hsame.symm (x'.interchangeText_ne i)
    · rw [hjob, hjob'] at hsame
      exact absurd hsame (x.interchangeText_ne i')
    · exact ⟨hlarge, hlarge'⟩

/-- The frame of nothing but an id. -/
def bare (id : String) : String := "\x7b\"job_id\":" ++ id ++ "\x7d"

theorem hasIntegerId_bare {id : String} {l : Literal}
    (hread : readLiteral (id.toList ++ ['\x7d']) = some (l, ['\x7d']))
    (hn : l.value.isSome = true) (hl : l.IsInteger) : HasIntegerId (bare id) l.integer := by
  have htext : (bare id).toList =
      '\x7b' :: '"' :: 'j' :: 'o' :: 'b' :: '_' :: 'i' :: 'd' :: '"' :: ':' ::
        (id.toList ++ ['\x7d']) := by
    simp [bare]
  have hkey : SpellsChars ('j' :: 'o' :: 'b' :: '_' :: 'i' :: 'd' :: '"' :: ':' ::
      (id.toList ++ ['\x7d'])) "job_id".toList (':' :: (id.toList ++ ['\x7d'])) :=
    (resumes_of_readQuoted rfl).spells
  refine ⟨l, .mk (htext ▸ .nil _) (.here (.nil _) hkey (.nil _) (.nil _)
    (spellsLiteral_of_readLiteral hread) hn (.done (.nil _)) rfl) (.nil []), hl, rfl⟩

/-- The result that says nothing but its id. -/
def silent (id : String) : RunResult :=
  ⟨id, "", "", 0, .zero, .zero, .zero, [], false, none, none, none⟩

/-- The largest id that is kept. -/
theorem integer_ids_kept_largest :
    HasIntegerId (bare "18446744073709551615") (2 ^ 64 - 1) ∧ (2 ^ 64 - 1 : Int) ≠ 0 ∧
      classify (bare "18446744073709551615") = .result (silent "18446744073709551615") ∧
      (silent "18446744073709551615").jobId = toString (2 ^ 64 - 1 : Int) := by
  have hid : HasIntegerId (bare "18446744073709551615") (2 ^ 64 - 1) :=
    hasIntegerId_bare (l := ⟨false, "18446744073709551615".toList, none, none⟩) rfl
      (by decide) ⟨rfl, rfl⟩
  have hclassify : classify (bare "18446744073709551615") =
      .result (silent "18446744073709551615") := by decide +kernel
  exact ⟨hid, by decide, hclassify,
    (integer_ids_kept_iff hid (by decide) hclassify).1.mpr (by decide)⟩

/-- The two ids after it are kept under one text, which is the decimal text of neither. -/
theorem large_ids_collide :
    HasIntegerId (bare "18446744073709551616") (2 ^ 64) ∧
      HasIntegerId (bare "18446744073709551617") (2 ^ 64 + 1) ∧
      classify (bare "18446744073709551616") = .result (silent "1.8446744073709552e+19") ∧
      classify (bare "18446744073709551617") = .result (silent "1.8446744073709552e+19") ∧
      (silent "1.8446744073709552e+19").jobId ≠ toString (2 ^ 64 : Int) ∧
      (silent "1.8446744073709552e+19").jobId ≠ toString (2 ^ 64 + 1 : Int) := by
  refine ⟨?_, ?_, by decide +kernel, by decide +kernel, by decide, by decide⟩
  · exact hasIntegerId_bare (l := ⟨false, "18446744073709551616".toList, none, none⟩) rfl
      (by decide +kernel) ⟨rfl, rfl⟩
  · exact hasIntegerId_bare (l := ⟨false, "18446744073709551617".toList, none, none⟩) rfl
      (by decide +kernel) ⟨rfl, rfl⟩

end Frame

end ExerciseClient
