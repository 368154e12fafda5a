import ExerciseClient.Config.Basic

/-! How the waits of a backoff grow. A wait is the exact product `base * 2 ^ k`, cut at the maximum,
as long as the factor has 32 bits; with more failures it is the maximum at once, which is the exact
wait only where the product has reached the maximum by then. Whatever the settings are, the waits
double up to the maximum and then stay there. -/

namespace ExerciseClient

namespace Backoff

variable {second : Nat} {b : Backoff} {i j k : Nat}

/-! ### Waits against the exact product -/

/-- With a factor of 32 bits the wait is exact: a product that is no span is past the maximum. -/
theorem delayIn_of_lt (hmax : b.max < spanLimit second) (hk : k < 32) :
    b.delayIn second k = min (b.base * 2 ^ k) b.max := by
  rw [delayIn]
  by_cases hspan : b.base * 2 ^ k < spanLimit second
  · rw [if_pos ⟨hk, hspan⟩]
  · rw [if_neg (fun h => hspan h.2)]
    have hle : b.max ≤ b.base * 2 ^ k := by omega
    exact (Nat.min_eq_right hle).symm

theorem delayIn_of_le (hk : 32 ≤ k) : b.delayIn second k = b.max := by
  rw [delayIn, if_neg]
  omega

/-- A wait is the exact product, cut at the maximum, if the factor has 32 bits or the product has
reached the maximum, and only then. Any other wait is the maximum. -/
theorem delayIn_exact_iff (second : Nat) (b : Backoff) (failures : Nat)
    (hmax : b.max < spanLimit second) :
    (b.delayIn second failures = min (b.base * 2 ^ failures) b.max ↔
      failures < 32 ∨ b.max ≤ b.base * 2 ^ failures) ∧
    (¬(failures < 32 ∨ b.max ≤ b.base * 2 ^ failures) → b.delayIn second failures = b.max) := by
  by_cases hk : failures < 32
  · have he := delayIn_of_lt hmax hk
    exact ⟨⟨fun _ => .inl hk, fun _ => he⟩, fun h => absurd (.inl hk) h⟩
  · have he : b.delayIn second failures = b.max := delayIn_of_le (by omega)
    rw [he]
    refine ⟨⟨fun h => .inr ?_, fun h => ?_⟩, fun _ => rfl⟩
    · exact h ▸ Nat.min_le_left ..
    · exact (Nat.min_eq_right (h.resolve_left hk)).symm

/-- In nanoseconds: a wait of 1.5 seconds that has doubled once. -/
theorem delayIn_exact_nanoseconds :
    (30000000000 : Nat) < spanLimit 1000000000 ∧
      delayIn 1000000000 ⟨1500000000, 30000000000⟩ 1 = 3000000000 := by
  have hmax : (30000000000 : Nat) < spanLimit 1000000000 := by decide
  have hexact := delayIn_exact_iff 1000000000 ⟨1500000000, 30000000000⟩ 1 hmax
  exact ⟨hmax, hexact.1.mpr (.inl (by decide))⟩

/-- A millisecond that has doubled 32 times is not yet ten million seconds, but the wait is. -/
theorem delay_past_factor : delay ⟨1, 10000000000⟩ 32 = 10000000000 ∧
    min (1 * 2 ^ 32) 10000000000 = 4294967296 := by
  decide

/-! ### Growth -/

theorem delayIn_le_max : b.delayIn second k ≤ b.max := by
  rw [delayIn]
  split
  · exact Nat.min_le_right ..
  · exact Nat.le_refl _

theorem base_le_delayIn (h : b.base ≤ b.max) : b.base ≤ b.delayIn second k := by
  have hp : b.base ≤ b.base * 2 ^ k := Nat.le_mul_of_pos_right _ (Nat.two_pow_pos k)
  rw [delayIn]
  split
  · exact Nat.le_min.mpr ⟨hp, h⟩
  · exact h

/-- A wait below the maximum is an exact product. -/
theorem product_of_lt_max (h : b.delayIn second k < b.max) :
    (k < 32 ∧ b.base * 2 ^ k < spanLimit second) ∧ b.delayIn second k = b.base * 2 ^ k := by
  rw [delayIn] at h ⊢
  split at h
  · rename_i hc
    exact ⟨hc, by rw [if_pos hc]; omega⟩
  · exact absurd h (Nat.lt_irrefl _)

theorem delayIn_mono (h : i ≤ j) : b.delayIn second i ≤ b.delayIn second j := by
  by_cases hj : b.delayIn second j < b.max
  · obtain ⟨⟨hlt, hspan⟩, he⟩ := product_of_lt_max hj
    have hp : b.base * 2 ^ i ≤ b.base * 2 ^ j :=
      Nat.mul_le_mul_left _ (Nat.pow_le_pow_right (by decide) h)
    rw [he, delayIn, if_pos ⟨by omega, by omega⟩]
    exact Nat.le_trans (Nat.min_le_left ..) hp
  · have hi : b.delayIn second i ≤ b.max := delayIn_le_max
    omega

/-- Below the maximum each wait is twice the one before. -/
theorem delayIn_succ (h : b.delayIn second (k + 1) < b.max) :
    b.delayIn second (k + 1) = 2 * b.delayIn second k := by
  obtain ⟨-, hnext⟩ := product_of_lt_max h
  have hk : b.delayIn second k < b.max := Nat.lt_of_le_of_lt (delayIn_mono (Nat.le_succ k)) h
  obtain ⟨-, he⟩ := product_of_lt_max hk
  rw [hnext, he, Nat.pow_succ, ← Nat.mul_assoc, Nat.mul_comm]

/-- The waits of a policy in milliseconds: from a base on they double up to a cap, and they never
shrink. -/
structure Paces (b : Backoff) (base cap : Nat) : Prop where
  pos : ∀ k, 1 ≤ b.delay k
  base_le : ∀ k, base ≤ b.delay k
  le_cap : ∀ k, b.delay k ≤ cap
  mono : ∀ i j, i ≤ j → b.delay i ≤ b.delay j
  doubles : ∀ k, b.delay k < cap → b.delay (k + 1) < cap → b.delay (k + 1) = 2 * b.delay k

end Backoff

/-! ### Configured waits -/

/-- The waits that settings give start with the configured base and end with the configured maximum,
but for a millisecond at least. -/
theorem Config.backoff_paces (c : Config) :
    c.backoff.Paces (max c.backoffBaseMs 1) (max (max c.backoffMaxMs c.backoffBaseMs) 1) := by
  have hbase : c.backoff.base = max c.backoffBaseMs 1 := rfl
  have hcap : c.backoff.max = max (max c.backoffMaxMs c.backoffBaseMs) 1 := by
    rw [Nat.max_assoc]
    rfl
  have hle : c.backoff.base ≤ c.backoff.max := by
    omega
  have hfrom (k : Nat) : c.backoff.base ≤ c.backoff.delay k := Backoff.base_le_delayIn hle
  rw [← hbase, ← hcap]
  exact
    { pos := fun k => Nat.le_trans (Nat.le_max_right ..) (hfrom k)
      base_le := hfrom
      le_cap := fun k => Backoff.delayIn_le_max
      mono := fun i j => Backoff.delayIn_mono
      doubles := fun k _ => Backoff.delayIn_succ }

end ExerciseClient
