import ExerciseClient.Arithmetic

/-!
Exponential backoff: after `k` failures in a row the wait is `base * 2 ^ k`, at most `max`. The
factor has 32 bits and a wait is a span of at most `2 ^ 64` seconds, so a factor or a product past
that is the maximum at once.
-/

namespace ExerciseClient

/-- A backoff policy; spans are counted in parts of a second. -/
structure Backoff where
  base : Nat
  max : Nat
deriving DecidableEq, Repr

namespace Backoff

/-- The wait doubles from one second up to half a minute, in milliseconds. -/
def standard : Backoff := ⟨1000, 30000⟩

/-- The parts of a second that are past the longest span, where a second has `second` of them. -/
def spanLimit (second : Nat) : Nat := 2 ^ 64 * second

/-- The wait after `failures` failures in a row, where a second has `second` parts. -/
def delayIn (second : Nat) (b : Backoff) (failures : Nat) : Nat :=
  if failures < 32 ∧ b.base * 2 ^ failures < spanLimit second then
    min (b.base * 2 ^ failures) b.max
  else b.max

/-- The wait in milliseconds. -/
def delay (b : Backoff) (failures : Nat) : Nat := b.delayIn 1000 failures

end Backoff

end ExerciseClient
