/-!
Powers and zeros. The powers of natural numbers and integers and the zero that sums begin with are
those of the core library, also where other structures on numbers are in scope, so that a definition
means the same everywhere.
-/

namespace ExerciseClient

@[default_instance 20000]
instance (priority := 2000) natPower : Pow Nat Nat := instPowNat

@[default_instance 15000]
instance (priority := 2000) intPower : Pow Int Nat := instPowNat

instance (priority := 2000) natZero : Zero Nat := Zero.ofOfNat0

end ExerciseClient
