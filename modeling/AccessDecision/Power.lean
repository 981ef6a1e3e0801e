/-
  Powers of natural numbers

  The power of two natural numbers is the one they come with, also where a theory
  of monoids with powers of its own is at hand.
-/

/-- Comes before any other power of natural numbers. -/
@[default_instance 20000]
instance (priority := high) natPow : Pow Nat Nat := instPowNat
