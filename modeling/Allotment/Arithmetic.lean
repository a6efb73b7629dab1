/-
Powers and sums of numbers are those of the core library, whichever other library is
imported. A definition then means the same in a program that imports nothing else and
next to a proof that does.
-/

attribute [default_instance 20000] instPowNat

namespace Allotment

/-- The zero that an empty sum of numbers is. -/
instance (priority := 20000) zeroNat : Zero Nat := Zero.ofOfNat0

end Allotment
