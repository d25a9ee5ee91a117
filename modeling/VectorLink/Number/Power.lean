/-!
# Powers

A power of a number can be read in two ways where a library of algebra is in sight: as the numbers
have it, or as every monoid has it. Both are the same number, but what a definition says should not
depend on what else is in sight, so the first reading is the one that is meant throughout.
-/

namespace VectorLink

-- where the exponent is a numeral the default decides, and else the priority
/-- **Powers are those that the numbers themselves have.** -/
@[default_instance 10001]
instance (priority := high) power {α : Type} [NatPow α] : Pow α Nat := instPowNat

end VectorLink
