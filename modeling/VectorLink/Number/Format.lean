import VectorLink.Number.Power

/-!
# Binary interchange formats

A word of a binary floating-point format is a sign, an exponent field and a fraction field. This
module says what number a word stands for and which word stands nearest to a number, for every such
format at once, in exact arithmetic on natural numbers.

## Why one line packs every result

Let `u` be the exponent of the unit in the last place and `q` the rounded quotient in that unit. The
word of the result is `(u - least) * 2 ^ fractionBits + q` (`Format.pack`): for the least unit this
is `q` itself, which covers the subnormal words and the first normal ones, and for every other unit
the leading one of `q` adds the missing one to the exponent field. A carry out of the rounding then
lands in the exponent field by itself, and a result too large to be finite is cut off at the word of
infinity.
-/

namespace VectorLink

/-- A binary interchange format: the widths of its fraction and exponent fields. -/
structure Format where
  fractionBits : Nat
  exponentBits : Nat
  deriving DecidableEq, Repr

/-- What a word without its sign stands for. -/
inductive Magnitude where
  /-- The number `significand * 2 ^ exponent`. -/
  | finite (significand : Nat) (exponent : Int)
  | infinite
  /-- No number; the fraction field is kept. -/
  | notANumber (payload : Nat)
  deriving DecidableEq, Repr

namespace Format

/-- Half precision. -/
def binary16 : Format := ⟨10, 5⟩
/-- Single precision. -/
def binary32 : Format := ⟨23, 8⟩
/-- Double precision. -/
def binary64 : Format := ⟨52, 11⟩

/-- One more than the greatest fraction. -/
def fractionLimit (f : Format) : Nat := 2 ^ f.fractionBits

/-- The word of infinity: the greatest exponent field and no fraction. -/
def infinity (f : Format) : Nat := (2 ^ f.exponentBits - 1) * f.fractionLimit

/-- The weight of the sign in a word. -/
def signWeight (f : Format) : Nat := 2 ^ (f.fractionBits + f.exponentBits)

/-- The exponent of the unit in the last place of the subnormal words. -/
def leastExponent (f : Format) : Int :=
  2 - (2 ^ (f.exponentBits - 1) : Nat) - f.fractionBits

/-- **What a word stands for**, its sign aside. -/
def magnitude (f : Format) (word : Nat) : Magnitude :=
  let fraction := word % f.fractionLimit
  let field := word / f.fractionLimit % 2 ^ f.exponentBits
  if field = 2 ^ f.exponentBits - 1 then
    if fraction = 0 then .infinite else .notANumber fraction
  else if field = 0 then .finite fraction f.leastExponent
  else .finite (f.fractionLimit + fraction) (f.leastExponent + field - 1)

/-- Whether a word has its sign set. -/
def isNegative (f : Format) (word : Nat) : Bool := word / f.signWeight % 2 = 1

/-- **The quotient rounded to the nearest whole number**, a half to the even one. -/
def quotientToEven (num den : Nat) : Nat :=
  let q := num / den
  let r := num % den
  if 2 * r < den then q else if 2 * r > den then q + 1 else q + q % 2

/-- The fraction `num / den` times a power of two, as a numerator and a denominator. -/
def scale (num den : Nat) (exponent : Int) : Nat × Nat :=
  if 0 ≤ exponent then (num * 2 ^ exponent.toNat, den)
  else (num, den * 2 ^ (-exponent).toNat)

/-- The greatest `k` with `2 ^ k ≤ num / den`, for positive arguments. -/
def floorLog2 (num den : Nat) : Int :=
  let k : Int := (num.log2 : Int) - den.log2
  let (n, d) := scale num den (-k)
  if d ≤ n then k else k - 1

/-- The word of `q` units of exponent `unit`, cut off at infinity. -/
def pack (f : Format) (unit : Int) (q : Nat) : Nat :=
  min f.infinity ((unit - f.leastExponent).toNat * f.fractionLimit + q)

/-- **The word nearest to a fraction** with a positive denominator, ties to even. -/
def round (f : Format) (num den : Nat) : Nat :=
  if num = 0 then 0
  else
    let unit := max f.leastExponent (floorLog2 num den - f.fractionBits)
    let (n, d) := scale num den (-unit)
    f.pack unit (quotientToEven n d)

/-- The word nearest to `significand * 2 ^ exponent`. -/
def roundScaled (f : Format) (significand : Nat) (exponent : Int) : Nat :=
  let (n, d) := scale significand 1 exponent
  f.round n d

/-- The fraction field of a quiet not-a-number that keeps the leading bits of a payload of another
format. -/
def quietPayload (source target : Format) (payload : Nat) : Nat :=
  let moved :=
    if source.fractionBits ≤ target.fractionBits then
      payload * 2 ^ (target.fractionBits - source.fractionBits)
    else payload / 2 ^ (source.fractionBits - target.fractionBits)
  let quiet := target.fractionLimit / 2
  if moved / quiet % 2 = 1 then moved else moved + quiet

/-- **A word of one format in another**: the nearest word, with the sign kept and a not-a-number
quieted. -/
def convert (source target : Format) (word : Nat) : Nat :=
  let sign := if source.isNegative word then target.signWeight else 0
  sign +
    match source.magnitude word with
    | .finite m e => target.roundScaled m e
    | .infinite => target.infinity
    | .notANumber payload => target.infinity + quietPayload source target payload

end Format

end VectorLink
