import VectorLink.Number.Format

/-!
# Double and single precision numbers

Doubles are what a caller hands in and singles are what a vector row carries on the wire. Both are
kept as words, so that equality of values is equality of words: `-0.0` differs from `0.0`, and a
not-a-number equals itself. Arithmetic goes through the exact value of the word and back by
`Format.round`.
-/

namespace VectorLink

/-- A double precision number, as its word. -/
structure Binary64 where
  bits : UInt64
  deriving DecidableEq, Repr, Inhabited

/-- A single precision number, as its word. -/
structure Binary32 where
  bits : UInt32
  deriving DecidableEq, Repr, Inhabited

namespace Binary64

/-- The double of a word. -/
def ofWord (n : Nat) : Binary64 := ⟨UInt64.ofNat n⟩

/-- Whether the sign is set. -/
def isNegative (x : Binary64) : Bool := Format.binary64.isNegative x.bits.toNat

/-- What the double stands for, its sign aside. -/
def magnitude (x : Binary64) : Magnitude := Format.binary64.magnitude x.bits.toNat

/-- Whether the double is no number. -/
def isNaN (x : Binary64) : Bool :=
  match x.magnitude with
  | .notANumber _ => true
  | _ => false

/-- The quiet not-a-number without a payload. -/
def nan : Binary64 := ⟨0x7FF8000000000000⟩

/-- Positive zero. -/
def zero : Binary64 := ⟨0⟩

/-- A magnitude word with a sign. -/
def signed (negative : Bool) (word : Nat) : Binary64 :=
  ofWord (if negative then Format.binary64.signWeight + word else word)

/-- The infinity of a sign. -/
def infinity (negative : Bool) : Binary64 := signed negative Format.binary64.infinity

/-- **Every not-a-number as the one without sign and payload**; all other doubles as they are. -/
def canonical (x : Binary64) : Binary64 := if x.isNaN then nan else x

/-- The double nearest to a fraction of the given sign. -/
def ofFraction (negative : Bool) (num den : Nat) : Binary64 :=
  signed negative (Format.binary64.round num den)

/-- Whether a double is infinite. -/
def isInfinite (x : Binary64) : Bool := x.magnitude = .infinite

/-- The double nearest to an integer; none if the integer is past the finite doubles. -/
def ofInt? (n : Int) : Option Binary64 :=
  let x := ofFraction (n < 0) n.natAbs 1
  if x.isInfinite then none else some x

/-- The fraction that a finite double is: its sign, numerator and denominator. -/
def fraction? (x : Binary64) : Option (Bool × Nat × Nat) :=
  match x.magnitude with
  | .finite m e => some (x.isNegative, Format.scale m 1 e)
  | _ => none

/-- **The integer part of a finite double**, the fraction cut off. -/
def truncate? (x : Binary64) : Option Int :=
  x.fraction?.map fun (negative, num, den) =>
    if negative then -((num / den : Nat) : Int) else (num / den : Nat)

/-- The largest integer not above a finite double. -/
def floor? (x : Binary64) : Option Int :=
  x.fraction?.map fun (negative, num, den) =>
    if negative then -(((num + den - 1) / den : Nat) : Int) else (num / den : Nat)

/-- The integer that a double is, if it is one. -/
def toInt? (x : Binary64) : Option Int :=
  match x.fraction? with
  | some (negative, num, den) =>
    if num % den = 0 then
      some (if negative then -((num / den : Nat) : Int) else (num / den : Nat))
    else none
  | none => none

/-- Whether a double is strictly above zero; a not-a-number is not. -/
def isPositive (x : Binary64) : Bool :=
  !x.isNegative &&
    match x.magnitude with
    | .finite m _ => m != 0
    | .infinite => true
    | .notANumber _ => false

/-- Whether a double is zero, of either sign. -/
def isZero (x : Binary64) : Bool :=
  match x.magnitude with
  | .finite m _ => m == 0
  | _ => false

/-- Whether two doubles are equal as numbers: zeros are, a not-a-number is equal to nothing. -/
def equals (x y : Binary64) : Bool :=
  !x.isNaN && !y.isNaN && (x == y || (x.isZero && y.isZero))

/-- The difference of a double and a natural number that is exact as a double, rounded once. -/
def minusNat (x : Binary64) (n : Nat) : Binary64 :=
  match x.fraction? with
  | some (negative, num, den) =>
    let exact : Int := (if negative then -(num : Int) else num) - (n * den : Nat)
    ofFraction (exact < 0) exact.natAbs den
  | none => x

/-- The quotient of an integer, first rounded to a double, by a positive natural number. -/
def ofIntDividedBy? (n : Int) (divisor : Nat) : Option Binary64 :=
  (ofInt? n).bind fun x =>
    x.fraction?.map fun (negative, num, den) => ofFraction negative num (den * divisor)

/-- The double of the opposite sign. -/
def opposite (x : Binary64) : Binary64 :=
  let word := x.bits.toNat
  ofWord (if x.isNegative then word - Format.binary64.signWeight
    else word + Format.binary64.signWeight)

/-- The product of two doubles. -/
def times (x y : Binary64) : Binary64 :=
  let negative := x.isNegative != y.isNegative
  match x.fraction?, y.fraction? with
  | some (_, m, d), some (_, n, e) => ofFraction negative (m * n) (d * e)
  | _, _ => if x.isNaN || y.isNaN || x.isZero || y.isZero then nan else infinity negative

/-- The sum of two doubles. -/
def plus (x y : Binary64) : Binary64 :=
  match x.fraction?, y.fraction? with
  | some (s, m, d), some (t, n, e) =>
    let left : Int := (m * e : Nat)
    let right : Int := (n * d : Nat)
    let exact := (if s then -left else left) + (if t then -right else right)
    ofFraction (if exact = 0 then s && t else exact < 0) exact.natAbs (d * e)
  | none, none => if x = y then x.canonical else nan
  | none, some _ => x.canonical
  | some _, none => y.canonical

/-- **The single nearest to a double.** -/
def toBinary32 (x : Binary64) : Binary32 :=
  ⟨UInt32.ofNat (Format.convert .binary64 .binary32 x.bits.toNat)⟩

end Binary64

namespace Binary32

/-- **The double that a single is.** Every single is a double exactly. -/
def toBinary64 (x : Binary32) : Binary64 :=
  .ofWord (Format.convert .binary32 .binary64 x.bits.toNat)

end Binary32

end VectorLink
