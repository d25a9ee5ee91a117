import Mathlib.Tactic.Linarith
import VectorLink.Number.Binary64

/-!
# Rounding what need not be rounded

The word nearest to a fraction depends on the number and not on how the fraction is written: a power
of two that numerator and denominator share makes no difference (`Format.round_mul_two_pow`). A
natural number of no more binary digits than a double has is a double exactly
(`Binary64.fraction?_ofInt?`). So dividing such a number rounds only once
(`Binary64.ofIntDividedBy?_eq`).
-/

namespace VectorLink

namespace Format

variable {num den c : Nat}

theorem log2_mul_two_pow (h : num ≠ 0) (k : Nat) : (num * 2 ^ k).log2 = num.log2 + k := by
  induction k with
  | zero => rw [Nat.pow_zero, Nat.mul_one, Nat.add_zero]
  | succ k ih =>
    have hpos : num * 2 ^ k ≠ 0 := Nat.mul_ne_zero h (Nat.two_pow_pos k).ne'
    rw [Nat.pow_succ, ← Nat.mul_assoc, Nat.mul_comm _ 2, Nat.log2_two_mul hpos, ih, Nat.add_assoc]

/-- A common factor stays one when a fraction is scaled. -/
theorem scale_mul (num den c : Nat) (e : Int) :
    scale (num * c) (den * c) e = ((scale num den e).1 * c, (scale num den e).2 * c) := by
  unfold scale
  split
  · rw [Nat.mul_right_comm]
  · rw [Nat.mul_right_comm den]

/-- A common factor does not change a rounded quotient. -/
theorem quotientToEven_mul (hc : 0 < c) :
    quotientToEven (num * c) (den * c) = quotientToEven num den := by
  have hless : 2 * (num % den * c) < den * c ↔ 2 * (num % den) < den := by
    rw [← Nat.mul_assoc]
    exact Nat.mul_lt_mul_right hc
  have hmore : 2 * (num % den * c) > den * c ↔ 2 * (num % den) > den := by
    rw [← Nat.mul_assoc]
    exact Nat.mul_lt_mul_right hc
  simp only [quotientToEven, Nat.mul_div_mul_right _ _ hc, Nat.mul_mod_mul_right, hless, hmore]

theorem floorLog2_mul_two_pow (hnum : num ≠ 0) (hden : den ≠ 0) (k : Nat) :
    floorLog2 (num * 2 ^ k) (den * 2 ^ k) = floorLog2 num den := by
  have hshift : ((num.log2 + k : Nat) : Int) - (den.log2 + k : Nat)
      = (num.log2 : Int) - den.log2 := by omega
  simp only [floorLog2, log2_mul_two_pow hnum, log2_mul_two_pow hden, hshift, scale_mul,
    Nat.mul_le_mul_right_iff (Nat.two_pow_pos k)]

/-- **The word nearest to a fraction does not depend on how the fraction is written.** -/
theorem round_mul_two_pow (f : Format) (hden : den ≠ 0) (k : Nat) :
    f.round (num * 2 ^ k) (den * 2 ^ k) = f.round num den := by
  rcases Nat.eq_zero_or_pos num with rfl | hnum
  · rw [Nat.zero_mul, round, round, if_pos rfl, if_pos rfl]
  · have hpos : num * 2 ^ k ≠ 0 := Nat.mul_ne_zero hnum.ne' (Nat.two_pow_pos k).ne'
    rw [round, round, if_neg hpos, if_neg hnum.ne', floorLog2_mul_two_pow hnum.ne' hden]
    simp only [scale_mul, quotientToEven_mul (Nat.two_pow_pos k)]

theorem floorLog2_one (hnum : num ≠ 0) : floorLog2 num 1 = num.log2 := by
  have hone : (1 : Nat).log2 = 0 := by decide
  have hle : (scale num 1 (-(num.log2 : Int))).2 ≤ (scale num 1 (-(num.log2 : Int))).1 := by
    unfold scale
    split
    · exact Nat.one_le_iff_ne_zero.mpr (Nat.mul_ne_zero hnum (Nat.two_pow_pos _).ne')
    · rw [neg_neg, Int.toNat_natCast, Nat.one_mul]
      exact Nat.log2_self_le hnum
  simp only [floorLog2, hone, Int.natCast_zero, sub_zero, if_pos hle]

/-- A word of a normal number, read by its unit and its significand. -/
theorem magnitude_binary64 {unit m : Nat} (hunit : unit < 2046) (hlow : 2 ^ 52 ≤ m)
    (hhigh : m < 2 ^ 53) :
    binary64.magnitude (unit * 2 ^ 52 + m) = .finite m ((unit : Int) - 1074) := by
  have hfraction : (unit * 2 ^ 52 + m) % 2 ^ 52 = m - 2 ^ 52 := by omega
  have hfield : (unit * 2 ^ 52 + m) / 2 ^ 52 % 2 ^ 11 = unit + 1 := by omega
  have hleast : binary64.leastExponent = -1074 := by decide
  have hlimit : binary64.fractionLimit = 2 ^ 52 := rfl
  have hbits : binary64.exponentBits = 11 := rfl
  have hfinite : ¬unit + 1 = 2 ^ 11 - 1 := by omega
  have hsignificand : 2 ^ 52 + (m - 2 ^ 52) = m := by omega
  have hexponent : (-1074 : Int) + (unit + 1 : Nat) - 1 = (unit : Int) - 1074 := by omega
  simp only [magnitude, hlimit, hbits, hfraction, hfield, if_neg hfinite,
    if_neg (Nat.succ_ne_zero unit), hleast, hsignificand, hexponent]

/-- **A number of few binary digits is rounded to itself**, in units of its last place. -/
theorem round_binary64 {k : Nat} (hk : k ≤ 52) (hlow : 2 ^ 52 ≤ num * 2 ^ k)
    (hhigh : num * 2 ^ k < 2 ^ 53) :
    binary64.round num 1 = (1074 - k) * 2 ^ 52 + num * 2 ^ k := by
  have hnum : num ≠ 0 := by
    rintro rfl
    rw [Nat.zero_mul] at hlow
    omega
  have hsum := log2_mul_two_pow hnum k
  have hlog : (num * 2 ^ k).log2 = 52 :=
    (Nat.log2_eq_iff (Nat.mul_ne_zero hnum (Nat.two_pow_pos k).ne')).mpr ⟨hlow, hhigh⟩
  have hleast : binary64.leastExponent = -1074 := by decide
  have hbits : binary64.fractionBits = 52 := rfl
  have hinfinity : binary64.infinity = 2047 * 2 ^ 52 := by decide
  have hlimit : binary64.fractionLimit = 2 ^ 52 := rfl
  have hunit : max binary64.leastExponent ((num.log2 : Int) - binary64.fractionBits)
      = -(k : Int) := by
    rw [hleast, hbits]
    omega
  have hexact : quotientToEven (num * 2 ^ k) 1 = num * 2 ^ k := by
    rw [quotientToEven, Nat.mod_one, Nat.div_one, Nat.mul_zero, if_pos Nat.one_pos]
  have hscale : scale num 1 (-(-(k : Int))) = (num * 2 ^ k, 1) := by
    rw [neg_neg, scale, if_pos (Int.natCast_nonneg k), Int.toNat_natCast]
  have hoffset : (-(k : Int) - -1074).toNat = 1074 - k := by omega
  rw [round, if_neg hnum, floorLog2_one hnum, hunit]
  have hfinite : (1074 - k) * 2 ^ 52 + num * 2 ^ k ≤ 2047 * 2 ^ 52 := by omega
  simp only [hscale, hexact, pack, hleast, hoffset, hinfinity, hlimit]
  exact Nat.min_eq_right hfinite

end Format

namespace Binary64

variable {n : Nat}

/-- A power of two brings the leading digit of a number to the place of the leading digits of
doubles. -/
theorem exists_leading_place (hpos : n ≠ 0) (hlt : n < 2 ^ 53) :
    ∃ k ≤ 52, 2 ^ 52 ≤ n * 2 ^ k ∧ n * 2 ^ k < 2 ^ 53 := by
  have hlog : n.log2 < 53 := (Nat.log2_lt hpos).mpr hlt
  refine ⟨52 - n.log2, Nat.sub_le _ _, ?_⟩
  have hle := Nat.mul_le_mul_right (2 ^ (52 - n.log2)) (Nat.log2_self_le hpos)
  have hgt := Nat.mul_lt_mul_of_pos_right (Nat.lt_log2_self (n := n))
    (Nat.two_pow_pos (52 - n.log2))
  rw [← Nat.pow_add] at hle hgt
  rw [show n.log2 + (52 - n.log2) = 52 by omega] at hle
  rw [show n.log2 + 1 + (52 - n.log2) = 53 by omega] at hgt
  exact ⟨hle, hgt⟩

/-- The double of a number, once its leading digit is in place. -/
theorem ofFraction_whole {k : Nat} (hk : k ≤ 52) (hlow : 2 ^ 52 ≤ n * 2 ^ k)
    (hhigh : n * 2 ^ k < 2 ^ 53) :
    (ofFraction false n 1).isNegative = false ∧
      (ofFraction false n 1).magnitude = .finite (n * 2 ^ k) (-(k : Int)) := by
  have hround := Format.round_binary64 hk hlow hhigh
  have hmagnitude := Format.magnitude_binary64 (show 1074 - k < 2046 by omega) hlow hhigh
  set word := (1074 - k) * 2 ^ 52 + n * 2 ^ k with hword
  have hbits : (ofFraction false n 1).bits.toNat = word := by
    rw [ofFraction, hround, signed, if_neg Bool.false_ne_true, ofWord, UInt64.toNat_ofNat']
    omega
  have hexponent : ((1074 - k : Nat) : Int) - 1074 = -(k : Int) := by omega
  have hsign : Format.binary64.signWeight = 2 ^ 63 := rfl
  refine ⟨?_, ?_⟩
  · rw [isNegative, hbits, Format.isNegative, hsign, decide_eq_false_iff_not]
    omega
  · rw [magnitude, hbits, hmagnitude, hexponent]

/-- **A number of few binary digits is a double exactly**: as a fraction it is itself, both parts
times the same power of two. -/
theorem fraction?_ofInt? (hpos : n ≠ 0) (hlt : n < 2 ^ 53) :
    ∃ x k, ofInt? n = some x ∧ x.fraction? = some (false, n * 2 ^ k, 2 ^ k) := by
  obtain ⟨k, hk, hlow, hhigh⟩ := exists_leading_place hpos hlt
  obtain ⟨hpositive, hfinite⟩ := ofFraction_whole hk hlow hhigh
  refine ⟨ofFraction false n 1, k, ?_, ?_⟩
  · have hsign : decide ((n : Int) < 0) = false :=
      decide_eq_false (Int.not_lt.mpr (Int.natCast_nonneg n))
    rw [ofInt?]
    simp only [hsign, Int.natAbs_natCast, isInfinite, hfinite]
    rfl
  · rw [fraction?, hfinite, hpositive]
    simp only [Format.scale]
    split
    · next h =>
      obtain rfl : k = 0 := by omega
      rw [Nat.pow_zero, Nat.mul_one, Int.natCast_zero, neg_zero, Int.toNat_zero, Nat.pow_zero,
        Nat.mul_one]
    · rw [neg_neg, Int.toNat_natCast, Nat.one_mul]

/-- **A number of few binary digits is divided with one rounding.** -/
theorem ofIntDividedBy?_eq (hpos : n ≠ 0) (hlt : n < 2 ^ 53) {divisor : Nat}
    (hdivisor : divisor ≠ 0) :
    ofIntDividedBy? n divisor = some (ofFraction false n divisor) := by
  obtain ⟨x, k, hx, hfraction⟩ := fraction?_ofInt? hpos hlt
  rw [ofIntDividedBy?, hx, Option.bind_some, hfraction, Option.map_some]
  dsimp only
  rw [ofFraction, ofFraction, Nat.mul_comm (2 ^ k), Format.round_mul_two_pow _ hdivisor]

end Binary64

end VectorLink
