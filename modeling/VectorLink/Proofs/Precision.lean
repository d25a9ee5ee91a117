import VectorLink.Proofs.Rounding

/-!
# Rounding to single precision twice

A component of a vector is rounded to single precision when a request is put together. If it came
in an array it was rounded before, and went back to a double in between. What keeps the second
rounding from doing harm is that a number which a format has is not rounded by it, however the
number is written (`Format.roundScaled_magnitude`). Every finite single is a double whose
significand is shifted to the leading place (`Format.magnitude_widened`), and the shift does not
matter for the way back.

Infinities and words that are no numbers take the same way. The latter come out quiet, whatever they
were, and a quiet one comes back unchanged. So the outcome is the same to the last bit for all
doubles (`Binary64.toBinary32_toBinary64_toBinary32`).
-/

namespace VectorLink

namespace Format

variable {f : Format} {m w p : Nat} {e : Int}

/-! ## Numbers that are words already -/

theorem floorLog2_two_pow (hm : m ≠ 0) (k : Nat) : floorLog2 m (2 ^ k) = (m.log2 : Int) - k := by
  have hself := Nat.log2_self_le hm
  have hle : (scale m (2 ^ k) (-((m.log2 : Int) - k))).2
      ≤ (scale m (2 ^ k) (-((m.log2 : Int) - k))).1 := by
    unfold scale
    split
    · have hshift : (-((m.log2 : Int) - k)).toNat = k - m.log2 := by omega
      have hsum : m.log2 + (k - m.log2) = k := by omega
      calc 2 ^ k = 2 ^ m.log2 * 2 ^ (k - m.log2) := by rw [← Nat.pow_add, hsum]
        _ ≤ m * 2 ^ (-((m.log2 : Int) - k)).toNat := by
          rw [hshift]
          exact Nat.mul_le_mul_right _ hself
    · have hshift : (- -((m.log2 : Int) - k)).toNat = m.log2 - k := by omega
      have hsum : k + (m.log2 - k) = m.log2 := by omega
      calc 2 ^ k * 2 ^ (- -((m.log2 : Int) - k)).toNat = 2 ^ m.log2 := by
            rw [hshift, ← Nat.pow_add, hsum]
        _ ≤ m := hself
  simp only [floorLog2, Nat.log2_two_pow, if_pos hle]

/-- The logarithm of a number times a power of two. -/
theorem floorLog2_scale (hm : m ≠ 0) (e : Int) :
    floorLog2 (scale m 1 e).1 (scale m 1 e).2 = m.log2 + e := by
  unfold scale
  split
  · have hpos : m * 2 ^ e.toNat ≠ 0 := Nat.mul_ne_zero hm (Nat.two_pow_pos _).ne'
    rw [floorLog2_one hpos, log2_mul_two_pow hm]
    omega
  · rw [Nat.one_mul, floorLog2_two_pow hm]
    omega

/-- Scaling there and back gives the number itself, over a common factor. -/
theorem scale_scale_neg (m : Nat) (e : Int) :
    ∃ c, 0 < c ∧ scale (scale m 1 e).1 (scale m 1 e).2 (-e) = (m * c, 1 * c) := by
  unfold scale
  split
  · next hneg =>
    split
    · obtain rfl : e = 0 := by omega
      exact ⟨1, Nat.one_pos, by simp⟩
    · exact ⟨2 ^ (-e).toNat, Nat.two_pow_pos _, rfl⟩
  · next hpos =>
    rw [if_pos (by omega), neg_neg]
    exact ⟨2 ^ e.toNat, Nat.two_pow_pos _, rfl⟩

theorem scale_fst_eq_zero_iff (m : Nat) (e : Int) : (scale m 1 e).1 = 0 ↔ m = 0 := by
  unfold scale
  split
  · exact Nat.mul_eq_zero.trans (or_iff_left (Nat.two_pow_pos _).ne')
  · exact Iff.rfl

theorem quotientToEven_one (m : Nat) : quotientToEven m 1 = m := by
  rw [quotientToEven, Nat.mod_one, Nat.div_one, Nat.mul_zero, if_pos Nat.one_pos]

theorem roundScaled_zero (f : Format) (e : Int) : f.roundScaled 0 e = 0 := by
  show f.round (scale 0 1 e).1 (scale 0 1 e).2 = 0
  rw [round, if_pos ((scale_fst_eq_zero_iff 0 e).mpr rfl)]

/-- **A number is not rounded** if it has few enough digits and its unit is one of the format. -/
theorem roundScaled_exact (hm : m < 2 * f.fractionLimit) (he : f.leastExponent ≤ e)
    (hlead : e = f.leastExponent ∨ f.fractionLimit ≤ m) :
    f.roundScaled m e
      = min f.infinity ((e - f.leastExponent).toNat * f.fractionLimit + m) := by
  have hlimit : 0 < f.fractionLimit := Nat.two_pow_pos _
  rcases Nat.eq_zero_or_pos m with rfl | hpos
  · -- zero has no leading digit, so its unit is the least one
    obtain rfl : e = f.leastExponent := hlead.resolve_right (by omega)
    rw [roundScaled_zero, sub_self, Int.toNat_zero, Nat.zero_mul, Nat.zero_add, Nat.min_zero]
  · have hlog : m.log2 ≤ f.fractionBits := by
      refine Nat.lt_succ_iff.mp ((Nat.log2_lt hpos.ne').mpr ?_)
      rw [Nat.pow_succ, Nat.mul_comm]
      exact hm
    have hunit : max f.leastExponent ((m.log2 : Int) + e - f.fractionBits) = e := by
      obtain rfl | hle := hlead
      · omega
      · have hge : f.fractionBits ≤ m.log2 := (Nat.le_log2 hpos.ne').mpr hle
        omega
    obtain ⟨c, hc, hback⟩ := scale_scale_neg m e
    show f.round (scale m 1 e).1 (scale m 1 e).2 = _
    rw [round, if_neg (mt (scale_fst_eq_zero_iff m e).mp hpos.ne'), floorLog2_scale hpos.ne', hunit]
    simp only [hback, quotientToEven_mul hc, quotientToEven_one, pack]

/-- **A power of two may go from the unit of a number to the number.** -/
theorem roundScaled_shift (f : Format) (m : Nat) (e : Int) (k : Nat) :
    f.roundScaled (m * 2 ^ k) (e - k) = f.roundScaled m e := by
  unfold roundScaled scale
  by_cases hshifted : 0 ≤ e - k
  · have hsum : k + (e - k).toNat = e.toNat := by omega
    rw [if_pos hshifted, if_pos (show 0 ≤ e by omega), Nat.mul_assoc, ← Nat.pow_add, hsum]
  · rw [if_neg hshifted]
    by_cases he : 0 ≤ e
    · have hsum : k = e.toNat + (-(e - k)).toNat := by omega
      have hpow : m * 2 ^ k = m * 2 ^ e.toNat * 2 ^ (-(e - k)).toNat := by
        rw [Nat.mul_assoc, ← Nat.pow_add, ← hsum]
      rw [if_pos he, hpow]
      exact round_mul_two_pow f Nat.one_ne_zero _
    · have hsum : (-(e - k)).toNat = (-e).toNat + k := by omega
      rw [if_neg he, hsum, Nat.pow_add, Nat.one_mul, Nat.one_mul]
      exact round_mul_two_pow f (Nat.two_pow_pos _).ne' k

/-! ## Words by what they stand for -/

theorem fractionLimit_pos (f : Format) : 0 < f.fractionLimit := Nat.two_pow_pos _

theorem signWeight_eq (f : Format) : f.signWeight = 2 ^ f.exponentBits * f.fractionLimit := by
  rw [signWeight, fractionLimit, Nat.pow_add, Nat.mul_comm]

/-- A word without a sign is its exponent field and its fraction. -/
theorem word_eq (hw : w < f.signWeight) :
    w / f.fractionLimit % 2 ^ f.exponentBits * f.fractionLimit + w % f.fractionLimit = w := by
  rw [signWeight_eq] at hw
  rw [Nat.mod_eq_of_lt (Nat.div_lt_of_lt_mul (Nat.mul_comm .. ▸ hw))]
  exact Nat.div_add_mod' w f.fractionLimit

/-- **The word of a finite number** is told by its significand and its unit. -/
theorem eq_of_magnitude_finite (hw : w < f.signWeight) (h : f.magnitude w = .finite m e) :
    w = (e - f.leastExponent).toNat * f.fractionLimit + m ∧ w ≤ f.infinity ∧
      m < 2 * f.fractionLimit ∧ f.leastExponent ≤ e ∧
      (e = f.leastExponent ∨ f.fractionLimit ≤ m) := by
  have hword := word_eq hw
  have hfraction := Nat.mod_lt w f.fractionLimit_pos
  have hfield := Nat.mod_lt (w / f.fractionLimit) (Nat.two_pow_pos f.exponentBits)
  unfold magnitude at h
  dsimp only at h
  set field := w / f.fractionLimit % 2 ^ f.exponentBits
  set fraction := w % f.fractionLimit
  split at h
  · split at h <;> cases h
  · next hgreatest =>
    have hle : w ≤ f.infinity := by
      have hlt : field + 1 ≤ 2 ^ f.exponentBits - 1 := by omega
      have hmul := Nat.mul_le_mul_right f.fractionLimit hlt
      rw [Nat.succ_mul] at hmul
      rw [infinity]
      omega
    split at h
    · next hsubnormal =>
      obtain ⟨rfl, rfl⟩ := Magnitude.finite.inj h
      rw [hsubnormal, Nat.zero_mul, Nat.zero_add] at hword
      refine ⟨?_, hle, by omega, le_refl _, .inl rfl⟩
      rw [sub_self, Int.toNat_zero, Nat.zero_mul, Nat.zero_add, hword]
    · next hnormal =>
      obtain ⟨rfl, rfl⟩ := Magnitude.finite.inj h
      have hoffset : (f.leastExponent + field - 1 - f.leastExponent).toNat = field - 1 := by omega
      have hcarry : (field - 1) * f.fractionLimit + f.fractionLimit = field * f.fractionLimit := by
        rw [← Nat.succ_mul, Nat.succ_eq_add_one, Nat.sub_add_cancel (Nat.pos_of_ne_zero hnormal)]
      refine ⟨?_, hle, by omega, by omega, .inr (Nat.le_add_right _ _)⟩
      rw [hoffset]
      omega

theorem eq_of_magnitude_infinite (hw : w < f.signWeight) (h : f.magnitude w = .infinite) :
    w = f.infinity := by
  have hword := word_eq hw
  unfold magnitude at h
  dsimp only at h
  split at h
  · next hfield =>
    split at h
    · next hfraction =>
      rw [hfield, hfraction] at hword
      exact hword.symm
    · cases h
  · split at h <;> cases h

theorem payload_of_magnitude (h : f.magnitude w = .notANumber p) :
    w / f.fractionLimit % 2 ^ f.exponentBits = 2 ^ f.exponentBits - 1 ∧
      w % f.fractionLimit = p ∧ 0 < p ∧ p < f.fractionLimit := by
  unfold magnitude at h
  dsimp only at h
  split at h
  · next hfield =>
    split at h
    · cases h
    · next hfraction =>
      obtain rfl := Magnitude.notANumber.inj h
      exact ⟨hfield, rfl, Nat.pos_of_ne_zero hfraction, Nat.mod_lt _ f.fractionLimit_pos⟩
  · split at h <;> cases h

theorem eq_of_magnitude_notANumber (hw : w < f.signWeight) (h : f.magnitude w = .notANumber p) :
    w = f.infinity + p := by
  obtain ⟨hfield, hfraction, -⟩ := payload_of_magnitude h
  have hword := word_eq hw
  rw [hfield, hfraction] at hword
  exact hword.symm

/-- **A finite number is rounded to its own word.** -/
theorem roundScaled_magnitude (hw : w < f.signWeight) (h : f.magnitude w = .finite m e) :
    f.roundScaled m e = w := by
  obtain ⟨hword, hle, hm, he, hlead⟩ := eq_of_magnitude_finite hw h
  rw [roundScaled_exact hm he hlead, ← hword, Nat.min_eq_right hle]

theorem magnitude_infinity_add (hp : p < f.fractionLimit) :
    f.magnitude (f.infinity + p) = if p = 0 then .infinite else .notANumber p := by
  have hfraction : (f.infinity + p) % f.fractionLimit = p := by
    rw [infinity, Nat.mul_add_mod_of_lt hp]
  have hfield : (f.infinity + p) / f.fractionLimit % 2 ^ f.exponentBits
      = 2 ^ f.exponentBits - 1 := by
    rw [infinity, Nat.mul_comm, Nat.mul_add_div f.fractionLimit_pos, Nat.div_eq_of_lt hp,
      Nat.add_zero, Nat.mod_eq_of_lt (Nat.sub_lt (Nat.two_pow_pos _) Nat.one_pos)]
  unfold magnitude
  dsimp only
  rw [hfraction, hfield, if_pos rfl]

theorem infinity_add_lt_signWeight (hp : p < f.fractionLimit) : f.infinity + p < f.signWeight := by
  have hone : 1 ≤ 2 ^ f.exponentBits := Nat.one_le_two_pow
  have hsum : f.infinity + f.fractionLimit = f.signWeight := by
    rw [infinity, signWeight_eq, ← Nat.succ_mul, Nat.succ_eq_add_one, Nat.sub_add_cancel hone]
  omega

theorem round_le_infinity (f : Format) (num den : Nat) : f.round num den ≤ f.infinity := by
  unfold round
  split
  · exact Nat.zero_le _
  · exact Nat.min_le_left _ _

/-! ## Signs -/

/-- A word with a sign. -/
def withSign (f : Format) (negative : Bool) (w : Nat) : Nat :=
  if negative then f.signWeight + w else w

theorem magnitude_withSign (negative : Bool) :
    f.magnitude (f.withSign negative w) = f.magnitude w := by
  cases negative with
  | false => rfl
  | true =>
    have hfraction : (f.signWeight + w) % f.fractionLimit = w % f.fractionLimit := by
      rw [signWeight_eq, Nat.mul_add_mod']
    have hfield : (f.signWeight + w) / f.fractionLimit % 2 ^ f.exponentBits
        = w / f.fractionLimit % 2 ^ f.exponentBits := by
      rw [signWeight_eq, Nat.mul_comm, Nat.mul_add_div f.fractionLimit_pos, Nat.add_mod_left]
    unfold magnitude withSign
    dsimp only
    rw [if_pos rfl, hfraction, hfield]

theorem isNegative_withSign (hw : w < f.signWeight) (negative : Bool) :
    f.isNegative (f.withSign negative w) = negative := by
  have hpos : 0 < f.signWeight := Nat.two_pow_pos _
  cases negative with
  | false =>
    rw [withSign, if_neg Bool.false_ne_true, isNegative, Nat.div_eq_of_lt hw]
    rfl
  | true =>
    rw [withSign, if_pos rfl, isNegative, Nat.add_div_left _ hpos, Nat.div_eq_of_lt hw]
    rfl

theorem withSign_lt (hw : w < f.signWeight) (negative : Bool) :
    f.withSign negative w < 2 * f.signWeight := by
  unfold withSign
  split <;> omega

/-! ## Words in another format -/

/-- The word of another format that stands for what a word stands for, its sign aside. -/
def transfer (source target : Format) : Magnitude → Nat
  | .finite m e => target.roundScaled m e
  | .infinite => target.infinity
  | .notANumber payload => target.infinity + quietPayload source target payload

/-- The sign goes its own way. -/
theorem convert_eq (source target : Format) (w : Nat) :
    source.convert target w
      = target.withSign (source.isNegative w) (transfer source target (source.magnitude w)) := by
  unfold convert withSign
  cases source.isNegative w
  · rw [if_neg Bool.false_ne_true, if_neg Bool.false_ne_true]
    exact (Nat.zero_add _).trans (by cases source.magnitude w <;> rfl)
  · rw [if_pos rfl, if_pos rfl]
    cases source.magnitude w <;> rfl

/-- A word that is no number is **quiet**: the leading bit of its fraction is set. -/
def IsQuiet (f : Format) (w : Nat) : Prop :=
  ∀ p, f.magnitude w = .notANumber p → f.fractionLimit ≤ 2 * p

theorem isQuiet_of_le_infinity (hw : w ≤ f.infinity) : w < f.signWeight ∧ f.IsQuiet w := by
  have hlt : w < f.signWeight :=
    hw.trans_lt (Nat.add_zero f.infinity ▸ infinity_add_lt_signWeight f.fractionLimit_pos)
  refine ⟨hlt, fun p hp => ?_⟩
  have hword := eq_of_magnitude_notANumber hlt hp
  have hpos := (payload_of_magnitude hp).2.2.1
  omega

theorem quietPayload_narrow (hp : p < 2 ^ 52) :
    2 ^ 22 ≤ quietPayload binary64 binary32 p ∧ quietPayload binary64 binary32 p < 2 ^ 23 := by
  have hdown : ¬ binary64.fractionBits ≤ binary32.fractionBits := by decide
  have hmoved : 2 ^ (binary64.fractionBits - binary32.fractionBits) = 2 ^ 29 := rfl
  have hquiet : binary32.fractionLimit / 2 = 2 ^ 22 := rfl
  simp only [quietPayload, if_neg hdown, hmoved, hquiet]
  split <;> omega

/-- A quiet payload is not changed by the way to doubles and back. -/
theorem quietPayload_widen (hlow : 2 ^ 22 ≤ p) (hhigh : p < 2 ^ 23) :
    quietPayload binary32 binary64 p = p * 2 ^ 29 ∧
      quietPayload binary64 binary32 (p * 2 ^ 29) = p := by
  have hup : binary32.fractionBits ≤ binary64.fractionBits := by decide
  have hdown : ¬ binary64.fractionBits ≤ binary32.fractionBits := by decide
  have hmoved : 2 ^ (binary64.fractionBits - binary32.fractionBits) = 2 ^ 29 := rfl
  have hwide : binary64.fractionLimit / 2 = 2 ^ 51 := rfl
  have hnarrow : binary32.fractionLimit / 2 = 2 ^ 22 := rfl
  have hback : p * 2 ^ 29 / 2 ^ 29 = p := Nat.mul_div_cancel _ (Nat.two_pow_pos _)
  simp only [quietPayload, if_pos hup, if_neg hdown, hmoved, hwide, hnarrow, hback]
  exact ⟨if_pos (by omega), if_pos (by omega)⟩

/-- **Narrowing gives a quiet word.** -/
theorem isQuiet_narrowed (w : Nat) :
    transfer binary64 binary32 (binary64.magnitude w) < binary32.signWeight ∧
      binary32.IsQuiet (transfer binary64 binary32 (binary64.magnitude w)) := by
  cases h : binary64.magnitude w with
  | finite m e => exact isQuiet_of_le_infinity (round_le_infinity _ _ _)
  | infinite => exact isQuiet_of_le_infinity (le_refl _)
  | notANumber q =>
    have hlimit : binary32.fractionLimit = 2 ^ 23 := rfl
    obtain ⟨hlow, hhigh⟩ := quietPayload_narrow (payload_of_magnitude h).2.2.2
    refine ⟨infinity_add_lt_signWeight hhigh, fun p hp => ?_⟩
    rw [transfer, magnitude_infinity_add hhigh, if_neg (by omega)] at hp
    obtain rfl := Magnitude.notANumber.inj hp
    omega

/-- **A finite single is a double exactly**, with its significand in the leading place. -/
theorem magnitude_widened (hm : m ≠ 0) (hlt : m < 2 ^ 24) (hlow : -149 ≤ e) (hhigh : e ≤ 106) :
    binary64.roundScaled m e < binary64.signWeight ∧
      ∃ k : Nat, binary64.magnitude (binary64.roundScaled m e) = .finite (m * 2 ^ k) (e - k) := by
  obtain ⟨k, hk, hleading, hbelow⟩ := Binary64.exists_leading_place hm (by omega)
  have hleast : binary64.leastExponent = -1074 := by decide
  have hlimit : binary64.fractionLimit = 2 ^ 52 := rfl
  have hinfinity : binary64.infinity = 2047 * 2 ^ 52 := by decide
  have hsign : binary64.signWeight = 2 ^ 63 := rfl
  set unit := (e - k - binary64.leastExponent).toNat with hunit
  have hunitLt : unit < 2046 := by omega
  have hexponent : (unit : Int) - 1074 = e - k := by omega
  have hfinite : unit * 2 ^ 52 + m * 2 ^ k ≤ 2047 * 2 ^ 52 := by omega
  have hword : binary64.roundScaled m e = unit * 2 ^ 52 + m * 2 ^ k := by
    rw [← roundScaled_shift binary64 m e k,
      roundScaled_exact (by omega) (by omega) (.inr hleading), ← hunit, hlimit, hinfinity,
      Nat.min_eq_right hfinite]
  rw [hword]
  refine ⟨by omega, k, ?_⟩
  rw [magnitude_binary64 hunitLt hleading hbelow, hexponent]

/-- **What is widened and narrowed again is the same**, if it is quiet. -/
theorem narrowed_widened (hw : w < binary32.signWeight) (hquiet : binary32.IsQuiet w) :
    transfer binary32 binary64 (binary32.magnitude w) < binary64.signWeight ∧
      transfer binary64 binary32
        (binary64.magnitude (transfer binary32 binary64 (binary32.magnitude w))) = w := by
  have hlimit : binary32.fractionLimit = 2 ^ 23 := rfl
  cases h : binary32.magnitude w with
  | finite m e =>
    have hleast : binary32.leastExponent = -149 := by decide
    have hinfinity : binary32.infinity = 255 * 2 ^ 23 := by decide
    obtain ⟨hword, hle, hm, he, hlead⟩ := eq_of_magnitude_finite hw h
    rw [hlimit, hleast] at hword
    rcases Nat.eq_zero_or_pos m with rfl | hpos
    · have hzero : binary64.magnitude 0 = .finite 0 (-1074) := by decide
      have hw : w = 0 := by omega
      rw [transfer, roundScaled_zero, hzero, transfer, roundScaled_zero, hw]
      exact ⟨by decide, rfl⟩
    · obtain ⟨hlt, k, hwide⟩ := magnitude_widened hpos.ne' (by omega) (e := e) (by omega) (by omega)
      rw [transfer, hwide, transfer, roundScaled_shift, roundScaled_magnitude hw h]
      exact ⟨hlt, rfl⟩
  | infinite =>
    have hinfinite : binary64.magnitude (binary64.infinity + 0) = .infinite :=
      magnitude_infinity_add binary64.fractionLimit_pos
    refine ⟨infinity_add_lt_signWeight binary64.fractionLimit_pos, ?_⟩
    rw [transfer, ← Nat.add_zero binary64.infinity, hinfinite, eq_of_magnitude_infinite hw h]
    rfl
  | notANumber p =>
    obtain ⟨-, -, hpos, hlt⟩ := payload_of_magnitude h
    have hlow := hquiet p h
    obtain ⟨hwide, hback⟩ := quietPayload_widen (p := p) (by omega) (by omega)
    have hwideLt : p * 2 ^ 29 < binary64.fractionLimit := by
      have hlimit : binary64.fractionLimit = 2 ^ 52 := rfl
      omega
    rw [transfer, hwide]
    refine ⟨infinity_add_lt_signWeight hwideLt, ?_⟩
    rw [magnitude_infinity_add hwideLt, if_neg (by omega), transfer, hback,
      eq_of_magnitude_notANumber hw h]

/-- **Narrowing once more changes nothing**, and every word on the way has its size. -/
theorem convert_convert_convert (w : Nat) :
    binary64.convert binary32 w < 2 ^ 32 ∧
      binary32.convert binary64 (binary64.convert binary32 w) < 2 ^ 64 ∧
      binary64.convert binary32 (binary32.convert binary64 (binary64.convert binary32 w))
        = binary64.convert binary32 w := by
  obtain ⟨hlt, hquiet⟩ := isQuiet_narrowed w
  obtain ⟨hwide, hback⟩ := narrowed_widened hlt hquiet
  rw [convert_eq binary64 binary32 w, convert_eq binary32 binary64, isNegative_withSign hlt,
    magnitude_withSign]
  refine ⟨withSign_lt hlt _, withSign_lt hwide _, ?_⟩
  rw [convert_eq binary64 binary32, isNegative_withSign hwide, magnitude_withSign, hback]

end Format

/-- **A double that is rounded to single precision twice** is rounded once. -/
theorem Binary64.toBinary32_toBinary64_toBinary32 (x : Binary64) :
    x.toBinary32.toBinary64.toBinary32 = x.toBinary32 := by
  obtain ⟨hnarrow, hwide, hback⟩ := Format.convert_convert_convert x.bits.toNat
  simp only [toBinary32, Binary32.toBinary64, ofWord, UInt32.toNat_ofNat', UInt64.toNat_ofNat',
    Nat.mod_eq_of_lt hnarrow, Nat.mod_eq_of_lt hwide, hback]

end VectorLink
