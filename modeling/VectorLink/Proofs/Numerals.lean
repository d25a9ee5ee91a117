import Mathlib.Algebra.Order.Ring.Nat
import VectorLink.Number.Numeral

/-!
# Numerals that were read can be written

A whole number of too many digits can be neither read nor written, and the two limits are stated for
different things: one for the digits that a text starts with, leading zeros included, the other for
the digits of the number. The first is the stricter one. So a number that comes from a text can be
put into a message (`Numeral.isShort_of_whole`), and only one that was handed in as a number may be
too long for it.
-/

namespace VectorLink

/-- A number is less than the power of the base that its digits leave room for. -/
theorem Digit.number_lt {base : Nat} {ds : List Nat} (hds : ∀ d ∈ ds, d < base) :
    Digit.number base ds < base ^ ds.length := by
  suffices h : ∀ n k : Nat, n < base ^ k →
      ds.foldl (fun n d => n * base + d) n < base ^ (k + ds.length) by
    simpa [Digit.number] using h 0 0 (by simp)
  intro n k hn
  induction ds generalizing n k with
  | nil => exact hn
  | cons d ds ih =>
    obtain ⟨hd, hds⟩ := List.forall_mem_cons.mp hds
    have hstep : n * base + d < base ^ (k + 1) := by
      calc n * base + d < n * base + base := Nat.add_lt_add_left hd _
        _ = (n + 1) * base := (Nat.succ_mul n base).symm
        _ ≤ base ^ k * base := Nat.mul_le_mul_right base hn
        _ = base ^ (k + 1) := (Nat.pow_succ ..).symm
    have := ih hds (n * base + d) (k + 1) hstep
    rwa [List.foldl_cons, List.length_cons, Nat.add_comm ds.length 1, ← Nat.add_assoc]

/-- Digits at the front of a text are what single characters are read as. -/
theorem Decimal.forall_mem_digitRun {digit? : Char → Option Nat} {P : Nat → Prop}
    (hP : ∀ c d, digit? c = some d → P d) {ds : List Nat} {cs : List Char}
    (hds : ∀ d ∈ ds, P d) : ∀ d ∈ (Decimal.digitRun digit? ds cs).1, P d := by
  fun_induction Decimal.digitRun digit? ds cs with
  | case1 ds => exact hds
  | case2 ds c cs hempty => exact hds
  | case3 ds c cs hempty d hd ih => exact ih (List.forall_mem_cons.mpr ⟨hP c d hd, hds⟩)
  | case4 ds c cs hempty hd => exact hds
  | case5 ds c cs hne d hd ih => exact ih (List.forall_mem_cons.mpr ⟨hP c d hd, hds⟩)
  | case6 ds c cs hne hd => exact hds

namespace Numeral

theorem forall_mem_takeDigits (base : Nat) (cs : List Char) :
    ∀ d ∈ (Decimal.takeDigits (digitIn? base) cs).1, d < base := by
  have hdigit : ∀ c d, digitIn? base c = some d → d < base := by
    intro c d hd
    rw [digitIn?, Option.filter_eq_some_iff] at hd
    exact of_decide_eq_true hd.2
  intro d hd
  exact Decimal.forall_mem_digitRun hdigit (List.forall_mem_nil _) d (List.mem_reverse.mp hd)

/-- **A whole number that was read from a text** has few enough digits to be written. -/
theorem isShort_of_whole {s : String} {n : Int} (h : whole s = .ok n) : isShort n = true := by
  rw [whole, wholeIn, wholeOf] at h
  generalize Decimal.sign (Blank.trimBy Blank.isSpace s.toList) = signed at h
  obtain ⟨negative, unsigned⟩ := signed
  have hdigits := forall_mem_takeDigits 10 (dropBaseMark 10 unsigned)
  dsimp only at h
  generalize Decimal.takeDigits (digitIn? 10) (dropBaseMark 10 unsigned) = taken at h hdigits
  have hshort : ∀ k : Int, k.natAbs = Digit.number 10 taken.1 → taken.1.length ≤ digitLimit →
      isShort k = true := by
    intro k hk hlen
    refine decide_eq_true ((Nat.length_toDigits_le_iff (by decide) (by decide)).mpr ?_)
    rw [hk]
    exact (Digit.number_lt hdigits).trans_le (Nat.pow_le_pow_right (by decide) hlen)
  split at h
  · cases h
  · cases h
  · next ds rest _ _ =>
    split at h
    · cases h
    · next hlen =>
      split at h
      · cases h
        refine hshort _ ?_ (by simpa using hlen)
        split <;> simp
      · cases h

end Numeral

end VectorLink
