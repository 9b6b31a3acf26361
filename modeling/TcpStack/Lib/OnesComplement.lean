import Mathlib.Data.Nat.ModEq
import Mathlib.Tactic.Ring
import Mathlib.Algebra.BigOperators.Group.List.Basic

/-!
# Ones' complement sums

Addition with an end-around carry in a digit of base `base`: what leaves the
digit on the left comes back in on the right. A sum made this way is the
representative of the ordinary sum modulo `base - 1` that is zero only for zero
(`endAroundSum_eq`); zero has a second representative, `base - 1`, and that is
the one every other multiple of `base - 1` gets.

A number of two digits is brought down to one by adding the digits and then the
carry (`twoFold_mod`), and exchanging the two halves of a digit commutes with
the sum (`representative_swap`), which makes the sum independent of byte order.
-/

set_option autoImplicit false

namespace TcpStack.Lib

/-! ## Representatives -/

/-- The representative of a number modulo `m` in `1, ..., m`, and zero for zero. -/
def representative (m number : ℕ) : ℕ :=
  if number = 0 then 0 else (number - 1) % m + 1

section Representatives

variable {m first second number : ℕ}

@[simp] theorem representative_zero (m : ℕ) : representative m 0 = 0 := rfl

theorem representative_of_pos (positive : 0 < number) :
    representative m number = (number - 1) % m + 1 :=
  if_neg (Nat.pos_iff_ne_zero.mp positive)

theorem representative_eq_zero : representative m number = 0 ↔ number = 0 := by
  rcases Nat.eq_zero_or_pos number with zero | positive
  · simp [zero]
  · rw [representative_of_pos positive]
    omega

theorem representative_le (modulus : 0 < m) (number : ℕ) : representative m number ≤ m := by
  rcases Nat.eq_zero_or_pos number with zero | positive
  · simp [zero]
  · rw [representative_of_pos positive]
    exact Nat.mod_lt _ modulus

/-- A number in range represents itself. -/
theorem representative_of_le (small : number ≤ m) : representative m number = number := by
  rcases Nat.eq_zero_or_pos number with zero | positive
  · simp [zero]
  · rw [representative_of_pos positive, Nat.mod_eq_of_lt (by omega)]
    omega

theorem representative_modEq (m number : ℕ) : representative m number ≡ number [MOD m] := by
  rcases Nat.eq_zero_or_pos number with zero | positive
  · simp [zero, Nat.ModEq.refl]
  · rw [representative_of_pos positive]
    have shifted := (Nat.mod_modEq (number - 1) m).add_right 1
    rwa [Nat.sub_add_cancel positive] at shifted

/-- **Two numbers have the same representative exactly when they are congruent
and both zero or both not.** -/
theorem representative_eq_iff : representative m first = representative m second ↔
    first ≡ second [MOD m] ∧ (first = 0 ↔ second = 0) := by
  constructor
  · intro same
    constructor
    · have congruent := representative_modEq m second
      rw [← same] at congruent
      exact (representative_modEq m first).symm.trans congruent
    · rw [← representative_eq_zero, same, representative_eq_zero]
  · rintro ⟨congruent, zeros⟩
    rcases Nat.eq_zero_or_pos first with zero | positive
    · rw [zero, zeros.mp zero]
    · have other : 0 < second := Nat.pos_of_ne_zero fun zero => by
        rw [zeros.mpr zero] at positive
        exact Nat.lt_irrefl 0 positive
      rw [representative_of_pos positive, representative_of_pos other]
      have lower : first - 1 ≡ second - 1 [MOD m] := by
        apply Nat.ModEq.add_right_cancel' 1
        rwa [Nat.sub_add_cancel positive, Nat.sub_add_cancel other]
      rw [lower]

/-- A summand may be replaced by its representative. -/
theorem representative_add_left (m first second : ℕ) :
    representative m (representative m first + second) = representative m (first + second) := by
  apply representative_eq_iff.mpr
  refine ⟨(representative_modEq m first).add_right second, ?_⟩
  rw [Nat.add_eq_zero_iff, Nat.add_eq_zero_iff, representative_eq_zero]

/-- A factor may be replaced by its representative. -/
theorem representative_mul_right (m factor number : ℕ) :
    representative m (factor * representative m number) = representative m (factor * number) := by
  apply representative_eq_iff.mpr
  refine ⟨(representative_modEq m number).mul_left factor, ?_⟩
  rw [Nat.mul_eq_zero, Nat.mul_eq_zero, representative_eq_zero]

/-- A positive multiple of the modulus has the modulus as its representative. -/
theorem representative_of_dvd (modulus : 0 < m) (positive : 0 < number) (multiple : m ∣ number) :
    representative m number = m := by
  have same : representative m number = representative m m := by
    apply representative_eq_iff.mpr
    refine ⟨?_, by omega⟩
    rw [Nat.ModEq, Nat.mod_self]
    exact Nat.mod_eq_zero_of_dvd multiple
  rw [same, representative_of_le (Nat.le_refl m)]

/-- **A number and the complement of its representative make up the modulus.** -/
theorem representative_complement (modulus : 0 < m) (number : ℕ) :
    representative m (number + (m - representative m number)) = m := by
  have small := representative_le modulus number
  apply representative_of_dvd modulus
  · rcases Nat.eq_zero_or_pos number with zero | positive
    · rwa [zero, representative_zero, Nat.zero_add, Nat.sub_zero]
    · exact Nat.add_pos_left positive _
  · have balance := (representative_modEq m number).symm.add_right (m - representative m number)
    rw [Nat.add_sub_cancel' small] at balance
    exact Nat.modEq_zero_iff_dvd.mp
      (balance.trans (Nat.modEq_zero_iff_dvd.mpr (Nat.dvd_refl m)))

end Representatives

/-! ## Addition with an end-around carry -/

section EndAround

variable {base : ℕ}

/-- Addition in one digit, the carry being added at the other end. -/
def endAround (base first second : ℕ) : ℕ := (first + second) % base + (first + second) / base

/-- The sum of a list of digits with end-around carries. -/
def endAroundSum (base : ℕ) (digits : List ℕ) : ℕ := digits.foldl (endAround base) 0

/-- Adding the upper part of a number to its lower part keeps the representative. -/
theorem representative_fold (large : 1 < base) (number : ℕ) :
    representative (base - 1) (number / base + number % base) =
      representative (base - 1) number := by
  have parts := Nat.div_add_mod number base
  apply representative_eq_iff.mpr
  constructor
  · have unit : base ≡ 1 [MOD base - 1] := by
      have shifted := (Nat.modEq_zero_iff_dvd.mpr (Nat.dvd_refl (base - 1))).add_right 1
      rwa [Nat.sub_add_cancel (Nat.le_of_lt large)] at shifted
    have scaled := (unit.mul_right (number / base)).add_right (number % base)
    rw [Nat.one_mul, parts] at scaled
    exact scaled.symm
  · rcases Nat.eq_zero_or_pos number with zero | positive
    · simp [zero]
    · constructor
      · intro vanishes
        obtain ⟨upper, lower⟩ := Nat.add_eq_zero_iff.mp vanishes
        rw [upper, lower, Nat.mul_zero] at parts
        exact parts.symm
      · intro zero
        simp [zero]

theorem endAround_eq (large : 1 < base) {first second : ℕ} (left : first ≤ base - 1)
    (right : second ≤ base - 1) :
    endAround base first second = representative (base - 1) (first + second) := by
  have small : endAround base first second ≤ base - 1 := by
    rw [endAround]
    by_cases fits : first + second < base
    · rw [Nat.mod_eq_of_lt fits, Nat.div_eq_of_lt fits]
      omega
    · rw [Nat.mod_eq_sub_mod (by omega), Nat.mod_eq_of_lt (by omega),
        Nat.div_eq_sub_div (by omega) (by omega), Nat.div_eq_of_lt (by omega)]
      omega
  rw [← representative_fold large, ← representative_of_le small, endAround, Nat.add_comm]

/-- **A sum with end-around carries is the representative of the ordinary sum.** -/
theorem endAroundSum_eq (large : 1 < base) {digits : List ℕ}
    (within : ∀ digit ∈ digits, digit ≤ base - 1) :
    endAroundSum base digits = representative (base - 1) digits.sum := by
  have accumulate : ∀ start, digits.foldl (endAround base) (representative (base - 1) start) =
      representative (base - 1) (start + digits.sum) := by
    induction digits with
    | nil => simp
    | cons digit digits ih =>
        intro start
        rw [List.foldl_cons, endAround_eq large (representative_le (by omega) start)
          (within digit (by simp)), representative_add_left,
          ih fun other member => within other (List.mem_cons_of_mem _ member),
          List.sum_cons, Nat.add_assoc]
  have fromZero := accumulate 0
  rwa [representative_zero, Nat.zero_add] at fromZero

/-- **A number of two digits is brought down to one by adding its digits and then
the carry of that addition.** What is left above the digit is cut off. -/
theorem twoFold_mod (large : 1 < base) {number : ℕ} (digits : number < base * base) :
    (number / base + number % base + (number / base + number % base) / base) % base =
      representative (base - 1) number := by
  rw [← representative_fold large]
  have small : number / base + number % base ≤ (base - 1) + (base - 1) := by
    have upper : number / base < base := Nat.div_lt_of_lt_mul digits
    have lower : number % base < base := Nat.mod_lt _ (by omega)
    omega
  generalize number / base + number % base = folded at small
  by_cases fits : folded < base
  · rw [Nat.div_eq_of_lt fits, Nat.add_zero, Nat.mod_eq_of_lt fits, representative_of_le (by omega)]
  · have carry : folded / base = 1 := by
      rw [Nat.div_eq_sub_div (by omega) (by omega), Nat.div_eq_of_lt (by omega)]
    rw [carry, Nat.mod_eq_sub_mod (by omega), Nat.mod_eq_of_lt (by omega),
      representative_of_pos (by omega), Nat.mod_eq_sub_mod (by omega), Nat.mod_eq_of_lt (by omega)]
    omega

end EndAround

/-! ## Exchanging the halves of a digit -/

section Swap

variable (half : ℕ)

/-- The two halves of a digit of base `half * half` in exchanged order. -/
def swapHalves (digit : ℕ) : ℕ := digit % half * half + digit / half

theorem swapHalves_div {digit : ℕ} (small : digit < half * half) :
    swapHalves half digit / half = digit % half := by
  have upper : digit / half < half := Nat.div_lt_of_lt_mul small
  rw [swapHalves, Nat.add_comm, Nat.add_mul_div_right _ _ (Nat.zero_lt_of_lt upper),
    Nat.div_eq_of_lt upper, Nat.zero_add]

theorem swapHalves_mod {digit : ℕ} (small : digit < half * half) :
    swapHalves half digit % half = digit / half :=
  Nat.mul_add_mod_of_lt (Nat.div_lt_of_lt_mul small)

theorem swapHalves_le (positive : 0 < half) {digit : ℕ} (small : digit ≤ half * half - 1) :
    swapHalves half digit ≤ half * half - 1 := by
  have square : 0 < half * half := Nat.mul_pos positive positive
  have upper : digit / half < half := Nat.div_lt_of_lt_mul (by omega)
  have lower : digit % half < half := Nat.mod_lt _ positive
  have rows : (digit % half + 1) * half ≤ half * half := Nat.mul_le_mul_right half lower
  rw [Nat.add_mul, Nat.one_mul] at rows
  rw [swapHalves]
  omega

/-- Exchanging the halves is a multiplication by `half`, up to the representative. -/
theorem representative_swap (large : 1 < half) {digit : ℕ} (small : digit ≤ half * half - 1) :
    representative (half * half - 1) (half * digit) = swapHalves half digit := by
  have square : 1 < half * half := Nat.mul_lt_mul_of_lt_of_lt large large
  have positive : 0 < half := Nat.zero_lt_of_lt large
  rw [← representative_fold square, Nat.mul_div_mul_left _ _ positive, Nat.mul_mod_mul_left,
    Nat.mul_comm half (digit % half), Nat.add_comm]
  exact representative_of_le (swapHalves_le half positive small)

/-- The complement of a digit has the complements of its halves. -/
theorem swapHalves_complement (positive : 0 < half) {digit : ℕ}
    (small : digit ≤ half * half - 1) :
    swapHalves half (half * half - 1 - digit) = half * half - 1 - swapHalves half digit := by
  have square : 0 < half * half := Nat.mul_pos positive positive
  have upper : digit / half < half := Nat.div_lt_of_lt_mul (by omega)
  have lower : digit % half < half := Nat.mod_lt _ positive
  obtain ⟨above, upperSum⟩ := Nat.exists_eq_add_of_lt upper
  obtain ⟨below, lowerSum⟩ := Nat.exists_eq_add_of_lt lower
  have whole : half * half = half * (digit / half) + half * above + half := by
    calc half * half = half * (digit / half + above + 1) := by rw [← upperSum]
      _ = half * (digit / half) + half * above + half := by ring
  have turned : half * half = digit % half * half + below * half + half := by
    calc half * half = (digit % half + below + 1) * half := by rw [← lowerSum]
      _ = digit % half * half + below * half + half := by ring
  have parts := Nat.div_add_mod digit half
  have complement : half * half - 1 - digit = below + half * above := by omega
  rw [complement, swapHalves, Nat.add_mul_mod_self_left, Nat.add_mul_div_left _ _ positive,
    Nat.mod_eq_of_lt (by omega), Nat.div_eq_of_lt (by omega), swapHalves]
  omega

end Swap

end TcpStack.Lib
