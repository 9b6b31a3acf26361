import TcpStack.Lib.MachineInt

/-!
# Serial numbers

Numbers on a circle: words of a fixed width whose order is that of their
distances. Two such numbers are compared by the sign of their difference, taken
as a signed word. The comparison says which of the two comes first as long as
they are less than half a circle apart; at exactly half a circle each comes
before the other (`sub_toInt_nonpos_iff`, `sub_toInt_neg_iff`).

An arc is given by its first number and its length (`InArc`). Distances are
unchanged when the circle is turned (`sub_add_right`).

Comparing by the sign of the difference of the two signed words instead works as
long as that difference is a signed word itself. For words that are close this
fails when one of them comes before half a circle and the other after it
(`toInt_sub_toInt_fits_iff`).
-/

set_option autoImplicit false

namespace TcpStack.Lib

variable {w : ℕ}

/-- The number is one of the `length` numbers from `first` on. -/
def InArc (first : BitVec w) (length : ℕ) (number : BitVec w) : Prop :=
  (number - first).toNat < length

instance (first : BitVec w) (length : ℕ) (number : BitVec w) :
    Decidable (InArc first length number) :=
  inferInstanceAs (Decidable (_ < _))

/-- Turning the circle keeps every distance. -/
theorem sub_add_right (a b shift : BitVec w) : a + shift - (b + shift) = a - b := by
  rw [BitVec.sub_eq_add_neg, BitVec.neg_add, BitVec.sub_eq_add_neg, BitVec.sub_eq_add_neg,
    BitVec.add_assoc, ← BitVec.add_assoc shift, BitVec.add_comm shift, BitVec.add_assoc (-b),
    ← BitVec.sub_eq_add_neg shift, BitVec.sub_self, BitVec.add_zero]

/-- Only a number itself is at distance zero. -/
theorem toNat_sub_eq_zero_iff {a b : BitVec w} : (a - b).toNat = 0 ↔ a = b := by
  have zero : (a - b).toNat = (0#w).toNat ↔ a - b = 0#w := BitVec.toNat_inj
  rw [BitVec.toNat_zero] at zero
  rw [zero, BitVec.sub_eq_iff_eq_add, BitVec.zero_add]

/-- The distance the other way round the circle. -/
theorem toNat_sub_swap (a b : BitVec (w + 1)) :
    (b - a).toNat = if (a - b).toNat = 0 then 0 else 2 * 2 ^ w - (a - b).toNat := by
  have range := (a - b).isLt
  have turned : b - a = -(a - b) := by
    rw [BitVec.neg_sub, BitVec.add_comm, ← BitVec.sub_eq_add_neg]
  rw [Nat.pow_succ'] at range
  rw [turned, BitVec.toNat_neg, Nat.pow_succ']
  split
  · next same => rw [same, Nat.sub_zero, Nat.mod_self]
  · exact Nat.mod_eq_of_lt (by omega)

/-- A signed word in terms of the word. -/
theorem toInt_eq_ite (distance : BitVec (w + 1)) :
    distance.toInt =
      if distance.toNat < 2 ^ w then (distance.toNat : ℤ)
      else (distance.toNat : ℤ) - 2 * (2 ^ w : ℕ) := by
  rw [BitVec.toInt_eq_toNat_cond, Nat.pow_succ']
  split <;> split <;> omega

/-- The signed difference in terms of the distance from `a` on to `b`. -/
theorem sub_toInt_eq (a b : BitVec (w + 1)) :
    (a - b).toInt =
      if (b - a).toNat ≤ 2 ^ w then -((b - a).toNat : ℤ)
      else 2 * (2 ^ w : ℕ) - ((b - a).toNat : ℤ) := by
  have range := (b - a).isLt
  rw [Nat.pow_succ'] at range
  rw [toInt_eq_ite, toNat_sub_swap]
  split <;> split <;> split <;> omega

/-- The signed difference is not positive when `a` is at most half a circle
behind `b`. -/
theorem sub_toInt_nonpos_iff (a b : BitVec (w + 1)) :
    (a - b).toInt ≤ 0 ↔ (b - a).toNat ≤ 2 ^ w := by
  have range := (b - a).isLt
  rw [Nat.pow_succ'] at range
  rw [sub_toInt_eq]
  split <;> omega

/-- The signed difference is negative when `a` is behind `b`, and by at most
half a circle. -/
theorem sub_toInt_neg_iff (a b : BitVec (w + 1)) :
    (a - b).toInt < 0 ↔ 0 < (b - a).toNat ∧ (b - a).toNat ≤ 2 ^ w := by
  have range := (b - a).isLt
  rw [Nat.pow_succ'] at range
  rw [sub_toInt_eq]
  split <;> omega

/-! ## Differences of signed words -/

/-- The way from `a` on to `b` passes from the largest signed word to the smallest:
`a` is below half a circle and `b` is not, and `b` is less than half a circle
further on. -/
def Straddles (a b : BitVec (w + 1)) : Prop :=
  a.toNat < 2 ^ w ∧ 2 ^ w ≤ b.toNat ∧ b.toNat < a.toNat + 2 ^ w

instance (a b : BitVec (w + 1)) : Decidable (Straddles a b) :=
  inferInstanceAs (Decidable (_ ∧ _ ∧ _))

/-- **The difference of two signed words is a signed word** unless the shorter way
between them passes from the largest signed word to the smallest. The words must
not be exactly half a circle apart. -/
theorem toInt_sub_toInt_fits_iff {a b : BitVec (w + 1)} (apart : (b - a).toNat ≠ 2 ^ w) :
    (-(2 ^ w : ℕ) ≤ a.toInt - b.toInt ∧ a.toInt - b.toInt < (2 ^ w : ℕ)) ↔
      ¬ Straddles a b ∧ ¬ Straddles b a := by
  have aRange := a.isLt
  have bRange := b.isLt
  have distance : (b - a).toNat =
      if a.toNat ≤ b.toNat then b.toNat - a.toNat else 2 * 2 ^ w - (a.toNat - b.toNat) := by
    rw [BitVec.toNat_sub]
    rw [Nat.pow_succ'] at aRange bRange ⊢
    split
    · rw [show 2 * 2 ^ w - a.toNat + b.toNat = b.toNat - a.toNat + 2 * 2 ^ w by omega,
        Nat.add_mod_right, Nat.mod_eq_of_lt (by omega)]
    · rw [Nat.mod_eq_of_lt (by omega)]
      omega
  rw [distance] at apart
  rw [Nat.pow_succ'] at aRange bRange
  rw [toInt_eq_ite, toInt_eq_ite, Straddles, Straddles]
  generalize 2 ^ w = half at *
  split at apart <;> split <;> split <;> omega

end TcpStack.Lib
