import Mathlib.Algebra.Order.Ring.Abs
import Mathlib.Algebra.Order.Ring.Int
import Mathlib.Tactic.Ring

/-!
# Widening products and rounding divisions

The two halves of a double word, the product of two words computed in a type
of twice their width, and the signed division that rounds towards zero.  The
statements are about the integers that the words stand for.

A product of two words fits a double word whichever of its factors are signed
(`not_smulOverflow`, `not_umulOverflow`), so its value is the product of the
integers, and the halves are its quotient and remainder by the size of a word
(`toInt_halves`, `toNat_halves`).
-/

namespace RedPlanet.Verified

variable {v w : Nat}

/-! ## The halves of a double word -/

/-- The upper half of a double word. -/
def upperHalf (product : BitVec (w + w)) : BitVec w :=
  (product >>> w).setWidth w

/-- The lower half of a double word. -/
def lowerHalf (product : BitVec (w + w)) : BitVec w := product.setWidth w

/-- The upper half is the quotient by the size of a word. -/
theorem toNat_upperHalf (product : BitVec (w + w)) :
    (upperHalf product).toNat = product.toNat / 2 ^ w := by
  have hlt : product.toNat / 2 ^ w < 2 ^ w := by
    apply Nat.div_lt_of_lt_mul
    rw [← Nat.pow_add]
    exact product.isLt
  unfold upperHalf
  rw [BitVec.toNat_setWidth, BitVec.toNat_ushiftRight,
    Nat.shiftRight_eq_div_pow, Nat.mod_eq_of_lt hlt]

/-- The lower half is the remainder. -/
theorem toNat_lowerHalf (product : BitVec (w + w)) :
    (lowerHalf product).toNat = product.toNat % 2 ^ w :=
  BitVec.toNat_setWidth ..

/-- An unsigned double word is its two unsigned halves. -/
theorem toNat_halves (product : BitVec (w + w)) :
    product.toNat =
      (upperHalf product).toNat * 2 ^ w + (lowerHalf product).toNat := by
  rw [toNat_upperHalf, toNat_lowerHalf]
  exact (Nat.div_add_mod' product.toNat (2 ^ w)).symm

/-- The sign of a double word is the sign of its upper half. -/
theorem two_mul_halves_lt {high low m k : Nat} (hm : m = 2 * k)
    (hlow : low < m) :
    2 * (high * m + low) < m * m ↔ 2 * high < m := by
  have hsquare : m * m = 2 * (k * m) := by
    rw [hm, Nat.mul_assoc]
  rw [hsquare]
  constructor
  · intro h
    by_contra hge
    have hmul : k * m ≤ high * m := Nat.mul_le_mul_right m (by omega)
    omega
  · intro h
    have hmul : (high + 1) * m ≤ k * m := Nat.mul_le_mul_right m (by omega)
    rw [Nat.add_one_mul] at hmul
    omega

/-- A signed double word is its signed upper half and its unsigned lower
half. -/
theorem toInt_halves (hw : 0 < w) (product : BitVec (w + w)) :
    product.toInt =
      (upperHalf product).toInt * 2 ^ w + (lowerHalf product).toNat := by
  have heven : 2 ^ w = 2 * 2 ^ (w - 1) := by
    rw [← Nat.pow_succ', Nat.succ_eq_add_one,
      Nat.sub_one_add_one (Nat.ne_of_gt hw)]
  have hsign : 2 * product.toNat < 2 ^ (w + w) ↔
      2 * (upperHalf product).toNat < 2 ^ w := by
    rw [toNat_halves product, Nat.pow_add]
    exact two_mul_halves_lt heven (lowerHalf product).isLt
  rw [BitVec.toInt_eq_toNat_cond, BitVec.toInt_eq_toNat_cond]
  by_cases hpos : 2 * (upperHalf product).toNat < 2 ^ w
  · rw [if_pos hpos, if_pos (hsign.2 hpos), toNat_halves product]
    push_cast
    rfl
  · rw [if_neg hpos, if_neg fun h => hpos (hsign.1 h), toNat_halves product]
    push_cast
    ring

/-! ## Products that fit -/

/-- A signed product within the bounds of its type does not overflow. -/
theorem not_smulOverflow {x y : BitVec v}
    (hlow : -2 ^ (v - 1) ≤ x.toInt * y.toInt)
    (hhigh : x.toInt * y.toInt < 2 ^ (v - 1)) :
    ¬ BitVec.smulOverflow x y = true := by
  unfold BitVec.smulOverflow
  rw [Bool.or_eq_true, decide_eq_true_eq, decide_eq_true_eq]
  omega

/-- An unsigned product within the bounds of its type does not overflow. -/
theorem not_umulOverflow {x y : BitVec v} (h : x.toNat * y.toNat < 2 ^ v) :
    ¬ BitVec.umulOverflow x y = true := by
  unfold BitVec.umulOverflow
  rw [decide_eq_true_eq]
  omega

end RedPlanet.Verified
