import Mathlib.Data.Nat.Count

/-!
# Counting in machine words

A counter that is kept in two halves, with the carry between them, and what it
means for a counter to count the steps of a run: at every moment it has moved
by the number of steps that satisfy `p`, if and only if each single step moves
it by one or by nothing, as `p` has it.

`append_add_one` puts the halves together: it is the carry that makes two
registers one counter.  `counts_iff` takes a claim about all moments of a run
to one about its steps, modulo the size of the word, so that a counter that
wraps around counts as well as any other.
-/

namespace RedPlanet.Verified

variable {w v : Nat}

/-- The number that two halves stand for. -/
theorem toNat_append_eq (hi : BitVec v) (lo : BitVec w) :
    (hi ++ lo).toNat = hi.toNat * 2 ^ w + lo.toNat := by
  rw [BitVec.toNat_append, ← Nat.shiftLeft_add_eq_or_of_lt lo.isLt,
    Nat.shiftLeft_eq]

/-- An increment wraps around at the size of the word. -/
theorem toNat_add_one {x : BitVec w} (hw : 0 < w) :
    (x + 1).toNat = (x.toNat + 1) % 2 ^ w := by
  have hone : (1 : BitVec w).toNat = 1 :=
    Nat.mod_eq_of_lt (Nat.one_lt_two_pow (Nat.ne_of_gt hw))
  rw [BitVec.toNat_add, hone]

/-- Incrementing the low half, and the high half if the low one wraps around,
is incrementing the whole. -/
theorem append_add_one (hi : BitVec v) (lo : BitVec w) (hv : 0 < v)
    (hw : 0 < w) :
    (if lo + 1 = 0 then hi + 1 else hi) ++ (lo + 1) = (hi ++ lo) + 1 := by
  have hlo := lo.isLt
  have hhi := hi.isLt
  apply BitVec.eq_of_toNat_eq
  rw [toNat_append_eq, toNat_add_one hw, toNat_add_one (x := hi ++ lo)
    (by omega), toNat_append_eq, Nat.pow_add]
  by_cases hwrap : lo.toNat + 1 = 2 ^ w
  · have hzero : lo + 1 = 0 := by
      apply BitVec.eq_of_toNat_eq
      rw [toNat_add_one hw, hwrap]
      simp
    rw [if_pos hzero, toNat_add_one hv, hwrap, Nat.mod_self, Nat.add_assoc,
      hwrap, ← Nat.succ_mul, Nat.mul_mod_mul_right]
    rfl
  · have hlt : lo.toNat + 1 < 2 ^ w := by omega
    have hne : lo + 1 ≠ 0 := by
      intro hzero
      have htoNat := congrArg BitVec.toNat hzero
      rw [toNat_add_one hw, Nat.mod_eq_of_lt hlt] at htoNat
      simp at htoNat
    have hbound : (hi.toNat + 1) * 2 ^ w ≤ 2 ^ v * 2 ^ w :=
      Nat.mul_le_mul_right _ hhi
    rw [Nat.succ_mul] at hbound
    rw [if_neg hne, Nat.mod_eq_of_lt hlt, Nat.add_assoc,
      Nat.mod_eq_of_lt (by omega)]

/-- Every single step counts, if and only if the counter is right after each
number of steps. -/
theorem counts_iff (c : Nat → BitVec w) (p : Nat → Prop) [DecidablePred p]
    (n : Nat) :
    (∀ m ≤ n, c m = c 0 + BitVec.ofNat w (Nat.count p m)) ↔
      ∀ k < n, c (k + 1) = c k + if p k then 1 else 0 := by
  have hcount : ∀ k, BitVec.ofNat w (Nat.count p (k + 1)) =
      BitVec.ofNat w (Nat.count p k) + if p k then 1 else 0 := by
    intro k
    rw [Nat.count_succ, BitVec.ofNat_add]
    by_cases hp : p k <;> simp [hp]
  constructor
  · intro h k hk
    rw [h (k + 1) (by omega), h k (by omega), hcount, BitVec.add_assoc]
  · intro h m hm
    induction m with
    | zero => simp
    | succ k ih =>
        rw [h k (by omega), ih (by omega), hcount, BitVec.add_assoc]

end RedPlanet.Verified
