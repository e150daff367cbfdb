import RedPlanet.Core.Execute
import RedPlanet.Verified.Widening

/-!
# The M extension

Multiplication and division against the integers.  `ExactProducts` says that
the exact product of two registers, in each of the three interpretations, is
put together from `mul` and one of the upper halves; `ExactDivision` that
quotient and remainder put the dividend together again whatever the divisor
is.  `multiply_divide_exact` is the two of them for the instructions: the
value ends up in the destination and nothing else changes but the pc.

The products are those of 64-bit numbers, and the argument is that none of
them overflows (`product_bounds`), so that its two halves are all of it
(`product_halves`).
-/

namespace RedPlanet.Core

open RedPlanet.Verified

/-! ## Products -/

/-- `mul` is the lower half of the exact product of `a` and `b`, and the
other multiplications are the upper halves.  The source multiplies 64-bit
numbers with `*`, which does not overflow. -/
structure ExactProducts (a b : BitVec 32) : Prop where
  signed : a.toInt * b.toInt =
    (RegRegOp.mulh.apply a b).toInt * 2 ^ 32 + (RegRegOp.mul.apply a b).toNat
  mixed : a.toInt * b.toNat =
    (RegRegOp.mulhsu.apply a b).toInt * 2 ^ 32 +
      (RegRegOp.mul.apply a b).toNat
  unsigned : a.toNat * b.toNat =
    (RegRegOp.mulhu.apply a b).toNat * 2 ^ 32 + (RegRegOp.mul.apply a b).toNat
  signedFits :
    ¬ BitVec.smulOverflow (a.signExtend 64) (b.signExtend 64) = true
  mixedFits : ¬ BitVec.smulOverflow (a.signExtend 64) (b.setWidth 64) = true
  unsignedFits : ¬ BitVec.umulOverflow (a.setWidth 64) (b.setWidth 64) = true

/-- A register as a signed number. -/
theorem toInt_bounds (a : BitVec 32) : -2 ^ 31 ≤ a.toInt ∧ a.toInt < 2 ^ 31 :=
  ⟨BitVec.le_toInt a, BitVec.toInt_lt⟩

/-- A signed word times a signed or unsigned word fits in 64 bits. -/
theorem product_bounds {m n : Int} (hm : -2 ^ 31 ≤ m ∧ m < 2 ^ 31)
    (hn : -2 ^ 31 ≤ n ∧ n < 2 ^ 32) :
    -2 ^ (64 - 1) ≤ m * n ∧ m * n < 2 ^ (64 - 1) := by
  have hmabs : |m| ≤ 2 ^ 31 := abs_le.2 ⟨hm.1, by omega⟩
  have hnabs : |n| ≤ 2 ^ 32 - 1 := abs_le.2 ⟨by omega, by omega⟩
  have hprod : |m * n| ≤ 2 ^ 31 * (2 ^ 32 - 1) := by
    rw [abs_mul]
    exact mul_le_mul hmabs hnabs (abs_nonneg n) (by decide)
  have hboth := abs_le.1 hprod
  constructor
  · exact le_trans (by decide) hboth.1
  · exact lt_of_le_of_lt hboth.2 (by decide)

/-- The unsigned operand keeps its value. -/
theorem toInt_setWidth_64 (b : BitVec 32) :
    (b.setWidth 64).toInt = b.toNat := by
  have hlt := b.isLt
  rw [BitVec.toInt_eq_toNat_of_lt] <;>
    rw [BitVec.toNat_setWidth, Nat.mod_eq_of_lt (by omega)]
  omega

/-- The signed operand keeps its value. -/
theorem toInt_signExtend_64 (a : BitVec 32) :
    (a.signExtend 64).toInt = a.toInt :=
  BitVec.toInt_signExtend_of_le (by decide)

/-- The lower half of a sign-extended word is the word. -/
theorem lowerHalf_signExtend (a : BitVec 32) :
    (a.signExtend 64).setWidth 32 = a := by
  apply BitVec.eq_of_getLsbD_eq
  intro i hi
  rw [BitVec.getLsbD_setWidth, BitVec.getLsbD_signExtend]
  simp [hi, Nat.lt_trans hi (show 32 < 64 by decide)]

theorem lowerHalf_setWidth (a : BitVec 32) :
    (a.setWidth 64).setWidth 32 = a := by
  simp

/-- The lower half of a 64-bit product is the product of the lower halves. -/
theorem lowerHalf_mul {x y : BitVec 64} {a b : BitVec 32}
    (hx : x.setWidth 32 = a) (hy : y.setWidth 32 = b) :
    @lowerHalf 32 (x * y) = RegRegOp.mul.apply a b := by
  unfold lowerHalf
  rw [BitVec.setWidth_mul x y (by decide), hx, hy]
  rfl

/-- A signed 64-bit product that does not overflow, from its halves. -/
theorem product_halves {x y : BitVec 64} {a b : BitVec 32}
    (hx : x.setWidth 32 = a) (hy : y.setWidth 32 = b)
    (hfits : ¬ BitVec.smulOverflow x y = true) :
    x.toInt * y.toInt =
      (((x * y) >>> 32).setWidth 32).toInt * 2 ^ 32 +
        (RegRegOp.mul.apply a b).toNat := by
  rw [← BitVec.toInt_mul_of_not_smulOverflow hfits, ← lowerHalf_mul hx hy]
  exact @toInt_halves 32 (by decide) (x * y)

/-- All four multiplications of one pair of operands. -/
theorem exactProducts (a b : BitVec 32) : ExactProducts a b := by
  have ha := toInt_bounds a
  have hb := toInt_bounds b
  have hbNat := b.isLt
  have haNat := a.isLt
  have hsigned : ¬ BitVec.smulOverflow (a.signExtend 64) (b.signExtend 64)
      = true := by
    have hbounds := product_bounds ha ⟨hb.1, by omega⟩
    rw [← toInt_signExtend_64 a, ← toInt_signExtend_64 b] at hbounds
    exact not_smulOverflow hbounds.1 hbounds.2
  have hmixed : ¬ BitVec.smulOverflow (a.signExtend 64) (b.setWidth 64)
      = true := by
    have hbounds := product_bounds (n := b.toNat) ha ⟨by omega, by omega⟩
    rw [← toInt_signExtend_64 a, ← toInt_setWidth_64 b] at hbounds
    exact not_smulOverflow hbounds.1 hbounds.2
  have hunsigned : ¬ BitVec.umulOverflow (a.setWidth 64) (b.setWidth 64)
      = true := by
    apply not_umulOverflow
    rw [BitVec.toNat_setWidth_of_le (by decide),
      BitVec.toNat_setWidth_of_le (by decide)]
    exact lt_of_lt_of_le (Nat.mul_lt_mul'' haNat hbNat) (by decide)
  refine ⟨?_, ?_, ?_, hsigned, hmixed, hunsigned⟩
  · have hhalves := product_halves (lowerHalf_signExtend a)
      (lowerHalf_signExtend b) hsigned
    rw [toInt_signExtend_64, toInt_signExtend_64] at hhalves
    exact hhalves
  · have hhalves := product_halves (lowerHalf_signExtend a)
      (lowerHalf_setWidth b) hmixed
    rw [toInt_signExtend_64, toInt_setWidth_64] at hhalves
    exact hhalves
  · have hproduct := BitVec.toNat_mul_of_not_umulOverflow hunsigned
    rw [BitVec.toNat_setWidth_of_le (by decide),
      BitVec.toNat_setWidth_of_le (by decide)] at hproduct
    rw [← hproduct, ← lowerHalf_mul (lowerHalf_setWidth a)
      (lowerHalf_setWidth b)]
    exact @toNat_halves 32 (a.setWidth 64 * b.setWidth 64)

/-! ## Quotients and remainders -/

/-- The signed division overflows for this pair alone. -/
def DivOverflows (a b : BitVec 32) : Prop :=
  a = BitVec.intMin 32 ∧ b = -1#32

/-- Quotient and remainder belong together, and away from the divisor zero
and from the overflow they are those of a division that rounds towards
zero. -/
structure ExactDivision (a b : BitVec 32) : Prop where
  signed : RegRegOp.div.apply a b * b + RegRegOp.rem.apply a b = a
  unsigned : RegRegOp.divu.apply a b * b + RegRegOp.remu.apply a b = a
  truncated : b ≠ 0 → ¬ DivOverflows a b →
    (RegRegOp.div.apply a b).toInt = a.toInt.tdiv b.toInt
  remainderBounded : b ≠ 0 → ¬ DivOverflows a b →
    (RegRegOp.rem.apply a b).toInt.natAbs < b.toInt.natAbs
  remainderSign : b ≠ 0 → ¬ DivOverflows a b →
    (RegRegOp.rem.apply a b).toInt = 0 ∨
      (RegRegOp.rem.apply a b).toInt.sign = a.toInt.sign
  truncatedUnsigned : b ≠ 0 →
    (RegRegOp.divu.apply a b).toNat = a.toNat / b.toNat
  remainderBoundedUnsigned : b ≠ 0 →
    (RegRegOp.remu.apply a b).toNat < b.toNat

/-- Away from zero, `div` is the division that rounds towards zero. -/
theorem apply_div {a b : BitVec 32} (h : b ≠ 0) :
    RegRegOp.div.apply a b = a.sdiv b := if_neg h

theorem apply_divu {a b : BitVec 32} (h : b ≠ 0) :
    RegRegOp.divu.apply a b = a / b := if_neg h

theorem apply_rem {a b : BitVec 32} (h : b ≠ 0) :
    RegRegOp.rem.apply a b = a.srem b := if_neg h

theorem apply_remu {a b : BitVec 32} (h : b ≠ 0) :
    RegRegOp.remu.apply a b = a % b := if_neg h

/-- Signed quotient and remainder modulo 2³²: the overflow only wraps the
quotient. -/
theorem sdiv_mul_add_srem (a b : BitVec 32) : a.sdiv b * b + a.srem b = a := by
  have hdiv : a.sdiv b = BitVec.ofInt 32 (a.toInt.tdiv b.toInt) := by
    apply BitVec.eq_of_toInt_eq
    rw [BitVec.toInt_sdiv, BitVec.toInt_ofInt]
  have hrem : a.srem b = BitVec.ofInt 32 (a.toInt.tmod b.toInt) := by
    rw [← BitVec.toInt_srem, BitVec.ofInt_toInt]
  calc a.sdiv b * b + a.srem b
      = BitVec.ofInt 32 (a.toInt.tdiv b.toInt) * BitVec.ofInt 32 b.toInt +
          BitVec.ofInt 32 (a.toInt.tmod b.toInt) := by
        rw [hdiv, hrem, BitVec.ofInt_toInt]
    _ = BitVec.ofInt 32
          (a.toInt.tdiv b.toInt * b.toInt + a.toInt.tmod b.toInt) := by
        rw [BitVec.ofInt_add, BitVec.ofInt_mul]
    _ = a := by
        rw [Int.tdiv_mul_add_tmod, BitVec.ofInt_toInt]

/-- Unsigned quotient and remainder. -/
theorem udiv_mul_add_umod (a b : BitVec 32) : a / b * b + a % b = a := by
  apply BitVec.eq_of_toNat_eq
  rw [BitVec.toNat_add, BitVec.toNat_mul, BitVec.toNat_udiv,
    BitVec.toNat_umod, Nat.mod_add_mod, Nat.div_add_mod']
  exact Nat.mod_eq_of_lt a.isLt

/-- All four divisions of one pair of operands, the edge cases included. -/
theorem exactDivision (a b : BitVec 32) : ExactDivision a b where
  signed := by
    by_cases hzero : b = 0
    · subst hzero
      show 0xFFFFFFFF#32 * 0#32 + a = a
      rw [BitVec.mul_zero, BitVec.zero_add]
    · rw [apply_div hzero, apply_rem hzero]
      exact sdiv_mul_add_srem a b
  unsigned := by
    by_cases hzero : b = 0
    · subst hzero
      show 0xFFFFFFFF#32 * 0#32 + a = a
      rw [BitVec.mul_zero, BitVec.zero_add]
    · rw [apply_divu hzero, apply_remu hzero]
      exact udiv_mul_add_umod a b
  truncated := by
    intro hzero hover
    rw [apply_div hzero]
    apply BitVec.toInt_sdiv_of_ne_or_ne
    by_cases ha : a = BitVec.intMin 32
    · exact Or.inr fun hb => hover ⟨ha, hb⟩
    · exact Or.inl ha
  remainderBounded := by
    intro hzero _
    have hpos : 0 < b.toInt.natAbs :=
      Int.natAbs_pos.2 fun h => hzero (BitVec.eq_of_toInt_eq h)
    rw [apply_rem hzero, BitVec.toInt_srem, Int.natAbs_tmod]
    exact Nat.mod_lt _ hpos
  remainderSign := by
    intro hzero _
    rw [apply_rem hzero, BitVec.toInt_srem, Int.sign_tmod]
    by_cases hdvd : b.toInt ∣ a.toInt
    · exact Or.inl (Int.tmod_eq_zero_of_dvd hdvd)
    · exact Or.inr (if_neg hdvd)
  truncatedUnsigned := by
    intro hzero
    rw [apply_divu hzero]
    exact BitVec.toNat_udiv
  remainderBoundedUnsigned := by
    intro hzero
    have hpos : 0 < b.toNat :=
      Nat.pos_of_ne_zero fun h => hzero (BitVec.eq_of_toNat_eq h)
    rw [apply_remu hzero, BitVec.toNat_umod]
    exact Nat.mod_lt _ hpos

/-- The M extension is exact, and an instruction of it leaves the value in
its destination and goes on to the next instruction. -/
theorem multiply_divide_exact {β : Type} [SystemBus β] [Build]
    (a b : BitVec 32) :
    ExactProducts a b ∧ ExactDivision a b ∧
      ∀ (config : Config) (op : RegRegOp) (dest src1 src2 : Specifier)
        (s : State β),
        executeInstruction config (.op op dest src1 src2) s =
          .ok () (s.onRegisters fun registers =>
            (registers.setX dest
              (op.apply (registers.x src1) (registers.x src2))).incrementPc) :=
  ⟨exactProducts a b, exactDivision a b, fun _ _ _ _ _ _ => rfl⟩

/-- The overflowing division of the smallest number by -1. -/
example : RegRegOp.div.apply (BitVec.intMin 32) (-1) = BitVec.intMin 32 ∧
    RegRegOp.rem.apply (BitVec.intMin 32) (-1) = 0 := by decide

end RedPlanet.Core
