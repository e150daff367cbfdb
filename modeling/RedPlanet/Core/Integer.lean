import RedPlanet.Core.Encode
import RedPlanet.Core.Execute

/-!
# The integer instructions of RV32I

What the manual says the integer computation and control transfer
instructions do, in terms of numbers: the register they set, with a result
modulo 2³², and where they go.  `executeInstruction_integer` says that
`execute.rs` does exactly this to the whole state, under any aliasing of the
registers involved.

Values are stated over the integers that words stand for, signed or unsigned as
the manual has it, and only then reduced to a word.  Each operation of the
source is shown to be its value (`RegRegOp.apply_eq` and the equations before
it); what is left is which registers are read and written, and when
(`IntegerEffect.outcome`).
-/

namespace RedPlanet.Core

open RedPlanet.Verified

/-! ## The manual -/

/-- 1 if it holds, 0 if not. -/
def truth (p : Prop) [Decidable p] : BitVec 32 := if p then 1 else 0

/-- What the manual says of an operation with an immediate. -/
def RegImmOp.value (op : RegImmOp) (a imm : BitVec 32) : BitVec 32 :=
  match op with
  | .addi => BitVec.ofInt 32 (a.toInt + imm.toInt)
  | .slti => truth (a.toInt < imm.toInt)
  | .sltiu => truth (a.toNat < imm.toNat)
  | .xori => a ^^^ imm
  | .ori => a ||| imm
  | .andi => a &&& imm

/-- What it says of a shift by a constant. -/
def RegShiftImmOp.value (op : RegShiftImmOp) (a : BitVec 32) (shamt : Nat) :
    BitVec 32 :=
  match op with
  | .slli => BitVec.ofNat 32 (a.toNat * 2 ^ shamt)
  | .srli => BitVec.ofNat 32 (a.toNat / 2 ^ shamt)
  | .srai => BitVec.ofInt 32 (a.toInt / 2 ^ shamt)

/-- Shifts take the low five bits of their second operand.  The operations of
the M extension have no value here. -/
def RegRegOp.value (op : RegRegOp) (a b : BitVec 32) : Option (BitVec 32) :=
  match op with
  | .add => some (BitVec.ofInt 32 (a.toInt + b.toInt))
  | .sub => some (BitVec.ofInt 32 (a.toInt - b.toInt))
  | .slt => some (truth (a.toInt < b.toInt))
  | .sltu => some (truth (a.toNat < b.toNat))
  | .and => some (a &&& b)
  | .or => some (a ||| b)
  | .xor => some (a ^^^ b)
  | .sll => some (BitVec.ofNat 32 (a.toNat * 2 ^ (b.toNat % 32)))
  | .srl => some (BitVec.ofNat 32 (a.toNat / 2 ^ (b.toNat % 32)))
  | .sra => some (BitVec.ofInt 32 (a.toInt / 2 ^ (b.toNat % 32)))
  | _ => none

/-- When it says that a branch is taken. -/
def BranchCondition.Taken (condition : BranchCondition) (a b : BitVec 32) :
    Prop :=
  match condition with
  | .beq => a = b
  | .bne => a ≠ b
  | .blt => a.toInt < b.toInt
  | .bltu => a.toNat < b.toNat
  | .bge => b.toInt ≤ a.toInt
  | .bgeu => b.toNat ≤ a.toNat

instance (condition : BranchCondition) (a b : BitVec 32) :
    Decidable (condition.Taken a b) :=
  match condition with
  | .beq => inferInstanceAs (Decidable (a = b))
  | .bne => inferInstanceAs (Decidable (a ≠ b))
  | .blt => inferInstanceAs (Decidable (a.toInt < b.toInt))
  | .bltu => inferInstanceAs (Decidable (a.toNat < b.toNat))
  | .bge => inferInstanceAs (Decidable (b.toInt ≤ a.toInt))
  | .bgeu => inferInstanceAs (Decidable (b.toNat ≤ a.toNat))

/-- What an integer instruction does: the register it sets and the value, and
the target of a jump or of a taken branch. -/
structure IntegerEffect where
  result : Option (Specifier × BitVec 32)
  target : Option (BitVec 32)
deriving DecidableEq, Repr

/-- The integer instructions, with every operand read from the registers as
they are before. -/
def integerEffect (registers : Registers) :
    Instruction → Option IntegerEffect
  | .opImm op dest src immediate =>
      some ⟨some (dest, op.value (registers.x src) immediate), none⟩
  | .opShiftImm op dest src shiftAmountU5 =>
      some ⟨some (dest, op.value (registers.x src) shiftAmountU5.toNat), none⟩
  | .op op dest src1 src2 =>
      (op.value (registers.x src1) (registers.x src2)).map fun value =>
        ⟨some (dest, value), none⟩
  | .lui dest immediate => some ⟨some (dest, immediate), none⟩
  | .auipc dest immediate =>
      some ⟨some (dest, BitVec.ofInt 32
        (registers.pc.toInt + immediate.toInt)), none⟩
  | .jal dest offset =>
      some ⟨some (dest, BitVec.ofNat 32 (registers.pc.toNat + 4)),
        some (BitVec.ofInt 32 (registers.pc.toInt + offset.toInt))⟩
  | .jalr dest base offset =>
      let sum := BitVec.ofInt 32 ((registers.x base).toInt + offset.toInt)
      some ⟨some (dest, BitVec.ofNat 32 (registers.pc.toNat + 4)),
        some (BitVec.ofNat 32 (2 * (sum.toNat / 2)))⟩
  | .branch condition src1 src2 offset =>
      if condition.Taken (registers.x src1) (registers.x src2) then
        some ⟨none, some (BitVec.ofInt 32
          (registers.pc.toInt + offset.toInt))⟩
      else some ⟨none, none⟩
  | _ => none

/-- The registers after the effect, with the pc at `pc`: `x0` is never
set. -/
def IntegerEffect.commit (effect : IntegerEffect) (pc : BitVec 32)
    (registers : Registers) : Registers where
  xRegisters := fun r =>
    match effect.result with
    | some (dest, value) =>
        if r = dest ∧ r ≠ 0 then value else registers.xRegisters r
    | none => registers.xRegisters r
  pc := pc

/-- How execution ends: a target that is not a multiple of 4 is reported and
nothing changes, and otherwise only registers do. -/
def IntegerEffect.outcome {β : Type} (effect : IntegerEffect) (s : State β) :
    Outcome Exception (State β) Unit :=
  match effect.target with
  | none =>
      .ok () (s.onRegisters
        (effect.commit (BitVec.ofNat 32 (s.registers.pc.toNat + 4))))
  | some target =>
      if target.toNat % 4 = 0 then .ok () (s.onRegisters (effect.commit target))
      else .error (.instructionAddressMisaligned target) s

/-! ## Arithmetic -/

theorem boolToU32_decide (p : Prop) [Decidable p] :
    boolToU32 (decide p) = truth p := by
  unfold boolToU32 truth
  by_cases h : p
  · rw [decide_eq_true h, if_pos h]
    rfl
  · rw [decide_eq_false h, if_neg h]
    rfl

/-- A comparison of the source is that of the signed numbers. -/
theorem boolToU32_slt (a b : BitVec 32) :
    boolToU32 (a.slt b) = truth (a.toInt < b.toInt) := boolToU32_decide _

theorem boolToU32_ult (a b : BitVec 32) :
    boolToU32 (a.ult b) = truth (a.toNat < b.toNat) := boolToU32_decide _

/-- Addition of words is addition of the signed numbers, modulo 2³². -/
theorem add_eq_ofInt (a b : BitVec 32) :
    a + b = BitVec.ofInt 32 (a.toInt + b.toInt) := by
  rw [BitVec.ofInt_add, BitVec.ofInt_toInt, BitVec.ofInt_toInt]

theorem sub_eq_ofInt (a b : BitVec 32) :
    a - b = BitVec.ofInt 32 (a.toInt - b.toInt) := by
  apply BitVec.eq_of_toInt_eq
  rw [BitVec.toInt_sub, BitVec.toInt_ofInt]

theorem add_four (a : BitVec 32) :
    a + 4 = BitVec.ofNat 32 (a.toNat + 4) := by
  apply BitVec.eq_of_toNat_eq
  rw [BitVec.toNat_add, BitVec.toNat_ofNat]
  rfl

/-- A left shift multiplies. -/
theorem shiftLeft_eq_ofNat (a : BitVec 32) (n : Nat) :
    a <<< n = BitVec.ofNat 32 (a.toNat * 2 ^ n) := by
  apply BitVec.eq_of_toNat_eq
  rw [BitVec.toNat_shiftLeft, BitVec.toNat_ofNat, Nat.shiftLeft_eq]

/-- A logical right shift divides, rounding down. -/
theorem ushiftRight_eq_ofNat (a : BitVec 32) (n : Nat) :
    a >>> n = BitVec.ofNat 32 (a.toNat / 2 ^ n) := by
  have hlt : a.toNat / 2 ^ n < 2 ^ 32 :=
    Nat.lt_of_le_of_lt (Nat.div_le_self _ _) a.isLt
  apply BitVec.eq_of_toNat_eq
  rw [BitVec.toNat_ushiftRight, BitVec.toNat_ofNat, Nat.shiftRight_eq_div_pow,
    Nat.mod_eq_of_lt hlt]

/-- An arithmetic right shift divides the signed number, rounding down. -/
theorem sshiftRight_eq_ofInt (a : BitVec 32) (n : Nat) :
    a.sshiftRight n = BitVec.ofInt 32 (a.toInt / 2 ^ n) := by
  have hpow : ((2 ^ n : Nat) : Int) = 2 ^ n := by push_cast; rfl
  rw [← BitVec.ofInt_toInt (x := a.sshiftRight n), BitVec.toInt_sshiftRight,
    Int.shiftRight_eq_div_pow, hpow]

theorem toNat_and_0x1F (b : BitVec 32) :
    (b &&& 0x1F).toNat = b.toNat % 32 := by
  rw [BitVec.toNat_and]
  exact Nat.and_two_pow_sub_one_eq_mod _ 5

/-- Clearing bit 0 rounds down to an even number. -/
theorem and_not_one (a : BitVec 32) :
    a &&& ~~~1#32 = BitVec.ofNat 32 (2 * (a.toNat / 2)) := by
  have hmask := @getLsbD_mask (~~~1#32) 1 32 (by decide) (by decide)
  apply BitVec.eq_of_getLsbD_eq
  intro i hi
  rw [BitVec.getLsbD_and, hmask, BitVec.getLsbD_ofNat]
  cases i with
  | zero => simp
  | succ i =>
      rw [Nat.testBit_succ, Nat.mul_div_cancel_left _ (by decide),
        ← Nat.testBit_succ]
      simp [hi, BitVec.getLsbD]

/-- The immediate of LUI and AUIPC has its low twelve bits clear. -/
theorem uImm_and (raw : BitVec 32) :
    uImm raw &&& ~~~0xFFF#32 = uImm raw := by
  have hmask := @getLsbD_mask (~~~0xFFF#32) 12 32 (by decide) (by decide)
  apply BitVec.eq_of_getLsbD_eq
  intro i hi
  rw [BitVec.getLsbD_and, hmask, getLsbD_uImm raw hi]
  grind

/-! ## The operations of the source -/

/-- Where the manual gives a value, the source computes it. -/
theorem RegRegOp.apply_eq {op : RegRegOp} {a b value : BitVec 32}
    (h : op.value a b = some value) : op.apply a b = value := by
  cases op <;> cases h <;> unfold RegRegOp.apply
  case add => exact add_eq_ofInt a b
  case sub => exact sub_eq_ofInt a b
  case slt => exact boolToU32_slt a b
  case sltu => exact boolToU32_ult a b
  case sll => rw [shiftLeft_eq_ofNat, toNat_and_0x1F]
  case srl => rw [ushiftRight_eq_ofNat, toNat_and_0x1F]
  case sra => rw [sshiftRight_eq_ofInt, toNat_and_0x1F]
  all_goals rfl

/-- The source takes a branch just when the manual does. -/
theorem BranchCondition.holds_eq (condition : BranchCondition)
    (a b : BitVec 32) :
    condition.holds a b = decide (condition.Taken a b) := by
  rw [Bool.eq_iff_iff, decide_eq_true_iff]
  cases condition <;> unfold BranchCondition.holds BranchCondition.Taken
  case beq => exact beq_iff_eq
  case bne => exact bne_iff_ne
  case blt => exact BitVec.slt_iff_toInt_lt
  case bltu => exact BitVec.ult_iff_lt
  case bge =>
      rw [Bool.not_eq_true', ← Bool.not_eq_true, BitVec.slt_iff_toInt_lt]
      exact Int.not_lt
  case bgeu =>
      rw [Bool.not_eq_true', ← Bool.not_eq_true, BitVec.ult_iff_lt]
      exact Nat.not_lt

theorem setX_setPc (dest : Specifier) (value pc : BitVec 32)
    (target : Option (BitVec 32)) (registers : Registers) :
    (registers.setX dest value).setPc pc =
      IntegerEffect.commit ⟨some (dest, value), target⟩ pc registers := by
  unfold IntegerEffect.commit Registers.setX Registers.setPc
  by_cases hzero : dest = 0
  · rw [if_pos hzero]
    congr 1
    funext r
    have hnot : ¬ (r = dest ∧ r ≠ 0) := fun h => h.2 (h.1.trans hzero)
    exact (if_neg hnot).symm
  · rw [if_neg hzero]
    congr 1
    funext r
    by_cases hr : r = dest
    · have hboth : r = dest ∧ r ≠ 0 := ⟨hr, hr ▸ hzero⟩
      exact (if_pos hr).trans (if_pos hboth).symm
    · have hnot : ¬ (r = dest ∧ r ≠ 0) := fun h => hr h.1
      exact (if_neg hr).trans (if_neg hnot).symm

/-- Setting a register and going on to the next instruction. -/
theorem setX_incrementPc (dest : Specifier) (value : BitVec 32)
    (registers : Registers) :
    (registers.setX dest value).incrementPc =
      IntegerEffect.commit ⟨some (dest, value), none⟩
        (BitVec.ofNat 32 (registers.pc.toNat + 4)) registers := by
  have hpc : (registers.setX dest value).pc = registers.pc := by
    unfold Registers.setX
    split <;> rfl
  unfold Registers.incrementPc
  rw [hpc, add_four, setX_setPc]

/-! ## Execution -/

/-- The immediate of a decoded LUI is the one in the word. -/
theorem lui_immediate {raw : BitVec 32} {dest : Specifier}
    {immediate : BitVec 32} (h : decode raw = .ok (.lui dest immediate)) :
    immediate = uImm raw := by
  revert h
  fun_cases decode raw <;> intro h <;> cases h
  rfl

theorem auipc_immediate {raw : BitVec 32} {dest : Specifier}
    {immediate : BitVec 32} (h : decode raw = .ok (.auipc dest immediate)) :
    immediate = uImm raw := by
  revert h
  fun_cases decode raw <;> intro h <;> cases h
  rfl

section Execution

variable {β : Type}

theorem onRegisters_congr {f g : Registers → Registers} {s : State β}
    (h : f s.registers = g s.registers) :
    s.onRegisters f = s.onRegisters g := by
  unfold State.onRegisters
  rw [h]

/-- An instruction that sets a register and goes on. -/
theorem updateRegisters_setX (dest : Specifier) (op : Registers → BitVec 32)
    {value : BitVec 32} (s : State β) (h : op s.registers = value) :
    (updateRegisters fun registers =>
      (registers.setX dest (op registers)).incrementPc :
        CoreM β Exception Unit) s =
      IntegerEffect.outcome ⟨some (dest, value), none⟩ s := by
  subst h
  have hstate := @onRegisters_congr β
    (fun registers => (registers.setX dest (op registers)).incrementPc) _ s
    (setX_incrementPc dest (op s.registers) s.registers)
  exact congrArg (Outcome.ok ()) hstate

theorem jumpOp_eq (dest : Specifier) (computeTarget : Registers → BitVec 32)
    {target : BitVec 32} (s : State β)
    (h : computeTarget s.registers = target) :
    (jumpOp dest computeTarget : CoreM β Exception Unit) s =
      IntegerEffect.outcome
        ⟨some (dest, BitVec.ofNat 32 (s.registers.pc.toNat + 4)), some target⟩
        s := by
  subst h
  unfold jumpOp IntegerEffect.outcome
  rw [Exec.get_bind]
  by_cases haligned : isAligned WORD (computeTarget s.registers) = true
  · simp only [haligned, isAligned_WORD.1 haligned, if_true]
    have hcommit : ((s.registers.setPc (computeTarget s.registers)).setX dest
        (s.registers.pc + 4)) =
        IntegerEffect.commit
          ⟨some (dest, BitVec.ofNat 32 (s.registers.pc.toNat + 4)),
            some (computeTarget s.registers)⟩
          (computeTarget s.registers) s.registers := by
      rw [← setX_setPc, add_four]
      unfold Registers.setX
      split <;> rfl
    have hstate := @onRegisters_congr β
      (fun registers =>
        (registers.setPc (computeTarget s.registers)).setX dest
          (registers.pc + 4)) _ s hcommit
    exact congrArg (Outcome.ok ()) hstate
  · have hmod : ¬ (computeTarget s.registers).toNat % 4 = 0 :=
      fun hzero => haligned (isAligned_WORD.2 hzero)
    rw [Bool.not_eq_true] at haligned
    simp only [haligned, if_neg hmod]
    rfl

theorem condBranch_eq (condition : BranchCondition) (src1 src2 : Specifier)
    (offset : BitVec 32) (s : State β) {effect : IntegerEffect}
    (h : integerEffect s.registers (.branch condition src1 src2 offset) =
      some effect) :
    (condBranch condition.holds src1 src2 offset : CoreM β Exception Unit) s =
      effect.outcome s := by
  unfold condBranch
  rw [Exec.get_bind, BranchCondition.holds_eq]
  have heffect : (if condition.Taken (s.registers.x src1) (s.registers.x src2)
      then some (IntegerEffect.mk none (some (BitVec.ofInt 32
        (s.registers.pc.toInt + offset.toInt))))
      else some ⟨none, none⟩) = some effect := h
  by_cases htaken : condition.Taken (s.registers.x src1) (s.registers.x src2)
  · rw [if_pos htaken] at heffect
    cases heffect
    rw [← add_eq_ofInt]
    simp only [htaken, decide_true, if_true, IntegerEffect.outcome]
    by_cases haligned : isAligned WORD (s.registers.pc + offset) = true
    · simp only [haligned, isAligned_WORD.1 haligned, if_true]
      rfl
    · have hmod : ¬ (s.registers.pc + offset).toNat % 4 = 0 :=
        fun hzero => haligned (isAligned_WORD.2 hzero)
      rw [Bool.not_eq_true] at haligned
      simp only [haligned, if_neg hmod]
      rfl
  · rw [if_neg htaken] at heffect
    cases heffect
    simp only [htaken, decide_false, IntegerEffect.outcome]
    have hstate := @onRegisters_congr β Registers.incrementPc
      (IntegerEffect.commit ⟨none, none⟩
        (BitVec.ofNat 32 (s.registers.pc.toNat + 4))) s
      (congrArg (Registers.setPc · s.registers) (add_four _))
    exact congrArg (Outcome.ok ()) hstate

variable [SystemBus β]

/-- Integer instructions follow the manual, whatever registers they name. -/
theorem executeInstruction_integer [Build] (config : Config) (s : State β)
    (raw : BitVec 32) (i : Instruction) (effect : IntegerEffect)
    (hdecode : decode raw = .ok i)
    (heffect : integerEffect s.registers i = some effect) :
    executeInstruction config i s = effect.outcome s := by
  cases i with
  | opImm op dest src immediate =>
      cases heffect
      cases op <;> apply updateRegisters_setX
      case addi => exact add_eq_ofInt _ _
      case slti => exact boolToU32_slt _ _
      case sltiu => exact boolToU32_ult _ _
      all_goals rfl
  | opShiftImm op dest src shiftAmountU5 =>
      cases heffect
      have hfits : decide (shiftAmountU5.toNat ≤ 31) = true :=
        decide_eq_true (shiftFits_of_decode hdecode)
      cases op <;> unfold executeInstruction <;>
        simp only [slli, srli, srai, regShamtOp, hfits] <;>
        apply updateRegisters_setX
      case slli => exact shiftLeft_eq_ofNat _ _
      case srli => exact ushiftRight_eq_ofNat _ _
      case srai => exact sshiftRight_eq_ofInt _ _
  | op op dest src1 src2 =>
      obtain ⟨value, hvalue, rfl⟩ := Option.map_eq_some_iff.1 heffect
      exact updateRegisters_setX _ _ s (RegRegOp.apply_eq hvalue)
  | lui dest immediate =>
      cases heffect
      have hlow : immediate &&& ~~~0xFFF#32 = immediate := by
        rw [lui_immediate hdecode, uImm_and]
      exact updateRegisters_setX _ _ s hlow
  | auipc dest immediate =>
      cases heffect
      have hlow : immediate &&& ~~~0xFFF#32 = immediate := by
        rw [auipc_immediate hdecode, uImm_and]
      have hsum : s.registers.pc + (immediate &&& ~~~0xFFF#32) =
          BitVec.ofInt 32 (s.registers.pc.toInt + immediate.toInt) := by
        rw [hlow, add_eq_ofInt]
      exact updateRegisters_setX _
        (fun registers => registers.pc + (immediate &&& ~~~0xFFF#32)) s hsum
  | jal dest offset =>
      cases heffect
      exact jumpOp_eq dest (fun registers => registers.pc + offset) s
        (add_eq_ofInt _ _)
  | jalr dest base offset =>
      cases heffect
      have htarget : (s.registers.x base + offset) &&& ~~~1#32 =
          BitVec.ofNat 32 (2 * ((BitVec.ofInt 32
            ((s.registers.x base).toInt + offset.toInt)).toNat / 2)) := by
        rw [← add_eq_ofInt, and_not_one]
      exact jumpOp_eq dest
        (fun registers => (registers.x base + offset) &&& ~~~1#32) s htarget
  | branch condition src1 src2 offset =>
      exact condBranch_eq condition src1 src2 offset s heffect
  | _ => cases heffect

end Execution

/-- `jalr x1, 5(x1)` at a pc of zero: the base is read before the link is
written, and bit 0 of the target is cleared. -/
theorem executeInstruction_integer_jalr :
    @executeInstruction NoDevices _ Build.debug NoDevices.config
        (.jalr 1 1 5) (State.new { NoDevices.config with resetVector := 0 }
          .unit) =
      IntegerEffect.outcome ⟨some (1, 4), some 4⟩
        (State.new { NoDevices.config with resetVector := 0 } .unit) :=
  @executeInstruction_integer NoDevices _ Build.debug NoDevices.config _
    0x005080E7 (.jalr 1 1 5) ⟨some (1, 4), some 4⟩ (by decide) (by decide)

end RedPlanet.Core
