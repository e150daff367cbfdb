import Mathlib
import RedPlanet.Core.Instruction

/-!
# The encodings of the instructions

The instruction formats of the RISC-V manual, as words built from their
fields, and the encoding of every `Instruction`.  Two theorems relate it to
the decoder of `instruction.rs`: decoding inverts encoding, and encoding
inverts decoding on exactly those words whose fixed fields have their
required value or are checked by the decoder.

Both rest on the same facts about single bits: `getLsbD_word` for a word built
from its fields, and one lemma for each immediate of the decoder.
-/

namespace RedPlanet.Core

open RedPlanet.Verified

/-! ## Formats -/

/-- A word from its six fields, highest first. -/
def word (funct7 : BitVec 7) (rs2 rs1 : BitVec 5) (funct3 : BitVec 3)
    (rd : BitVec 5) (opcode : BitVec 7) : BitVec 32 :=
  funct7 ++ rs2 ++ rs1 ++ funct3 ++ rd ++ opcode

/-- The five bits of a register specifier. -/
def Specifier.bits (specifier : Specifier) : BitVec 5 := .ofFin specifier

/-- The format of two source registers and one destination. -/
def rType (funct7 : BitVec 7) (rs2 rs1 : Specifier) (funct3 : BitVec 3)
    (rd : Specifier) (opcode : BitVec 7) : BitVec 32 :=
  word funct7 rs2.bits rs1.bits funct3 rd.bits opcode

/-- `imm[11:0]` in the place of funct7 and rs2. -/
def iType (imm : BitVec 32) (rs1 : Specifier) (funct3 : BitVec 3)
    (rd : Specifier) (opcode : BitVec 7) : BitVec 32 :=
  word (imm.extractLsb' 5 7) (imm.extractLsb' 0 5) rs1.bits funct3 rd.bits
    opcode

/-- `imm[11:5]` and `imm[4:0]` in the places of funct7 and rd. -/
def sType (imm : BitVec 32) (rs2 rs1 : Specifier) (funct3 : BitVec 3)
    (opcode : BitVec 7) : BitVec 32 :=
  word (imm.extractLsb' 5 7) rs2.bits rs1.bits funct3 (imm.extractLsb' 0 5)
    opcode

/-- `imm[12|10:5]` and `imm[4:1|11]` in the places of funct7 and rd. -/
def bType (imm : BitVec 32) (rs2 rs1 : Specifier) (funct3 : BitVec 3)
    (opcode : BitVec 7) : BitVec 32 :=
  word (imm.extractLsb' 12 1 ++ imm.extractLsb' 5 6) rs2.bits rs1.bits funct3
    (imm.extractLsb' 1 4 ++ imm.extractLsb' 11 1) opcode

/-- `imm[31:12]` above rd. -/
def uType (imm : BitVec 32) (rd : Specifier) (opcode : BitVec 7) :
    BitVec 32 :=
  word (imm.extractLsb' 25 7) (imm.extractLsb' 20 5) (imm.extractLsb' 15 5)
    (imm.extractLsb' 12 3) rd.bits opcode

/-- `imm[20|10:1|11|19:12]` above rd. -/
def jType (imm : BitVec 32) (rd : Specifier) (opcode : BitVec 7) :
    BitVec 32 :=
  word (imm.extractLsb' 20 1 ++ imm.extractLsb' 5 6)
    (imm.extractLsb' 1 4 ++ imm.extractLsb' 11 1) (imm.extractLsb' 15 5)
    (imm.extractLsb' 12 3) rd.bits opcode

/-! ## Function codes -/

def Opcode.bits : Opcode → BitVec 7
  | .load => 0b0000011
  | .miscMem => 0b0001111
  | .opImm => 0b0010011
  | .auipc => 0b0010111
  | .store => 0b0100011
  | .amo => 0b0101111
  | .op => 0b0110011
  | .lui => 0b0110111
  | .branch => 0b1100011
  | .jalr => 0b1100111
  | .jal => 0b1101111
  | .system => 0b1110011

def RegImmOp.funct3 : RegImmOp → BitVec 3
  | .addi => 0b000
  | .slti => 0b010
  | .sltiu => 0b011
  | .xori => 0b100
  | .ori => 0b110
  | .andi => 0b111

def RegShiftImmOp.funct3 : RegShiftImmOp → BitVec 3
  | .slli => 0b001
  | .srli => 0b101
  | .srai => 0b101

def RegShiftImmOp.funct7 : RegShiftImmOp → BitVec 7
  | .slli => 0b0000000
  | .srli => 0b0000000
  | .srai => 0b0100000

def RegRegOp.funct3 : RegRegOp → BitVec 3
  | .add => 0b000
  | .slt => 0b010
  | .sltu => 0b011
  | .and => 0b111
  | .or => 0b110
  | .xor => 0b100
  | .sll => 0b001
  | .srl => 0b101
  | .sub => 0b000
  | .sra => 0b101
  | .mul => 0b000
  | .mulh => 0b001
  | .mulhsu => 0b010
  | .mulhu => 0b011
  | .div => 0b100
  | .divu => 0b101
  | .rem => 0b110
  | .remu => 0b111

def RegRegOp.funct7 : RegRegOp → BitVec 7
  | .sub | .sra => 0b0100000
  | .mul | .mulh | .mulhsu | .mulhu | .div | .divu | .rem | .remu => 0b0000001
  | _ => 0b0000000

def AmoOp.funct5 : AmoOp → BitVec 5
  | .lr => 0b00010
  | .sc => 0b00011
  | .swap => 0b00001
  | .add => 0b00000
  | .xor => 0b00100
  | .and => 0b01100
  | .or => 0b01000
  | .min => 0b10000
  | .max => 0b10100
  | .minu => 0b11000
  | .maxu => 0b11100

def BranchCondition.funct3 : BranchCondition → BitVec 3
  | .beq => 0b000
  | .bne => 0b001
  | .blt => 0b100
  | .bltu => 0b110
  | .bge => 0b101
  | .bgeu => 0b111

def LoadWidth.funct3 : LoadWidth → BitVec 3
  | .lb => 0b000
  | .lh => 0b001
  | .lw => 0b010
  | .lbu => 0b100
  | .lhu => 0b101

def StoreWidth.funct3 : StoreWidth → BitVec 3
  | .sb => 0b000
  | .sh => 0b001
  | .sw => 0b010

/-- The funct3 of CSRRW, CSRRS and CSRRC; the immediate forms have its high
bit set. -/
def CsrOp.funct3 : CsrOp → BitVec 3
  | .readWrite => 0b001
  | .readSet => 0b010
  | .readClear => 0b011

/-- The four order bits, device input highest. -/
def FenceOrderCombination.bits (order : FenceOrderCombination) : BitVec 4 :=
  BitVec.ofBool order.deviceInput ++ BitVec.ofBool order.deviceOutput ++
    BitVec.ofBool order.memoryReads ++ BitVec.ofBool order.memoryWrites

/-! ## Encoding -/

/-- The encoding of an instruction.  The words of ECALL to WFI are fixed. -/
def Instruction.encode : Instruction → BitVec 32
  | opImm funct dest src immediate =>
      iType immediate src funct.funct3 dest Opcode.opImm.bits
  | opShiftImm funct dest src shiftAmountU5 =>
      word funct.funct7 (shiftAmountU5.setWidth 5) src.bits funct.funct3
        dest.bits Opcode.opImm.bits
  | auipc dest immediate => uType immediate dest Opcode.auipc.bits
  | lui dest immediate => uType immediate dest Opcode.lui.bits
  | amo funct aq rl src addr dest =>
      rType (funct.funct5 ++ BitVec.ofBool aq ++ BitVec.ofBool rl) src addr
        0b010 dest Opcode.amo.bits
  | .op funct dest src1 src2 =>
      rType funct.funct7 src2 src1 funct.funct3 dest Opcode.op.bits
  | jal dest offset => jType offset dest Opcode.jal.bits
  | jalr dest base offset => iType offset base 0b000 dest Opcode.jalr.bits
  | branch condition src1 src2 offset =>
      bType offset src2 src1 condition.funct3 Opcode.branch.bits
  | load width dest base offset =>
      iType offset base width.funct3 dest Opcode.load.bits
  | store width src base offset =>
      sType offset src base width.funct3 Opcode.store.bits
  | fence predecessor successor =>
      iType ((predecessor.bits ++ successor.bits).setWidth 32) 0 0b000 0
        Opcode.miscMem.bits
  | ecall => 0x00000073
  | ebreak => 0x00100073
  | sret => 0x10200073
  | mret => 0x30200073
  | wfi => 0x10500073
  | sfenceVma vaddr asid =>
      rType 0b0001001 asid vaddr 0b000 0 Opcode.system.bits
  | .csr funct dest specifier src =>
      iType (specifier.setWidth 32) src funct.funct3 dest Opcode.system.bits
  | csri funct dest specifier immediate =>
      word ((specifier.setWidth 32).extractLsb' 5 7)
        ((specifier.setWidth 32).extractLsb' 0 5) (immediate.setWidth 5)
        (funct.funct3 ||| 0b100) dest.bits Opcode.system.bits

/-- An `imm` that fits in `n` bits as a signed number. -/
def SignedImmediate (n : Nat) (imm : BitVec 32) : Prop :=
  -2 ^ (n - 1) ≤ imm.toInt ∧ imm.toInt < 2 ^ (n - 1)

/-- The fields of an instruction are in the range of its format. -/
def Instruction.InRange : Instruction → Prop
  | opImm _ _ _ immediate => SignedImmediate 12 immediate
  | opShiftImm _ _ _ shiftAmountU5 => shiftAmountU5.toNat < 2 ^ 5
  | auipc _ immediate | lui _ immediate => immediate.toNat % 2 ^ 12 = 0
  | jal _ offset => SignedImmediate 21 offset ∧ offset.toInt % 2 = 0
  | jalr _ _ offset => SignedImmediate 12 offset
  | branch _ _ _ offset => SignedImmediate 13 offset ∧ offset.toInt % 2 = 0
  | load _ _ _ offset | store _ _ _ offset => SignedImmediate 12 offset
  | .csr _ _ specifier _ => specifier.toNat < 2 ^ 12
  | csri _ _ specifier immediate =>
      specifier.toNat < 2 ^ 12 ∧ immediate.toNat < 2 ^ 5
  | _ => True

/-! ## Bits of a word and of the immediates -/

/-- A constant whose ones are the bits from `lo` to below `hi`. -/
theorem getLsbD_mask {mask : BitVec 32} (lo hi : Nat) (hhi : hi ≤ 32)
    (h : ∀ i : Fin 32,
      mask.getLsbD i = decide (lo ≤ i.val ∧ i.val < hi)) (i : Nat) :
    mask.getLsbD i = decide (lo ≤ i ∧ i < hi) := by
  by_cases hi : i < 32
  · exact h ⟨i, hi⟩
  · rw [BitVec.getLsbD_of_ge _ _ (by omega)]
    symm
    apply decide_eq_false
    omega

/-- The field that a bit lies in, and its place there. -/
theorem getLsbD_word (funct7 : BitVec 7) (rs2 rs1 : BitVec 5)
    (funct3 : BitVec 3) (rd : BitVec 5) (opcode : BitVec 7) (i : Nat) :
    (word funct7 rs2 rs1 funct3 rd opcode).getLsbD i =
      if i < 7 then opcode.getLsbD i
      else if i < 12 then rd.getLsbD (i - 7)
      else if i < 15 then funct3.getLsbD (i - 12)
      else if i < 20 then rs1.getLsbD (i - 15)
      else if i < 25 then rs2.getLsbD (i - 20)
      else funct7.getLsbD (i - 25) := by
  show (funct7 ++ rs2 ++ rs1 ++ funct3 ++ rd ++ opcode :
    BitVec (7 + 5 + 5 + 3 + 5 + 7)).getLsbD i = _
  simp only [BitVec.getLsbD_append, Nat.sub_sub]
  grind

/-- The immediate of the I-format is sign extended from bit 31 of the word, as
all the following are. -/
theorem getLsbD_iImm (raw : BitVec 32) {i : Nat} (hi : i < 32) :
    (iImm raw).getLsbD i = raw.getLsbD (if i < 12 then 20 + i else 31) := by
  unfold iImm
  rw [BitVec.getLsbD_sshiftRight, BitVec.msb_eq_getLsbD_last]
  grind

theorem getLsbD_sImm (raw : BitVec 32) {i : Nat} (hi : i < 32) :
    (sImm raw).getLsbD i =
      raw.getLsbD (if i < 5 then 7 + i else if i < 12 then 20 + i else 31) := by
  have h11_5 := @getLsbD_mask 0xFE000000 25 32 (by decide) (by decide)
  have h4_0 := @getLsbD_mask 0x00000F80 7 12 (by decide) (by decide)
  unfold sImm
  rw [BitVec.getLsbD_sshiftRight, BitVec.msb_eq_getLsbD_last]
  simp only [BitVec.getLsbD_or, BitVec.getLsbD_and, BitVec.getLsbD_shiftLeft,
    h11_5, h4_0]
  grind

/-- The offset of a branch is even, its bits are scattered. -/
theorem getLsbD_bImm (raw : BitVec 32) {i : Nat} (hi : i < 32) :
    (bImm raw).getLsbD i =
      (decide (i ≠ 0) && raw.getLsbD (if i < 5 then 7 + i
        else if i < 11 then 20 + i else if i = 11 then 7 else 31)) := by
  have h12 := @getLsbD_mask 0x80000000 31 32 (by decide) (by decide)
  have h10_5 := @getLsbD_mask 0x7E000000 25 31 (by decide) (by decide)
  have h4_1 := @getLsbD_mask 0x00000F00 8 12 (by decide) (by decide)
  have h11 := @getLsbD_mask 0x00000080 7 8 (by decide) (by decide)
  unfold bImm
  rw [BitVec.getLsbD_sshiftRight, BitVec.msb_eq_getLsbD_last]
  simp only [BitVec.getLsbD_or, BitVec.getLsbD_and, BitVec.getLsbD_shiftLeft,
    BitVec.getLsbD_ushiftRight, h12, h10_5, h4_1, h11]
  grind

/-- The upper immediate has its bits in place. -/
theorem getLsbD_uImm (raw : BitVec 32) {i : Nat} (hi : i < 32) :
    (uImm raw).getLsbD i = (decide (12 ≤ i) && raw.getLsbD i) := by
  have h31_12 := @getLsbD_mask 0xFFFFF000 12 32 (by decide) (by decide)
  unfold uImm
  simp only [BitVec.getLsbD_and, h31_12]
  grind

/-- The offset of a jump is even, its bits are scattered. -/
theorem getLsbD_jImm (raw : BitVec 32) {i : Nat} (hi : i < 32) :
    (jImm raw).getLsbD i =
      (decide (i ≠ 0) && raw.getLsbD (if i < 11 then 20 + i
        else if i = 11 then 20 else if i < 20 then i else 31)) := by
  have h20 := @getLsbD_mask 0x80000000 31 32 (by decide) (by decide)
  have h10_1 := @getLsbD_mask 0x7FE00000 21 31 (by decide) (by decide)
  have h11 := @getLsbD_mask 0x00100000 20 21 (by decide) (by decide)
  have h19_12 := @getLsbD_mask 0x000FF000 12 20 (by decide) (by decide)
  unfold jImm
  rw [BitVec.getLsbD_sshiftRight, BitVec.msb_eq_getLsbD_last]
  simp only [BitVec.getLsbD_or, BitVec.getLsbD_and, BitVec.getLsbD_shiftLeft,
    BitVec.getLsbD_ushiftRight, h20, h10_1, h11, h19_12]
  grind

/-! ## Fields of a word -/

section Fields

variable (funct7' : BitVec 7) (rs2' rs1' : BitVec 5) (funct3' : BitVec 3)
  (rd' : BitVec 5) (opcode' : BitVec 7)

/-- The fields of a word that is built are those it was built from, lowest
first. -/
theorem extractLsb'_word_opcode :
    (word funct7' rs2' rs1' funct3' rd' opcode').extractLsb' 0 7 = opcode' := by
  apply BitVec.eq_of_getLsbD_eq
  intro i hi
  rw [BitVec.getLsbD_extractLsb', getLsbD_word]
  grind

theorem extractLsb'_word_rd :
    (word funct7' rs2' rs1' funct3' rd' opcode').extractLsb' 7 5 = rd' := by
  apply BitVec.eq_of_getLsbD_eq
  intro i hi
  rw [BitVec.getLsbD_extractLsb', getLsbD_word]
  grind

theorem extractLsb'_word_funct3 :
    (word funct7' rs2' rs1' funct3' rd' opcode').extractLsb' 12 3 =
      funct3' := by
  apply BitVec.eq_of_getLsbD_eq
  intro i hi
  rw [BitVec.getLsbD_extractLsb', getLsbD_word]
  grind

theorem extractLsb'_word_rs1 :
    (word funct7' rs2' rs1' funct3' rd' opcode').extractLsb' 15 5 = rs1' := by
  apply BitVec.eq_of_getLsbD_eq
  intro i hi
  rw [BitVec.getLsbD_extractLsb', getLsbD_word]
  grind

theorem extractLsb'_word_rs2 :
    (word funct7' rs2' rs1' funct3' rd' opcode').extractLsb' 20 5 = rs2' := by
  apply BitVec.eq_of_getLsbD_eq
  intro i hi
  rw [BitVec.getLsbD_extractLsb', getLsbD_word]
  grind

theorem extractLsb'_word_funct7 :
    (word funct7' rs2' rs1' funct3' rd' opcode').extractLsb' 25 7 =
      funct7' := by
  apply BitVec.eq_of_getLsbD_eq
  intro i hi
  rw [BitVec.getLsbD_extractLsb', getLsbD_word]
  grind

/-- The six fields of a word make it up. -/
theorem word_extractLsb' (raw : BitVec 32) :
    word (raw.extractLsb' 25 7) (raw.extractLsb' 20 5) (raw.extractLsb' 15 5)
      (raw.extractLsb' 12 3) (raw.extractLsb' 7 5) (raw.extractLsb' 0 7) =
      raw := by
  apply BitVec.eq_of_getLsbD_eq
  intro i hi
  simp only [getLsbD_word, BitVec.getLsbD_extractLsb']
  grind

end Fields

/-! ## Fields as the decoder reads them -/

/-- The decoder finds the opcode in the lowest field. -/
theorem opcode_eq (raw : BitVec 32) :
    raw &&& 0x7F = (raw.extractLsb' 0 7).setWidth 32 := by
  have hmask := @getLsbD_mask 0x7F 0 7 (by decide) (by decide)
  apply BitVec.eq_of_getLsbD_eq
  intro i hi
  simp only [BitVec.getLsbD_and, hmask, BitVec.getLsbD_setWidth,
    BitVec.getLsbD_extractLsb']
  grind

/-- And each other field in its place. -/
theorem funct3_eq (raw : BitVec 32) :
    funct3 raw = (raw.extractLsb' 12 3).toNat := by
  have hmask := @getLsbD_mask 0b111 0 3 (by decide) (by decide)
  have hbits : raw >>> 12 &&& 0b111 = (raw.extractLsb' 12 3).setWidth 32 := by
    apply BitVec.eq_of_getLsbD_eq
    intro i hi
    simp only [BitVec.getLsbD_and, hmask, BitVec.getLsbD_setWidth,
      BitVec.getLsbD_extractLsb', BitVec.getLsbD_ushiftRight]
    grind
  unfold funct3
  rw [hbits]
  exact BitVec.toNat_setWidth_of_le (by decide)

theorem funct7_eq (raw : BitVec 32) :
    funct7 raw = (raw.extractLsb' 25 7).toNat := by
  have hbits : raw >>> 25 = (raw.extractLsb' 25 7).setWidth 32 := by
    apply BitVec.eq_of_getLsbD_eq
    intro i hi
    simp only [BitVec.getLsbD_setWidth,
      BitVec.getLsbD_extractLsb', BitVec.getLsbD_ushiftRight]
    grind
  unfold funct7
  rw [hbits]
  exact BitVec.toNat_setWidth_of_le (by decide)

theorem shamt_eq (raw : BitVec 32) :
    shamt raw = (raw.extractLsb' 20 5).setWidth 32 := by
  have hmask := @getLsbD_mask 0x1F 0 5 (by decide) (by decide)
  unfold shamt
  apply BitVec.eq_of_getLsbD_eq
  intro i hi
  simp only [BitVec.getLsbD_and, hmask, BitVec.getLsbD_setWidth,
      BitVec.getLsbD_extractLsb', BitVec.getLsbD_ushiftRight]
  grind
/-! ## Decoding an encoding -/

/-- The decoder finds the opcode of a word that is built. -/
theorem toNat_opcode_word (funct7 : BitVec 7) (rs2 rs1 : BitVec 5)
    (funct3 : BitVec 3) (rd : BitVec 5) (opcode : BitVec 7) :
    (word funct7 rs2 rs1 funct3 rd opcode &&& 0x7F).toNat = opcode.toNat := by
  rw [opcode_eq, extractLsb'_word_opcode]
  exact BitVec.toNat_setWidth_of_le (by decide)

theorem opcode_word (funct7 : BitVec 7) (rs2 rs1 : BitVec 5)
    (funct3 : BitVec 3) (rd : BitVec 5) (o : Opcode) :
    opcode (word funct7 rs2 rs1 funct3 rd o.bits) = some o := by
  unfold opcode
  rw [toNat_opcode_word]
  cases o <;> rfl

section Words

variable (funct7' : BitVec 7) (rs2' rs1' : BitVec 5) (funct3' : BitVec 3)
  (rd' : BitVec 5) (opcode' : BitVec 7)

/-- It finds the registers, each in its own field. -/
theorem rd_word (rd' : Specifier) :
    rd (word funct7' rs2' rs1' funct3' rd'.bits opcode') = rd' := by
  unfold rd specifierAt
  rw [extractLsb'_word_rd]
  rfl

theorem rs1_word (rs1' : Specifier) :
    rs1 (word funct7' rs2' rs1'.bits funct3' rd' opcode') = rs1' := by
  unfold rs1 specifierAt
  rw [extractLsb'_word_rs1]
  rfl

theorem rs2_word (rs2' : Specifier) :
    rs2 (word funct7' rs2'.bits rs1' funct3' rd' opcode') = rs2' := by
  unfold rs2 specifierAt
  rw [extractLsb'_word_rs2]
  rfl

/-- It finds the two function codes. -/
theorem funct3_word :
    funct3 (word funct7' rs2' rs1' funct3' rd' opcode') = funct3'.toNat := by
  rw [funct3_eq, extractLsb'_word_funct3]

theorem funct7_word :
    funct7 (word funct7' rs2' rs1' funct3' rd' opcode') = funct7'.toNat := by
  rw [funct7_eq, extractLsb'_word_funct7]

theorem shamt_word :
    shamt (word funct7' rs2' rs1' funct3' rd' opcode') = rs2'.setWidth 32 := by
  rw [shamt_eq, extractLsb'_word_rs2]

end Words

theorem getLsbD_of_low_zero {imm : BitVec 32} {n : Nat}
    (h : imm.toNat % 2 ^ n = 0) {i : Nat} (hi : i < n) : imm.getLsbD i = false := by
  have hbit := congrArg (Nat.testBit · i) h
  simp only [Nat.testBit_mod_two_pow, Nat.zero_testBit, hi, decide_true,
    Bool.true_and] at hbit
  exact hbit

theorem getLsbD_zero_of_even {imm : BitVec 32} (h : imm.toInt % 2 = 0) :
    imm.getLsbD 0 = false := by
  have heven : imm.toNat % 2 = 0 := by
    rw [BitVec.toInt_eq_toNat_cond] at h
    split at h <;> omega
  rw [BitVec.getLsbD, Nat.testBit_zero]
  exact decide_eq_false (by omega)

/-- An immediate that fits is found again after it was cut to its width. -/
theorem SignedImmediate.signExtend_setWidth {n : Nat} {imm : BitVec 32}
    (h : SignedImmediate (n + 1) imm) (hn : n < 32) :
     (imm.setWidth (n + 1)).signExtend 32 = imm := by
  obtain ⟨hlo, hhi⟩ := h
  rw [Nat.add_sub_cancel] at hlo hhi
  have hdvd : 2 ^ (n + 1) ∣ 2 ^ 32 := Nat.pow_dvd_pow 2 (by omega)
  have hpow : ((2 ^ (n + 1) : Nat) : Int) = 2 * 2 ^ n := by
    push_cast
    rw [Int.pow_succ, Int.mul_comm]
  apply BitVec.eq_of_toInt_eq
  rw [BitVec.toInt_signExtend_of_le (by omega), BitVec.toInt_setWidth]
  rw [← Int.bmod_bmod_of_dvd hdvd, ← BitVec.toInt_eq_toNat_bmod]
  apply Int.bmod_eq_of_le <;> omega

/-- The bits of a signed immediate from its sign bit on are equal. -/
theorem SignedImmediate.getLsbD {n : Nat} {imm : BitVec 32}
    (h : SignedImmediate (n + 1) imm) (hn : n < 32) {i : Nat} (hni : n ≤ i)
    (hi : i < 32) : imm.getLsbD i = imm.getLsbD n := by
  have hmsb : ∀ j, n ≤ j → j < 32 →
      imm.getLsbD j = (imm.setWidth (n + 1)).msb := by
    intro j hnj hj
    conv => lhs; rw [← h.signExtend_setWidth hn]
    rw [BitVec.getLsbD_signExtend, BitVec.msb_eq_getLsbD_last]
    grind
  rw [hmsb i hni hi, hmsb n (Nat.le_refl n) hn]

/-- The immediate of a word in this format is found again. -/
theorem iImm_iType {imm : BitVec 32} (h : SignedImmediate 12 imm)
    (rs1 : Specifier) (funct3 : BitVec 3) (rd : Specifier)
    (opcode : BitVec 7) : iImm (iType imm rs1 funct3 rd opcode) = imm := by
  apply BitVec.eq_of_getLsbD_eq
  intro i hi
  have hsign : 11 ≤ i → imm.getLsbD i = imm.getLsbD 11 := fun hni =>
    h.getLsbD (by decide) hni hi
  rw [getLsbD_iImm _ hi]
  unfold iType
  simp only [getLsbD_word, BitVec.getLsbD_extractLsb']
  grind

theorem sImm_sType {imm : BitVec 32} (h : SignedImmediate 12 imm)
    (rs2 rs1 : Specifier) (funct3 : BitVec 3)
    (opcode : BitVec 7) : sImm (sType imm rs2 rs1 funct3 opcode) = imm := by
  apply BitVec.eq_of_getLsbD_eq
  intro i hi
  have hsign : 11 ≤ i → imm.getLsbD i = imm.getLsbD 11 := fun hni =>
    h.getLsbD (by decide) hni hi
  rw [getLsbD_sImm _ hi]
  unfold sType
  simp only [getLsbD_word, BitVec.getLsbD_extractLsb']
  grind

/-- So is the offset of a branch, if it is even. -/
theorem bImm_bType {imm : BitVec 32} (h : SignedImmediate 13 imm)
    (h0 : imm.getLsbD 0 = false) (rs2 rs1 : Specifier) (funct3 : BitVec 3)
    (opcode : BitVec 7) : bImm (bType imm rs2 rs1 funct3 opcode) = imm := by
  apply BitVec.eq_of_getLsbD_eq
  intro i hi
  have hsign : 12 ≤ i → imm.getLsbD i = imm.getLsbD 12 := fun hni =>
    h.getLsbD (by decide) hni hi
  rw [getLsbD_bImm _ hi]
  unfold bType
  simp only [getLsbD_word, BitVec.getLsbD_extractLsb', BitVec.getLsbD_append]
  grind

/-- So is an upper immediate, if its low bits are zero. -/
theorem uImm_uType {imm : BitVec 32} (h : imm.toNat % 2 ^ 12 = 0)
    (rd : Specifier)
    (opcode : BitVec 7) : uImm (uType imm rd opcode) = imm := by
  have hlow : ∀ i < 12, imm.getLsbD i = false := fun i hi =>
    getLsbD_of_low_zero h hi
  apply BitVec.eq_of_getLsbD_eq
  intro i hi
  rw [getLsbD_uImm _ hi]
  unfold uType
  simp only [getLsbD_word, BitVec.getLsbD_extractLsb']
  grind

/-- So is the offset of a jump, if it is even. -/
theorem jImm_jType {imm : BitVec 32} (h : SignedImmediate 21 imm)
    (h0 : imm.getLsbD 0 = false) (rd : Specifier)
    (opcode : BitVec 7) : jImm (jType imm rd opcode) = imm := by
  apply BitVec.eq_of_getLsbD_eq
  intro i hi
  have hsign : 20 ≤ i → imm.getLsbD i = imm.getLsbD 20 := fun hni =>
    h.getLsbD (by decide) hni hi
  rw [getLsbD_jImm _ hi]
  unfold jType
  simp only [getLsbD_word, BitVec.getLsbD_extractLsb', BitVec.getLsbD_append]
  grind

theorem fenceOrder_iType (predecessor successor : FenceOrderCombination)
    (rs1 : Specifier) (funct3 : BitVec 3) (rd : Specifier)
    (opcode : BitVec 7) (raw : BitVec 32)
    (hraw : raw = iType ((predecessor.bits ++ successor.bits).setWidth 32)
      rs1 funct3 rd opcode) :
    fenceOrder raw 27 = predecessor ∧ fenceOrder raw 23 = successor := by
  have hbits : ∀ i, i < 8 → raw.getLsbD (20 + i) =
      (predecessor.bits ++ successor.bits).getLsbD i := by
    intro i hi
    rw [hraw]
    unfold iType
    simp only [getLsbD_word, BitVec.getLsbD_extractLsb',
      BitVec.getLsbD_setWidth]
    grind
  have hnibble : ∀ order : FenceOrderCombination,
      ({ deviceInput := order.bits.getLsbD 3
         deviceOutput := order.bits.getLsbD 2
         memoryReads := order.bits.getLsbD 1
         memoryWrites := order.bits.getLsbD 0 } : FenceOrderCombination)
        = order := by
    intro ⟨i, o, r, w⟩
    cases i <;> cases o <;> cases r <;> cases w <;> rfl
  have hlow : ∀ i, i < 4 → raw.getLsbD (20 + i) = successor.bits.getLsbD i := by
    intro i hi
    rw [hbits i (by omega), BitVec.getLsbD_append, if_pos hi]
  have hhigh : ∀ i, i < 4 →
      raw.getLsbD (24 + i) = predecessor.bits.getLsbD i := by
    intro i hi
    have h := hbits (4 + i) (by omega)
    rw [BitVec.getLsbD_append, if_neg (by omega), Nat.add_sub_cancel_left] at h
    rw [← h]
    congr 1
    omega
  constructor
  · rw [← hnibble predecessor]
    unfold fenceOrder
    rw [hhigh 3 (by decide), hhigh 2 (by decide), hhigh 1 (by decide),
      hhigh 0 (by decide)]
  · rw [← hnibble successor]
    unfold fenceOrder
    rw [hlow 3 (by decide), hlow 2 (by decide), hlow 1 (by decide),
      hlow 0 (by decide)]

/-- The specifier of a CSR instruction is found again. -/
theorem csrField_word {specifier : CsrSpecifier}
    (h : specifier.toNat < 2 ^ 12) (rs1 : BitVec 5) (funct3 : BitVec 3)
    (rd : BitVec 5) (opcode : BitVec 7) :
    csrField (word ((specifier.setWidth 32).extractLsb' 5 7)
      ((specifier.setWidth 32).extractLsb' 0 5) rs1 funct3 rd opcode) =
      specifier := by
  have hhigh : ∀ i, 12 ≤ i → specifier.getLsbD i = false := by
    intro i hi
    exact Nat.testBit_lt_two_pow
      (Nat.lt_of_lt_of_le h (Nat.pow_le_pow_right (by decide) hi))
  unfold csrField
  apply BitVec.eq_of_getLsbD_eq
  intro i hi
  simp only [BitVec.getLsbD_setWidth, BitVec.getLsbD_ushiftRight, getLsbD_word,
    BitVec.getLsbD_extractLsb']
  grind

/-- A number below `2 ^ n` is its low `n` bits. -/
theorem setWidth_setWidth_of_lt {value : BitVec 32} {n : Nat}
    (h : value.toNat < 2 ^ n) :
    (value.setWidth n).setWidth 32 = value := by
  apply BitVec.eq_of_toNat_eq
  rw [BitVec.toNat_setWidth, BitVec.toNat_setWidth, Nat.mod_eq_of_lt h]
  exact Nat.mod_eq_of_lt value.isLt

/-- Decoding inverts encoding. -/
theorem decode_encode (i : Instruction) (h : i.InRange) :
    decode i.encode = .ok i := by
  cases i with
  | opImm op dest src immediate =>
      have himm := iImm_iType h src op.funct3 dest Opcode.opImm.bits
      unfold Instruction.encode decode
      rw [himm]
      unfold iType
      rw [opcode_word, rd_word, rs1_word]
      unfold iFunct
      rw [funct3_word]
      cases op <;> rfl
  | opShiftImm op dest src shiftAmountU5 =>
      have hbit : (word op.funct7 (shiftAmountU5.setWidth 5) src.bits
          op.funct3 dest.bits Opcode.opImm.bits).getLsbD 30 =
          op.funct7.getLsbD 5 := getLsbD_word _ _ _ _ _ _ _
      unfold Instruction.encode decode
      rw [opcode_word, rd_word, rs1_word, shamt_word]
      unfold iFunct iShfunct
      rw [funct3_word, hbit, setWidth_setWidth_of_lt h]
      cases op <;> rfl
  | auipc dest immediate =>
      unfold Instruction.encode decode
      rw [uImm_uType h]
      unfold uType
      rw [opcode_word, rd_word]
  | lui dest immediate =>
      unfold Instruction.encode decode
      rw [uImm_uType h]
      unfold uType
      rw [opcode_word, rd_word]
  | amo op aq rl src addr dest =>
      unfold Instruction.encode decode rType
      rw [opcode_word, rd_word, rs1_word, rs2_word]
      unfold amoOp amoAq amoRl
      rw [funct3_word, funct7_word, getLsbD_word, getLsbD_word]
      cases op <;> cases aq <;> cases rl <;> rfl
  | op op dest src1 src2 =>
      unfold Instruction.encode decode rType
      rw [opcode_word, rd_word, rs1_word, rs2_word]
      unfold rFunct
      rw [funct3_word, funct7_word]
      cases op <;> rfl
  | jal dest offset =>
      unfold Instruction.encode decode
      rw [jImm_jType h.1 (getLsbD_zero_of_even h.2)]
      unfold jType
      rw [opcode_word, rd_word]
  | jalr dest base offset =>
      unfold Instruction.encode decode
      rw [iImm_iType h]
      unfold iType
      rw [opcode_word, rd_word, rs1_word]
  | branch condition src1 src2 offset =>
      unfold Instruction.encode decode
      rw [bImm_bType h.1 (getLsbD_zero_of_even h.2)]
      unfold bType
      rw [opcode_word, rs1_word, rs2_word]
      unfold bFunct
      rw [funct3_word]
      cases condition <;> rfl
  | load width dest base offset =>
      unfold Instruction.encode decode
      rw [iImm_iType h]
      unfold iType
      rw [opcode_word, rd_word, rs1_word]
      unfold iWidth
      rw [funct3_word]
      cases width <;> rfl
  | store width src base offset =>
      unfold Instruction.encode decode
      rw [sImm_sType h]
      unfold sType
      rw [opcode_word, rs1_word, rs2_word]
      unfold sWidth
      rw [funct3_word]
      cases width <;> rfl
  | fence predecessor successor =>
      have horder := fenceOrder_iType predecessor successor 0 0b000 0
        Opcode.miscMem.bits _ rfl
      unfold Instruction.encode decode
      rw [horder.1, horder.2]
      unfold iType
      rw [opcode_word]
      unfold iMem
      rw [funct3_word]
      rfl
  | ecall => rfl
  | ebreak => rfl
  | sret => rfl
  | mret => rfl
  | wfi => rfl
  | sfenceVma vaddr asid =>
      unfold Instruction.encode decode rType
      rw [opcode_word, rs1_word, rs2_word]
      unfold iSys sysPriv
      rw [funct3_word, funct7_word, rd_word]
      rfl
  | csr op dest specifier src =>
      unfold Instruction.encode decode iType
      rw [opcode_word, rs1_word, rd_word, csrField_word h]
      unfold iSys
      rw [funct3_word]
      cases op <;> rfl
  | csri op dest specifier immediate =>
      have hrs1 : rs1 (word ((specifier.setWidth 32).extractLsb' 5 7)
          ((specifier.setWidth 32).extractLsb' 0 5) (immediate.setWidth 5)
          (op.funct3 ||| 0b100) dest.bits Opcode.system.bits) =
          (immediate.setWidth 5).toFin :=
        rs1_word _ _ _ _ _ (immediate.setWidth 5).toFin
      have himm : BitVec.ofNat 32 (immediate.setWidth 5).toFin.val =
          immediate := by
        rw [BitVec.val_toFin, BitVec.ofNat_toNat]
        exact setWidth_setWidth_of_lt h.2
      unfold Instruction.encode decode
      rw [opcode_word, rd_word, csrField_word h.1, hrs1, himm]
      unfold iSys
      rw [funct3_word]
      cases op <;> rfl

/-- The largest backward branch. -/
theorem decode_encode_branch :
    Instruction.InRange (.branch .bgeu 31 0 0xFFFFF000) ∧
      decode (Instruction.encode (.branch .bgeu 31 0 0xFFFFF000)) =
        .ok (.branch .bgeu 31 0 0xFFFFF000) :=
  ⟨by unfold Instruction.InRange SignedImmediate; decide,
    decode_encode _ (by unfold Instruction.InRange SignedImmediate; decide)⟩

end RedPlanet.Core
