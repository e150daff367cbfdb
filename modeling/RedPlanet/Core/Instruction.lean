import RedPlanet.Core.Basic

/-!
# Instructions and their encoding

The decoded form of the RV32IMA Zicsr instructions and `Instruction::decode`,
from `instruction.rs`.  Immediates are 32-bit words read as signed where the
source has an `i32`.

The functions that take a field out of the raw word are those of the source,
with its shifts and masks; what bits they amount to is said where encodings are
(`RedPlanet.Core.Encode`).  `decode` follows the nested matches of the source,
its error paths included: an unknown opcode, a function code without an
instruction, and the words that the source refuses to accept.
-/

namespace RedPlanet.Core

/-- A CSR specifier as the source stores it: a `u16` of which 12 bits are
meaningful. -/
abbrev CsrSpecifier := BitVec 16

inductive RegImmOp where
  | addi
  | slti
  | sltiu
  | xori
  | ori
  | andi
deriving DecidableEq, Repr

inductive RegShiftImmOp where
  | slli
  | srli
  | srai
deriving DecidableEq, Repr

inductive AmoOp where
  | lr
  | sc
  | swap
  | add
  | xor
  | and
  | or
  | min
  | max
  | minu
  | maxu
deriving DecidableEq, Repr

/-- The operations on two registers, those of the M extension included. -/
inductive RegRegOp where
  | add
  | slt
  | sltu
  | and
  | or
  | xor
  | sll
  | srl
  | sub
  | sra
  | mul
  | mulh
  | mulhsu
  | mulhu
  | div
  | divu
  | rem
  | remu
deriving DecidableEq, Repr

inductive BranchCondition where
  | beq
  | bne
  | blt
  | bltu
  | bge
  | bgeu
deriving DecidableEq, Repr

inductive LoadWidth where
  | lb
  | lh
  | lw
  | lbu
  | lhu
deriving DecidableEq, Repr

inductive StoreWidth where
  | sb
  | sh
  | sw
deriving DecidableEq, Repr

/-- Which accesses a fence orders. -/
structure FenceOrderCombination where
  deviceInput : Bool
  deviceOutput : Bool
  memoryReads : Bool
  memoryWrites : Bool
deriving DecidableEq, Repr

/-- What a CSR instruction does with its operand: write, set or clear bits. -/
inductive CsrOp where
  | readWrite
  | readSet
  | readClear
deriving DecidableEq, Repr

/-- The decoded instructions.  The fields that execution ignores are kept. -/
inductive Instruction where
  | opImm (op : RegImmOp) (dest src : Specifier) (immediate : BitVec 32)
  | opShiftImm (op : RegShiftImmOp) (dest src : Specifier)
      (shiftAmountU5 : BitVec 32)
  | auipc (dest : Specifier) (immediate : BitVec 32)
  | lui (dest : Specifier) (immediate : BitVec 32)
  | amo (op : AmoOp) (aq rl : Bool) (src addr dest : Specifier)
  | op (op : RegRegOp) (dest src1 src2 : Specifier)
  | jal (dest : Specifier) (offset : BitVec 32)
  | jalr (dest base : Specifier) (offset : BitVec 32)
  | branch (condition : BranchCondition) (src1 src2 : Specifier)
      (offset : BitVec 32)
  | load (width : LoadWidth) (dest base : Specifier) (offset : BitVec 32)
  | store (width : StoreWidth) (src base : Specifier) (offset : BitVec 32)
  | fence (predecessor successor : FenceOrderCombination)
  | ecall
  | ebreak
  | sret
  | mret
  | wfi
  | sfenceVma (vaddr asid : Specifier)
  | csr (op : CsrOp) (dest : Specifier) (csr : CsrSpecifier) (src : Specifier)
  | csri (op : CsrOp) (dest : Specifier) (csr : CsrSpecifier)
      (immediate : BitVec 32)
deriving DecidableEq, Repr

/-- Why a word is not an instruction. -/
inductive DecodeError where
  | unsupportedOpcode
  | illegalInstruction
deriving DecidableEq, Repr

inductive Opcode where
  | opImm
  | auipc
  | lui
  | amo
  | op
  | jal
  | jalr
  | branch
  | load
  | store
  | miscMem
  | system
deriving DecidableEq, Repr

/-- A `SysFunct`: the privileged instructions, or a CSR operation with its
source operand in a register or in the instruction. -/
inductive SysFunct where
  | priv
  | csrReg (op : CsrOp)
  | csrImm (op : CsrOp)
deriving DecidableEq, Repr

/-- The privileged instructions, by their function code. -/
inductive SysPriv where
  | ecall
  | ebreak
  | sret
  | mret
  | wfi
  | sfenceVma
deriving DecidableEq, Repr

/-! ## Fields of the encoding -/

/-- `Specifier::from_u5` of the five bits from `lo` on. -/
def specifierAt (raw : BitVec 32) (lo : Nat) : Specifier :=
  (raw.extractLsb' lo 5).toFin

def rd (raw : BitVec 32) : Specifier := specifierAt raw 7
def rs1 (raw : BitVec 32) : Specifier := specifierAt raw 15
def rs2 (raw : BitVec 32) : Specifier := specifierAt raw 20
def csrField (raw : BitVec 32) : CsrSpecifier := (raw >>> 20).setWidth 16
def funct3 (raw : BitVec 32) : Nat := (raw >>> 12 &&& 0b111).toNat
def funct7 (raw : BitVec 32) : Nat := (raw >>> 25).toNat
def funct12 (raw : BitVec 32) : Nat := (raw >>> 20).toNat
def shamt (raw : BitVec 32) : BitVec 32 := raw >>> 20 &&& 0x1F
def amoRl (raw : BitVec 32) : Bool := raw.getLsbD 25
def amoAq (raw : BitVec 32) : Bool := raw.getLsbD 26

/-- The I-immediate, sign-extended. -/
def iImm (raw : BitVec 32) : BitVec 32 := raw.sshiftRight 20

/-- The S-immediate, in the places of funct7 and rd. -/
def sImm (raw : BitVec 32) : BitVec 32 :=
  let imm11_5 := raw &&& 0xFE000000
  let imm4_0 := raw &&& 0x00000F80
  (imm11_5 ||| imm4_0 <<< 13).sshiftRight 20

/-- The B-immediate, an even offset with its bits scattered. -/
def bImm (raw : BitVec 32) : BitVec 32 :=
  let imm12 := raw &&& 0x80000000
  let imm10_5 := raw &&& 0x7E000000
  let imm4_1 := raw &&& 0x00000F00
  let imm11 := raw &&& 0x00000080
  (imm12 ||| imm11 <<< 23 ||| imm10_5 >>> 1 ||| imm4_1 <<< 12).sshiftRight 19

/-- The U-immediate, in place. -/
def uImm (raw : BitVec 32) : BitVec 32 := raw &&& 0xFFFFF000

/-- The J-immediate, an even offset with its bits scattered. -/
def jImm (raw : BitVec 32) : BitVec 32 :=
  let imm20 := raw &&& 0x80000000
  let imm10_1 := raw &&& 0x7FE00000
  let imm11 := raw &&& 0x00100000
  let imm19_12 := raw &&& 0x000FF000
  (imm20 ||| imm19_12 <<< 11 ||| imm11 <<< 2 ||| imm10_1 >>> 9).sshiftRight 11

/-! ## Selecting the operation -/

/-- The opcodes that the decoder knows. -/
def opcode (raw : BitVec 32) : Option Opcode :=
  match (raw &&& 0x7F).toNat with
  | 0b0000011 => some .load
  | 0b0001111 => some .miscMem
  | 0b0010011 => some .opImm
  | 0b0010111 => some .auipc
  | 0b0100011 => some .store
  | 0b0101111 => some .amo
  | 0b0110011 => some .op
  | 0b0110111 => some .lui
  | 0b1100011 => some .branch
  | 0b1100111 => some .jalr
  | 0b1101111 => some .jal
  | 0b1110011 => some .system
  | _ => none

def iFunct (raw : BitVec 32) : Option RegImmOp :=
  match funct3 raw with
  | 0b000 => some .addi
  | 0b010 => some .slti
  | 0b011 => some .sltiu
  | 0b100 => some .xori
  | 0b110 => some .ori
  | 0b111 => some .andi
  | _ => none

def iShfunct (raw : BitVec 32) : Option RegShiftImmOp :=
  match raw.getLsbD 30, funct3 raw with
  | false, 0b001 => some .slli
  | false, 0b101 => some .srli
  | true, 0b101 => some .srai
  | _, _ => none

/-- The SYSTEM instructions, by their funct3. -/
def iSys (raw : BitVec 32) : Option SysFunct :=
  match funct3 raw with
  | 0b000 => some .priv
  | 0b001 => some (.csrReg .readWrite)
  | 0b010 => some (.csrReg .readSet)
  | 0b011 => some (.csrReg .readClear)
  | 0b101 => some (.csrImm .readWrite)
  | 0b110 => some (.csrImm .readSet)
  | 0b111 => some (.csrImm .readClear)
  | _ => none

def sysPriv (raw : BitVec 32) : Option SysPriv :=
  if rd raw ≠ 0 then none
  else if funct7 raw = 0b0001001 then some .sfenceVma
  else if rs1 raw ≠ 0 then none
  -- Custom SYSTEM instructions have the top bit of funct12 set.
  else if funct12 raw / 2 ^ 11 ≠ 0 then none
  else
    match funct12 raw with
    | 0 => some .ecall
    | 1 => some .ebreak
    | _ =>
        match funct7 raw, (rs2 raw).val with
        | 0b0001000, 2 => some .sret
        | 0b0011000, 2 => some .mret
        | 0b0001000, 5 => some .wfi
        | _, _ => none

/-- `i_mem`: FENCE is the only MISC-MEM instruction. -/
def iMem (raw : BitVec 32) : Bool := funct3 raw = 0b000

def iWidth (raw : BitVec 32) : Option LoadWidth :=
  match funct3 raw with
  | 0b000 => some .lb
  | 0b001 => some .lh
  | 0b010 => some .lw
  | 0b100 => some .lbu
  | 0b101 => some .lhu
  | _ => none

def sWidth (raw : BitVec 32) : Option StoreWidth :=
  match funct3 raw with
  | 0b000 => some .sb
  | 0b001 => some .sh
  | 0b010 => some .sw
  | _ => none

/-- The operation that funct3 and funct7 select, if any. -/
def rFunct (raw : BitVec 32) : Option RegRegOp :=
  match funct7 raw, funct3 raw with
  | 0b0000000, 0b000 => some .add
  | 0b0000000, 0b001 => some .sll
  | 0b0000000, 0b010 => some .slt
  | 0b0000000, 0b011 => some .sltu
  | 0b0000000, 0b100 => some .xor
  | 0b0000000, 0b101 => some .srl
  | 0b0000000, 0b110 => some .or
  | 0b0000000, 0b111 => some .and
  | 0b0100000, 0b000 => some .sub
  | 0b0100000, 0b101 => some .sra
  | 0b0000001, 0b000 => some .mul
  | 0b0000001, 0b001 => some .mulh
  | 0b0000001, 0b010 => some .mulhsu
  | 0b0000001, 0b011 => some .mulhu
  | 0b0000001, 0b100 => some .div
  | 0b0000001, 0b101 => some .divu
  | 0b0000001, 0b110 => some .rem
  | 0b0000001, 0b111 => some .remu
  | _, _ => none

def bFunct (raw : BitVec 32) : Option BranchCondition :=
  match funct3 raw with
  | 0b000 => some .beq
  | 0b001 => some .bne
  | 0b100 => some .blt
  | 0b101 => some .bge
  | 0b110 => some .bltu
  | 0b111 => some .bgeu
  | _ => none

/-- The atomic operation that funct5 selects, if any. -/
def amoOp (raw : BitVec 32) : Option AmoOp :=
  if funct3 raw ≠ 0b010 then none
  else
    match funct7 raw / 2 ^ 2 with
    | 0b00010 => some .lr
    | 0b00011 => some .sc
    | 0b00001 => some .swap
    | 0b00000 => some .add
    | 0b00100 => some .xor
    | 0b01100 => some .and
    | 0b01000 => some .or
    | 0b10000 => some .min
    | 0b10100 => some .max
    | 0b11000 => some .minu
    | 0b11100 => some .maxu
    | _ => none

/-- The four order bits whose highest is bit `hi`. -/
def fenceOrder (raw : BitVec 32) (hi : Nat) : FenceOrderCombination where
  deviceInput := raw.getLsbD hi
  deviceOutput := raw.getLsbD (hi - 1)
  memoryReads := raw.getLsbD (hi - 2)
  memoryWrites := raw.getLsbD (hi - 3)

/-! ## Decoding -/

/-- `Instruction::decode`. -/
def decode (raw : BitVec 32) : Except DecodeError Instruction :=
  match opcode raw with
  | none => .error .unsupportedOpcode
  | some .opImm =>
      match iFunct raw with
      | some op => .ok (.opImm op (rd raw) (rs1 raw) (iImm raw))
      | none =>
          match iShfunct raw with
          | some op => .ok (.opShiftImm op (rd raw) (rs1 raw) (shamt raw))
          | none => .error .illegalInstruction
  | some .auipc => .ok (.auipc (rd raw) (uImm raw))
  | some .lui => .ok (.lui (rd raw) (uImm raw))
  | some .amo =>
      match amoOp raw with
      | some op =>
          .ok (.amo op (amoAq raw) (amoRl raw) (rs2 raw) (rs1 raw) (rd raw))
      | none => .error .illegalInstruction
  | some .op =>
      match rFunct raw with
      | some op => .ok (.op op (rd raw) (rs1 raw) (rs2 raw))
      | none => .error .illegalInstruction
  | some .jal => .ok (.jal (rd raw) (jImm raw))
  | some .jalr => .ok (.jalr (rd raw) (rs1 raw) (iImm raw))
  | some .branch =>
      match bFunct raw with
      | some condition =>
          .ok (.branch condition (rs1 raw) (rs2 raw) (bImm raw))
      | none => .error .illegalInstruction
  | some .load =>
      match iWidth raw with
      | some width => .ok (.load width (rd raw) (rs1 raw) (iImm raw))
      | none => .error .illegalInstruction
  | some .store =>
      match sWidth raw with
      | some width => .ok (.store width (rs2 raw) (rs1 raw) (sImm raw))
      | none => .error .illegalInstruction
  | some .miscMem =>
      if iMem raw then .ok (.fence (fenceOrder raw 27) (fenceOrder raw 23))
      else .error .illegalInstruction
  | some .system =>
      match iSys raw with
      | none => .error .illegalInstruction
      | some .priv =>
          match sysPriv raw with
          | some .ecall => .ok .ecall
          | some .ebreak => .ok .ebreak
          | some .sret => .ok .sret
          | some .mret => .ok .mret
          | some .wfi => .ok .wfi
          | some .sfenceVma => .ok (.sfenceVma (rs1 raw) (rs2 raw))
          | none => .error .illegalInstruction
      | some (.csrReg op) => .ok (.csr op (rd raw) (csrField raw) (rs1 raw))
      | some (.csrImm op) =>
          .ok (.csri op (rd raw) (csrField raw)
            (BitVec.ofNat 32 (rs1 raw).val))

/-! ## Decoded shifts -/

/-- The shift amount of an instruction fits in five bits, which its execution
asserts. -/
def Instruction.ShiftFits : Instruction → Prop
  | opShiftImm _ _ _ shiftAmountU5 => shiftAmountU5.toNat ≤ 31
  | _ => True

instance (instruction : Instruction) : Decidable instruction.ShiftFits := by
  cases instruction <;> unfold Instruction.ShiftFits <;> infer_instance

/-- A shift amount is five bits of the word. -/
theorem shamt_le (raw : BitVec 32) : (shamt raw).toNat ≤ 31 := by
  unfold shamt
  rw [BitVec.toNat_and]
  exact Nat.and_le_right

/-- What decoding accepts satisfies the assertion of the shifts. -/
theorem shiftFits_of_decode {raw : BitVec 32} {instruction : Instruction}
    (h : decode raw = .ok instruction) : instruction.ShiftFits := by
  revert h
  fun_cases decode raw <;> intro h <;> cases h <;>
    first | exact shamt_le raw | trivial

end RedPlanet.Core
