import RedPlanet.Core.Csr
import RedPlanet.Core.Mmu

/-!
# Executing one instruction

`core/execute.rs` and `Core::execute_instruction`.  As in the source, the
instructions of one kind share a generic operation, and each of them is that
operation applied to its own function.

An instruction is a program over the state that may raise an exception.  The
order of its parts is that of the source, since it can be seen: a CSR
operation has written `dest` when its write is refused, and SC when its store
fails.  Assertions of the source on the operands are assertions here, and it is
a theorem that decoded instructions satisfy them.
-/

namespace RedPlanet.Core

open RedPlanet.Verified

variable {β : Type} [SystemBus β]

/-- `bool as u32`. -/
def boolToU32 (b : Bool) : BitVec 32 := if b then 1 else 0

/-- Change the registers and go on. -/
def updateRegisters {ε : Type} (f : Registers → Registers) : CoreM β ε Unit :=
  Exec.modify (State.onRegisters f)

/-! ## Generic implementations -/

/-- `reg_imm_op`: the result goes to `dest`, and the pc to the next
instruction. -/
def regImmOp (op : BitVec 32 → BitVec 32 → BitVec 32) (dest src : Specifier)
    (immediate : BitVec 32) : CoreM β Exception Unit :=
  updateRegisters fun registers =>
    (registers.setX dest (op (registers.x src) immediate)).incrementPc

/-- `reg_shamt_op`, with the assertion on the shift amount. -/
def regShamtOp (op : BitVec 32 → Nat → BitVec 32) (dest src : Specifier)
    (shiftAmountU5 : BitVec 32) : CoreM β Exception Unit := do
  Exec.assert (shiftAmountU5.toNat ≤ 31)
  updateRegisters fun registers =>
    (registers.setX dest
      (op (registers.x src) shiftAmountU5.toNat)).incrementPc

/-- `reg_reg_op`. -/
def regRegOp (op : BitVec 32 → BitVec 32 → BitVec 32)
    (dest src1 src2 : Specifier) : CoreM β Exception Unit :=
  updateRegisters fun registers =>
    (registers.setX dest
      (op (registers.x src1) (registers.x src2))).incrementPc

/-- How an atomic operation reports a memory error: the kinds for loads,
except for a page fault. -/
def amoException (address : BitVec 32) : MemoryError → Exception
  | .misalignedAccess => .loadAddressMisaligned address
  | .accessFault => .loadAccessFault address
  | .pageFault => .storeOrAmoPageFault address

/-- How a load reports a memory error. -/
def loadException (address : BitVec 32) : MemoryError → Exception
  | .misalignedAccess => .loadAddressMisaligned address
  | .accessFault => .loadAccessFault address
  | .pageFault => .loadPageFault address

/-- How a store reports a memory error. -/
def storeException (address : BitVec 32) : MemoryError → Exception
  | .misalignedAccess => .storeOrAmoAddressMisaligned address
  | .accessFault => .storeOrAmoAccessFault address
  | .pageFault => .storeOrAmoPageFault address

/-- The first argument of `op` is the value from memory, the second the one
from `src`. -/
def amoOpWith [Build] (config : Config)
    (op : BitVec 32 → BitVec 32 → BitVec 32) (dest src addr : Specifier) :
    CoreM β Exception Unit := do
  let s ← Exec.get
  let address := s.registers.x addr
  if !isAligned WORD address then
    Exec.throw (.loadAddressMisaligned address)
  else
    let srcValue := s.registers.x src
    let memValue ←
      Exec.mapError (amoException address) (readWord config address)
    Exec.mapError (amoException address)
      (writeWord config address (op memValue srcValue))
    updateRegisters fun registers =>
      (registers.setX dest memValue).incrementPc

/-- `jump_op`: a target that is not aligned is reported, and nothing is
written. -/
def jumpOp (dest : Specifier) (computeTarget : Registers → BitVec 32) :
    CoreM β Exception Unit := do
  let s ← Exec.get
  let newPc := computeTarget s.registers
  if !isAligned WORD newPc then
    Exec.throw (.instructionAddressMisaligned newPc)
  else
    updateRegisters fun registers =>
      (registers.setPc newPc).setX dest (registers.pc + 4)

/-- Takes the branch if `predicate` holds. -/
def condBranch (predicate : BitVec 32 → BitVec 32 → Bool)
    (src1 src2 : Specifier) (offset : BitVec 32) :
    CoreM β Exception Unit := do
  let s ← Exec.get
  if predicate (s.registers.x src1) (s.registers.x src2) then
    let newPc := s.registers.pc + offset
    if !isAligned WORD newPc then
      Exec.throw (.instructionAddressMisaligned newPc)
    else updateRegisters (Registers.setPc newPc)
  else updateRegisters Registers.incrementPc

/-- `load_op`, whose result is written once the read has succeeded. -/
def loadOp (op : BitVec 32 → CoreM β MemoryError (BitVec 32))
    (dest base : Specifier) (offset : BitVec 32) :
    CoreM β Exception Unit := do
  let s ← Exec.get
  let address := s.registers.x base + offset
  let value ← Exec.mapError (loadException address) (op address)
  updateRegisters fun registers => (registers.setX dest value).incrementPc

/-- `store_op`. -/
def storeOp (op : BitVec 32 → BitVec 32 → CoreM β MemoryError Unit)
    (src base : Specifier) (offset : BitVec 32) :
    CoreM β Exception Unit := do
  let s ← Exec.get
  let value := s.registers.x src
  let address := s.registers.x base + offset
  Exec.mapError (storeException address) (op address value)
  updateRegisters Registers.incrementPc

/-- What a CSR operation writes, as a value and a mask. -/
def csrOperand (op : CsrOp) (srcValue : BitVec 32) : BitVec 32 × BitVec 32 :=
  match op with
  | .readWrite => (srcValue, 0xFFFFFFFF)
  | .readSet => (0xFFFFFFFF, srcValue)
  | .readClear => (0x00000000, srcValue)

/-- A CSR read that leaves its result in `dest`. -/
def csrRead (config : Config) (dest : Specifier) (csr : CsrSpecifier)
    (privilegeLevel : PrivilegeLevel) : CoreM β Exception Unit := do
  let oldValue ← Exec.mapError (fun _ => .illegalInstruction none)
    (readCsr config csr privilegeLevel)
  updateRegisters (Registers.setX dest oldValue)

/-- The write of a CSR operation, if it makes one. -/
def csrWrite (op : CsrOp) (csr : CsrSpecifier)
    (privilegeLevel : PrivilegeLevel) (srcValue : Option (BitVec 32)) :
    CoreM β Exception Unit :=
  match srcValue with
  | some srcValue =>
      Exec.mapError (fun _ => .illegalInstruction none)
        (writeCsr csr privilegeLevel (csrOperand op srcValue).1
          (csrOperand op srcValue).2)
  | none => pure ()

/-- The part of `csr_op` after it has read the privilege mode: both halves
run at that level. -/
def csrOpAt (config : Config) (privilegeLevel : PrivilegeLevel) (op : CsrOp)
    (dest : Specifier) (csr : CsrSpecifier) (srcValue : Option (BitVec 32)) :
    CoreM β Exception Unit := do
  if op ≠ .readWrite ∨ dest ≠ 0 then
    csrRead config dest csr privilegeLevel
  csrWrite op csr privilegeLevel srcValue
  updateRegisters Registers.incrementPc

/-- `csr_op`. -/
def csrOp (config : Config) (op : CsrOp) (dest : Specifier)
    (csr : CsrSpecifier) (srcValue : Option (BitVec 32)) :
    CoreM β Exception Unit := do
  let s ← Exec.get
  csrOpAt config s.privilegeMode op dest csr srcValue

/-- `csr_reg_op`: set and clear with `x0` do not write. -/
def csrRegOp (config : Config) (op : CsrOp) (dest : Specifier)
    (csr : CsrSpecifier) (src : Specifier) : CoreM β Exception Unit := do
  let s ← Exec.get
  csrOp config op dest csr
    (if op = .readWrite ∨ src ≠ 0 then some (s.registers.x src) else none)

/-- `csr_imm_op`: set and clear with zero do not write. -/
def csrImmOp (config : Config) (op : CsrOp) (dest : Specifier)
    (csr : CsrSpecifier) (immediate : BitVec 32) : CoreM β Exception Unit :=
  csrOp config op dest csr
    (if op = .readWrite ∨ immediate ≠ 0 then some immediate else none)

/-! ## Integer computation -/

def addi : Specifier → Specifier → BitVec 32 → CoreM β Exception Unit :=
  regImmOp fun s imm => s + imm

def slti : Specifier → Specifier → BitVec 32 → CoreM β Exception Unit :=
  regImmOp fun s imm => boolToU32 (s.slt imm)

def sltiu : Specifier → Specifier → BitVec 32 → CoreM β Exception Unit :=
  regImmOp fun s imm => boolToU32 (s.ult imm)

def andi : Specifier → Specifier → BitVec 32 → CoreM β Exception Unit :=
  regImmOp fun s imm => s &&& imm

def ori : Specifier → Specifier → BitVec 32 → CoreM β Exception Unit :=
  regImmOp fun s imm => s ||| imm

def xori : Specifier → Specifier → BitVec 32 → CoreM β Exception Unit :=
  regImmOp fun s imm => s ^^^ imm

def slli : Specifier → Specifier → BitVec 32 → CoreM β Exception Unit :=
  regShamtOp fun s shamt => s <<< shamt

def srli : Specifier → Specifier → BitVec 32 → CoreM β Exception Unit :=
  regShamtOp fun s shamt => s >>> shamt

def srai : Specifier → Specifier → BitVec 32 → CoreM β Exception Unit :=
  regShamtOp fun s shamt => s.sshiftRight shamt

def lui (dest : Specifier) (immediate : BitVec 32) : CoreM β Exception Unit :=
  updateRegisters fun registers =>
    (registers.setX dest (immediate &&& ~~~0xFFF#32)).incrementPc

def auipc (dest : Specifier) (immediate : BitVec 32) :
    CoreM β Exception Unit :=
  updateRegisters fun registers =>
    (registers.setX dest
      (registers.pc + (immediate &&& ~~~0xFFF#32))).incrementPc

/-- The register-register operation of each `RegRegOp`. -/
def RegRegOp.apply (op : RegRegOp) (s1 s2 : BitVec 32) : BitVec 32 :=
  match op with
  | .add => s1 + s2
  | .slt => boolToU32 (s1.slt s2)
  | .sltu => boolToU32 (s1.ult s2)
  | .and => s1 &&& s2
  | .or => s1 ||| s2
  | .xor => s1 ^^^ s2
  | .sll => s1 <<< (s2 &&& 0x1F).toNat
  | .srl => s1 >>> (s2 &&& 0x1F).toNat
  | .sub => s1 - s2
  | .sra => s1.sshiftRight (s2 &&& 0x1F).toNat
  | .mul => s1 * s2
  | .mulh => ((s1.signExtend 64 * s2.signExtend 64) >>> 32).setWidth 32
  | .mulhsu => ((s1.signExtend 64 * s2.setWidth 64) >>> 32).setWidth 32
  | .mulhu => ((s1.setWidth 64 * s2.setWidth 64) >>> 32).setWidth 32
  | .div => if s2 = 0 then 0xFFFFFFFF else s1.sdiv s2
  | .divu => if s2 = 0 then 0xFFFFFFFF else s1 / s2
  | .rem => if s2 = 0 then s1 else s1.srem s2
  | .remu => if s2 = 0 then s1 else s1 % s2

/-! ## Control transfer -/

def jal (dest : Specifier) (offset : BitVec 32) : CoreM β Exception Unit :=
  jumpOp dest fun registers => registers.pc + offset

def jalr (dest base : Specifier) (offset : BitVec 32) :
    CoreM β Exception Unit :=
  jumpOp dest fun registers => (registers.x base + offset) &&& ~~~1#32

/-- The predicate of each `BranchCondition`. -/
def BranchCondition.holds (condition : BranchCondition) (s1 s2 : BitVec 32) :
    Bool :=
  match condition with
  | .beq => s1 == s2
  | .bne => s1 != s2
  | .blt => s1.slt s2
  | .bltu => s1.ult s2
  | .bge => !s1.slt s2
  | .bgeu => !s1.ult s2

/-! ## Loads, stores and atomics -/

section Memory

variable [Build]

/-- The memory read of each `LoadWidth`, extended to 32 bits. -/
def LoadWidth.read (config : Config) (width : LoadWidth)
    (address : BitVec 32) : CoreM β MemoryError (BitVec 32) :=
  match width with
  | .lb => (BitVec.signExtend 32) <$> readByte config address
  | .lbu => (BitVec.setWidth 32) <$> readByte config address
  | .lh => (BitVec.signExtend 32) <$> readHalfword config address
  | .lhu => (BitVec.setWidth 32) <$> readHalfword config address
  | .lw => readWord config address

/-- The memory write of each `StoreWidth`, of the low bytes of `value`. -/
def StoreWidth.write (config : Config) (width : StoreWidth)
    (address value : BitVec 32) : CoreM β MemoryError Unit :=
  match width with
  | .sb => writeByte config address (value.setWidth 8)
  | .sh => writeHalfword config address (value.setWidth 16)
  | .sw => writeWord config address value

/-- `lr_w`, a load from an address that must be aligned to words. -/
def lr (config : Config) (dest _src addr : Specifier) :
    CoreM β Exception Unit :=
  loadOp
    (fun address =>
      if !isAligned WORD address then Exec.throw .misalignedAccess
      else readWord config address)
    dest addr 0

/-- Since only one core is supported, sc always succeeds. -/
def sc (config : Config) (dest src addr : Specifier) :
    CoreM β Exception Unit :=
  storeOp
    (fun address value =>
      if !isAligned WORD address then Exec.throw .misalignedAccess
      else do
        updateRegisters (Registers.setX dest 0)
        writeWord config address value)
    src addr 0

def signedMax (a b : BitVec 32) : BitVec 32 := if a.slt b then b else a

def signedMin (a b : BitVec 32) : BitVec 32 := if b.slt a then b else a

def unsignedMax (a b : BitVec 32) : BitVec 32 := if a.ult b then b else a

def unsignedMin (a b : BitVec 32) : BitVec 32 := if b.ult a then b else a

/-- The dispatch on `AmoOp`. -/
def executeAmo (config : Config) (op : AmoOp) :
    Specifier → Specifier → Specifier → CoreM β Exception Unit :=
  match op with
  | .lr => lr config
  | .sc => sc config
  | .swap => amoOpWith config fun _ reg => reg
  | .add => amoOpWith config fun mem reg => mem + reg
  | .xor => amoOpWith config fun mem reg => mem ^^^ reg
  | .and => amoOpWith config fun mem reg => mem &&& reg
  | .or => amoOpWith config fun mem reg => mem ||| reg
  | .min => amoOpWith config signedMin
  | .max => amoOpWith config signedMax
  | .minu => amoOpWith config unsignedMin
  | .maxu => amoOpWith config unsignedMax

end Memory

/-! ## System instructions -/

/-- Since only one core is supported, a fence is a nop. -/
def fence (_predecessor _successor : FenceOrderCombination) :
    CoreM β Exception Unit :=
  updateRegisters Registers.incrementPc

/-- The exception depends on the mode it is raised in. -/
def ecall : CoreM β Exception Unit := do
  let s ← Exec.get
  match s.privilegeMode with
  | .user => Exec.throw .environmentCallFromUMode
  | .supervisor => Exec.throw .environmentCallFromSMode
  | .machine => Exec.throw .environmentCallFromMMode

def ebreak : CoreM β Exception Unit := Exec.throw .breakpoint

/-- The status word on a return to level `pp`: `status`, and MPRV cleared
unless the return is to M-mode. -/
def leaveStatus (pp : PrivilegeLevel) (status : Status → Status)
    (before : Status) : Status :=
  if pp ≠ .machine then (status before).setMprv false else status before

/-- The state changes that `sret` and `mret` share once `xPP` is known: the
status word, then the mode, then the pc. -/
def returnTo {ε : Type} (pp : PrivilegeLevel) (status : Status → Status)
    (epc : Trap → BitVec 32) : CoreM β ε Unit :=
  Exec.modify fun s =>
    let s := s.onStatus (leaveStatus pp status)
    let s := s.setPrivilegeMode pp
    s.onRegisters (Registers.setPc (epc s.trap))

/-- The status word in the course of SRET, before MPRV is considered. -/
def sretStatus (status : Status) : Status :=
  ((status.setSie status.spie).setSpie true).setSpp .user

def sret : CoreM β Exception Unit := do
  let s ← Exec.get
  if s.privilegeMode < .supervisor then
    Exec.throw (.illegalInstruction none)
  else if s.status.tsr then Exec.throw (.illegalInstruction none)
  else returnTo s.status.spp sretStatus Trap.sepc

/-- The status word in the course of MRET, before MPRV is considered. -/
def mretStatus (status : Status) : Status :=
  ((status.setMie status.mpie).setMpie true).setMpp .user

def mret : CoreM β Exception Unit := do
  let s ← Exec.get
  if s.privilegeMode < .machine then Exec.throw (.illegalInstruction none)
  else
    let pp ← Exec.unwrap s.status.mpp
    returnTo pp mretStatus Trap.mepc

/-- Implemented as a nop. -/
def wfi : CoreM β Exception Unit := do
  let s ← Exec.get
  if s.privilegeMode < .machine ∧ s.status.tw then
    Exec.throw (.illegalInstruction none)
  else updateRegisters Registers.incrementPc

/-- There is no translation cache to flush; what is left is the check. -/
def sfenceVma (_vaddr _asid : Specifier) : CoreM β Exception Unit := do
  let s ← Exec.get
  if s.status.tvm then Exec.throw (.illegalInstruction none)
  else updateRegisters Registers.incrementPc

/-! ## The dispatch -/

/-- `Core::execute_instruction`. -/
def executeInstruction [Build] (config : Config) :
    Instruction → CoreM β Exception Unit
  | .opImm op dest src immediate =>
      match op with
      | .addi => addi dest src immediate
      | .slti => slti dest src immediate
      | .sltiu => sltiu dest src immediate
      | .xori => xori dest src immediate
      | .ori => ori dest src immediate
      | .andi => andi dest src immediate
  | .opShiftImm op dest src shiftAmountU5 =>
      match op with
      | .slli => slli dest src shiftAmountU5
      | .srli => srli dest src shiftAmountU5
      | .srai => srai dest src shiftAmountU5
  | .auipc dest immediate => auipc dest immediate
  | .lui dest immediate => lui dest immediate
  | .amo op _ _ src addr dest => executeAmo config op dest src addr
  | .op op dest src1 src2 => regRegOp op.apply dest src1 src2
  | .jal dest offset => jal dest offset
  | .jalr dest base offset => jalr dest base offset
  | .branch condition src1 src2 offset =>
      condBranch condition.holds src1 src2 offset
  | .load width dest base offset => loadOp (width.read config) dest base offset
  | .store width src base offset => storeOp (width.write config) src base offset
  | .fence predecessor successor => fence predecessor successor
  | .ecall => ecall
  | .ebreak => ebreak
  | .sret => sret
  | .mret => mret
  | .wfi => wfi
  | .sfenceVma vaddr asid => sfenceVma vaddr asid
  | .csr op dest csr src => csrRegOp config op dest csr src
  | .csri op dest csr immediate => csrImmOp config op dest csr immediate

end RedPlanet.Core
