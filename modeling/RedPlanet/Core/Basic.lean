import RedPlanet.Verified.Exec
import RedPlanet.Verified.Bits

/-!
# The vocabulary of the core

Privilege levels, alignments, general purpose registers, exceptions and
interrupts: the types of `lib.rs`, `registers.rs`, `system_bus.rs` and the end
of `core/mod.rs`.  A `u32` is a `BitVec 32`, a `usize` a `Nat`.

An enumeration of the source with explicit discriminants is an inductive type
with a `toNat`, and its `TryFrom` a function into `Option`; a privilege level
read from a register may be reserved, so there is `RawPrivilegeLevel` beside
`PrivilegeLevel`.  Whether additions are checked for overflow is a matter of
the build (`Build`): what the code does in both is one definition over it.
-/

namespace RedPlanet.Core

/-- Whether the program was compiled with overflow checks: with them a `u32`
addition that overflows panics, as in a debug build, and without them it
wraps. -/
class Build where
  overflowChecks : Bool

/-- A debug build checks additions for overflow. -/
@[reducible] def Build.debug : Build where
  overflowChecks := true

/-- A release build lets them wrap around. -/
@[reducible] def Build.release : Build where
  overflowChecks := false

/-- `a + b` of two `u32`; `none` is a panic. -/
def addU32 [Build] (a b : BitVec 32) : Option (BitVec 32) :=
  if Build.overflowChecks ∧ 2 ^ 32 ≤ a.toNat + b.toNat then none
  else some (a + b)

/-! ## Privilege levels -/

/-- A two-bit privilege level, the reserved one included. -/
inductive RawPrivilegeLevel where
  | user
  | supervisor
  | reserved
  | machine
deriving DecidableEq, Repr

/-- The defined privilege levels. -/
inductive PrivilegeLevel where
  | user
  | supervisor
  | machine
deriving DecidableEq, Repr

namespace RawPrivilegeLevel

/-- The discriminant. -/
def toNat : RawPrivilegeLevel → Nat
  | user => 0
  | supervisor => 1
  | reserved => 2
  | machine => 3

/-- The level with these two bits, the reserved one included. -/
def fromU2 (value : BitVec 2) : RawPrivilegeLevel :=
  match value.toNat with
  | 0 => user
  | 1 => supervisor
  | 2 => reserved
  | _ => machine

/-- `PrivilegeLevel::try_from`. -/
def toPrivilegeLevel : RawPrivilegeLevel → Option PrivilegeLevel
  | user => some .user
  | supervisor => some .supervisor
  | reserved => none
  | machine => some .machine

end RawPrivilegeLevel

namespace PrivilegeLevel

/-- The discriminant. -/
def toNat : PrivilegeLevel → Nat
  | user => 0
  | supervisor => 1
  | machine => 3

def toRaw : PrivilegeLevel → RawPrivilegeLevel
  | user => .user
  | supervisor => .supervisor
  | machine => .machine

instance : LE PrivilegeLevel where
  le a b := a.toNat ≤ b.toNat

instance : LT PrivilegeLevel where
  lt a b := a.toNat < b.toNat

instance (a b : PrivilegeLevel) : Decidable (a ≤ b) :=
  inferInstanceAs (Decidable (a.toNat ≤ b.toNat))

instance (a b : PrivilegeLevel) : Decidable (a < b) :=
  inferInstanceAs (Decidable (a.toNat < b.toNat))

theorem lt_def {a b : PrivilegeLevel} : a < b ↔ a.toNat < b.toNat := Iff.rfl

theorem le_refl (a : PrivilegeLevel) : a ≤ a := Nat.le_refl _

theorem le_trans {a b c : PrivilegeLevel} (hab : a ≤ b) (hbc : b ≤ c) :
    a ≤ c := Nat.le_trans hab hbc

theorem le_machine (a : PrivilegeLevel) : a ≤ machine := by
  cases a <;> decide

end PrivilegeLevel

/-! ## Byte order, alignment and kinds of access -/

inductive Endianness where
  | LE
  | BE
deriving DecidableEq, Repr

inductive AccessType where
  | read
  | write
  | execute
deriving DecidableEq, Repr

/-- `Alignment::natural_for_size`: the alignment as a power of two, zero for
an alignment of `1 << 32`. -/
def naturalAlignment (size : BitVec 32) : Option (BitVec 32) :=
  if size = 0 then some 0
  else if size.toNat.isPowerOfTwo then some size else none

/-- `Alignment::is_aligned`. -/
def isAligned (alignment address : BitVec 32) : Bool :=
  address &&& (alignment - 1) = 0

def HALFWORD : BitVec 32 := 2

def WORD : BitVec 32 := 4

/-- An address is aligned to words just if it is a multiple of four. -/
theorem isAligned_WORD {address : BitVec 32} :
    isAligned WORD address = true ↔ address.toNat % 4 = 0 := by
  have hand : (address &&& (WORD - 1)).toNat = address.toNat % 4 :=
    (BitVec.toNat_and ..).trans (Nat.and_two_pow_sub_one_eq_mod _ 2)
  unfold isAligned
  rw [decide_eq_true_eq, ← hand]
  constructor
  · intro h
    rw [h]
    rfl
  · intro h
    exact BitVec.eq_of_toNat_eq h

/-! ## General purpose registers -/

/-- An `x` register specifier, below `LEN = 32` by construction. -/
abbrev Specifier := Fin 32

instance Specifier.neZero : NeZero 32 := ⟨by decide⟩

/-- The thirty-two registers and the program counter. -/
structure Registers where
  xRegisters : Specifier → BitVec 32
  pc : BitVec 32

namespace Registers

def new (initialPc : BitVec 32) : Registers where
  xRegisters := fun _ => 0
  pc := initialPc

/-- The value of a register; `x0` is zero because it is never written. -/
def x (registers : Registers) (specifier : Specifier) : BitVec 32 :=
  registers.xRegisters specifier

/-- Writes to register `x0` are ignored. -/
def setX (specifier : Specifier) (value : BitVec 32) (registers : Registers) :
    Registers :=
  if specifier = 0 then registers
  else
    { registers with
      xRegisters := fun other =>
        if other = specifier then value else registers.xRegisters other }

def setPc (pc : BitVec 32) (registers : Registers) : Registers :=
  { registers with pc := pc }

def incrementPc (registers : Registers) : Registers :=
  registers.setPc (registers.pc + 4)

end Registers

/-! ## Exceptions -/

inductive ExceptionCode where
  | instructionAddressMisaligned
  | instructionAccessFault
  | illegalInstruction
  | breakpoint
  | loadAddressMisaligned
  | loadAccessFault
  | storeOrAmoAddressMisaligned
  | storeOrAmoAccessFault
  | environmentCallFromUMode
  | environmentCallFromSMode
  | environmentCallFromMMode
  | instructionPageFault
  | loadPageFault
  | storeOrAmoPageFault
deriving DecidableEq, Repr

namespace ExceptionCode

def toNat : ExceptionCode → Nat
  | instructionAddressMisaligned => 0
  | instructionAccessFault => 1
  | illegalInstruction => 2
  | breakpoint => 3
  | loadAddressMisaligned => 4
  | loadAccessFault => 5
  | storeOrAmoAddressMisaligned => 6
  | storeOrAmoAccessFault => 7
  | environmentCallFromUMode => 8
  | environmentCallFromSMode => 9
  | environmentCallFromMMode => 11
  | instructionPageFault => 12
  | loadPageFault => 13
  | storeOrAmoPageFault => 15

/-- `ExceptionCode::try_from`: `none` is the unsupported code. -/
def tryFrom : Nat → Option ExceptionCode
  | 0 => some instructionAddressMisaligned
  | 1 => some instructionAccessFault
  | 2 => some illegalInstruction
  | 3 => some breakpoint
  | 4 => some loadAddressMisaligned
  | 5 => some loadAccessFault
  | 6 => some storeOrAmoAddressMisaligned
  | 7 => some storeOrAmoAccessFault
  | 8 => some environmentCallFromUMode
  | 9 => some environmentCallFromSMode
  | 11 => some environmentCallFromMMode
  | 12 => some instructionPageFault
  | 13 => some loadPageFault
  | 15 => some storeOrAmoPageFault
  | _ => none

end ExceptionCode

/-- An exception and the address or instruction it reports. -/
inductive Exception where
  | instructionAddressMisaligned (vaddr : BitVec 32)
  | instructionAccessFault (vaddr : BitVec 32)
  | illegalInstruction (rawInstruction : Option (BitVec 32))
  | breakpoint
  | loadAddressMisaligned (vaddr : BitVec 32)
  | loadAccessFault (vaddr : BitVec 32)
  | storeOrAmoAddressMisaligned (vaddr : BitVec 32)
  | storeOrAmoAccessFault (vaddr : BitVec 32)
  | environmentCallFromUMode
  | environmentCallFromSMode
  | environmentCallFromMMode
  | instructionPageFault (vaddr : BitVec 32)
  | loadPageFault (vaddr : BitVec 32)
  | storeOrAmoPageFault (vaddr : BitVec 32)
deriving DecidableEq, Repr

/-- The code that an exception is reported with. -/
def Exception.code : Exception → ExceptionCode
  | instructionAddressMisaligned _ => .instructionAddressMisaligned
  | instructionAccessFault _ => .instructionAccessFault
  | illegalInstruction _ => .illegalInstruction
  | breakpoint => .breakpoint
  | loadAddressMisaligned _ => .loadAddressMisaligned
  | loadAccessFault _ => .loadAccessFault
  | storeOrAmoAddressMisaligned _ => .storeOrAmoAddressMisaligned
  | storeOrAmoAccessFault _ => .storeOrAmoAccessFault
  | environmentCallFromUMode => .environmentCallFromUMode
  | environmentCallFromSMode => .environmentCallFromSMode
  | environmentCallFromMMode => .environmentCallFromMMode
  | instructionPageFault _ => .instructionPageFault
  | loadPageFault _ => .loadPageFault
  | storeOrAmoPageFault _ => .storeOrAmoPageFault

/-! ## Interrupts -/

inductive Interrupt where
  | supervisorSoftwareInterrupt
  | machineSoftwareInterrupt
  | supervisorTimerInterrupt
  | machineTimerInterrupt
  | supervisorExternalInterrupt
  | machineExternalInterrupt
deriving DecidableEq, Repr

namespace Interrupt

/-- The discriminant: the cause number, and the bit in mip and mie. -/
def toNat : Interrupt → Nat
  | supervisorSoftwareInterrupt => 1
  | machineSoftwareInterrupt => 3
  | supervisorTimerInterrupt => 5
  | machineTimerInterrupt => 7
  | supervisorExternalInterrupt => 9
  | machineExternalInterrupt => 11

/-- `Interrupt::try_from`: `none` is the unsupported code. -/
def tryFrom : Nat → Option Interrupt
  | 1 => some supervisorSoftwareInterrupt
  | 3 => some machineSoftwareInterrupt
  | 5 => some supervisorTimerInterrupt
  | 7 => some machineTimerInterrupt
  | 9 => some supervisorExternalInterrupt
  | 11 => some machineExternalInterrupt
  | _ => none

end Interrupt

/-- The two functions of an `IrqCallback`. -/
inductive Callback where
  | raise
  | lower
deriving DecidableEq, Repr

/-- A call of a device on the callback that the core made for it. -/
inductive IrqCall where
  | raise (code : Interrupt)
  | lower (code : Interrupt)
deriving DecidableEq, Repr

/-- A call on the callback for `code`. -/
def IrqCall.of (code : Interrupt) : Callback → IrqCall
  | .raise => raise code
  | .lower => lower code

/-- The interrupt whose callback was called. -/
def IrqCall.code : IrqCall → Interrupt
  | raise code => code
  | lower code => code

@[simp] theorem IrqCall.code_of (code : Interrupt) (callback : Callback) :
    (IrqCall.of code callback).code = code := by
  cases callback <;> rfl

end RedPlanet.Core
