import RedPlanet.Core.Basic

/-!
# The trap registers

The state of `core/trap.rs` and the CSR views of it: trap vectors, saved
program counters, causes with their guest-written overrides, delegation of
exceptions, and satp.

A cause register shows what the guest wrote to it, if anything since the last
trap, and else the cause of that trap.  The vectors are read and written
behind assertions, for which `Aligned` is the invariant: the accessors do not
panic as long as it holds (`readTvec_isSome`), and every write keeps it
(`writeMtvec_aligned`, `writeStvec_aligned`).
-/

namespace RedPlanet.Core

open RedPlanet.Verified

/-- The bit of an exception in medeleg. -/
def ExceptionCode.mask (code : ExceptionCode) : BitVec 32 :=
  1#32 <<< code.toNat

/-- Every exception that the source knows; the reserved codes cannot be
delegated. -/
def DELEGATABLE_EXCEPTIONS_MASK : BitVec 32 :=
  ExceptionCode.instructionAddressMisaligned.mask
    ||| ExceptionCode.instructionAccessFault.mask
    ||| ExceptionCode.illegalInstruction.mask
    ||| ExceptionCode.breakpoint.mask
    ||| ExceptionCode.loadAddressMisaligned.mask
    ||| ExceptionCode.loadAccessFault.mask
    ||| ExceptionCode.storeOrAmoAddressMisaligned.mask
    ||| ExceptionCode.storeOrAmoAccessFault.mask
    ||| ExceptionCode.environmentCallFromUMode.mask
    ||| ExceptionCode.environmentCallFromSMode.mask
    ||| ExceptionCode.environmentCallFromMMode.mask
    ||| ExceptionCode.instructionPageFault.mask
    ||| ExceptionCode.loadPageFault.mask
    ||| ExceptionCode.storeOrAmoPageFault.mask

/-- How the handler address depends on the cause. -/
inductive VectorMode where
  | direct
  | vectored
deriving DecidableEq, Repr

/-- Whether addresses are translated. -/
inductive SatpMode where
  | bare
  | sv32
deriving DecidableEq, Repr

/-- The cause of a trap; `none` is an unknown cause. -/
inductive Cause where
  | exception (exception : Option Exception)
  | interrupt (interrupt : Option Interrupt)
deriving DecidableEq, Repr

/-- The code of a cause, without what an exception reports besides. -/
inductive CauseCode where
  | exception (code : Option ExceptionCode)
  | interrupt (interrupt : Option Interrupt)
deriving DecidableEq, Repr

/-- An exception keeps its code alone. -/
def Cause.code : Cause → CauseCode
  | .exception e => .exception (e.map Exception.code)
  | .interrupt i => .interrupt i

/-- The trap registers of both modes, medeleg and satp. -/
structure Trap where
  mVectorBaseAddress : BitVec 32
  mVectorMode : VectorMode
  sVectorBaseAddress : BitVec 32
  sVectorMode : VectorMode
  mscratch : BitVec 32
  sscratch : BitVec 32
  mepc : BitVec 32
  sepc : BitVec 32
  lastMTrapCause : Cause
  /-- What the guest last wrote to mcause since the last M-mode trap. -/
  mcauseOverride : Option CauseCode
  lastSTrapCause : Cause
  scauseOverride : Option CauseCode
  /-- The medeleg register. -/
  delegateException : BitVec 32
  mtval : BitVec 32
  mtval2 : BitVec 32
  mtinst : BitVec 32
  stval : BitVec 32
  satpMode : SatpMode
  satpAsid : BitVec 16
  satpPpn : BitVec 32
deriving DecidableEq, Repr

/-! ## Trap vectors -/

/-- The mode in the two low bits of a vector. -/
def VectorMode.bits : VectorMode → BitVec 32
  | .direct => 0
  | .vectored => 1

/-- `read_tvec`; `none` when its assertion fails. -/
def readTvec (baseAddress : BitVec 32) (mode : VectorMode) :
    Option (BitVec 32) :=
  if baseAddress &&& 0b11 = 0 then some (baseAddress ||| mode.bits) else none

/-- `write_tvec`: a reserved mode preserves the old value. -/
def writeTvec (baseAddress : BitVec 32) (mode : VectorMode)
    (value mask : BitVec 32) : Option (BitVec 32 × VectorMode) :=
  (readTvec baseAddress mode).map fun old =>
    let tvec := merge old value mask
    if tvec &&& 0b11 = 0 then (tvec &&& ~~~0b11#32, .direct)
    else if tvec &&& 0b11 = 1 then (tvec &&& ~~~0b11#32, .vectored)
    else (baseAddress, mode)

/-! ## Causes -/

/-- A cause register: the top bit tells interrupts from exceptions. -/
def CauseCode.bits : CauseCode → BitVec 32
  | .exception code => BitVec.ofNat 32 (code.elim 0 ExceptionCode.toNat)
  | .interrupt code =>
      0x80000000#32 ||| BitVec.ofNat 32 (code.elim 0 Interrupt.toNat)

/-- `read_cause`. -/
def readCause (lastTrapCause : Cause) (causeOverride : Option CauseCode) :
    BitVec 32 :=
  match causeOverride with
  | some code => code.bits
  | none => lastTrapCause.code.bits

/-- `write_cause`: an unsupported code is ignored. -/
def writeCause (lastTrapCause : Cause) (causeOverride : Option CauseCode)
    (value mask : BitVec 32) : Option CauseCode :=
  let cause := merge (readCause lastTrapCause causeOverride) value mask
  let isInterrupt := cause.getLsbD 31
  let cause := setBit cause 31 false
  match isInterrupt with
  | false =>
      if cause = 0 then some (.exception none)
      else
        match ExceptionCode.tryFrom cause.toNat with
        | some code => some (.exception (some code))
        | none => causeOverride
  | true =>
      if cause = 0 then some (.interrupt none)
      else
        match Interrupt.tryFrom cause.toNat with
        | some code => some (.interrupt (some code))
        | none => causeOverride

namespace Trap

/-- All of it is zero, and addresses are not translated. -/
def new : Trap where
  mVectorBaseAddress := 0
  mVectorMode := .direct
  sVectorBaseAddress := 0
  sVectorMode := .direct
  mscratch := 0
  sscratch := 0
  mepc := 0
  sepc := 0
  lastMTrapCause := .exception none
  mcauseOverride := none
  lastSTrapCause := .exception none
  scauseOverride := none
  delegateException := 0
  mtval := 0
  mtval2 := 0
  mtinst := 0
  stval := 0
  satpMode := .bare
  satpAsid := 0
  satpPpn := 0

/-- Save the pc for M-mode. -/
def setMepc (address : BitVec 32) (trap : Trap) : Trap :=
  { trap with mepc := address }

/-- Save the pc for S-mode. -/
def setSepc (address : BitVec 32) (trap : Trap) : Trap :=
  { trap with sepc := address }

/-- The cause of a trap, which replaces what the guest wrote. -/
def setMTrapCause (cause : Cause) (trap : Trap) : Trap :=
  { trap with lastMTrapCause := cause, mcauseOverride := none }

/-- The same for S-mode. -/
def setSTrapCause (cause : Cause) (trap : Trap) : Trap :=
  { trap with lastSTrapCause := cause, scauseOverride := none }

/-- What the trap reports. -/
def setMtval (value : BitVec 32) (trap : Trap) : Trap :=
  { trap with mtval := value }

def setMtval2 (value : BitVec 32) (trap : Trap) : Trap :=
  { trap with mtval2 := value }

def setMtinst (value : BitVec 32) (trap : Trap) : Trap :=
  { trap with mtinst := value }

/-- The same for S-mode. -/
def setStval (value : BitVec 32) (trap : Trap) : Trap :=
  { trap with stval := value }

/-- Whether the bit of the exception is set in medeleg. -/
def shouldDelegateException (trap : Trap) (code : ExceptionCode) : Bool :=
  trap.delegateException.getLsbD code.toNat

/-- The mode, the address space and the root table. -/
def satp (trap : Trap) : BitVec 32 :=
  let mode : BitVec 32 :=
    match trap.satpMode with
    | .bare => 0x00000000
    | .sv32 => 0x80000000
  mode ||| trap.satpAsid.setWidth 32 <<< 22 ||| trap.satpPpn

/-! ## CSR writes -/

/-- A write of the vector of M-mode; `none` when its assertion fails. -/
def writeMtvec (value mask : BitVec 32) (trap : Trap) : Option Trap :=
  (writeTvec trap.mVectorBaseAddress trap.mVectorMode value mask).map
    fun tvec => { trap with mVectorBaseAddress := tvec.1, mVectorMode := tvec.2 }

/-- A write of the vector of S-mode. -/
def writeStvec (value mask : BitVec 32) (trap : Trap) : Option Trap :=
  (writeTvec trap.sVectorBaseAddress trap.sVectorMode value mask).map
    fun tvec => { trap with sVectorBaseAddress := tvec.1, sVectorMode := tvec.2 }

def writeMscratch (value mask : BitVec 32) (trap : Trap) : Trap :=
  { trap with mscratch := merge trap.mscratch value mask }

def writeSscratch (value mask : BitVec 32) (trap : Trap) : Trap :=
  { trap with sscratch := merge trap.sscratch value mask }

/-- The low two bits of the saved program counters are never set. -/
def writeMepc (value mask : BitVec 32) (trap : Trap) : Trap :=
  { trap with
    mepc := trap.mepc &&& ~~~mask ||| value &&& mask &&& ~~~0b11#32 }

/-- The same for S-mode. -/
def writeSepc (value mask : BitVec 32) (trap : Trap) : Trap :=
  { trap with
    sepc := trap.sepc &&& ~~~mask ||| value &&& mask &&& ~~~0b11#32 }

/-- What the guest wrote, or the last cause of a trap into M-mode. -/
def readMcause (trap : Trap) : BitVec 32 :=
  readCause trap.lastMTrapCause trap.mcauseOverride

/-- The guest overrides the cause, with a code that is supported. -/
def writeMcause (value mask : BitVec 32) (trap : Trap) : Trap :=
  { trap with
    mcauseOverride :=
      writeCause trap.lastMTrapCause trap.mcauseOverride value mask }

/-- The cause read back without an override is the last M-mode one. -/
def readScause (trap : Trap) : BitVec 32 :=
  readCause trap.lastMTrapCause trap.scauseOverride

/-- The guest overrides the cause of S-mode. -/
def writeScause (value mask : BitVec 32) (trap : Trap) : Trap :=
  { trap with
    scauseOverride :=
      writeCause trap.lastSTrapCause trap.scauseOverride value mask }

/-- Only the delegatable exceptions can be delegated. -/
def writeMedeleg (value mask : BitVec 32) (trap : Trap) : Trap :=
  { trap with
    delegateException :=
      trap.delegateException &&& ~~~mask
        ||| value &&& mask &&& DELEGATABLE_EXCEPTIONS_MASK }

def writeMtval (value mask : BitVec 32) (trap : Trap) : Trap :=
  { trap with mtval := merge trap.mtval value mask }

def writeMtval2 (value mask : BitVec 32) (trap : Trap) : Trap :=
  { trap with mtval2 := merge trap.mtval2 value mask }

def writeMtinst (value mask : BitVec 32) (trap : Trap) : Trap :=
  { trap with mtinst := merge trap.mtinst value mask }

def writeStval (value mask : BitVec 32) (trap : Trap) : Trap :=
  { trap with stval := merge trap.stval value mask }

/-- The part of `write_satp` after the TVM check. -/
def writeSatp (value mask : BitVec 32) (trap : Trap) : Trap :=
  let value := merge trap.satp value mask
  { trap with
    satpMode := if value.getLsbD 31 then .sv32 else .bare
    satpAsid := (value.extractLsb' 22 9).setWidth 16
    satpPpn := (value.extractLsb' 0 22).setWidth 32 }

/-! ## The vectors stay aligned -/

/-- Both vector base addresses are word-aligned, which `read_tvec`
asserts. -/
structure Aligned (trap : Trap) : Prop where
  m : trap.mVectorBaseAddress &&& 0b11 = 0
  s : trap.sVectorBaseAddress &&& 0b11 = 0

/-- The vectors are zero at first. -/
theorem aligned_new : Aligned new where
  m := rfl
  s := rfl

end Trap

/-- An aligned vector can be read. -/
theorem readTvec_isSome {base : BitVec 32} (mode : VectorMode)
    (h : base &&& 0b11 = 0) :
    readTvec base mode = some (base ||| mode.bits) := if_pos h

/-- On an aligned vector the assertion of `write_tvec` holds, and the vector
it leaves is aligned again. -/
theorem writeTvec_aligned {base : BitVec 32} (mode : VectorMode)
    (value mask : BitVec 32) (h : base &&& 0b11 = 0) :
    ∃ tvec, writeTvec base mode value mask = some tvec ∧
      tvec.1 &&& 0b11 = 0 := by
  have hclear : ∀ x : BitVec 32, x &&& ~~~0b11#32 &&& 0b11 = 0 := by
    intro x
    rw [BitVec.and_assoc]
    exact BitVec.and_zero
  unfold writeTvec
  rw [readTvec_isSome mode h, Option.map_some]
  generalize merge (base ||| mode.bits) value mask = tvec
  refine ⟨_, rfl, ?_⟩
  by_cases hdirect : tvec &&& 0b11 = 0
  · rw [if_pos hdirect]
    exact hclear tvec
  · rw [if_neg hdirect]
    by_cases hvectored : tvec &&& 0b11 = 1
    · rw [if_pos hvectored]
      exact hclear tvec
    · rw [if_neg hvectored]
      exact h

namespace Trap

/-- A write of the vector of M-mode goes through and keeps both vectors
aligned. -/
theorem writeMtvec_aligned {trap : Trap} (value mask : BitVec 32)
    (h : Aligned trap) :
    ∃ trap', writeMtvec value mask trap = some trap' ∧ Aligned trap' := by
  obtain ⟨tvec, htvec, haligned⟩ :=
    writeTvec_aligned trap.mVectorMode value mask h.m
  unfold writeMtvec
  rw [htvec]
  exact ⟨_, rfl, haligned, h.s⟩

theorem writeStvec_aligned {trap : Trap} (value mask : BitVec 32)
    (h : Aligned trap) :
    ∃ trap', writeStvec value mask trap = some trap' ∧ Aligned trap' := by
  obtain ⟨tvec, htvec, haligned⟩ :=
    writeTvec_aligned trap.sVectorMode value mask h.s
  unfold writeStvec
  rw [htvec]
  exact ⟨_, rfl, h.m, haligned⟩

end Trap

end RedPlanet.Core
