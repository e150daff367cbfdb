import RedPlanet.Core.Execute

/-!
# Traps, interrupts and the step of a core

`Core::trap` of `core/trap.rs`, the interrupt check of `core/interrupts.rs`,
the counter increments of `core/counters.rs`, and `Core::step` with the two
functions it is split into.
-/

namespace RedPlanet.Core

open RedPlanet.Verified

variable {β ε : Type}

/-! ## Traps -/

/-- `Core::should_delegate`. -/
def shouldDelegate (s : State β) : CauseCode → Bool
  | .exception (some code) => s.trap.shouldDelegateException code
  | .interrupt (some interrupt) => s.interrupts.shouldDelegate interrupt
  | _ => false

/-- Whether a trap is taken in S-mode. -/
def trapToSMode (s : State β) (cause : Cause) : Bool :=
  s.privilegeMode != .machine && shouldDelegate s cause.code

/-- The value of xtval for a trap taken at `pc`. -/
def Cause.tval (pc : BitVec 32) : Cause → BitVec 32
  | .exception (some e) =>
      match e with
      | .illegalInstruction rawInstruction => rawInstruction.getD 0
      | .breakpoint => pc
      | .instructionAddressMisaligned vaddr
      | .instructionAccessFault vaddr
      | .loadAddressMisaligned vaddr
      | .storeOrAmoAddressMisaligned vaddr
      | .loadAccessFault vaddr
      | .storeOrAmoAccessFault vaddr
      | .instructionPageFault vaddr
      | .loadPageFault vaddr
      | .storeOrAmoPageFault vaddr => vaddr
      | .environmentCallFromUMode
      | .environmentCallFromSMode
      | .environmentCallFromMMode => 0
  | _ => 0

/-- The cause, pc and value registers of a trap. -/
def recordTrap (toSMode : Bool) (cause : Cause) (pc : BitVec 32)
    (trap : Trap) : Trap :=
  let tval := cause.tval pc
  if toSMode then ((trap.setSTrapCause cause).setSepc pc).setStval tval
  else
    ((((trap.setMTrapCause cause).setMepc pc).setMtval tval).setMtval2 0).setMtinst 0

/-- The trap handler address: interrupts are spread out by a vectored
xtvec. -/
def trapHandlerAddress [Build] (tvecBase : BitVec 32) (tvecMode : VectorMode)
    (cause : Cause) : CoreM β ε (BitVec 32) :=
  match tvecMode, cause with
  | .vectored, .interrupt interrupt => do
      let code := interrupt.elim 0 Interrupt.toNat
      Exec.modify (State.record (.vectored tvecBase code))
      addChecked tvecBase (BitVec.ofNat 32 (4 * code))
  | _, _ => pure tvecBase

/-- The status word on a trap out of `privilegeMode`. -/
def trapStatus (toSMode : Bool) (privilegeMode : PrivilegeLevel)
    (status : Status) : Status :=
  if toSMode then
    ((status.setSpie status.sie).setSie false).setSpp privilegeMode.toRaw
  else ((status.setMpie status.mie).setMie false).setMpp privilegeMode.toRaw

/-- `Core::trap`. -/
def trap [Build] (cause : Cause) : CoreM β ε Unit := do
  let s ← Exec.get
  let pc := s.registers.pc
  let toSMode := trapToSMode s cause
  Exec.modify (State.onTrap (recordTrap toSMode cause pc))
  let handler ←
    if toSMode then
      trapHandlerAddress s.trap.sVectorBaseAddress s.trap.sVectorMode cause
    else trapHandlerAddress s.trap.mVectorBaseAddress s.trap.mVectorMode cause
  Exec.modify (State.onRegisters (Registers.setPc handler))
  Exec.modify (State.onStatus (trapStatus toSMode s.privilegeMode))
  Exec.modify
    (State.setPrivilegeMode (if toSMode then .supervisor else .machine))

/-! ## Interrupts -/

/-- `Core::highest_priority_ready_interrupt`. -/
def highestPriorityReadyInterrupt (s : State β) : Option Interrupt :=
  if s.privilegeMode = .machine ∧ !s.status.mie then none
  else
    match s.interrupts.highestPriorityMReady with
    | some interrupt => some interrupt
    | none =>
        if s.privilegeMode = .supervisor ∧ !s.status.sie then none
        else s.interrupts.highestPrioritySReady

/-- `Core::check_for_interrupts`. -/
def checkForInterrupts [Build] : CoreM β ε Bool := do
  let s ← Exec.get
  match highestPriorityReadyInterrupt s with
  | some interrupt => do
      trap (.interrupt (some interrupt))
      return true
  | none => return false

/-! ## Counters -/

def incrementCycleCounter : CoreM β ε Unit :=
  Exec.modify fun s =>
    s.onCounters (Counters.incrementCycle s.counterControl.inhibitCy)

def incrementInstretCounter : CoreM β ε Unit :=
  Exec.modify fun s =>
    s.onCounters (Counters.incrementInstret s.counterControl.inhibitIr)

/-! ## Stepping -/

/-- ECALL, EBREAK and an instruction that was not fetched or decoded are not
considered to retire. -/
def retires : Except Exception Instruction → Bool
  | .ok .ecall | .ok .ebreak | .error _ => false
  | .ok _ => true

variable [SystemBus β] [Build]

/-- The trap of an instruction that failed. -/
def trapOnError (result : Except Exception Unit) : CoreM β ε Unit :=
  match result with
  | .ok () => pure ()
  | .error e => trap (.exception (some e))

/-- `Core::step_with`. -/
def stepWith (config : Config) (instruction : Except Exception Instruction) :
    CoreM β ε Unit := do
  let result ←
    match instruction with
    | .ok instruction =>
        Exec.attempt (executeInstruction config instruction)
    | .error e => pure (.error e)
  incrementCycleCounter
  if retires instruction then incrementInstretCounter
  trapOnError result

/-- `Core::step_with_raw`. -/
def stepWithRaw (config : Config) (raw : Except Exception (BitVec 32)) :
    CoreM β ε Unit :=
  stepWith config <|
    match raw with
    | .error e => .error e
    | .ok raw =>
        match decode raw with
        | .ok instruction => .ok instruction
        | .error _ => .error (.illegalInstruction (some raw))

def fetchException (pc : BitVec 32) : MemoryError → Exception
  | .misalignedAccess => .instructionAddressMisaligned pc
  | .accessFault => .instructionAccessFault pc
  | .pageFault => .instructionPageFault pc

/-- `Core::step`. -/
def step (config : Config) : CoreM β ε Unit := do
  let s ← Exec.get
  let pc := s.registers.pc
  let interrupted ← checkForInterrupts
  if interrupted then pure ()
  else
    let raw ← Exec.attempt
      (Exec.mapError (fetchException pc) (fetchInstruction config pc))
    stepWithRaw config raw
    let _ ← checkForInterrupts
    pure ()

end RedPlanet.Core
