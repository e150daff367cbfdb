import RedPlanet.Core.Levels
import RedPlanet.Core.TrapEntry

/-!
# Traps and the returns from them

Each of the two handler modes keeps what it needs of the interrupted program:
its own xepc, xcause and xtval, and a stack of one interrupt enable and one
mode in the status word.  A trap pushes on the stack of its target, a return
pops it, and neither touches the other mode's.

`TrapTaken` is the whole effect of a trap, its frame included
(`trap_taken_iff`); a return right after it resumes the interrupted program
(`resumed_after_trap`).  The lemmas on stacks come first, since the two
status words of a trap and a return are compared by them.
-/

namespace RedPlanet.Core

open RedPlanet.Verified

variable {β ε : Type}

/-! ## The stacks of the status word -/

/-- The fields xIE, xPIE and xPP. -/
structure ModeStack where
  enable : Bool
  previousEnable : Bool
  previousMode : Option PrivilegeLevel
deriving DecidableEq, Repr

/-- A trap disables interrupts and remembers the enable and the mode. -/
def ModeStack.push (mode : PrivilegeLevel) (stack : ModeStack) : ModeStack where
  enable := false
  previousEnable := stack.enable
  previousMode := some mode

/-- A return takes the enable back, and the remembered mode becomes U-mode. -/
def ModeStack.pop (stack : ModeStack) : ModeStack where
  enable := stack.previousEnable
  previousEnable := true
  previousMode := some .user

/-- What a return after a trap leaves of the stack: the enable is back. -/
theorem ModeStack.enable_pop_push (mode : PrivilegeLevel)
    (stack : ModeStack) : (stack.push mode).pop.enable = stack.enable := rfl

/-- The stack of S-mode, or that of M-mode. -/
def Status.stack (toSMode : Bool) (status : Status) : ModeStack :=
  if toSMode then ⟨status.sie, status.spie, some status.spp⟩
  else ⟨status.mie, status.mpie, status.mpp⟩

/-- The bits of mstatus that a stack consists of. -/
def Status.stackBits (toSMode : Bool) : List Nat :=
  if toSMode then [idx.SPIE, idx.SIE, idx.SPP]
  else [idx.MPIE, idx.MIE, idx.MPP, idx.MPP + 1]

/-- Changes elsewhere leave a stack alone. -/
theorem Status.stack_of_touches {bits : List Nat} {set : Status → Status}
    (toSMode : Bool) (h : Status.Touches bits set)
    (hbits : ∀ i, i ∈ Status.stackBits toSMode → i ∉ bits) (status : Status) :
    (set status).stack toSMode = status.stack toSMode := by
  have hbit : ∀ i, i ∈ Status.stackBits toSMode →
      (set status).bit i = status.bit i := by
    intro i hi
    exact Status.bit_of_touches h (hbits i hi) status
  cases toSMode with
  | true =>
      show ModeStack.mk ((set status).bit idx.SIE) ((set status).bit idx.SPIE)
        (some (if (set status).bit idx.SPP then .supervisor else .user)) = _
      rw [hbit idx.SIE (by decide), hbit idx.SPIE (by decide),
        hbit idx.SPP (by decide)]
      rfl
  | false =>
      show ModeStack.mk ((set status).bit idx.MIE) ((set status).bit idx.MPIE)
        (set status).mpp = _
      rw [hbit idx.MIE (by decide), hbit idx.MPIE (by decide),
        Status.mpp_of_touches h (hbits _ (by decide)) (hbits _ (by decide))]
      rfl

/-- Two bits set one after the other. -/
theorem Status.bits_setField_setField {i j : Nat} (hi : i < 32) (hj : j < 32)
    (hij : i ≠ j) (a b : Bool) (status : Status) :
    ((status.setField i a).setField j b).bit i = a ∧
      ((status.setField i a).setField j b).bit j = b := by
  constructor
  · exact (getLsbD_setBit_ne _ b hij).trans (getLsbD_setBit_self _ a hi)
  · exact getLsbD_setBit_self _ b hj

/-! ## The status word over a trap and a return -/

/-- A trap touches the stack of its target only. -/
theorem touches_trapStatus (toSMode : Bool) (mode : PrivilegeLevel) :
    Status.Touches (Status.stackBits toSMode) (trapStatus toSMode mode) := by
  intro status
  cases toSMode with
  | true =>
      exact ((Status.Touches.setField idx.SPIE status.sie).comp
        (Status.Touches.setField idx.SIE false) |>.comp
        (Status.touches_setSpp mode.toRaw)) status
  | false =>
      exact ((Status.Touches.setField idx.MPIE status.mie).comp
        (Status.Touches.setField idx.MIE false) |>.comp
        (Status.touches_setMpp mode.toRaw)) status

/-- An `mret` touches the stack of M-mode only. -/
theorem touches_mretStatus :
    Status.Touches [idx.MIE, idx.MPIE, idx.MPP, idx.MPP + 1] mretStatus := by
  intro status
  exact ((Status.Touches.setField idx.MIE status.mpie).comp
    (Status.Touches.setField idx.MPIE true) |>.comp
    (Status.touches_setMpp .user)) status

/-- The bits of the two stacks are different ones. -/
theorem stackBits_disjoint (toSMode : Bool) :
    ∀ i, i ∈ Status.stackBits (!toSMode) → i ∉ Status.stackBits toSMode := by
  cases toSMode <;> decide

/-- Setting the previous mode of S-mode. -/
theorem stack_setSpp {mode : PrivilegeLevel} (hmode : mode ≤ .supervisor)
    (status : Status) :
    (status.setSpp mode.toRaw).stack true =
      ⟨status.sie, status.spie, some mode⟩ := by
  have hbit : ∀ i, i ∉ [idx.SPP] →
      (status.setSpp mode.toRaw).bit i = status.bit i := by
    intro i hi
    exact Status.bit_of_touches (Status.touches_setSpp mode.toRaw) hi status
  show ModeStack.mk ((status.setSpp mode.toRaw).bit idx.SIE)
    ((status.setSpp mode.toRaw).bit idx.SPIE)
    (some (status.setSpp mode.toRaw).spp) = _
  rw [hbit idx.SIE (by decide), hbit idx.SPIE (by decide), spp_setSpp hmode]
  rfl

/-- Setting the previous mode of M-mode. -/
theorem stack_setMpp (mode : PrivilegeLevel) (status : Status) :
    (status.setMpp mode.toRaw).stack false =
      ⟨status.mie, status.mpie, some mode⟩ := by
  have hbit : ∀ i, i ∉ [idx.MPP, idx.MPP + 1] →
      (status.setMpp mode.toRaw).bit i = status.bit i := by
    intro i hi
    exact Status.bit_of_touches (Status.touches_setMpp mode.toRaw) hi status
  show ModeStack.mk ((status.setMpp mode.toRaw).bit idx.MIE)
    ((status.setMpp mode.toRaw).bit idx.MPIE)
    (status.setMpp mode.toRaw).mpp = _
  rw [hbit idx.MIE (by decide), hbit idx.MPIE (by decide), Status.mpp_setMpp]
  rfl

/-- A trap pushes on the stack of its target. -/
theorem stack_trapStatus (toSMode : Bool) {mode : PrivilegeLevel}
    (hmode : toSMode = true → mode ≤ .supervisor) (status : Status) :
    (trapStatus toSMode mode status).stack toSMode =
      (status.stack toSMode).push mode := by
  cases toSMode with
  | true =>
      obtain ⟨hspie, hsie⟩ := @Status.bits_setField_setField idx.SPIE idx.SIE
        (by decide) (by decide) (by decide) status.sie false status
      show (((status.setField idx.SPIE status.sie).setField idx.SIE
        false).setSpp mode.toRaw).stack true = _
      rw [stack_setSpp (hmode rfl)]
      show ModeStack.mk (Status.bit _ idx.SIE) (Status.bit _ idx.SPIE) _ = _
      rw [hsie, hspie]
      rfl
  | false =>
      obtain ⟨hmpie, hmie⟩ := @Status.bits_setField_setField idx.MPIE idx.MIE
        (by decide) (by decide) (by decide) status.mie false status
      show (((status.setField idx.MPIE status.mie).setField idx.MIE
        false).setMpp mode.toRaw).stack false = _
      rw [stack_setMpp]
      show ModeStack.mk (Status.bit _ idx.MIE) (Status.bit _ idx.MPIE) _ = _
      rw [hmie, hmpie]
      rfl

/-- `sret` pops the stack of S-mode. -/
theorem stack_sretStatus (status : Status) :
    (sretStatus status).stack true = (status.stack true).pop := by
  obtain ⟨hsie, hspie⟩ := @Status.bits_setField_setField idx.SIE idx.SPIE
    (by decide) (by decide) (by decide) status.spie true status
  show (((status.setField idx.SIE status.spie).setField idx.SPIE
    true).setSpp PrivilegeLevel.user.toRaw).stack true = _
  rw [stack_setSpp (by decide)]
  show ModeStack.mk (Status.bit _ idx.SIE) (Status.bit _ idx.SPIE) _ = _
  rw [hsie, hspie]
  rfl

/-- `mret` pops the stack of M-mode. -/
theorem stack_mretStatus (status : Status) :
    (mretStatus status).stack false = (status.stack false).pop := by
  obtain ⟨hmie, hmpie⟩ := @Status.bits_setField_setField idx.MIE idx.MPIE
    (by decide) (by decide) (by decide) status.mpie true status
  show (((status.setField idx.MIE status.mpie).setField idx.MPIE
    true).setMpp PrivilegeLevel.user.toRaw).stack false = _
  rw [stack_setMpp]
  show ModeStack.mk (Status.bit _ idx.MIE) (Status.bit _ idx.MPIE) _ = _
  rw [hmie, hmpie]
  rfl

/-- Clearing MPRV on the way out leaves both stacks alone. -/
theorem stack_leaveStatus (toSMode : Bool) (pp : PrivilegeLevel)
    (f : Status → Status) (status : Status) :
    (leaveStatus pp f status).stack toSMode = (f status).stack toSMode := by
  have hmprv : ∀ i, i ∈ Status.stackBits toSMode → i ∉ [idx.MPRV] := by
    cases toSMode <;> decide
  unfold leaveStatus
  split
  · exact Status.stack_of_touches toSMode
      (Status.Touches.setField idx.MPRV false) hmprv (f status)
  · rfl

/-! ## What a trap does -/

/-- The address that an exception is about. -/
def Exception.vaddr : Exception → Option (BitVec 32)
  | .instructionAddressMisaligned vaddr => some vaddr
  | .instructionAccessFault vaddr => some vaddr
  | .loadAddressMisaligned vaddr => some vaddr
  | .storeOrAmoAddressMisaligned vaddr => some vaddr
  | .loadAccessFault vaddr => some vaddr
  | .storeOrAmoAccessFault vaddr => some vaddr
  | .instructionPageFault vaddr => some vaddr
  | .loadPageFault vaddr => some vaddr
  | .storeOrAmoPageFault vaddr => some vaddr
  | .illegalInstruction _ | .breakpoint | .environmentCallFromUMode
  | .environmentCallFromSMode | .environmentCallFromMMode => none

/-- What a trap at `pc` reports in xtval.  An interrupt, an unknown cause and
an environment call report nothing, which is zero. -/
structure Reports (cause : Cause) (pc value : BitVec 32) : Prop where
  address : ∀ e vaddr, cause = .exception (some e) → e.vaddr = some vaddr →
    value = vaddr
  breakpoint : cause = .exception (some .breakpoint) → value = pc
  illegal : ∀ raw, cause = .exception (some (.illegalInstruction raw)) →
    value = raw.getD 0
  nothing : (∀ e, cause = .exception (some e) →
      e.code ∈ [.environmentCallFromUMode, .environmentCallFromSMode,
        .environmentCallFromMMode]) →
    value = 0

/-- What the source stores in xtval is what is to be reported. -/
theorem reports_tval (cause : Cause) (pc : BitVec 32) :
    Reports cause pc (cause.tval pc) where
  address := by
    rintro e vaddr rfl hvaddr
    cases e <;> cases hvaddr <;> rfl
  breakpoint := by
    rintro rfl
    rfl
  illegal := by
    rintro raw rfl
    rfl
  nothing := by
    intro h
    cases cause with
    | interrupt i => rfl
    | exception e =>
        cases e with
        | none => rfl
        | some e =>
            have hcode := h e rfl
            cases e <;>
              first
                | rfl
                | simp [Exception.code] at hcode

/-- medeleg or mideleg hands the cause to S-mode. -/
def Delegated (s : State β) : Cause → Prop
  | .exception (some e) => s.trap.delegateException.getLsbD e.code.toNat = true
  | .interrupt (some i) => s.interrupts.delegate.getLsbD i.toNat = true
  | _ => False

/-- The test of the source is that of the two delegation registers. -/
theorem shouldDelegate_iff (s : State β) (cause : Cause) :
    shouldDelegate s cause.code = true ↔ Delegated s cause := by
  cases cause with
  | exception e =>
      cases e with
      | none => exact iff_of_false Bool.false_ne_true id
      | some e => exact Iff.rfl
  | interrupt i =>
      cases i with
      | none => exact iff_of_false Bool.false_ne_true id
      | some i => exact Iff.rfl

/-- The registers of one handler mode. -/
structure HandlerRegisters where
  epc : BitVec 32
  cause : Cause
  causeOverride : Option CauseCode
  tval : BitVec 32
deriving DecidableEq, Repr

/-- The registers of one of the two modes. -/
def Trap.handler (toSMode : Bool) (trap : Trap) : HandlerRegisters :=
  if toSMode then
    ⟨trap.sepc, trap.lastSTrapCause, trap.scauseOverride, trap.stval⟩
  else ⟨trap.mepc, trap.lastMTrapCause, trap.mcauseOverride, trap.mtval⟩

/-- The base address and the mode of the vector of a handler mode. -/
def Trap.vector (toSMode : Bool) (trap : Trap) : BitVec 32 × VectorMode :=
  if toSMode then (trap.sVectorBaseAddress, trap.sVectorMode)
  else (trap.mVectorBaseAddress, trap.mVectorMode)

/-- A trap taken in `s` has left the state `t`, with its handler in S-mode or
in M-mode. -/
structure TrapTaken (s : State β) (cause : Cause) (toSMode : Bool)
    (t : State β) : Prop where
  target : toSMode = true ↔ s.privilegeMode ≠ .machine ∧ Delegated s cause
  mode : t.privilegeMode = if toSMode then .supervisor else .machine
  epc : (t.trap.handler toSMode).epc = s.registers.pc
  lastCause : (t.trap.handler toSMode).cause = cause
  causeOverride : (t.trap.handler toSMode).causeOverride = none
  tval : Reports cause s.registers.pc (t.trap.handler toSMode).tval
  mtval2 : toSMode = false → t.trap.mtval2 = 0 ∧ t.trap.mtinst = 0
  stack : t.status.stack toSMode =
    (s.status.stack toSMode).push s.privilegeMode
  pc : t.registers.pc =
    vectorTarget (s.trap.vector toSMode).1 (s.trap.vector toSMode).2 cause
  otherHandler : t.trap.handler (!toSMode) = s.trap.handler (!toSMode)
  otherStack : t.status.stack (!toSMode) = s.status.stack (!toSMode)
  xRegisters : t.registers.xRegisters = s.registers.xRegisters
  memory : t.bus = s.bus

/-- A trap goes to S-mode if it is delegated and does not come from M-mode. -/
theorem trapToSMode_iff (s : State β) (cause : Cause) :
    trapToSMode s cause = true ↔
      s.privilegeMode ≠ .machine ∧ Delegated s cause := by
  unfold trapToSMode
  rw [Bool.and_eq_true, bne_iff_ne, shouldDelegate_iff]

/-- The registers of the target describe this trap. -/
theorem handler_recordTrap (toSMode : Bool) (cause : Cause) (pc : BitVec 32)
    (trap : Trap) :
    (recordTrap toSMode cause pc trap).handler toSMode =
      ⟨pc, cause, none, cause.tval pc⟩ := by
  cases toSMode <;> rfl

/-- Those of the other mode are as they were. -/
theorem otherHandler_recordTrap (toSMode : Bool) (cause : Cause)
    (pc : BitVec 32) (trap : Trap) :
    (recordTrap toSMode cause pc trap).handler (!toSMode) =
      trap.handler (!toSMode) := by
  cases toSMode <;> rfl

/-- The handler starts with these records. -/
theorem trap_trapEntry (s : State β) (cause : Cause) :
    (trapEntry s cause).trap =
      recordTrap (trapToSMode s cause) cause s.registers.pc s.trap := by
  obtain ⟨events, hevents⟩ := trapRecorded_eq s cause
  unfold trapEntry
  rw [hevents]
  rfl

/-- The handler starts with the stack pushed. -/
theorem status_trapEntry (s : State β) (cause : Cause) :
    (trapEntry s cause).status =
      trapStatus (trapToSMode s cause) s.privilegeMode s.status := by
  obtain ⟨events, hevents⟩ := trapRecorded_eq s cause
  unfold trapEntry
  rw [hevents]
  rfl

/-- The handler starts at its vector, with the integer registers as they were.
-/
theorem registers_trapEntry (s : State β) (cause : Cause) :
    (trapEntry s cause).registers =
      s.registers.setPc
        (vectorTarget (s.trap.vector (trapToSMode s cause)).1
          (s.trap.vector (trapToSMode s cause)).2 cause) := by
  obtain ⟨events, hevents⟩ := trapRecorded_eq s cause
  unfold trapEntry
  rw [hevents]
  rfl

/-- A trap does not access the bus. -/
theorem bus_trapEntry (s : State β) (cause : Cause) :
    (trapEntry s cause).bus = s.bus := by
  obtain ⟨events, hevents⟩ := trapRecorded_eq s cause
  unfold trapEntry
  rw [hevents]
  rfl

/-- This is all that a trap is to do. -/
theorem trapEntry_taken (s : State β) (cause : Cause) :
    TrapTaken s cause (trapToSMode s cause) (trapEntry s cause) := by
  refine
    { target := trapToSMode_iff s cause
      mode := rfl
      epc := ?_
      lastCause := ?_
      causeOverride := ?_
      tval := ?_
      mtval2 := ?_
      stack := ?_
      pc := ?_
      otherHandler := ?_
      otherStack := ?_
      xRegisters := ?_
      memory := bus_trapEntry s cause }
  · rw [trap_trapEntry, handler_recordTrap]
  · rw [trap_trapEntry, handler_recordTrap]
  · rw [trap_trapEntry, handler_recordTrap]
  · rw [trap_trapEntry, handler_recordTrap]
    exact reports_tval cause s.registers.pc
  · intro hmachine
    rw [trap_trapEntry, hmachine]
    exact ⟨rfl, rfl⟩
  · rw [status_trapEntry]
    exact stack_trapStatus _ (fun h => trapToSMode_le h) _
  · rw [registers_trapEntry]
    rfl
  · rw [trap_trapEntry]
    exact otherHandler_recordTrap ..
  · rw [status_trapEntry]
    exact Status.stack_of_touches _ (touches_trapStatus _ _)
      (stackBits_disjoint _) s.status
  · rw [registers_trapEntry]
    rfl

/-- A trap does all this, unless the address of the handler of a vectored
interrupt overflows and overflow is checked. -/
theorem trap_taken_iff [Build] (cause : Cause) (s : State β) :
    (∃ toSMode t, (trap cause : CoreM β ε Unit) s = .ok () t ∧
      TrapTaken s cause toSMode t) ↔ ¬ trapOverflows s cause := by
  cases trap_cases (ε := ε) cause s with
  | inl hok =>
      constructor
      · intro _
        exact hok.1
      · intro _
        exact ⟨_, _, hok.2, trapEntry_taken s cause⟩
  | inr hpanic =>
      constructor
      · rintro ⟨toSMode, t, hrun, _⟩
        rw [hpanic.2] at hrun
        cases hrun
      · intro hnot
        exact absurd hpanic.1 hnot

/-- A machine with the last word of the address space as its vector. -/
def NoDevices.vectoredAtTop : State NoDevices :=
  { State.new NoDevices.config .unit with
    trap := { Trap.new with
      mVectorBaseAddress := 0xFFFFFFFC
      mVectorMode := .vectored } }

/-- With overflow checks the timer interrupt of that machine panics. -/
theorem not_taken_vectoredAtTop :
    ¬ ∃ toSMode t,
      (@trap NoDevices Exception Build.debug
        (.interrupt (some .machineTimerInterrupt)) NoDevices.vectoredAtTop) =
          .ok () t ∧
        TrapTaken NoDevices.vectoredAtTop
          (.interrupt (some .machineTimerInterrupt)) toSMode t := by
  rintro ⟨toSMode, t, hrun, _⟩
  have hpanic : ((@trap NoDevices Exception Build.debug
      (.interrupt (some .machineTimerInterrupt))
      NoDevices.vectoredAtTop)).panicked = true := rfl
  rw [hrun] at hpanic
  cases hpanic

/-! ## Returning from a trap -/

/-- The state `u` resumes the program that was interrupted in `s` by a trap
into S-mode or M-mode. -/
structure Resumed (s : State β) (toSMode : Bool) (u : State β) : Prop where
  pc : u.registers.pc = s.registers.pc
  mode : u.privilegeMode = s.privilegeMode
  enable : (u.status.stack toSMode).enable = (s.status.stack toSMode).enable
  otherStack : u.status.stack (!toSMode) = s.status.stack (!toSMode)
  xRegisters : u.registers.xRegisters = s.registers.xRegisters
  memory : u.bus = s.bus
  mprv : u.status.mprv =
    if s.privilegeMode = .machine then s.status.mprv else false

/-- A trap keeps the bits outside the stack of its target. -/
theorem bit_trapStatus {toSMode : Bool} {i : Nat}
    (hi : i ∉ Status.stackBits toSMode) (mode : PrivilegeLevel)
    (status : Status) :
    (trapStatus toSMode mode status).bit i = status.bit i :=
  Status.bit_of_touches (touches_trapStatus toSMode mode) hi status

/-- A return that pops the stack of the mode the trap was taken in, and goes
to the pc that the trap saved, resumes the interrupted program. -/
theorem returnTo_resumed {s : State β} {cause : Cause}
    {f : Status → Status} {bits : List Nat} {epc : Trap → BitVec 32}
    (hepc : epc (trapEntry s cause).trap = s.registers.pc)
    (hpop : ∀ status : Status, (f status).stack (trapToSMode s cause) =
      (status.stack (trapToSMode s cause)).pop)
    (htouches : Status.Touches bits f)
    (hother : ∀ i, i ∈ Status.stackBits (!trapToSMode s cause) → i ∉ bits)
    (hmprv : idx.MPRV ∉ bits) :
    ∃ u, (returnTo s.privilegeMode f epc : CoreM β ε Unit)
        (trapEntry s cause) = .ok () u ∧
      Resumed s (trapToSMode s cause) u := by
  have htaken := trapEntry_taken s cause
  refine ⟨_, rfl,
    { pc := hepc
      mode := rfl
      enable := ?_
      otherStack := ?_
      xRegisters := htaken.xRegisters
      memory := htaken.memory
      mprv := ?_ }⟩
  · show ((leaveStatus s.privilegeMode f (trapEntry s cause).status).stack
      (trapToSMode s cause)).enable = _
    rw [stack_leaveStatus, hpop, htaken.stack, ModeStack.enable_pop_push]
  · show (leaveStatus s.privilegeMode f (trapEntry s cause).status).stack
      (!trapToSMode s cause) = _
    rw [stack_leaveStatus, Status.stack_of_touches _ htouches hother]
    exact htaken.otherStack
  · show (leaveStatus s.privilegeMode f (trapEntry s cause).status).mprv = _
    by_cases hmachine : s.privilegeMode = .machine
    · rw [if_pos hmachine]
      unfold leaveStatus
      rw [if_neg (not_not_intro hmachine), status_trapEntry]
      have hkeep : idx.MPRV ∉ Status.stackBits (trapToSMode s cause) := by
        cases trapToSMode s cause <;> decide
      exact (Status.bit_of_touches htouches hmprv _).trans
        (bit_trapStatus hkeep s.privilegeMode s.status)
    · rw [if_neg hmachine]
      exact mprv_leaveStatus hmachine f _

/-- The mode that the handler's stack remembers. -/
theorem previousMode_trapEntry (s : State β) (cause : Cause) :
    ((trapEntry s cause).status.stack (trapToSMode s cause)).previousMode =
      some s.privilegeMode := by
  rw [(trapEntry_taken s cause).stack]
  rfl

/-- A trap into M-mode is undone by `mret`. -/
theorem mret_trapEntry {s : State β} {cause : Cause}
    (hmachine : trapToSMode s cause = false) :
    ∃ u, (mret : CoreM β _ _) (trapEntry s cause) = .ok () u ∧
      Resumed s false u := by
  have htaken := trapEntry_taken s cause
  have hpp := previousMode_trapEntry s cause
  have hmode := htaken.mode
  have hepc := htaken.epc
  have hresumed := @returnTo_resumed β Exception s cause mretStatus
    [idx.MIE, idx.MPIE, idx.MPP, idx.MPP + 1] Trap.mepc
  rw [hmachine] at hpp hmode hepc hresumed
  have hrun : (mret : CoreM β _ _) (trapEntry s cause) =
      (returnTo s.privilegeMode mretStatus Trap.mepc : CoreM β _ _)
        (trapEntry s cause) := by
    have hmpp : (trapEntry s cause).status.mpp = some s.privilegeMode := hpp
    unfold mret
    rw [Exec.get_bind, hmode, hmpp]
    rfl
  rw [hrun]
  exact hresumed hepc stack_mretStatus touches_mretStatus (by decide)
    (by decide)

/-- A trap into S-mode is undone by `sret`, unless TSR forbids it. -/
theorem sret_trapEntry {s : State β} {cause : Cause}
    (hsupervisor : trapToSMode s cause = true)
    (htsr : (trapEntry s cause).status.tsr = false) :
    ∃ u, (sret : CoreM β _ _) (trapEntry s cause) = .ok () u ∧
      Resumed s true u := by
  have htaken := trapEntry_taken s cause
  have hpp := previousMode_trapEntry s cause
  have hmode := htaken.mode
  have hepc := htaken.epc
  have hresumed := @returnTo_resumed β Exception s cause sretStatus
    [idx.SIE, idx.SPIE, idx.SPP] Trap.sepc
  rw [hsupervisor] at hpp hmode hepc hresumed
  have hrun : (sret : CoreM β _ _) (trapEntry s cause) =
      (returnTo s.privilegeMode sretStatus Trap.sepc : CoreM β _ _)
        (trapEntry s cause) := by
    have hspp : (trapEntry s cause).status.spp = s.privilegeMode :=
      Option.some.inj hpp
    unfold sret
    rw [Exec.get_bind, hmode, htsr, hspp]
    rfl
  rw [hrun]
  exact hresumed hepc stack_sretStatus touches_sretStatus (by decide)
    (by decide)

/-- The return that matches a trap resumes what the trap interrupted. -/
theorem resumed_after_trap [SystemBus β] [Build] (config : Config)
    (cause : Cause) (s t : State β)
    (htrap : (trap cause : CoreM β ε Unit) s = .ok () t) :
    (t.privilegeMode = .machine →
      ∃ u, executeInstruction config .mret t = .ok () u ∧
        Resumed s false u) ∧
    (t.privilegeMode = .supervisor → t.status.tsr = false →
      ∃ u, executeInstruction config .sret t = .ok () u ∧
        Resumed s true u) := by
  have hentry : t = trapEntry s cause := by
    cases trap_cases (ε := ε) cause s with
    | inl hok =>
        rw [hok.2] at htrap
        cases htrap
        rfl
    | inr hpanic =>
        rw [hpanic.2] at htrap
        cases htrap
  subst hentry
  have hmode := (trapEntry_taken s cause).mode
  constructor
  · intro hmachine
    have htarget : trapToSMode s cause = false := by
      rw [hmachine] at hmode
      by_contra hnot
      rw [Bool.not_eq_false] at hnot
      rw [hnot] at hmode
      cases hmode
    exact mret_trapEntry htarget
  · intro hsupervisor htsr
    have htarget : trapToSMode s cause = true := by
      rw [hsupervisor] at hmode
      by_contra hnot
      rw [Bool.not_eq_true] at hnot
      rw [hnot] at hmode
      cases hmode
    exact sret_trapEntry htarget htsr

/-- A program in U-mode whose breakpoints are delegated. -/
def NoDevices.delegatingBreakpoints : State NoDevices :=
  { State.new NoDevices.config .unit with
    privilegeMode := .user
    trap := { Trap.new with delegateException := 8 } }

/-- A breakpoint in M-mode, and a delegated one in U-mode. -/
theorem resumed_after_breakpoint :
    (∃ u, @executeInstruction NoDevices _ Build.debug NoDevices.config .mret
        (trapEntry (State.new NoDevices.config .unit)
          (.exception (some .breakpoint))) = .ok () u ∧
      Resumed (State.new NoDevices.config .unit) false u) ∧
    ∃ u, @executeInstruction NoDevices _ Build.debug NoDevices.config .sret
        (trapEntry NoDevices.delegatingBreakpoints
          (.exception (some .breakpoint))) = .ok () u ∧
      Resumed NoDevices.delegatingBreakpoints true u :=
  ⟨(@resumed_after_trap NoDevices Exception _ Build.debug NoDevices.config
      (.exception (some .breakpoint)) (State.new NoDevices.config .unit) _
      rfl).1 rfl,
    (@resumed_after_trap NoDevices Exception _ Build.debug NoDevices.config
      (.exception (some .breakpoint)) NoDevices.delegatingBreakpoints _
      rfl).2 rfl rfl⟩

end RedPlanet.Core
