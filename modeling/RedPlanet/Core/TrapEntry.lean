import RedPlanet.Core.Privilege

/-!
# Entering a trap handler

`vectorTarget` says where an interrupt or exception goes, `TrapEntered` what
a trap leaves behind.  `Core::trap` establishes it, unless the address of the
vector overflows and overflow is checked, in which case it panics.

The trap is looked at in two parts, as the source makes them: `trapRecorded`
is the state in which the address of the handler is computed, and `trapEntry`
the one in which the handler starts.  `trap_cases` says which of the two a
trap ends in, and `trapOverflows` which traps panic.
-/

namespace RedPlanet.Core

open RedPlanet.Verified Discipline

variable {β ε : Type}

/-! ## The vector -/

/-- The distance of the handler from the base of a vector: interrupts are
spread out by a vectored xtvec. -/
def vectorOffset (tvecMode : VectorMode) (cause : Cause) : Nat :=
  match tvecMode, cause with
  | .vectored, .interrupt interrupt => 4 * interrupt.elim 0 Interrupt.toNat
  | _, _ => 0

/-- Where the handler of a cause starts, with the addition wrapping. -/
def vectorTarget (tvecBase : BitVec 32) (tvecMode : VectorMode)
    (cause : Cause) : BitVec 32 :=
  tvecBase + BitVec.ofNat 32 (vectorOffset tvecMode cause)

/-- The handler address does not fit in 32 bits, in a program that checks. -/
def VectorOverflows [Build] (tvecBase : BitVec 32) (tvecMode : VectorMode)
    (cause : Cause) : Prop :=
  Build.overflowChecks = true ∧
    2 ^ 32 ≤ tvecBase.toNat + vectorOffset tvecMode cause

/-- The state with the vectored interrupt recorded, if there is one. -/
def State.recordVector (tvecBase : BitVec 32) (tvecMode : VectorMode)
    (cause : Cause) (s : State β) : State β :=
  match tvecMode, cause with
  | .vectored, .interrupt interrupt =>
      s.record (.vectored tvecBase (interrupt.elim 0 Interrupt.toNat))
  | _, _ => s

/-- The largest code of an interrupt is 11. -/
theorem interrupt_le (interrupt : Option Interrupt) :
    interrupt.elim 0 Interrupt.toNat ≤ 11 := by
  cases interrupt with
  | none => decide
  | some i => cases i <;> decide

/-- Without an offset there is nothing to overflow. -/
theorem not_vectorOverflows [Build] {tvecBase : BitVec 32}
    {tvecMode : VectorMode} {cause : Cause}
    (h : vectorOffset tvecMode cause = 0) :
    ¬ VectorOverflows tvecBase tvecMode cause := by
  unfold VectorOverflows
  rw [h]
  have hlt := tvecBase.isLt
  omega

/-- Without an offset the handler is at the base. -/
theorem vectorTarget_direct {tvecBase : BitVec 32} {tvecMode : VectorMode}
    {cause : Cause} (h : vectorOffset tvecMode cause = 0) :
    vectorTarget tvecBase tvecMode cause = tvecBase := by
  unfold vectorTarget
  rw [h]
  exact BitVec.add_zero tvecBase

/-- The addition of an offset, which panics if it overflows in a build that
checks. -/
theorem addChecked_offset {σ : Type} [Build] (tvecBase : BitVec 32)
    {offset : Nat} (h : offset ≤ 44) :
    (addChecked tvecBase (BitVec.ofNat 32 offset) : Exec ε σ _) =
      if Build.overflowChecks = true ∧ 2 ^ 32 ≤ tvecBase.toNat + offset then
        Exec.abort
      else pure (tvecBase + BitVec.ofNat 32 offset) := by
  have hoffset : (BitVec.ofNat 32 offset).toNat = offset := by
    rw [BitVec.toNat_ofNat]
    exact Nat.mod_eq_of_lt (by omega)
  unfold addChecked addU32
  rw [hoffset]
  split
  · rfl
  · rfl

/-- `trapHandlerAddress` computes the target, or it panics because the target
overflows. -/
theorem trapHandlerAddress_cases [Build] (tvecBase : BitVec 32)
    (tvecMode : VectorMode) (cause : Cause) (s : State β) :
    (¬ VectorOverflows tvecBase tvecMode cause ∧
      (trapHandlerAddress tvecBase tvecMode cause : CoreM β ε _) s
        = .ok (vectorTarget tvecBase tvecMode cause)
            (s.recordVector tvecBase tvecMode cause)) ∨
      (VectorOverflows tvecBase tvecMode cause ∧
        (trapHandlerAddress tvecBase tvecMode cause : CoreM β ε _) s
          = .panic (s.recordVector tvecBase tvecMode cause)) := by
  cases tvecMode with
  | direct =>
      left
      refine ⟨not_vectorOverflows rfl, ?_⟩
      rw [vectorTarget_direct rfl]
      rfl
  | vectored =>
      cases cause with
      | exception e =>
          left
          refine ⟨not_vectorOverflows rfl, ?_⟩
          rw [vectorTarget_direct rfl]
          rfl
      | interrupt interrupt =>
          have hle := interrupt_le interrupt
          have hadd := addChecked_offset (ε := ε) (σ := State β) tvecBase
            (show 4 * interrupt.elim 0 Interrupt.toNat ≤ 44 by omega)
          have hrun : (trapHandlerAddress tvecBase .vectored
                (.interrupt interrupt) : CoreM β ε _) s
              = addChecked tvecBase
                  (BitVec.ofNat 32 (4 * interrupt.elim 0 Interrupt.toNat))
                  (s.recordVector tvecBase .vectored (.interrupt interrupt)) :=
            rfl
          rw [hrun, hadd]
          by_cases hover : Build.overflowChecks = true ∧
              2 ^ 32 ≤ tvecBase.toNat + 4 * interrupt.elim 0 Interrupt.toNat
          · right
            refine ⟨hover, ?_⟩
            rw [if_pos hover]
            rfl
          · left
            refine ⟨hover, ?_⟩
            rw [if_neg hover]
            rfl

/-- The vector that a trap goes through. -/
def trapVector (s : State β) (cause : Cause) : BitVec 32 × VectorMode :=
  if trapToSMode s cause then
    (s.trap.sVectorBaseAddress, s.trap.sVectorMode)
  else (s.trap.mVectorBaseAddress, s.trap.mVectorMode)

/-- The state in which the handler address is computed, and in which the code
panics if that overflows. -/
def trapRecorded (s : State β) (cause : Cause) : State β :=
  (s.onTrap (recordTrap (trapToSMode s cause) cause
    s.registers.pc)).recordVector (trapVector s cause).1 (trapVector s cause).2
    cause

/-- The state in which the handler starts. -/
def trapEntry (s : State β) (cause : Cause) : State β :=
  let toSMode := trapToSMode s cause
  let handler :=
    vectorTarget (trapVector s cause).1 (trapVector s cause).2 cause
  (((trapRecorded s cause).onRegisters (Registers.setPc handler)).onStatus
    (trapStatus toSMode s.privilegeMode)).setPrivilegeMode
    (if toSMode then .supervisor else .machine)

/-- The trap goes through a vector whose target overflows, in a build that
checks. -/
def trapOverflows [Build] (s : State β) (cause : Cause) : Prop :=
  VectorOverflows (trapVector s cause).1 (trapVector s cause).2 cause

/-- A trap enters the handler, or it panics because the vector overflows. -/
theorem trap_cases [Build] (cause : Cause) (s : State β) :
    (¬ trapOverflows s cause ∧
      (trap cause : CoreM β ε Unit) s = .ok () (trapEntry s cause)) ∨
      (trapOverflows s cause ∧
        (trap cause : CoreM β ε Unit) s = .panic (trapRecorded s cause)) := by
  have hhandler := trapHandlerAddress_cases (ε := ε) (trapVector s cause).1
    (trapVector s cause).2 cause
    (s.onTrap (recordTrap (trapToSMode s cause) cause s.registers.pc))
  have hrun : (trap cause : CoreM β ε Unit) s =
      ((trapHandlerAddress (trapVector s cause).1 (trapVector s cause).2 cause
        : CoreM β ε _) >>= fun handler => do
        Exec.modify (State.onRegisters (Registers.setPc handler))
        Exec.modify (State.onStatus
          (trapStatus (trapToSMode s cause) s.privilegeMode))
        Exec.modify (State.setPrivilegeMode
          (if trapToSMode s cause then .supervisor else .machine)))
      (s.onTrap (recordTrap (trapToSMode s cause) cause s.registers.pc)) := by
    unfold trap trapVector
    rw [Exec.get_bind]
    dsimp only
    cases trapToSMode s cause <;> rfl
  rw [hrun]
  cases hhandler with
  | inl hok =>
      left
      refine ⟨hok.1, ?_⟩
      rw [Exec.bind_ok hok.2]
      rfl
  | inr hpanic =>
      right
      refine ⟨hpanic.1, ?_⟩
      rw [Exec.bind_panic hpanic.2]
      rfl

/-! ## The handler starts with the interrupted state saved -/

/-- A trap taken in `s` has entered the handler in `t`. -/
structure TrapEntered (s : State β) (cause : Cause) (t : State β) : Prop where
  raised : s.privilegeMode ≤ t.privilegeMode
  handled : t.privilegeMode = .supervisor ∨ t.privilegeMode = .machine
  supervisor : t.privilegeMode = .supervisor →
    t.registers.pc = vectorTarget s.trap.sVectorBaseAddress
        s.trap.sVectorMode cause ∧
      t.trap.sepc = s.registers.pc ∧ t.status.spp = s.privilegeMode
  machine : t.privilegeMode = .machine →
    t.registers.pc = vectorTarget s.trap.mVectorBaseAddress
        s.trap.mVectorMode cause ∧
      t.trap.mepc = s.registers.pc ∧ t.status.mpp = some s.privilegeMode

/-- Up to the ghost, the records of a trap are those of its registers. -/
theorem trapRecorded_eq (s : State β) (cause : Cause) :
    ∃ events, trapRecorded s cause =
      { s.onTrap (recordTrap (trapToSMode s cause) cause s.registers.pc) with
        events := events } := by
  unfold trapRecorded State.recordVector
  split
  · exact ⟨_, rfl⟩
  · exact ⟨_, rfl⟩

/-- A trap into S-mode comes from below M-mode. -/
theorem trapToSMode_le {s : State β} {cause : Cause}
    (h : trapToSMode s cause = true) : s.privilegeMode ≤ .supervisor := by
  unfold trapToSMode at h
  rw [Bool.and_eq_true] at h
  have hmode := h.1
  revert hmode
  cases s.privilegeMode <;> decide

/-- SPP holds the modes that a trap into S-mode can come from. -/
theorem spp_setSpp {level : PrivilegeLevel} (h : level ≤ .supervisor)
    (status : Status) : (status.setSpp level.toRaw).spp = level := by
  have hbit : ∀ value,
      (status.setField idx.SPP value).bit idx.SPP = value := by
    intro value
    exact getLsbD_setBit_self _ value (by decide)
  cases level with
  | user =>
      show (if (status.setField idx.SPP false).bit idx.SPP then
        PrivilegeLevel.supervisor else .user) = .user
      rw [hbit]
      rfl
  | supervisor =>
      show (if (status.setField idx.SPP true).bit idx.SPP then
        PrivilegeLevel.supervisor else .user) = .supervisor
      rw [hbit]
      rfl
  | machine => exact absurd h (by decide)

/-- The state in which the handler starts is what a trap is to leave behind.
-/
theorem trapEntry_entered (s : State β) (cause : Cause) :
    TrapEntered s cause (trapEntry s cause) := by
  obtain ⟨events, hevents⟩ := trapRecorded_eq s cause
  unfold trapEntry trapVector
  rw [hevents]
  cases h : trapToSMode s cause with
  | true =>
      exact
        { raised := trapToSMode_le h
          handled := Or.inl rfl
          supervisor := fun _ =>
            ⟨rfl, rfl, spp_setSpp (trapToSMode_le h) _⟩
          machine := fun hmode => nomatch hmode }
  | false =>
      exact
        { raised := PrivilegeLevel.le_machine _
          handled := Or.inr rfl
          supervisor := fun hmode => nomatch hmode
          machine := fun _ => ⟨rfl, rfl, Status.mpp_setMpp _ _⟩ }

end RedPlanet.Core
