import RedPlanet.Core.Pending
import RedPlanet.Core.WellFormed

/-!
# Reset and non-maskable interrupts

`Core::reset` and `Core::nmi`.  A core that is reset starts over at the reset
vector, in M-mode, with physical addresses and without interrupts, whatever
it did before.

`StartsOver` lists what is the same after every reset, and
`startsOver_reset` says that it is, for any state.  The core is well-formed
again (`wellFormed_reset`), and so is a core after an NMI
(`wellFormed_nmi`), if their vectors are addresses of words.
-/

namespace RedPlanet.Core

open RedPlanet.Verified

variable {β : Type} {config : Config} {s : State β}

namespace Status

/-- The bits that `Core::reset` clears. -/
def reset (status : Status) : Status :=
  ((status.setMie false).setMprv false).setMbe false

/-- Interrupts are disabled for M-mode. -/
theorem mie_reset (status : Status) : status.reset.mie = false := by
  have hmprv : ((status.setMie false).setMprv false).bit idx.MIE
      = (status.setMie false).bit idx.MIE :=
    bit_of_touches (Touches.setField idx.MPRV false) (by decide) _
  exact hmprv.trans (getLsbD_setBit_self status.mstatus false (by decide))

/-- Loads and stores are made at the mode of the core. -/
theorem mprv_reset (status : Status) : status.reset.mprv = false :=
  getLsbD_setBit_self (status.setMie false).mstatus false (by decide)

/-- M-mode is little-endian. -/
theorem mbe_reset (status : Status) : status.reset.mbe = false :=
  getLsbD_setBit_self status.mstatush false (by decide)

/-- Clearing bits keeps the status well-formed. -/
theorem wellFormed_reset {status : Status} (h : status.WellFormed) :
    status.reset.WellFormed := by
  have hmie := h.of_touches (Touches.setField idx.MIE false) (by decide)
  have hmprv := hmie.of_touches (Touches.setField idx.MPRV false) (by decide)
  exact ⟨hmprv.mpp, hmprv.sd⟩

end Status

namespace State

/-- `Core::reset`. -/
def reset (config : Config) (s : State β) : State β :=
  { s with
    registers := Registers.new config.resetVector
    trap := s.trap.setMTrapCause (.exception none)
    counters := Counters.new
    status := s.status.reset
    privilegeMode := .machine
    counterControl := CounterControl.new
    envcfg := Envcfg.new }

/-- `Core::nmi`.  Of mstatus nothing is saved. -/
def nmi (config : Config) (s : State β) : State β :=
  { s with
    registers := s.registers.setPc config.nmiVector
    trap := (s.trap.setMepc s.registers.pc).setMTrapCause (.interrupt none)
    privilegeMode := .machine }

/-- The core starts over. -/
structure StartsOver (config : Config) (s : State β) : Prop where
  registers : s.registers = Registers.new config.resetVector
  level : s.privilegeMode = .machine
  untranslated : s.effectivePrivilegeMode = some .machine
  endianness : s.endianness .machine = .LE
  uninterrupted : highestPriorityReadyInterrupt s = none

/-- Nothing of the state before decides what a reset sets. -/
theorem startsOver_reset (config : Config) (s : State β) :
    (s.reset config).StartsOver config where
  registers := rfl
  level := rfl
  untranslated := by
    unfold effectivePrivilegeMode
    show (if s.status.reset.mprv = true then _ else _) = _
    rw [Status.mprv_reset]
    rfl
  endianness := by
    unfold endianness
    show (if s.status.reset.mbe = true then Endianness.BE else .LE) = .LE
    rw [Status.mbe_reset]
    rfl
  uninterrupted := by
    unfold highestPriorityReadyInterrupt
    have hmie : (s.reset config).status.mie = false := Status.mie_reset s.status
    rw [hmie]
    rfl

theorem wellFormed_reset (hreset : config.resetVector.toNat % 4 = 0)
    (h : s.WellFormed) : (s.reset config).WellFormed where
  registers := Registers.wellFormed_new hreset
  status := Status.wellFormed_reset h.status
  trap := { h.trap with }
  interrupts := h.interrupts

/-- An NMI changes the mode, the pc, mepc and the cause. -/
theorem wellFormed_nmi (hnmi : config.nmiVector.toNat % 4 = 0)
    (h : s.WellFormed) : (s.nmi config).WellFormed where
  registers := Registers.wellFormed_setPc h.registers hnmi
  status := h.status
  trap := { h.trap with mepc := h.registers.pc }
  interrupts := h.interrupts

end State

end RedPlanet.Core
