import RedPlanet.Board.Board

/-!
# User code on the board

On this board a store can reach the CLINT and the PLIC, whose callbacks change
MTIP and MEIP.  Nothing else of the privileged state is within reach of
U-mode.

The frame of user code (`Core.Levels`) is stated for any bus and its
contract; `samePrivilegedState_of_frame` is what it says with the contract of
this board.
-/

namespace RedPlanet.Board

open RedPlanet.Core RedPlanet.Verified

/-- The privileged state is the same, but for MTIP and MEIP. -/
structure SamePrivilegedState (s t : Board) : Prop where
  privilegeMode : t.privilegeMode = s.privilegeMode
  status : t.status = s.status
  trap : t.trap = s.trap
  mideleg : t.interrupts.delegate = s.interrupts.delegate
  mie : t.interrupts.mie = s.interrupts.mie
  mip : ∀ i, i ≠ Interrupt.machineTimerInterrupt.toNat →
    i ≠ Interrupt.machineExternalInterrupt.toNat →
    t.interrupts.mip.getLsbD i = s.interrupts.mip.getLsbD i
  seip : t.interrupts.seipInternal = s.interrupts.seipInternal ∧
    t.interrupts.seipExternal = s.interrupts.seipExternal
  counterControl : t.counterControl = s.counterControl
  counters : t.counters = s.counters
  envcfg : t.envcfg = s.envcfg

/-- The frame with the interrupts that the board's devices drive. -/
theorem samePrivilegedState_of_frame [Build] {s t : Board}
    (h : MemFrame contract s t) : SamePrivilegedState s t where
  privilegeMode := h.privilegeMode
  status := h.status
  trap := h.trap
  mideleg := h.interrupts.delegate
  mie := h.interrupts.mie
  mip := by
    intro i htimer hexternal
    apply h.interrupts.mip
    intro hwired
    cases hwired with
    | inl h7 => exact htimer h7
    | inr h11 => exact hexternal h11
  seip := by
    refine ⟨h.interrupts.seipInternal, h.interrupts.seipExternal ?_⟩
    intro hwired
    cases hwired with
    | inl h7 => exact absurd h7 (by decide)
    | inr h11 => exact absurd h11 (by decide)
  counterControl := h.counterControl
  counters := h.counters
  envcfg := h.envcfg

/-- In U-mode no instruction changes privileged state, whether it succeeds,
fails or panics. -/
theorem samePrivilegedState_of_user [Build] (config : Core.Config)
    (instruction : Instruction) {board : Board}
    (h : board.privilegeMode = .user) :
    SamePrivilegedState board
      (executeInstruction config instruction board).state :=
  samePrivilegedState_of_frame (frame_of_user config instruction h)

/-- A user program about to store to the low half of mtimecmp. -/
def userBoard : Board :=
  (guestBoard.setPrivilegeMode .user).onRegisters
    (Registers.setX 5 0x02004000)

/-- A store of the user to an address of its choice. -/
theorem samePrivilegedState_of_user_store :
    SamePrivilegedState userBoard
      (@executeInstruction SystemBus (@SystemBus.coreBus Build.debug)
        Build.debug coreConfig (.store .sw 0 5 0) userBoard).state :=
  @samePrivilegedState_of_user Build.debug coreConfig (.store .sw 0 5 0)
    userBoard rfl

end RedPlanet.Board
