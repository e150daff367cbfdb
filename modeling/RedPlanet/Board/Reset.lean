import RedPlanet.Board.Timer
import RedPlanet.Core.Reset

/-!
# Reset of the board

`Board::reset` resets the core, clears DRAM and restarts the UART.  CLINT,
PLIC and the power switch go on as they are.  Nothing that a guest can do
changes MROM, flash or the size of DRAM, so a board that is reset is its new
board but for the parts that `reset_of_run` names.

`SameParts` are the parts that no access changes, and `Built` says that a
board still has those of the board it started as.
-/

namespace RedPlanet

open RedPlanet.Core RedPlanet.Resources RedPlanet.Verified Discipline

namespace Resources.Ram

/-- `Ram::reset`. -/
def reset (ram : Ram) : Ram :=
  { ram with data := { ram.data with elem := fun _ => 0 } }

/-- A RAM that is reset is the new one of its size. -/
theorem reset_eq_new {size : ℕ} {ram fresh : Ram} (hnew : new size = some fresh)
    (hsize : ram.data.size = fresh.data.size) : ram.reset = fresh := by
  have hmax : ram.maxAddress = fresh.maxAddress := by
    apply BitVec.eq_of_toNat_eq
    have hfits := ram.fits
    have hfits' := fresh.fits
    omega
  unfold new at hnew
  split at hnew
  · cases hnew
    obtain ⟨⟨_, _⟩, _, _⟩ := ram
    dsimp only at hsize hmax
    subst hsize hmax
    rfl
  · cases hnew

end Resources.Ram

namespace Board

/-- `Board::reset`. -/
def reset (board : Board) : Board :=
  let board := State.reset coreConfig board
  { board with
    bus := { board.bus with
      dram := board.bus.dram.reset
      uart0 := board.bus.uart0.reset } }

/-! ## What no access changes -/

/-- The same memories, but for the contents of DRAM. -/
structure SameParts (bus bus' : SystemBus) : Prop where
  mrom : bus'.mrom = bus.mrom
  flash : bus'.flash = bus.flash
  dram : bus'.dram.data.size = bus.dram.data.size

variable {bus bus' : SystemBus}

theorem SameParts.refl (bus : SystemBus) : SameParts bus bus := ⟨rfl, rfl, rfl⟩

/-- Two changes of other parts. -/
theorem SameParts.trans {bus'' : SystemBus} (h : SameParts bus bus')
    (h' : SameParts bus' bus'') : SameParts bus bus'' :=
  ⟨h'.mrom.trans h.mrom, h'.flash.trans h.flash, h'.dram.trans h.dram⟩

/-- The UART and its interrupts are other parts. -/
theorem sameParts_withUart {uart0 : Uart} {callbacks : List Callback}
    {calls : List IrqCall}
    (h : bus.withUart uart0 callbacks = some (bus', calls)) :
    SameParts bus bus' := by
  unfold SystemBus.withUart at h
  obtain ⟨_, _, hresult⟩ := Option.map_eq_some_iff.1 h
  cases hresult
  exact ⟨rfl, rfl, rfl⟩

/-- A read, at whatever device. -/
theorem sameParts_read [Build] {address : BitVec 32}
    {buf buf' : List (BitVec 8)} {calls : List IrqCall}
    (h : bus.read address buf = some (buf', bus', calls)) :
    SameParts bus bus' := by
  cases SystemBus.read_cases h with
  | unchanged => exact .refl bus
  | plic _ _ => exact ⟨rfl, rfl, rfl⟩
  | uart0 _ _ hforward => exact sameParts_withUart hforward

/-- A write, at whatever device. -/
theorem sameParts_write {address : BitVec 32} {buf : List (BitVec 8)}
    {calls : List IrqCall} (h : bus.write address buf = some (bus', calls)) :
    SameParts bus bus' := by
  cases SystemBus.write_cases h with
  | unchanged => exact .refl bus
  | clint _ => exact ⟨rfl, rfl, rfl⟩
  | plic _ _ => exact ⟨rfl, rfl, rfl⟩
  | uart0 _ _ hforward => exact sameParts_withUart hforward
  | dram _ hwrite => exact ⟨rfl, rfl, (Ram.write_keeps hwrite).2⟩
  | powerDown _ =>
      unfold SystemBus.writePowerDown
      split <;> exact ⟨rfl, rfl, rfl⟩

/-! ## Runs -/

/-- A well-formed core on the memories of this bus. -/
structure Built (bus : SystemBus) (board : Board) : Prop where
  parts : SameParts bus board.bus
  core : board.WellFormed

section Runs

variable [Build] {fresh s t : Board}

/-- A step of the core makes such accesses only. -/
theorem steps_sameParts (bus : SystemBus) :
    Steps (preserving fun board : Board => SameParts bus board.bus) := by
  apply steps_lines
  · intro s t hframe hs
    rw [hframe.bus]
    exact hs
  · apply accesses_preserving
    · intro s event hs
      exact hs
    · intro s address buf buf' bus' calls hread hs
      exact hs.trans (sameParts_read hread)
    · intro s address buf bus' calls _ hwrite hs
      exact hs.trans (sameParts_write hwrite)

/-- A step of the board. -/
theorem Built.step (h : Built bus s) : Built bus (step s).state where
  parts :=
    preserves_step (steps_sameParts bus) (fun _ hs => hs)
      (fun _ hs => hs.trans ⟨rfl, rfl, rfl⟩) h.parts
  core :=
    preserves_step steps_wellFormed (fun _ hs => { hs with })
      (fun _ hs => { hs with
        interrupts := Interrupts.wellFormed_deliverAll hs.interrupts _ })
      h.core

/-- What becomes of a board that is also reset, and whose core gets NMIs, in
any order. -/
inductive ResetRun (start : Board) : Board → Prop where
  | start : ResetRun start start
  | step {s t : Board} (h : ResetRun start s) (hstep : step s = .ok () t) :
      ResetRun start t
  | resetClint {s : Board} (h : ResetRun start s) : ResetRun start s.resetClint
  | loadDram {s : Board} (contents : ℕ → BitVec 8) (h : ResetRun start s) :
      ResetRun start (s.loadDram contents)
  | pushInput {s t : Board} {input : List (BitVec 8)} (h : ResetRun start s)
      (hinput : s.pushInput input = some t) : ResetRun start t
  | nmi {s : Board} (h : ResetRun start s) :
      ResetRun start (State.nmi coreConfig s)
  | reset {s : Board} (h : ResetRun start s) : ResetRun start (reset s)

omit [Build] in
/-- A reset clears DRAM, which keeps its size. -/
theorem Built.reset (h : Built bus s) : Built bus (Board.reset s) where
  parts := h.parts.trans ⟨rfl, rfl, rfl⟩
  core := { State.wellFormed_reset (by decide) h.core with }

/-- A whole run, by induction. -/
theorem built_run (hrun : ResetRun fresh s) (h : Built bus fresh) :
    Built bus s := by
  induction hrun with
  | start => exact h
  | step _ hstep ih =>
      have hnext := ih.step
      rw [hstep] at hnext
      exact hnext
  | resetClint _ ih =>
      exact
        { parts := ih.parts.trans ⟨rfl, rfl, rfl⟩
          core := { ih.core with
            interrupts :=
              Interrupts.wellFormed_deliverAll ih.core.interrupts _ } }
  | loadDram contents _ ih =>
      exact ⟨ih.parts.trans ⟨rfl, rfl, rfl⟩, { ih.core with }⟩
  | pushInput _ hinput ih =>
      obtain ⟨bus', calls, hwith, hboard⟩ := pushInput_eq hinput
      rw [hboard]
      exact
        { parts := ih.parts.trans (sameParts_withUart hwith)
          core := { ih.core with
            interrupts :=
              Interrupts.wellFormed_deliverAll ih.core.interrupts calls } }
  | nmi _ ih => exact ⟨ih.parts, State.wellFormed_nmi (by decide) ih.core⟩
  | reset _ ih => exact ih.reset

end Runs

/-- A new board is its own beginning. -/
theorem built_new {config : Config} {fresh : Board}
    (h : new config = some fresh) : Built fresh.bus fresh := by
  obtain ⟨_, _, _, rfl⟩ := new_eq h
  exact ⟨.refl _, wellFormed_new (by decide) _⟩

/-- The size of DRAM is fixed. -/
theorem dram_new {config : Config} {fresh : Board}
    (h : new config = some fresh) :
    Ram.new dramRange.size = some fresh.bus.dram := by
  unfold new at h
  obtain ⟨_, _, h⟩ := Option.bind_eq_some_iff.1 h
  obtain ⟨_, _, h⟩ := Option.bind_eq_some_iff.1 h
  obtain ⟨dram, hdram, h⟩ := Option.bind_eq_some_iff.1 h
  cases h
  exact hdram

/-- Whatever a board has been through, once it is reset it is its new board,
but for the CLINT, the PLIC and the power switch, the pending, enabled and
delegated interrupts, the trap registers with mcause cleared, and mstatus with
MIE, MPRV and MBE cleared.  It starts over at the reset vector, and takes no
interrupt first. -/
theorem reset_of_run [Build] {config : Config} {fresh s : Board}
    (hnew : new config = some fresh) (hrun : ResetRun fresh s) :
    reset s =
      { fresh with
        status := s.status.reset
        trap := s.trap.setMTrapCause (.exception none)
        interrupts := s.interrupts
        bus := { fresh.bus with
          clint := s.bus.clint
          plic := s.bus.plic
          powerDown := s.bus.powerDown }
        events := s.events } ∧
      (reset s).StartsOver coreConfig ∧ (reset s).WellFormed := by
  have hbuilt := built_run hrun (built_new hnew)
  have hdram : s.bus.dram.reset = fresh.bus.dram :=
    Ram.reset_eq_new (dram_new hnew) hbuilt.parts.dram
  have hmrom := hbuilt.parts.mrom
  have hflash := hbuilt.parts.flash
  refine ⟨?_, { State.startsOver_reset coreConfig s with }, hbuilt.reset.core⟩
  obtain ⟨_, _, _, rfl⟩ := new_eq hnew
  have hbus : (reset s).bus = _ :=
    (SystemBus.mk.injEq ..).mpr
      ⟨hmrom, rfl, rfl, rfl, hflash, hdram, rfl⟩
  exact (State.mk.injEq ..).mpr
    ⟨rfl, rfl, rfl, rfl, rfl, rfl, rfl, rfl, hbus, rfl⟩

/-- The first step of the guest, and a reset. -/
theorem reset_of_run_guest :
    ∃ s, @ResetRun Build.debug guestBoard s ∧
      s.registers.pc ≠ coreConfig.resetVector ∧
      (reset s).registers = Registers.new coreConfig.resetVector ∧
      (reset s).bus.dram = guestBoard.bus.dram := by
  let _ : Build := Build.debug
  have hpanic : (step guestBoard).panicked = false := by decide +kernel
  have hpc : (step guestBoard).state.registers.pc ≠ coreConfig.resetVector := by
    decide +kernel
  have hrun : ResetRun guestBoard (step guestBoard).state :=
    .step .start (step_eq_ok hpanic)
  have hnew : new guestConfig = some guestBoard := (Option.some_get _).symm
  obtain ⟨hreset, hstart, _⟩ := reset_of_run hnew hrun
  have hdram := congrArg (fun board : Board => board.bus.dram) hreset
  exact ⟨_, hrun, hpc, hstart.registers, hdram⟩

end Board

end RedPlanet
