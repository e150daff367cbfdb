import RedPlanet.Board.SystemBus
import RedPlanet.Core.Run

/-!
# The board

`board/mod.rs`: a core on the system bus, and its step.  The state of the
board is the state of its core, bus included.  Between two steps the host may
load memory and feed the UART; `Reachable` covers both.

The step ticks the CLINT, delivers its callbacks and steps the core.
`step_panicked_iff` is the result about all of the board's runs:
a step panics exactly if it makes one of the accesses to the PLIC that the bus
does not survive, or takes a vectored interrupt whose handler address
overflows.  It rests on `Sound`, which `Reachable.sound` carries along.
-/

namespace RedPlanet

open RedPlanet.Core RedPlanet.Resources RedPlanet.Verified Discipline

/-- The state of the core, with the system bus behind it. -/
abbrev Board := Core.State Board.SystemBus

namespace Board

/-- `board::Config`. -/
structure Config where
  /-- Whether the reset vector jumps to flash, or to the start of RAM. -/
  bootToFlash : Bool
  endianness : Endianness
  flash : List (BitVec 8)
deriving DecidableEq, Repr

/-- The contents of MROM. -/
def resetVector (config : Config) : List (BitVec 8) :=
  let startAddress :=
    if config.bootToFlash then flashRange.start else dramRange.start
  let bytes := toLeBytes 4 startAddress
  [0x97, 0x02, 0x00, 0x00, -- auipc  t0, 0x0
    0x73, 0x25, 0x40, 0xf1, -- csrr   a0, mhartid
    0x83, 0xa2, 0x02, 0x01, -- lw     t0, 16(t0)
    0x67, 0x80, 0x02, 0x00] -- jr     t0
    ++ (if config.endianness = .LE then bytes else bytes.reverse)

/-- The configuration of the core on this board. -/
def coreConfig : Core.Config where
  hartId := 0
  mtimeAddress := clintRange.start + Clint.MTIME_ADDR_LO
  mtimecmpAddress := clintRange.start + Clint.MTIMECMP_ADDR_LO
  supportMisalignedMemoryAccess := true
  strictInstructionAlignment := false
  resetVector := mromRange.start
  nmiVector := mromRange.start

/-- `Board::new`; `none` is a failed `unwrap`. -/
def new (config : Config) : Option Board := do
  let mrom ← Rom.new mromRange.size (resetVector config)
  let flash ← Rom.new flashRange.size config.flash
  let dram ← Ram.new dramRange.size
  return State.new coreConfig
    { mrom := mrom
      clint := Clint.new
      plic := Plic.new
      uart0 := Uart.new
      flash := flash
      dram := dram
      powerDown := false }

/-- `Clint::step` with its callback. -/
def clintStep {ε : Type} : CoreM SystemBus ε Unit :=
  Exec.modify fun s =>
    let (clint, calls) := s.bus.clint.step
    { s with bus := { s.bus with clint := clint } }.onInterrupts
      (Interrupts.deliverAll
        (calls.map (IrqCall.of .machineTimerInterrupt)))

/-- The log of a step starts empty. -/
def clearEvents (board : Board) : Board := { board with events := [] }

section Step

variable [Build]

/-- `Board::step`, after the log was cleared. -/
def stepLogged : CoreM SystemBus Empty Unit := do
  let s ← Exec.get
  if s.bus.powerDown then pure ()
  else
    Core.step coreConfig
    clintStep

/-- `Board::step`. -/
def step : CoreM SystemBus Empty Unit := fun board =>
  stepLogged (clearEvents board)

/-- Any number of steps. -/
def runSteps : ℕ → CoreM SystemBus Empty Unit
  | 0 => pure ()
  | n + 1 => do
      step
      runSteps n

/-- A step keeps what the steps of the core and the CLINT keep. -/
theorem preserves_step {P : Board → Prop} (hsteps : Steps (preserving P))
    (hclear : ∀ board : Board, P board → P (clearEvents board))
    (hclint : ∀ board : Board, P board →
      P ((clintStep : CoreM SystemBus Empty Unit) board).state)
    {board : Board} (h : P board) : P (step board).state := by
  have htame : (preserving P).Tame stepLogged := by
    unfold stepLogged
    apply Tame.bind Tame.get
    intro s
    apply Tame.ite
    · intro _
      exact Tame.pure ()
    · intro _
      apply Tame.bind (hsteps.tame_step coreConfig)
      intro _
      exact tame_preserving hclint
  exact htame.preserves (hclear board h)

/-- A step that does not panic succeeds. -/
theorem step_eq_ok {s : Board} (h : (step s).panicked = false) :
    step s = .ok () (step s).state :=
  Outcome.eq_ok h

end Step

/-! ## What the host does between steps -/

/-- Any contents in DRAM. -/
def loadDram (contents : ℕ → BitVec 8) (board : Board) : Board :=
  let dram := board.bus.dram
  { board with
    bus := { board.bus with
      dram := { dram with data := { dram.data with elem := contents } } } }

/-- `Uart::push_and_read` on the UART of the board, with its callbacks. -/
def pushInput (input : List (BitVec 8)) (board : Board) : Option Board :=
  let (_, uart0, callbacks) := board.bus.uart0.pushAndRead input
  (board.bus.withUart uart0 callbacks).map fun (bus, calls) =>
    { board with bus := bus }.onInterrupts (Interrupts.deliverAll calls)

/-- Feeding the UART does not panic either. -/
theorem pushInput_ne_none (input : List (BitVec 8)) (board : Board) :
    board.pushInput input ≠ none := by
  unfold pushInput
  rw [ne_eq, Option.map_eq_none_iff]
  exact SystemBus.withUart_ne_none _ _ board.bus

/-- Input that is pushed goes through the UART, and its callbacks to the core.
-/
theorem pushInput_eq {input : List (BitVec 8)} {board board' : Board}
    (h : board.pushInput input = some board') :
    ∃ bus calls, board.bus.withUart (board.bus.uart0.pushAndRead input).2.1
        (board.bus.uart0.pushAndRead input).2.2 = some (bus, calls) ∧
      board' = { board with bus := bus }.onInterrupts
        (Interrupts.deliverAll calls) := by
  obtain ⟨⟨bus, calls⟩, hbus, hboard⟩ := Option.map_eq_some_iff.1 h
  exact ⟨bus, calls, hbus, hboard.symm⟩

/-- Everything but the memories of a new board is fresh. -/
theorem new_eq {config : Config} {board : Board}
    (h : new config = some board) :
    ∃ mrom flash dram, board = State.new coreConfig
      { mrom := mrom
        clint := Clint.new
        plic := Plic.new
        uart0 := Uart.new
        flash := flash
        dram := dram
        powerDown := false } := by
  unfold new at h
  obtain ⟨mrom, -, h⟩ := Option.bind_eq_some_iff.1 h
  obtain ⟨flash, -, h⟩ := Option.bind_eq_some_iff.1 h
  obtain ⟨dram, -, h⟩ := Option.bind_eq_some_iff.1 h
  exact ⟨mrom, flash, dram, (Option.some.inj h).symm⟩

/-! ## Steps that panic -/

section Panics

variable [Build]

/-- The tick of the CLINT drives the timer interrupt only. -/
theorem tame_clintStep {ε : Type} :
    (whole contract).Tame (clintStep : CoreM SystemBus ε Unit) := by
  apply Tame.modify
  · intro s
    exact ⟨fun hs => ⟨True.intro, hs.status, hs.trap⟩, id⟩
  · intro s hclean
    exact hclean

/-- So the step of the board keeps to the discipline of the core's. -/
theorem tame_stepLogged : (whole contract).Tame stepLogged := by
  unfold stepLogged
  apply Tame.bind Tame.get
  intro s
  apply Tame.ite
  · intro _
    exact Tame.pure ()
  · intro _
    apply Tame.bind (tame_step coreConfig)
    intro _
    exact tame_clintStep

/-- The step from this board runs into no bad event: it requests no word
access to a PLIC register outside its array, and it takes no interrupt whose
vector overflows. -/
def Harmless (board : Board) : Prop :=
  ∀ event ∈ (step board).state.events, ¬ contract.badEvent event

/-- From a sound board a step panics exactly if it is not harmless, and it
leaves a sound board. -/
theorem step_spec {board : Board} (h : Sound contract board) :
    ((step board).panicked = true ↔ ¬ Harmless board) ∧
      Sound contract (step board).state := by
  have hcleared : Sound contract (clearEvents board) :=
    ⟨h.bus, h.status, h.trap⟩
  have hclean : Unharmed contract (clearEvents board) := by
    intro event hevent
    exact nomatch hevent
  obtain ⟨hstep, hpanic⟩ := tame_stepLogged (clearEvents board)
  exact ⟨hpanic hcleared hclean, hstep.sound hcleared⟩

/-- A board that was built by `Board::new` and stepped any number of times,
each time harmlessly, while the host loaded memory and fed the UART. -/
inductive Reachable (config : Config) : Board → Prop where
  | new {board : Board} (h : new config = some board) :
      Reachable config board
  | loadDram {board : Board} (contents : ℕ → BitVec 8)
      (h : Reachable config board) :
      Reachable config (board.loadDram contents)
  | pushInput {board board' : Board} {input : List (BitVec 8)}
      (h : Reachable config board)
      (hinput : board.pushInput input = some board') :
      Reachable config board'
  | step {board : Board} (h : Reachable config board)
      (hharmless : Harmless board) : Reachable config (step board).state

/-- A new board is sound. -/
theorem sound_new {config : Config} {board : Board}
    (h : new config = some board) : Sound contract board := by
  obtain ⟨_, _, _, hboard⟩ := new_eq h
  rw [hboard]
  exact ⟨True.intro, Status.legal_new, Trap.aligned_new⟩

/-- Steps, loads and input keep it so. -/
theorem Reachable.sound {config : Config} {board : Board}
    (h : Reachable config board) : Sound contract board := by
  induction h with
  | new h => exact sound_new h
  | loadDram contents _ ih => exact ⟨True.intro, ih.status, ih.trap⟩
  | pushInput _ hinput ih =>
      obtain ⟨_, _, _, hboard⟩ := pushInput_eq hinput
      rw [hboard]
      exact ⟨True.intro, ih.status, ih.trap⟩
  | step _ _ ih => exact (step_spec ih).2

/-- As long as no step panics, all of them are harmless. -/
theorem Reachable.runSteps {config : Config} {s : Board}
    (h : Reachable config s) {n : ℕ}
    (hruns : (Board.runSteps n s).panicked = false) :
    Reachable config (Board.runSteps n s).state := by
  induction n generalizing s with
  | zero => exact h
  | succ n ih =>
      have hrest : Board.runSteps (n + 1) s
          = (Board.step >>= fun _ => Board.runSteps n) s := rfl
      have hpanic := (step_spec h.sound).1
      have hnext : Harmless s → Reachable config (Board.step s).state :=
        Reachable.step h
      rw [hrest, Exec.bind_apply] at hruns ⊢
      cases hstep : Board.step s with
      | ok _ t =>
          rw [hstep] at hpanic hnext hruns
          apply ih (hnext _) hruns
          by_contra hharmful
          exact Bool.noConfusion (hpanic.2 hharmful)
      | error e _ => exact e.elim
      | panic _ =>
          rw [hstep] at hruns
          exact Bool.noConfusion hruns

/-- Which accesses to the devices panic, whatever their address and size. -/
structure AccessPanics : Prop where
  rom : ∀ address buf (rom : Rom), rom.read address buf ≠ none
  ram : ∀ address buf (ram : Ram),
    ram.read address buf ≠ none ∧ ram.write address buf ≠ none
  uart : ∀ address buf (uart : Uart),
    uart.read address buf ≠ none ∧ uart.write address buf ≠ none
  clint : ∀ address buf (clint : Clint),
    clint.read address buf = none ↔
      Build.overflowChecks = true ∧ address = 0xFFFFFFFC ∧ buf.length = 8
  plic : ∀ address buf (plic : Plic),
    (plic.read address buf = none ↔ Plic.BadAccess address buf.length) ∧
    (plic.readDebug address buf = none ↔
      Plic.BadAccess address buf.length) ∧
    (plic.write address buf = none ↔ Plic.BadAccess address buf.length)
  bus : ∀ address buf (bus : SystemBus),
    (bus.read address buf = none ↔
      SystemBus.BadAccess address buf.length) ∧
    (bus.readDebug address buf = none ↔
      SystemBus.BadAccess address buf.length) ∧
    (bus.write address buf = none ↔
      SystemBus.BadAccess address buf.length)

/-- The accesses of the guest that make a step panic. -/
theorem accessPanics : AccessPanics where
  rom := Rom.read_ne_none
  ram := fun address buf ram =>
    ⟨Ram.read_ne_none address buf ram, Ram.write_ne_none address buf ram⟩
  uart := fun address buf uart =>
    ⟨Uart.read_ne_none address buf uart, Uart.write_ne_none address buf uart⟩
  clint := fun _ _ _ => Clint.read_eq_none_iff
  plic := fun _ _ _ =>
    ⟨Plic.read_eq_none_iff, Plic.readDebug_eq_none_iff,
      Plic.write_eq_none_iff⟩
  bus := fun _ _ _ =>
    ⟨SystemBus.read_eq_none_iff, SystemBus.readDebug_eq_none_iff,
      SystemBus.write_eq_none_iff⟩

/-- In every run of harmless steps no step panics, and where a step panics it
was not harmless. -/
theorem step_panicked_iff {config : Config} {board : Board}
    (h : Reachable config board) :
    ((step board).panicked = true ↔ ¬ Harmless board) ∧ AccessPanics :=
  ⟨(step_spec h.sound).1, accessPanics⟩

end Panics

/-- Flash holds `lui t0, 0xc000` and `lw t0, 56(t0)`. -/
def guestConfig : Config where
  bootToFlash := true
  endianness := .LE
  flash := [0xB7, 0x02, 0x00, 0x0C, 0x83, 0xA2, 0x82, 0x03]

/-- The board that the guest starts on. -/
def guestBoard : Board := (new guestConfig).get (by decide +kernel)

/-- The board after some steps of the guest. -/
def guestAfter : ℕ → Board
  | 0 => guestBoard
  | n + 1 => (@step Build.debug (guestAfter n)).state

theorem reachable_guestAfter {n : ℕ}
    (hruns : ∀ k < n, (@step Build.debug (guestAfter k)).panicked = false) :
    @Reachable Build.debug guestConfig (guestAfter n) := by
  let _ : Build := Build.debug
  have hnew : new guestConfig = some guestBoard := (Option.some_get _).symm
  induction n with
  | zero => exact .new hnew
  | succ n ih =>
      have hbefore := ih fun k hk => hruns k (Nat.lt_succ_of_lt hk)
      apply hbefore.step
      by_contra hharmful
      have hpanics := (step_spec hbefore.sound).1.2 hharmful
      rw [hruns n (Nat.lt_succ_self n)] at hpanics
      cases hpanics

/-- The guest is about to read the PLIC. -/
theorem step_panicked_iff_guestAfter :
    (@step Build.debug (guestAfter 5)).panicked = true ∧
      ¬ @Harmless Build.debug (guestAfter 5) ∧ @AccessPanics Build.debug := by
  have hpanics : (@step Build.debug (guestAfter 5)).panicked = true := by
    decide +kernel
  obtain ⟨hiff, haccess⟩ := @step_panicked_iff Build.debug guestConfig
    (guestAfter 5) (reachable_guestAfter (by decide +kernel))
  exact ⟨hpanics, hiff.1 hpanics, haccess⟩

/-- After the four instructions of the reset vector the guest reads the PLIC
at offset 0x38, and the board panics. -/
theorem guest_panics :
    new guestConfig = some guestBoard ∧
      (@runSteps Build.debug 6 guestBoard).panicked = true :=
  ⟨(Option.some_get _).symm, by decide +kernel⟩

end Board

end RedPlanet
