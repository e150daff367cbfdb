import RedPlanet.Board.Memory
import RedPlanet.Core.RawPath
import RedPlanet.Core.StoreLoad
import RedPlanet.Resources.UartRun

/-!
# A byte for the UART

A step of the board that fetches a byte store to the UART from DRAM, in M-mode
with interrupts off.  The byte reaches the UART, the program counter goes on,
and the program is still there.

`Undisturbed` is a core that no interrupt can take away, `Transmits` a UART
that sends what is written to it, and `StoreAt` the instruction in DRAM.
Each is kept by the step, so that such steps can follow one another.
-/

namespace RedPlanet.Core

open RedPlanet.Verified Exec

variable {β ε : Type}

/-! ## An undisturbed step -/

/-- In M-mode with interrupts off, and no other level used for memory. -/
structure Undisturbed (s : State β) : Prop where
  mode : s.privilegeMode = .machine
  masked : s.status.mie = false
  direct : s.status.mprv = false

/-- It depends on the mode and on the status. -/
theorem Undisturbed.congr {s t : State β} (h : Undisturbed s)
    (hmode : t.privilegeMode = s.privilegeMode)
    (hstatus : t.status = s.status) : Undisturbed t where
  mode := by rw [hmode, h.mode]
  masked := by rw [hstatus, h.masked]
  direct := by rw [hstatus, h.direct]

/-- In M-mode nothing is translated. -/
theorem Undisturbed.untranslated {s : State β} (h : Undisturbed s) :
    Untranslated s .machine where
  effective := by
    unfold State.effectivePrivilegeMode
    rw [h.direct, h.mode]
    rfl
  direct := Or.inl rfl

variable [Build] {s u v : State β}

/-- So no interrupt is taken. -/
theorem Undisturbed.checkForInterrupts_eq (h : Undisturbed s) :
    (checkForInterrupts : CoreM β ε Bool) s = .ok false s := by
  have hready : highestPriorityReadyInterrupt s = none := by
    unfold highestPriorityReadyInterrupt
    rw [h.mode, h.masked]
    rfl
  unfold checkForInterrupts
  rw [get_bind, hready]
  rfl

variable [SystemBus β]

/-- A word of RAM is fetched. -/
theorem Undisturbed.fetchInstruction_eq {M : Memory β} {config : Config}
    {address : BitVec 32} (h : Undisturbed s)
    (haligned : isAligned
      (if config.strictInstructionAlignment then WORD else HALFWORD) address
        = true)
    (hpermitted : Permitted config address 4) (hram : M.Ram s.bus address 4) :
    fetchInstruction config address s =
      .ok (M.word s.bus address) (s.accessed address 4 s.bus []) := by
  have hread : mmuRead config 4 address .machine true s =
      .ok ((List.range 4).map fun i =>
          M.byte s.bus (address + BitVec.ofNat 32 i))
        (s.accessed address 4 s.bus []) :=
    mmuRead_ram (accessVirtual_direct h.untranslated hpermitted hram .execute)
      hram
  rw [← h.mode] at hread
  unfold fetchInstruction
  rw [haligned, Bool.not_true, if_neg Bool.false_ne_true, get_bind]
  exact bind_ok hread

/-- A step fetches, decodes and executes. -/
theorem Undisturbed.step_eq {config : Config} {raw : BitVec 32}
    {i : Instruction} (h : Undisturbed s)
    (hfetch : fetchInstruction config s.registers.pc s = .ok raw u)
    (hdecode : decode raw = .ok i)
    (hexecute : executeInstruction config i u = .ok () v)
    (hafter : Undisturbed v) :
    ∃ f, (step config : CoreM β ε Unit) s = .ok () (v.onCounters f) := by
  obtain ⟨f, hf⟩ := tick_eq (.ok i) v
  have hticked : Undisturbed (v.onCounters f) := hafter.congr rfl rfl
  have hattempt : (Exec.attempt (Exec.mapError (fetchException s.registers.pc)
      (fetchInstruction config s.registers.pc)) : CoreM β ε _) s
        = .ok (.ok raw) u := by
    unfold Exec.attempt Exec.mapError
    rw [hfetch]
  have hrun : (stepWithRaw config (.ok raw) : CoreM β ε Unit) u
      = .ok () (v.onCounters f) := by
    rw [stepWithRaw_decoded config hdecode, ← hf]
    exact stepWith_completed hexecute
  refine ⟨f, ?_⟩
  unfold step
  rw [get_bind]
  refine (bind_ok h.checkForInterrupts_eq).trans ?_
  refine (bind_ok hattempt).trans ?_
  refine (bind_ok hrun).trans ?_
  exact bind_ok hticked.checkForInterrupts_eq

/-- A byte is stored wherever the bus accepts it. -/
theorem Undisturbed.store_eq {config : Config} {src base : Specifier}
    {offset : BitVec 32} {bus : β} {calls : List IrqCall} (h : Undisturbed s)
    (hpermitted : Permitted config (s.registers.x base + offset) 1)
    (haccepts : accepts β (s.registers.x base + offset) 1 .write = true)
    (hwrite : SystemBus.write (s.registers.x base + offset)
      [(s.registers.x src).setWidth 8] s.bus = some (bus, calls)) :
    executeInstruction config (.store .sb src base offset) s =
      .ok () ((s.accessed (s.registers.x base + offset) 1 bus
        calls).onRegisters Registers.incrementPc) := by
  apply storeOp_ok
  show writeByte config _ _ s = _
  unfold writeByte
  refine (bind_ok (effectivePrivilegeMode_ok h.untranslated)).trans ?_
  unfold mmuWrite
  refine (bind_ok (accessVirtual_accepted h.untranslated hpermitted
    haccepts)).trans ?_
  exact busWrite_ok hwrite

/-- The core went on to the next instruction, and this is behind the bus. -/
structure WentOn (s : State β) (bus : β) (t : State β) : Prop where
  mode : t.privilegeMode = s.privilegeMode
  status : t.status = s.status
  registers : t.registers = s.registers.incrementPc
  bus : t.bus = bus

/-- A step that finds a byte store in RAM. -/
theorem Undisturbed.step_store {M : Memory β} {config : Config}
    {src base : Specifier} {offset : BitVec 32} {bus : β}
    {calls : List IrqCall} (h : Undisturbed s)
    (hsupport : config.supportMisalignedMemoryAccess = true)
    (haligned : isAligned
      (if config.strictInstructionAlignment then WORD else HALFWORD)
        s.registers.pc = true)
    (hram : M.Ram s.bus s.registers.pc 4)
    (hdecode : decode (M.word s.bus s.registers.pc)
      = .ok (.store .sb src base offset))
    (haccepts : accepts β (s.registers.x base + offset) 1 .write = true)
    (hwrite : SystemBus.write (s.registers.x base + offset)
      [(s.registers.x src).setWidth 8] s.bus = some (bus, calls)) :
    ∃ t, (step config : CoreM β ε Unit) s = .ok () t ∧ WentOn s bus t := by
  have hpermitted : ∀ address size, size < 2 ^ 32 →
      Permitted config address size := fun _ _ hsize => ⟨hsize, Or.inl hsupport⟩
  have hfetch := h.fetchInstruction_eq haligned
    (hpermitted s.registers.pc 4 (by decide)) hram
  have hfetched : Undisturbed (s.accessed s.registers.pc 4 s.bus []) :=
    h.congr rfl rfl
  have hexecute := hfetched.store_eq (hpermitted _ 1 (by decide)) haccepts hwrite
  obtain ⟨f, hstep⟩ := h.step_eq (ε := ε) hfetch hdecode hexecute
    (hfetched.congr rfl rfl)
  exact ⟨_, hstep, ⟨rfl, rfl, rfl, rfl⟩⟩

end RedPlanet.Core

/-! ## A UART that transmits -/

namespace RedPlanet.Resources.Uart

/-- Output is handed over, and the transmitter is at address 0. -/
structure Transmits (uart : Uart) : Prop where
  operational : uart.isOperational = true
  dlab : uart.dlab = false

/-- It depends on the line control and the divisor. -/
theorem Transmits.congr {uart uart' : Uart} (h : uart.Transmits)
    (hdlr : uart'.dlr = uart.dlr) (hlcr : uart'.lcr = uart.lcr) :
    uart'.Transmits where
  operational := by
    unfold isOperational
    rw [hdlr]
    exact h.operational
  dlab := by
    unfold Uart.dlab
    rw [hlcr]
    exact h.dlab

/-- Making room in the FIFO leaves both alone. -/
theorem makeRoomTx_line {uart after : Uart} (h : uart.makeRoomTx = some after) :
    after.dlr = uart.dlr ∧ after.lcr = uart.lcr := by
  unfold makeRoomTx at h
  split at h
  · obtain ⟨buf, -, hafter⟩ := Option.map_eq_some_iff.1 h
    rw [← hafter]
    exact ⟨rfl, rfl⟩
  · cases h
    exact ⟨rfl, rfl⟩

theorem writeThr_line {value : BitVec 8} {uart after : Uart}
    (h : uart.writeThr value = some after) :
    after.dlr = uart.dlr ∧ after.lcr = uart.lcr := by
  obtain ⟨room, pushed, hroom, hpush, hafter⟩ := writeThr_cases h
  obtain ⟨hdlr, hlcr⟩ := makeRoomTx_line hroom
  unfold pushTx at hpush
  split at hpush
  · cases hpush
    rw [hafter, ← hdlr, ← hlcr]
    split <;> exact ⟨rfl, rfl⟩
  · cases hpush

/-- The byte waits to be transmitted. -/
theorem Transmits.write {uart : Uart} (h : uart.Transmits)
    {address : BitVec 32} (haddress : address.setWidth 8 = (0 : BitVec 8))
    (value : BitVec 8) :
    ∃ uart', uart.write address [value] = some (uart', []) ∧
      uart'.Transmits ∧ uart'.pendingOutputAmount ≠ 0 := by
  obtain ⟨uart', hthr⟩ := Option.ne_none_iff_exists'.1
    (uart.writeThr_ne_none value)
  obtain ⟨hdlr, hlcr⟩ := writeThr_line hthr
  have hafter := h.congr hdlr hlcr
  refine ⟨uart', ?_, hafter, ?_⟩
  · unfold Uart.write writeRegister
    rw [haddress, if_pos rfl, h.dlab, if_neg Bool.false_ne_true, List.head?_cons,
      Option.getD_some, hthr]
    rfl
  · have hlength := congrArg List.length (writeThr_spec hthr).1
    rw [length_txContents, List.length_append, List.length_singleton] at hlength
    unfold pendingOutputAmount
    rw [hafter.operational]
    show uart'.txFifoLen ≠ 0
    omega

/-- The line status is another register. -/
theorem Transmits.setLsr {uart : Uart} (h : uart.Transmits) (i : ℕ)
    (value : Bool) : (uart.setLsr i value).Transmits :=
  h.congr rfl rfl

theorem Transmits.drained {uart : Uart} (h : uart.Transmits) :
    uart.drainTx.updateInterrupt.1.Transmits :=
  h.congr rfl rfl

/-- Received bytes have a FIFO of their own. -/
theorem Transmits.pushRx {uart : Uart} (h : uart.Transmits)
    (input : List (BitVec 8)) : (uart.pushRx input).Transmits := by
  unfold Uart.pushRx
  exact h.congr rfl rfl

/-- The host takes what was sent and adds what it has. -/
theorem Transmits.pushAndRead {uart : Uart} (h : uart.Transmits)
    (input : List (BitVec 8)) : (uart.pushAndRead input).2.1.Transmits := by
  have htaken : (uart.takeRx input).Transmits := by
    unfold takeRx
    split
    · exact (h.pushRx input).setLsr 0 true
    · exact h.pushRx input
  rw [pushAndRead_eq h.operational]
  exact htaken.drained

end RedPlanet.Resources.Uart

namespace RedPlanet.Board

open RedPlanet.Core RedPlanet.Resources RedPlanet.Verified Exec SystemBus

variable [Build]

/-! ## The UART on the bus -/

omit [Build] in
/-- What the UART does goes on to the PLIC and to the core. -/
theorem withUart_eq (uart0 : Uart) (callbacks : List Callback)
    (bus : SystemBus) :
    ∃ plic calls, bus.withUart uart0 callbacks
      = some ({ bus with uart0 := uart0, plic := plic }, calls) := by
  obtain ⟨⟨plic, calls⟩, hforward⟩ := Option.ne_none_iff_exists'.1
    (forwardUart_ne_none callbacks bus.plic)
  refine ⟨plic, plicCalls calls, ?_⟩
  unfold withUart
  rw [hforward]
  rfl

omit [Build] in
/-- A write to the UART, with the interrupts that it raises. -/
theorem write_uart0 {address mapped : BitVec 32} {buf : List (BitVec 8)}
    {bus : SystemBus} {uart0 : Uart} {callbacks : List Callback}
    (hcheck : checkAccess address buf.length = some (.uart0, mapped))
    (hwrite : bus.uart0.write mapped buf = some (uart0, callbacks)) :
    ∃ plic calls, bus.write address buf
      = some ({ bus with uart0 := uart0, plic := plic }, calls) := by
  unfold SystemBus.write
  rw [hcheck]
  dsimp only
  rw [hwrite]
  exact withUart_eq uart0 callbacks bus

/-! ## The step -/

/-- The board went on to the next instruction, and this is its UART. -/
structure Sent (board : Board) (uart0 : Uart) (board' : Board) : Prop where
  undisturbed : Undisturbed board'
  registers : board'.registers = board.registers.incrementPc
  running : board'.bus.powerDown = false
  dram : board'.bus.dram = board.bus.dram
  uart0 : board'.bus.uart0 = uart0

/-- A step that finds a byte store to the UART gives the UART its byte. -/
theorem step_sends {board : Board} {src base : Specifier}
    {offset mapped : BitVec 32} {uart0 : Uart} {callbacks : List Callback}
    (h : Undisturbed board) (hrunning : board.bus.powerDown = false)
    (haligned : isAligned HALFWORD board.registers.pc = true)
    (hdram : board.bus.InDram board.registers.pc 4)
    (hdecode : decode (memory.word board.bus board.registers.pc)
      = .ok (.store .sb src base offset))
    (hcheck : checkAccess (board.registers.x base + offset) 1
      = some (.uart0, mapped))
    (hwrite : board.bus.uart0.write mapped
      [(board.registers.x src).setWidth 8] = some (uart0, callbacks)) :
    ∃ board', step board = .ok () board' ∧ Sent board uart0 board' := by
  obtain ⟨plic, calls, hbus⟩ := write_uart0 hcheck hwrite
  have hcleared : Undisturbed (clearEvents board) := h.congr rfl rfl
  have hstore : ∃ t, (Core.step coreConfig : CoreM SystemBus Empty Unit)
      (clearEvents board) = .ok () t ∧ WentOn (clearEvents board)
        { board.bus with uart0 := uart0, plic := plic } t :=
    hcleared.step_store (M := memory) rfl haligned hdram hdecode
      (accepts_any hcheck (Or.inl rfl) .write) hbus
  obtain ⟨t, hstep, hwent⟩ := hstore
  have hrun : step board = (clintStep : CoreM SystemBus Empty Unit) t := by
    unfold step stepLogged
    have hon : ¬ (clearEvents board).bus.powerDown = true :=
      ne_true_of_eq_false hrunning
    rw [get_bind, if_neg hon]
    exact bind_ok hstep
  refine ⟨_, hrun, ?_⟩
  exact
    { undisturbed := hcleared.congr hwent.mode hwent.status
      registers := hwent.registers
      running := by
        show t.bus.powerDown = false
        rw [hwent.bus]
        exact hrunning
      dram := by
        show t.bus.dram = board.bus.dram
        rw [hwent.bus]
      uart0 := by
        show t.bus.uart0 = uart0
        rw [hwent.bus] }

/-! ## A run of stores -/

/-- At this address the board finds the byte store. -/
structure StoreAt (src base : Specifier) (offset : BitVec 32) (board : Board)
    (address : BitVec 32) : Prop where
  aligned : isAligned HALFWORD address = true
  inDram : board.bus.InDram address 4
  decode_eq : decode (memory.word board.bus address)
    = .ok (.store .sb src base offset)

/-- The next instructions of the board are byte stores to the transmitter. -/
structure Sends (src base : Specifier) (offset : BitVec 32) (n : ℕ)
    (board : Board) : Prop where
  undisturbed : Undisturbed board
  running : board.bus.powerDown = false
  program : ∀ i < n, StoreAt src base offset board
    (board.registers.pc + BitVec.ofNat 32 (4 * i))
  device : checkAccess (board.registers.x base + offset) 1 = some (.uart0, 0)
  transmits : board.bus.uart0.Transmits

variable {src base : Specifier} {offset : BitVec 32} {board board' : Board}

/-- The instruction is in DRAM. -/
theorem StoreAt.congr {address : BitVec 32}
    (h : StoreAt src base offset board address)
    (hdram : board'.bus.dram = board.bus.dram) :
    StoreAt src base offset board' address where
  aligned := h.aligned
  inDram := by
    have hsame : board'.bus.InDram = board.bus.InDram :=
      inDram_congr (by rw [hdram])
    rw [hsame]
    exact h.inDram
  decode_eq := by
    have hbyte : memory.byte board'.bus = memory.byte board.bus := by
      show dramByte board'.bus = dramByte board.bus
      unfold dramByte
      rw [hdram]
    have hword : memory.word board'.bus address
        = memory.word board.bus address :=
      Memory.word_congr fun i _ => by rw [hbyte]
    rw [hword]
    exact h.decode_eq

/-- Every step of the run leaves output. -/
theorem Sends.step_eq {n : ℕ} (h : Sends src base offset (n + 1) board) :
    ∃ board', step board = .ok () board' ∧ Sends src base offset n board' ∧
      board'.bus.uart0.pendingOutputAmount ≠ 0 := by
  have hstore := h.program 0 (Nat.zero_lt_succ n)
  rw [Nat.mul_zero, BitVec.add_zero] at hstore
  have hzero : (0 : BitVec 32).setWidth 8 = (0 : BitVec 8) := by decide
  obtain ⟨uart0, hwrite, htransmits, hpending⟩ := h.transmits.write hzero
    ((board.registers.x src).setWidth 8)
  obtain ⟨board', hstep, hsent⟩ := step_sends h.undisturbed h.running
    hstore.aligned hstore.inDram hstore.decode_eq h.device hwrite
  refine ⟨board', hstep, ?_, ?_⟩
  · exact
      { undisturbed := hsent.undisturbed
        running := hsent.running
        program := by
          intro i hi
          have hnext := (h.program (i + 1) (by omega)).congr hsent.dram
          have haddress : board'.registers.pc + BitVec.ofNat 32 (4 * i)
              = board.registers.pc + BitVec.ofNat 32 (4 * (i + 1)) := by
            rw [hsent.registers]
            show board.registers.pc + 4 + _ = _
            rw [BitVec.add_assoc, Nat.mul_succ, Nat.add_comm (4 * i),
              BitVec.ofNat_add]
            rfl
          rw [haddress]
          exact hnext
        device := by
          rw [hsent.registers]
          exact h.device
        transmits := by
          rw [hsent.uart0]
          exact htransmits }
  · rw [hsent.uart0]
    exact hpending

/-- Input does not disturb the run. -/
theorem Sends.pushInput {n : ℕ} {input : List (BitVec 8)}
    (h : Sends src base offset n board)
    (hrun : board.pushInput input = some board') :
    Sends src base offset n board' := by
  obtain ⟨bus, calls, hbus, hboard⟩ := pushInput_eq hrun
  obtain ⟨plic, calls', hbus'⟩ := withUart_eq
    (board.bus.uart0.pushAndRead input).2.1
    (board.bus.uart0.pushAndRead input).2.2 board.bus
  rw [hbus] at hbus'
  cases hbus'
  rw [hboard]
  exact
    { undisturbed := h.undisturbed.congr rfl rfl
      running := h.running
      program := fun i hi => (h.program i hi).congr rfl
      device := h.device
      transmits := h.transmits.pushAndRead input }

end RedPlanet.Board
