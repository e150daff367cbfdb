import RedPlanet.Core.Counters
import RedPlanet.Core.Interrupts
import RedPlanet.Core.Status
import RedPlanet.Core.Trap

/-!
# The state of a core and its bus

The `Core` structure of `core/mod.rs`: what it keeps in the allocator is the
record `State`, its configuration is passed along.  The system bus is a
parameter; a device reaches back into the core only through its interrupt
callback, so an access returns the callback calls it made and the core
carries them out.

`events` is a ghost: the accesses requested from the bus and the vectored
interrupts taken, newest first.  Nothing reads it; it is what a proof points
at when the code panics.
-/

namespace RedPlanet.Core

open RedPlanet.Verified

/-- `core::Config`: the hart, the addresses of the timer registers, how
misaligned accesses and instructions are treated, and the vectors of reset and
NMI. -/
structure Config where
  hartId : BitVec 32
  mtimeAddress : BitVec 32
  mtimecmpAddress : BitVec 32
  supportMisalignedMemoryAccess : Bool
  strictInstructionAlignment : Bool
  resetVector : BitVec 32
  nmiVector : BitVec 32
deriving DecidableEq, Repr

/-- The trait `SystemBus`, with `Bus` above it.  `none` is a panic.  A read
gets the buffer it is to fill and returns it; what it does not fill stays. -/
class SystemBus (β : Type) where
  accepts : (address : BitVec 32) → (size : Nat) → AccessType → Bool
  read : (address : BitVec 32) → (buf : List (BitVec 8)) → β →
    Option (List (BitVec 8) × β × List IrqCall)
  readDebug : (address : BitVec 32) → (buf : List (BitVec 8)) → β →
    Option (List (BitVec 8))
  write : (address : BitVec 32) → (buf : List (BitVec 8)) → β →
    Option (β × List IrqCall)

/-- A bus without devices: nothing is accepted. -/
inductive NoDevices where
  | unit
deriving DecidableEq, Repr

/-- Nothing is ever accepted, so nothing is ever accessed. -/
instance : SystemBus NoDevices where
  accepts _ _ _ := false
  read _ buf bus := some (buf, bus, [])
  readDebug _ buf _ := some buf
  write _ _ bus := some (bus, [])

/-- A configuration to go with it. -/
def NoDevices.config : Config where
  hartId := 0
  mtimeAddress := 0x0200BFF8
  mtimecmpAddress := 0x02004000
  supportMisalignedMemoryAccess := true
  strictInstructionAlignment := false
  resetVector := 0x1000
  nmiVector := 0x1000

/-- What is recorded: an access to the bus, or a vectored interrupt. -/
inductive Event where
  /-- A read or a write of `size` bytes requested from the bus. -/
  | access (address : BitVec 32) (size : Nat)
  /-- An interrupt with this cause number taken through a vectored xtvec. -/
  | vectored (base : BitVec 32) (code : Nat)
deriving DecidableEq, Repr

/-- The fields of the core, the bus behind it and the ghost. -/
structure State (β : Type) where
  registers : Registers
  privilegeMode : PrivilegeLevel
  status : Status
  counters : Counters
  counterControl : CounterControl
  trap : Trap
  interrupts : Interrupts
  envcfg : Envcfg
  bus : β
  events : List Event

variable {β ε : Type}

/-- `Core::new`. -/
def State.new (config : Config) (bus : β) : State β where
  registers := Registers.new config.resetVector
  privilegeMode := .machine
  status := Status.new
  counters := Counters.new
  counterControl := CounterControl.new
  trap := Trap.new
  interrupts := Interrupts.new
  envcfg := Envcfg.new
  bus := bus
  events := []

namespace State

/-! ## Updating one part of the state -/

/-- Change the integer registers and the pc. -/
def onRegisters (f : Registers → Registers) (s : State β) : State β :=
  { s with registers := f s.registers }

/-- Change mstatus and mstatush. -/
def onStatus (f : Status → Status) (s : State β) : State β :=
  { s with status := f s.status }

/-- Change the counters. -/
def onCounters (f : Counters → Counters) (s : State β) : State β :=
  { s with counters := f s.counters }

/-- Change what enables and inhibits the counters. -/
def onCounterControl (f : CounterControl → CounterControl) (s : State β) :
    State β :=
  { s with counterControl := f s.counterControl }

/-- Change the registers about traps, satp among them. -/
def onTrap (f : Trap → Trap) (s : State β) : State β :=
  { s with trap := f s.trap }

/-- Change the interrupt registers. -/
def onInterrupts (f : Interrupts → Interrupts) (s : State β) : State β :=
  { s with interrupts := f s.interrupts }

/-- Change menvcfg. -/
def onEnvcfg (f : Envcfg → Envcfg) (s : State β) : State β :=
  { s with envcfg := f s.envcfg }

/-- Change the mode. -/
def setPrivilegeMode (mode : PrivilegeLevel) (s : State β) : State β :=
  { s with privilegeMode := mode }

/-- Add an event to the ghost. -/
def record (event : Event) (s : State β) : State β :=
  { s with events := event :: s.events }

/-! ## Reading the state -/

/-- `Core::endianness`. -/
def endianness (s : State β) (privilegeMode : PrivilegeLevel) : Endianness :=
  let be :=
    match privilegeMode with
    | .user => s.status.ube
    | .supervisor => s.status.sbe
    | .machine => s.status.mbe
  if be then .BE else .LE

/-- `Core::effective_privilege_mode`; `none` when MPP cannot be read. -/
def effectivePrivilegeMode (s : State β) : Option PrivilegeLevel :=
  if s.status.mprv then s.status.mpp else some s.privilegeMode

end State

/-! ## The bus as the core uses it -/

/-- The core is a program over its state. -/
abbrev CoreM (β ε α : Type) := Exec ε (State β) α

/-- `Bus::accepts` of the system bus. -/
def accepts (β : Type) [SystemBus β] (address : BitVec 32) (size : Nat)
    (accessType : AccessType) : Bool :=
  @SystemBus.accepts β _ address size accessType

variable [SystemBus β]

/-- `Bus::read`, with the calls of the devices carried out. -/
def busRead (address : BitVec 32) (buf : List (BitVec 8)) :
    CoreM β ε (List (BitVec 8)) :=
  fun s =>
    let s := s.record (.access address buf.length)
    match SystemBus.read address buf s.bus with
    | none => .panic s
    | some (buf, bus, calls) =>
        .ok buf ({ s with bus := bus }.onInterrupts
          (Interrupts.deliverAll calls))

/-- `Bus::write`, with the calls of the devices carried out. -/
def busWrite (address : BitVec 32) (buf : List (BitVec 8)) :
    CoreM β ε Unit :=
  fun s =>
    let s := s.record (.access address buf.length)
    match SystemBus.write address buf s.bus with
    | none => .panic s
    | some (bus, calls) =>
        .ok () ({ s with bus := bus }.onInterrupts
          (Interrupts.deliverAll calls))

/-- `a + b` of two `u32`. -/
def addChecked {σ : Type} [Build] (a b : BitVec 32) :
    Exec ε σ (BitVec 32) := Exec.unwrap (addU32 a b)

/-- `Core::read_mtime`. -/
def readMtime (config : Config) : CoreM β ε (BitVec 64) := do
  let buf ← busRead config.mtimeAddress (List.replicate 8 0)
  return ofLeBytes 64 buf

/-- `Core::read_mtimecmp`. -/
def readMtimecmp (config : Config) : CoreM β ε (BitVec 64) := do
  let buf ← busRead config.mtimecmpAddress (List.replicate 8 0)
  return ofLeBytes 64 buf

end RedPlanet.Core
