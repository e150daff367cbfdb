import Mathlib.Data.Finset.Basic
import RedPlanet.Core.Csr
import RedPlanet.Core.Mmu
import RedPlanet.Target.OutputLog

/-!
# The commands of the target

`target.rs` and `target/command.rs`: the target owns the simulator, executes
commands, and between them advances the simulator until there is an event.
Commands and events go through unbounded channels, which are lists here.  A
return channel is a number; what is sent back through all of them is one list.

A panic of the source is `none`.
-/

namespace RedPlanet.Target

open RedPlanet.Core RedPlanet.Simulator RedPlanet.Verified
open SnapshotStore ModifiableStore

/-! ## Messages -/

inductive Event where
  | doneStep
  | poweredDown
  | breaks
  | reachedStart
  | pause
deriving DecidableEq, Repr

inductive AdvanceResult where
  | event (event : Event)
  | continues
deriving DecidableEq, Repr

inductive ExecutionType where
  | step
  | stepBack
  | rangeStep (start stop : BitVec 32)
  | continues
  | reverseContinue
deriving DecidableEq, Repr

structure SharedTargetState where
  outputBuffer : List (BitVec 8)
  totalSteps : ℕ
  currentStep : ℕ
  state : Option ExecutionType
deriving DecidableEq, Repr

instance : Inhabited SharedTargetState := ⟨[], 0, 0, none⟩

/-- `RiscvRegId`. -/
inductive RegId where
  | gpr (i : BitVec 8)
  | fpr (i : BitVec 8)
  | pc
  | csr (specifier : CsrSpecifier)
  | priv
deriving DecidableEq, Repr

inductive Command where
  | exit
  | pause
  | continues
  | reverseContinue
  | step
  | stepBack
  | rangeStep (start stop : BitVec 32)
  | removeBreakpoint (addr : BitVec 32)
  | addBreakpoint (addr : BitVec 32)
  | readRegisters (returnChannel : ℕ)
  | writeRegisters (registers : Registers)
  | readRegister (regId : RegId) (returnChannel : ℕ)
  | writeRegister (regId : RegId) (val : List (BitVec 8)) (returnChannel : ℕ)
  | readAddrs (addr : BitVec 32) (len : ℕ) (returnChannel : ℕ)
  | writeAddrs (addr : BitVec 32) (data : List (BitVec 8)) (returnChannel : ℕ)
  | deleteFuture
  | goTo (steps : ℕ)

/-- What is sent through a return channel.  `TargetError::NonFatal` and `()`
are the only errors but that of a write to memory. -/
inductive Answer where
  | registers (registers : Registers)
  | register (value : BitVec 32)
  | registerWritten (result : Except Unit Unit)
  | data (result : Except Unit (List (BitVec 8)))
  | dataWritten (result : Except MemoryError Unit)

/-! ## On the board -/

/-- The closure of a custom tick; `none` is a panic. -/
def runOn {ε α : Type} (program : CoreM Board.SystemBus ε α) (board : Board) :
    Option (Except ε α) × Board :=
  match program board with
  | .ok value board => (some (.ok value), board)
  | .error err board => (some (.error err), board)
  | .panic board => (none, board)

/-- `BreakReasons::should_break`. -/
def shouldBreak (breakpoints : Finset (BitVec 32)) (contents : Contents) :
    Bool :=
  contents.board.registers.pc ∈ breakpoints

/-- `Specifier::new`. -/
def specifierNew (i : BitVec 8) : Option Specifier :=
  if h : i.toNat < 32 then some ⟨i.toNat, h⟩ else none

/-- `write_all` into a zeroed buffer of four bytes, as a little endian
number. -/
def registerValue (val : List (BitVec 8)) : Option (BitVec 32) :=
  if val.length ≤ 4 then
    some (ofLeBytes 32 (val ++ List.replicate (4 - val.length) 0))
  else none

variable [Build]

/-- The closure of `write_register`. -/
def writeRegister (regId : RegId) (val : List (BitVec 8)) :
    CoreM Board.SystemBus Unit Unit :=
  match regId with
  | .gpr i =>
      match registerValue val with
      | none => Exec.throw ()
      | some value => do
          let specifier ← Exec.unwrap (specifierNew i)
          Exec.modify (State.onRegisters (Registers.setX specifier value))
  | .fpr _ => Exec.abort
  | .pc =>
      match registerValue val with
      | none => Exec.throw ()
      | some value => Exec.modify (State.onRegisters (Registers.setPc value))
  | .csr specifier =>
      match registerValue val with
      | none => Exec.throw ()
      | some value => do
          let s ← Exec.get
          Exec.mapError (fun _ => ())
            (writeCsr specifier s.privilegeMode value 0xFFFFFFFF)
  | .priv => Exec.abort

/-- `Core::read_csr` at the privilege level of the core. -/
def inspectCsr (specifier : CsrSpecifier) :
    CoreM Board.SystemBus CsrAccessError (BitVec 32) := do
  let s ← Exec.get
  readCsr Board.coreConfig specifier s.privilegeMode

/-- `Mmu::read_range_debug`. -/
def readRangeDebug (addr : BitVec 32) (len : ℕ) :
    CoreM Board.SystemBus MemoryError (List (BitVec 8)) := do
  let s ← Exec.get
  mmuReadDebug Board.coreConfig len addr s.privilegeMode false

/-- `Mmu::write_range`. -/
def writeRange (addr : BitVec 32) (data : List (BitVec 8)) :
    CoreM Board.SystemBus MemoryError Unit := do
  let s ← Exec.get
  mmuWrite Board.coreConfig addr data s.privilegeMode

end RedPlanet.Target

namespace RedPlanet

open Simulator Target Verified SnapshotStore ModifiableStore
open RedPlanet.Core hiding Event

/-! ## The target as it runs -/

/-- Where `run` is: at the head of its loop, waiting for a command, about to
advance the simulator, about to look for a command, or at its end. -/
inductive Phase where
  | head
  | receiving
  | advancing
  | polling
  | stopped
deriving DecidableEq, Repr

/-- All that the task of the target owns.  `connected` says whether anyone can
still send commands. -/
structure TargetThread (A SnapshotId : Type) where
  target : SimTarget A SnapshotId
  breakpoints : Finset (BitVec 32)
  executionType : Option ExecutionType
  sharedState : SharedTargetState
  commandChannel : List Command
  connected : Bool
  eventChannel : List Event
  returned : List (ℕ × Option Answer)
  phase : Phase

namespace SimTarget

variable {A SnapshotId R : Type} [ModifiableStore A Contents SnapshotId]

/-- `step_with` a closure that reaches the board only. -/
def stepWith (name : String) (customTick : Board → R × Board)
    (target : SimTarget A SnapshotId) :
    Option (R × SimTarget A SnapshotId) := do
  let (result, simulator) ← target.simulator.stepWith name fun _ allocator =>
    ((customTick (view allocator).board).1,
      modify (onBoard fun board => (customTick board).2) allocator)
  return (result, { target with simulator := simulator })

/-- `TargetState::write_to_shared_state`. -/
def publish (executionType : Option ExecutionType) (shared : SharedTargetState)
    (target : SimTarget A SnapshotId) : Option SharedTargetState := do
  let (_, outputBuffer) ← readUartOutput target.contents shared.outputBuffer
  let totalSteps ← target.simulator.availableSteps
  return {
    outputBuffer := outputBuffer
    totalSteps := totalSteps
    currentStep := target.simulator.currentSteps
    state := executionType }

end SimTarget

namespace TargetThread

variable {A SnapshotId : Type} [ModifiableStore A Contents SnapshotId]

/-- What HEAD shows. -/
def contents (thread : TargetThread A SnapshotId) : Contents :=
  thread.target.contents

/-! ### Advancing -/

/-- The event of the state that was reached. -/
def eventAt (thread : TargetThread A SnapshotId) : Option Event :=
  if shouldBreak thread.breakpoints thread.contents then some .breaks
  else if thread.contents.board.bus.powerDown then some .poweredDown
  else none

/-- `SimTarget::step`. -/
def step (thread : TargetThread A SnapshotId) :
    Option (Option Event × TargetThread A SnapshotId) := do
  let target ← thread.target.step
  let thread := { thread with target := target }
  return (thread.eventAt, thread)

/-- `SimTarget::step_back`. -/
def stepBack (thread : TargetThread A SnapshotId) :
    Option (Option Event × TargetThread A SnapshotId) := do
  let (undone, simulator) ← thread.target.simulator.undoStep
  let thread := { thread with
    target := { thread.target with simulator := simulator } }
  if undone then return (thread.eventAt, thread)
  else return (some .reachedStart, thread)

/-- At most `n` steps.  `leaves` is the check of a range step that follows
each of them. -/
def steps (leaves : Contents → Bool) : ℕ → TargetThread A SnapshotId →
    Option (AdvanceResult × TargetThread A SnapshotId)
  | 0, thread => some (.continues, thread)
  | n + 1, thread => do
      let (event, thread) ← thread.step
      match event with
      | some event => return (.event event, thread)
      | none =>
          if leaves thread.contents then return (.event .doneStep, thread)
          else steps leaves n thread

/-- The variables that the closures of a reverse continue share: how often the
command channel was looked at, whether it was noticed that it is not empty,
and what was published. -/
structure Search where
  polls : ℕ
  notified : Bool
  shared : Option SharedTargetState

/-- Whether the search stops at a state.  A command is in the channel from the
start, or it arrived before this look at it. -/
def reversePred (thread : TargetThread A SnapshotId) (arrived : ℕ → Bool) :
    Pred Machine A AdvanceResult Search :=
  fun search allocator _ =>
    if shouldBreak thread.breakpoints (view allocator) then
      (some (.event .breaks), search)
    else
      let waiting := !thread.commandChannel.isEmpty || arrived search.polls
      let search := { search with polls := search.polls + 1 }
      if waiting && !search.notified then
        (some .continues, { search with notified := true })
      else (none, search)

/-- Publish the state that the search came to. -/
def reverseVisit (thread : TargetThread A SnapshotId) (search : Search)
    (simulator : Simulator Machine A SnapshotId) : Search :=
  { search with
    shared := search.shared.bind fun shared =>
      { thread.target with simulator := simulator }.publish
        thread.executionType shared }

/-- The arm for `ReverseContinue` of `SimTarget::advance_sim`. -/
def reverseContinue (arrived : ℕ → Bool)
    (thread : TargetThread A SnapshotId) :
    Option (AdvanceResult × TargetThread A SnapshotId) := do
  let result ← thread.target.simulator.undoStepsUntil
    (thread.reversePred arrived) thread.reverseVisit
    { polls := 0, notified := false, shared := some thread.sharedState }
  let shared ← result.env.shared
  let thread := { thread with
    target := { thread.target with simulator := result.sim }
    sharedState := shared }
  match result.reason with
  | .reachedStart => return (.event .reachedStart, thread)
  | .pred result => return (result, thread)

/-- The program counter is not in the range. -/
def outside (start stop : BitVec 32) (contents : Contents) : Bool :=
  !(start ≤ contents.board.registers.pc && contents.board.registers.pc < stop)

/-- `SimTarget::advance_sim`. -/
def advanceSim (arrived : ℕ → Bool) (executionType : ExecutionType)
    (thread : TargetThread A SnapshotId) :
    Option (AdvanceResult × TargetThread A SnapshotId) :=
  match executionType with
  | .step => do
      let (event, thread) ← thread.step
      return (.event (event.getD .doneStep), thread)
  | .stepBack => do
      let (event, thread) ← thread.stepBack
      return (.event (event.getD .doneStep), thread)
  | .continues => thread.steps (fun _ => false) 1024
  | .rangeStep start stop => thread.steps (outside start stop) 1024
  | .reverseContinue => thread.reverseContinue arrived

/-! ### Commands -/

/-- Send through a return channel, or drop it. -/
def returns (returnChannel : ℕ) (answer : Option Answer)
    (thread : TargetThread A SnapshotId) : TargetThread A SnapshotId :=
  { thread with returned := thread.returned ++ [(returnChannel, answer)] }

/-- `step_with` a program of the core. -/
def stepWith {ε α : Type} (name : String)
    (program : CoreM Board.SystemBus ε α)
    (thread : TargetThread A SnapshotId) :
    Option (Except ε α × TargetThread A SnapshotId) := do
  let (result, target) ← thread.target.stepWith name (runOn program)
  let result ← result
  return (result, { thread with target := target })

variable [Build]

/-- `SimTarget::read_register`.  Only a CSR is read in a step. -/
def readRegister (regId : RegId) (thread : TargetThread A SnapshotId) :
    Option (Option (BitVec 32) × TargetThread A SnapshotId) :=
  match regId with
  | .gpr i => do
      let specifier ← specifierNew i
      return (some (thread.contents.board.registers.x specifier), thread)
  | .fpr _ => return (none, thread)
  | .pc => return (some thread.contents.board.registers.pc, thread)
  | .csr specifier => do
      let (result, thread) ← thread.stepWith "inspect csr"
        (inspectCsr specifier)
      return (result.toOption, thread)
  | .priv =>
      return (some (BitVec.ofNat 32
        thread.contents.board.privilegeMode.toRaw.toNat), thread)

/-- `SimTarget::execute_command`; whether the target exits. -/
def executeCommand (command : Command) (thread : TargetThread A SnapshotId) :
    Option (Bool × TargetThread A SnapshotId) :=
  match command with
  | .exit => return (true, thread)
  | .pause =>
      return (false, { thread with
        executionType := none
        eventChannel := thread.eventChannel ++ [.pause] })
  | .continues =>
      return (false, { thread with executionType := some .continues })
  | .reverseContinue =>
      return (false, { thread with executionType := some .reverseContinue })
  | .step => return (false, { thread with executionType := some .step })
  | .stepBack => return (false, { thread with executionType := some .stepBack })
  | .rangeStep start stop =>
      return (false, { thread with
        executionType := some (.rangeStep start stop) })
  | .addBreakpoint addr =>
      return (false, { thread with
        breakpoints := insert addr thread.breakpoints })
  | .removeBreakpoint addr =>
      return (false, { thread with
        breakpoints := thread.breakpoints.erase addr })
  | .readRegisters returnChannel =>
      return (false, thread.returns returnChannel
        (some (.registers thread.contents.board.registers)))
  | .writeRegisters registers => do
      let (_, thread) ← thread.stepWith "write all registers"
        (Exec.modify (State.onRegisters fun _ => registers) :
          CoreM Board.SystemBus Empty Unit)
      return (false, thread)
  | .readRegister regId returnChannel => do
      let (value, thread) ← thread.readRegister regId
      return (false, thread.returns returnChannel (value.map .register))
  | .writeRegister regId val returnChannel => do
      let (result, thread) ← thread.stepWith "gdb write single register"
        (writeRegister regId val)
      return (false, thread.returns returnChannel
        (some (.registerWritten result)))
  | .readAddrs addr len returnChannel => do
      let result ← (runOn (readRangeDebug addr len) thread.contents.board).1
      return (false, thread.returns returnChannel
        (some (.data (result.mapError fun _ => ()))))
  | .writeAddrs addr data returnChannel => do
      let (result, thread) ← thread.stepWith "write data" (writeRange addr data)
      return (false, thread.returns returnChannel (some (.dataWritten result)))
  | .deleteFuture => do
      let simulator ← thread.target.simulator.clearForwardHistory
      return (false, { thread with
        target := { thread.target with simulator := simulator } })
  | .goTo steps => do
      let available ← thread.target.simulator.availableSteps
      if steps ≤ available then
        let simulator ← thread.target.simulator.goTo steps
        return (false, { thread with
          target := { thread.target with simulator := simulator } })
      else return (false, thread)

/-! ### The loop -/

/-- The end of a turn in which a command was executed. -/
def afterCommand (result : Bool × TargetThread A SnapshotId) :
    TargetThread A SnapshotId :=
  { result.2 with phase := if result.1 then .stopped else .head }

/-- The end of a turn in which the simulator was advanced. -/
def afterAdvance (result : AdvanceResult × TargetThread A SnapshotId) :
    TargetThread A SnapshotId :=
  match result.1 with
  | .event event =>
      { result.2 with
        executionType := none
        eventChannel := result.2.eventChannel ++ [event]
        phase := .head }
  | .continues => { result.2 with phase := .polling }

/-- `SimTarget::run`, from one point where others can send to the next. -/
inductive Next : TargetThread A SnapshotId → TargetThread A SnapshotId →
    Prop where
  | head {thread : TargetThread A SnapshotId} {shared : SharedTargetState}
      (hphase : thread.phase = .head)
      (hshared : thread.target.publish thread.executionType thread.sharedState
        = some shared) :
      Next thread { thread with
        sharedState := shared
        phase := if thread.executionType.isSome then .advancing
          else .receiving }
  | command {thread : TargetThread A SnapshotId} {command : Command}
      {rest : List Command} {result : Bool × TargetThread A SnapshotId}
      (hphase : thread.phase = .receiving ∨ thread.phase = .polling)
      (hchannel : thread.commandChannel = command :: rest)
      (hrun : executeCommand command { thread with commandChannel := rest }
        = some result) : Next thread (afterCommand result)
  | advance {thread : TargetThread A SnapshotId}
      {executionType : ExecutionType}
      {result : AdvanceResult × TargetThread A SnapshotId}
      (arrived : ℕ → Bool) (hphase : thread.phase = .advancing)
      (htype : thread.executionType = some executionType)
      (hrun : thread.advanceSim arrived executionType = some result) :
      Next thread (afterAdvance result)
  | empty {thread : TargetThread A SnapshotId}
      (hphase : thread.phase = .polling) (hchannel : thread.commandChannel = [])
      (hconnected : thread.connected = true) :
      Next thread { thread with phase := .head }
  | disconnected {thread : TargetThread A SnapshotId}
      (hphase : thread.phase = .receiving ∨ thread.phase = .polling)
      (hchannel : thread.commandChannel = [])
      (hconnected : thread.connected = false) :
      Next thread { thread with phase := .stopped }

/-- `SimTarget::run` panics before it gets to the next such point. -/
inductive Panics : TargetThread A SnapshotId → Prop where
  | head {thread : TargetThread A SnapshotId} (hphase : thread.phase = .head)
      (hshared : thread.target.publish thread.executionType thread.sharedState
        = none) : Panics thread
  | command {thread : TargetThread A SnapshotId} {command : Command}
      {rest : List Command}
      (hphase : thread.phase = .receiving ∨ thread.phase = .polling)
      (hchannel : thread.commandChannel = command :: rest)
      (hrun : executeCommand command { thread with commandChannel := rest }
        = none) : Panics thread
  | advance {thread : TargetThread A SnapshotId}
      {executionType : ExecutionType}
      (arrived : ℕ → Bool) (hphase : thread.phase = .advancing)
      (htype : thread.executionType = some executionType)
      (hrun : thread.advanceSim arrived executionType = none) : Panics thread

end TargetThread

end RedPlanet
