import RedPlanet.Board.Board
import RedPlanet.Simulator.DeleteFuture
import RedPlanet.Simulator.ReverseSearch
import RedPlanet.Simulator.Upheld
import RedPlanet.Verified.Flat

/-!
# The simulation target

`target.rs`: a `SimTarget` drives the simulator and talks to the UART of the
board.  The output that `com_with_uart` collects from the UART goes into a
buffer of 1024 bytes whose length is a second object; both are allocated with
the first step, so they go back and forth in time with the board.

What the board does in a step is a parameter here, and so are the other
commands that change the board: they have no access to the output buffer.

A step of the board may panic, and `SimTarget.step` panics with it.  What is
replayed did not panic when it was recorded, and it does not panic when it is
replayed where it was recorded; `Replayable` says that the whole history is of
that kind.  `Run` are the targets that any calls lead to.
-/

namespace RedPlanet.Target

open RedPlanet.Simulator RedPlanet.Resources RedPlanet.Verified
open SnapshotStore ModifiableStore

/-! ## What is simulated -/

/-- What HEAD shows: the board, and what the two ids of the output buffer
denote. -/
structure Contents where
  board : Board
  outputBuffer : Option (Flat (BitVec 8))
  outputBufferLen : Option ℕ
  /-- All output that `com_with_uart` has collected since the buffer is there,
  without the bytes that are still in the UART.  The source does not keep
  it. -/
  collected : List (BitVec 8)

/-- A board that was not touched by a `SimTarget` yet. -/
def Contents.ofBoard (board : Board) : Contents where
  board := board
  outputBuffer := none
  outputBufferLen := none
  collected := []

instance : Inhabited Contents := ⟨Contents.ofBoard Board.guestBoard⟩

/-- `tick` is what the board does in a step; `none` is a panic. -/
structure Machine where
  tick : Board → Option Board

/-- `Board::step`. -/
def boardMachine [Core.Build] : Machine where
  tick board :=
    match Board.step board with
    | .ok _ board => some board
    | .error e _ => e.elim
    | .panic _ => none

theorem boardMachine_tick_eq_some [Core.Build] {board : Board}
    (h : (Board.step board).panicked = false) :
    boardMachine.tick board = some (Board.step board).state := by
  unfold boardMachine
  dsimp only
  rw [Outcome.eq_ok h]
  rfl

theorem boardMachine_tick_eq_none [Core.Build] {board : Board}
    (h : (Board.step board).panicked = true) :
    boardMachine.tick board = none := by
  unfold boardMachine
  dsimp only
  cases hstep : Board.step board with
  | ok _ _ =>
      rw [hstep] at h
      cases h
  | error e _ => exact e.elim
  | panic _ => rfl

variable {A SnapshotId : Type} [ModifiableStore A Contents SnapshotId]

/-- Change the board only. -/
def onBoard (f : Board → Board) (contents : Contents) : Contents :=
  { contents with board := f contents.board }

theorem onBoard_tick {machine : Machine} {contents : Contents} {board : Board}
    (h : machine.tick contents.board = some board) :
    onBoard (fun board => (machine.tick board).getD board) contents
      = { contents with board := board } := by
  unfold onBoard
  dsimp only
  rw [h, Option.getD_some]

/-- A tick, once it is known that it does not panic: a step is checked before
it is made (`SimTarget.step`), and for what is replayed see `Replayable`. -/
instance : Simulatable Machine A where
  tick machine :=
    modify (onBoard fun board => (machine.tick board).getD board)

/-! ## The output buffer -/

/-- The custom tick of `SimTarget::new`. -/
def addOutputBuffer (contents : Contents) : Contents :=
  { contents with
    outputBuffer := some (Flat.replicate 1024 0)
    outputBufferLen := some 0
    collected := [] }

/-- The custom tick of `com_with_uart`; `none` is a panic.  Whether the write
succeeded is ignored, and the length grows in any case. -/
def exchange (inputBuf : List (BitVec 8)) (contents : Contents) :
    Option Contents := do
  let output := (contents.board.bus.uart0.pushAndRead inputBuf).1.2
  let board ← contents.board.pushInput inputBuf
  match contents.outputBufferLen with
  | none => return { contents with board := board }
  | some len => do
      let outputBuffer ← contents.outputBuffer
      return {
        board := board
        outputBuffer := some ((outputBuffer.write len output).getD outputBuffer)
        outputBufferLen := some (len + output.length)
        collected := contents.collected ++ output }

/-- `buf.resize(len, 0)`. -/
def resize (len : ℕ) (buf : List (BitVec 8)) : List (BitVec 8) :=
  buf.take len ++ List.replicate (len - buf.length) 0

/-- `TargetState::read_uart_output`: the buffer afterwards, and whether the
read succeeded. -/
def readUartOutput (contents : Contents) (buf : List (BitVec 8)) :
    Option (Bool × List (BitVec 8)) :=
  match contents.outputBufferLen with
  | none => some (true, [])
  | some len => do
      let outputBuffer ← contents.outputBuffer
      match outputBuffer.read 0 (resize len buf).length with
      | some items => return (true, items)
      | none => return (false, resize len buf)

end RedPlanet.Target

namespace RedPlanet

open Simulator Target SnapshotStore ModifiableStore

/-! ## The target -/

/-- The simulator that `SimTarget` drives, and the bytes that wait for the
UART. -/
structure SimTarget (A SnapshotId : Type) where
  simulator : Simulator Machine A SnapshotId
  uartChannel : List (BitVec 8)

namespace SimTarget

variable {A SnapshotId : Type} [ModifiableStore A Contents SnapshotId]

/-- What HEAD shows. -/
def contents (target : SimTarget A SnapshotId) : Contents :=
  view target.simulator.allocator

/-- `SimTarget::new`. -/
def new (simulator : Simulator Machine A SnapshotId)
    (uartChannel : List (BitVec 8)) : Option (SimTarget A SnapshotId) := do
  let (_, simulator) ← simulator.stepWith "adding output buffer"
    fun _ allocator => ((), modify addOutputBuffer allocator)
  return { simulator := simulator, uartChannel := uartChannel }

/-- As much input as there is room for goes to the UART. -/
def comWithUart (target : SimTarget A SnapshotId) :
    Option (SimTarget A SnapshotId) := do
  let uart0 := target.contents.board.bus.uart0
  let inputBuf := target.uartChannel.take uart0.inputSpace
  let target := { target with
    uartChannel := target.uartChannel.drop uart0.inputSpace }
  if inputBuf ≠ [] ∨ uart0.pendingOutputAmount ≠ 0 then
    let (_, simulator) ← target.simulator.stepWith "com with uart"
      fun _ allocator => ((), modify (fun contents =>
        (exchange inputBuf contents).getD contents) allocator)
    return { target with simulator := simulator }
  else return target

/-- A step that was undone is redone, without input.  A new one panics if the
board does. -/
def step (target : SimTarget A SnapshotId) :
    Option (SimTarget A SnapshotId) := do
  let (redone, simulator) ← target.simulator.redoStep
  let target := { target with simulator := simulator }
  if redone then return target
  else
    let target ← target.comWithUart
    let _ ← target.simulator.simulatable.tick target.contents.board
    let simulator ← target.simulator.step
    return { target with simulator := simulator }

/-- Every default tick of the history completes in the state that it is
replayed in. -/
def Replayable (target : SimTarget A SnapshotId) : Prop :=
  ∀ (k : ℕ) (contents : Contents),
    (∃ available, target.simulator.availableSteps = some available ∧
      k < available) →
    target.simulator.recordedTick k = none →
    target.simulator.shownAt k = some contents →
      target.simulator.simulatable.tick contents.board ≠ none

/-- What happens to a target, in the order of the commands.  Breakpoints and
ranges only decide how often it steps. -/
inductive Call (A SnapshotId : Type) : Type 1 where
  | receive (input : List (BitVec 8))
  | comWithUart
  | step
  | stepBack
  | reverseContinue {R κ : Type} (pred : Pred Machine A R κ)
      (visit : κ → Simulator Machine A SnapshotId → κ) (env : κ)
  | goTo (steps : ℕ)
  | deleteFuture
  /-- The commands that read or write registers and memory in a step. -/
  | stepWith {R : Type} (name : String) (customTick : Board → R × Board)

/-- Run the simulator only. -/
def onSimulator (target : SimTarget A SnapshotId)
    (result : Option (Simulator Machine A SnapshotId)) :
    Option (SimTarget A SnapshotId) :=
  result.map fun simulator => { target with simulator := simulator }

def Call.run (call : Call A SnapshotId) (target : SimTarget A SnapshotId) :
    Option (SimTarget A SnapshotId) :=
  match call with
  | .receive input =>
      some { target with uartChannel := target.uartChannel ++ input }
  | .comWithUart => target.comWithUart
  | .step => target.step
  | .stepBack => target.onSimulator
      (target.simulator.undoStep.map fun result => result.2)
  | .reverseContinue pred visit env => target.onSimulator
      ((target.simulator.undoStepsUntil pred visit env).map
        fun result => result.sim)
  | .goTo steps => target.onSimulator (do
      let available ← target.simulator.availableSteps
      if steps ≤ available then target.simulator.goTo steps
      else return target.simulator)
  | .deleteFuture => target.onSimulator target.simulator.clearForwardHistory
  | .stepWith name customTick => target.onSimulator
      ((target.simulator.stepWith name fun _ allocator =>
        ((customTick (view allocator).board).1,
          modify (onBoard fun board => (customTick board).2) allocator)).map
        fun result => result.2)

/-- A simulator of a machine with this board. -/
def construct (machine : Machine) (board : Board) (allocator : A) :
    Machine × A :=
  (machine, modify (fun _ => Contents.ofBoard board) allocator)

/-- The targets that are reached from a new simulator. -/
inductive Run (machine : Machine) (board : Board) :
    SimTarget A SnapshotId → Prop where
  | new {target : SimTarget A SnapshotId} {uartChannel : List (BitVec 8)}
      (created : SimTarget.new (Simulator.new (construct machine board))
        uartChannel = some target) : Run machine board target
  | call {target target' : SimTarget A SnapshotId}
      (run : Run machine board target) (call : Call A SnapshotId)
      (called : call.run target = some target') : Run machine board target'

end SimTarget

end RedPlanet
