import Mathlib.Data.List.Basic
import RedPlanet.Simulator.Store

/-!
# The simulator

A `Simulator` advances a `Simulatable` one tick at a time and keeps the whole
history: snapshots of some states, and the custom ticks that were used in
place of the default one.  Any earlier state is rebuilt from the last snapshot
at or before it by replaying ticks (`simulator.rs`).

A panic of the source (an index out of bounds, an `unwrap` of an error, an
`expect` on `None`) is `none` here.  Counters of steps are natural numbers.
The loops are recursions on the number of steps or snapshots that are left,
and a closure that changes its environment is a function on the environment.
-/

namespace RedPlanet.Simulator

open SnapshotStore

/-- Objects that can be simulated; all their state lives in the allocator. -/
class Simulatable (S A : Type) where
  tick : S → A → A

/-! ## Indices

A state index is the number of steps from the start of history to the state,
and step `i` leads from state `i` to state `i + 1`.  Both newtypes of the
source are natural numbers here. -/

namespace StateIndex

/-- The state after this one. -/
def next (i : Nat) : Nat := i + 1

/-- The state before this one, if there is one. -/
def previous (i : Nat) : Option Nat :=
  if i = 0 then none else some (i - 1)

/-- The step that leads on from this state. -/
def nextStep (i : Nat) : Nat := i

/-- The number of steps from `older` to `i`: the length of a range, which is
empty when its bounds are the wrong way round. -/
def stepsSince (i older : Nat) : Nat := i - older

end StateIndex

/-- `PartialOrd<StateIndex> for StepIndex`: states are compared as even
numbers and steps as odd ones, so that step `i` lies between the states `i`
and `i + 1`. -/
def StepIndex.ltState (step : Nat) (state : Nat) : Bool :=
  2 * step + 1 < 2 * state

/-- Where HEAD is, and what it is based on. -/
structure Head where
  stateIndex : Nat
  baseSnapshotIndex : Nat
  nextCustomTickIndex : Nat
deriving DecidableEq, Repr

/-- A custom tick as it is kept for replaying: its result is discarded. -/
structure Tick (S A : Type) where
  name : String
  tick : S → A → A

/-- Why a search stopped. -/
inductive UndoStepStopReason (R : Type) where
  | reachedStart
  | pred (r : R)
deriving DecidableEq, Repr

/-- `slice::partition_point` of a list whose elements satisfying `p` come
first. -/
def partitionPoint {α : Type} (p : α → Bool) (xs : List α) : Nat :=
  (xs.takeWhile p).length

/-- A step lies before a state if its number is less. -/
theorem StepIndex.ltState_eq (step : Nat) (state : Nat) :
    StepIndex.ltState step state = decide (step < state) := by
  rw [StepIndex.ltState, decide_eq_decide]
  omega

theorem partitionPoint_cons_pos {α : Type} {p : α → Bool} {x : α}
    {xs : List α} (h : p x = true) :
    partitionPoint p (x :: xs) = partitionPoint p xs + 1 := by
  simp [partitionPoint, h]

theorem partitionPoint_cons_neg {α : Type} {p : α → Bool} {x : α}
    {xs : List α} (h : p x = false) : partitionPoint p (x :: xs) = 0 := by
  simp [partitionPoint, h]

/-- Every element before the partition point satisfies the predicate. -/
theorem partitionPoint_before {α : Type} (p : α → Bool) :
    ∀ {xs : List α} {i : Nat}, i < partitionPoint p xs →
      ∃ x, xs[i]? = some x ∧ p x = true := by
  intro xs
  induction xs with
  | nil => intro i h; exact absurd h (by simp [partitionPoint])
  | cons x xs ih =>
      intro i h
      cases hp : p x with
      | false =>
          rw [partitionPoint_cons_neg hp] at h
          omega
      | true =>
          rw [partitionPoint_cons_pos hp] at h
          cases i with
          | zero => exact ⟨x, rfl, hp⟩
          | succ i => exact ih (by omega)

/-- The element at the partition point, if any, does not satisfy it. -/
theorem partitionPoint_at {α : Type} (p : α → Bool) :
    ∀ {xs : List α} {x : α}, xs[partitionPoint p xs]? = some x →
      p x = false := by
  intro xs
  induction xs with
  | nil => intro x h; exact absurd h (by simp)
  | cons y ys ih =>
      intro x h
      cases hp : p y with
      | false =>
          rw [partitionPoint_cons_neg hp] at h
          rw [← Option.some.inj h]
          exact hp
      | true =>
          rw [partitionPoint_cons_pos hp] at h
          exact ih h

end RedPlanet.Simulator

namespace RedPlanet

open Simulator SnapshotStore

/-- The simulator over a simulatable `S` and an allocator `A` whose snapshots
are named by `SnapshotId`. -/
structure Simulator (S A SnapshotId : Type) where
  allocator : A
  simulatable : S
  snapshots : List (Head × SnapshotId)
  customTicks : List (Nat × Tick S A)
  head : Head

namespace Simulator

variable {S A V SnapshotId R κ : Type} [SnapshotStore A V SnapshotId]
  [Simulatable S A]

/-- A simulator with a clear history and a newly constructed simulatable. -/
def new (simulatableConstructor : A → S × A) : Simulator S A SnapshotId :=
  let constructed := simulatableConstructor SnapshotStore.new
  let snapshot := makeSnapshot constructed.2
  let head : Head :=
    { stateIndex := 0, baseSnapshotIndex := 0, nextCustomTickIndex := 0 }
  { allocator := snapshot.2
    simulatable := constructed.1
    snapshots := [(head, snapshot.1)]
    customTicks := []
    head := head }

/-! ## Queries -/

/-- The index of the newest snapshot. -/
def lastSnapshotIndex (sim : Simulator S A SnapshotId) : Option Nat :=
  if sim.snapshots.length = 0 then none else some (sim.snapshots.length - 1)

/-- Where HEAD was at the newest snapshot. -/
def headAtLastSnapshot (sim : Simulator S A SnapshotId) : Option Head := do
  let last ← sim.lastSnapshotIndex
  let entry ← sim.snapshots[last]?
  return entry.1

/-- HEAD does not represent the most recent state. -/
def isHeadDetached (sim : Simulator S A SnapshotId) : Option Bool := do
  let last ← sim.lastSnapshotIndex
  return sim.head.baseSnapshotIndex != last

/-- HEAD is at a clean checkout of its base snapshot. -/
def isHeadAtSnapshot (sim : Simulator S A SnapshotId) : Option Bool := do
  let entry ← sim.snapshots[sim.head.baseSnapshotIndex]?
  return entry.1.stateIndex == sim.head.stateIndex

/-- HEAD is at the end of history and has unsaved changes. -/
def isHeadDirty (sim : Simulator S A SnapshotId) : Option Bool := do
  if ← sim.isHeadDetached then return false
  return !(← sim.isHeadAtSnapshot)

/-- Where HEAD is at the end of history. -/
def headAtLastState (sim : Simulator S A SnapshotId) : Option Head := do
  if ← sim.isHeadDetached then sim.headAtLastSnapshot
  else return sim.head

/-- The number of steps before HEAD. -/
def currentSteps (sim : Simulator S A SnapshotId) : Nat :=
  StateIndex.stepsSince sim.head.stateIndex 0

/-- The number of steps in history. -/
def availableSteps (sim : Simulator S A SnapshotId) : Option Nat := do
  let head ← sim.headAtLastState
  return StateIndex.stepsSince head.stateIndex 0

/-- The number of steps behind the newest snapshot. -/
def stepsSinceLastSnapshot (sim : Simulator S A SnapshotId) : Option Nat := do
  let head ← sim.headAtLastSnapshot
  return StateIndex.stepsSince sim.head.stateIndex head.stateIndex

/-- They have become too many. -/
def shouldCreateSnapshot (sim : Simulator S A SnapshotId) : Option Bool := do
  let steps ← sim.stepsSinceLastSnapshot
  return steps > 2048

/-- The index of the last snapshot before or at a state. -/
def findBaseSnapshot (sim : Simulator S A SnapshotId) (target : Nat) :
    Option Nat :=
  let point := partitionPoint
    (fun entry : Head × SnapshotId => entry.1.stateIndex ≤ target) sim.snapshots
  if point = 0 then none else some (point - 1)

/-! ## Moving HEAD -/

/-- The base index is updated before HEAD is stored with the snapshot. -/
def makeSnapshot (sim : Simulator S A SnapshotId) : Simulator S A SnapshotId :=
  let snapshot := SnapshotStore.makeSnapshot sim.allocator
  let head := { sim.head with baseSnapshotIndex := sim.snapshots.length }
  { sim with
    allocator := snapshot.2
    head := head
    snapshots := sim.snapshots ++ [(head, snapshot.1)] }

/-- Save the current state if it is the newest one and not saved yet. -/
def saveIfDirty (sim : Simulator S A SnapshotId) :
    Option (Simulator S A SnapshotId) := do
  if ← sim.isHeadDirty then return sim.makeSnapshot
  else return sim

/-- Take a snapshot if there are too many steps behind the last one. -/
def snapshotIfDue (sim : Simulator S A SnapshotId) :
    Option (Simulator S A SnapshotId) := do
  if ← sim.shouldCreateSnapshot then return sim.makeSnapshot
  else return sim

/-- Replay the step after HEAD, with the custom tick recorded for it if the
next custom tick belongs to this step and with the default tick otherwise. -/
def replayStep (sim : Simulator S A SnapshotId) : Simulator S A SnapshotId :=
  let stepIndex := StateIndex.nextStep sim.head.stateIndex
  let ticked :=
    match sim.customTicks[sim.head.nextCustomTickIndex]? with
    | some (s, customTick) =>
        if s = stepIndex then
          { sim with
            allocator := customTick.tick sim.simulatable sim.allocator
            head := { sim.head with
              nextCustomTickIndex := sim.head.nextCustomTickIndex + 1 } }
        else
          { sim with allocator := Simulatable.tick sim.simulatable sim.allocator }
    | none =>
        { sim with allocator := Simulatable.tick sim.simulatable sim.allocator }
  { ticked with
    head := { ticked.head with
      stateIndex := StateIndex.next ticked.head.stateIndex } }

/-- Replay some number of steps. -/
def replaySteps : Nat → Simulator S A SnapshotId → Simulator S A SnapshotId
  | 0, sim => sim
  | n + 1, sim => replaySteps n sim.replayStep

/-- `while self.head.state_index != target { self.replay_step() }`.  From a
state past the target the loop would run until the index overflows. -/
def replayTo (sim : Simulator S A SnapshotId) (target : Nat) :
    Option (Simulator S A SnapshotId) :=
  if sim.head.stateIndex ≤ target then
    some (replaySteps (target - sim.head.stateIndex) sim)
  else none

/-- Revert to a snapshot, unless HEAD is already at its state. -/
def goToSnapshot (sim : Simulator S A SnapshotId) (snapshotIndex : Nat) :
    Option (Simulator S A SnapshotId) := do
  let entry ← sim.snapshots[snapshotIndex]?
  if sim.head.stateIndex = entry.1.stateIndex then return sim
  let nextCustomTickIndex := partitionPoint
    (fun tick : Nat × Tick S A => StepIndex.ltState tick.1 entry.1.stateIndex)
    sim.customTicks
  let allocator ← checkout entry.2 sim.allocator
  return { sim with
    allocator := allocator
    head :=
      { stateIndex := entry.1.stateIndex
        baseSnapshotIndex := snapshotIndex
        nextCustomTickIndex := nextCustomTickIndex } }

/-- Revert to the base snapshot of a target state, unless the target can be
reached from HEAD by replaying. -/
def goToBase (sim : Simulator S A SnapshotId) (targetBase target : Nat) :
    Option (Simulator S A SnapshotId) :=
  if targetBase ≠ sim.head.baseSnapshotIndex ∨ target < sim.head.stateIndex
  then sim.goToSnapshot targetBase
  else some sim

/-- Save what is not saved, revert, and replay. -/
def goToState (sim : Simulator S A SnapshotId) (target : Nat) :
    Option (Simulator S A SnapshotId) := do
  if sim.head.stateIndex = target then return sim
  let targetBase ← sim.findBaseSnapshot target
  let sim ← sim.goToBase targetBase target
  sim.replayTo target

/-- Drop the given snapshots from the allocator, in order. -/
def dropSnapshots : List (Head × SnapshotId) → A → Option A
  | [], allocator => some allocator
  | entry :: rest, allocator => do
      let allocator ← dropSnapshot entry.2 allocator
      dropSnapshots rest allocator

/-- `drain` panics when the range starts past the end of the vector. -/
def clearForwardHistory (sim : Simulator S A SnapshotId) :
    Option (Simulator S A SnapshotId) := do
  let kept := sim.head.baseSnapshotIndex + 1
  if sim.snapshots.length < kept then none
  let allocator ← dropSnapshots (sim.snapshots.drop kept) sim.allocator
  return { sim with
    allocator := allocator
    snapshots := sim.snapshots.take kept
    customTicks := sim.customTicks.take sim.head.nextCustomTickIndex }

/-- Stepping from the past discards the forward history first. -/
def clearIfDetached (sim : Simulator S A SnapshotId) :
    Option (Simulator S A SnapshotId) := do
  if ← sim.isHeadDetached then sim.clearForwardHistory
  else return sim

/-! ## The public operations -/

/-- Step once, with the default tick. -/
def step (sim : Simulator S A SnapshotId) :
    Option (Simulator S A SnapshotId) := do
  let sim ← sim.clearIfDetached
  let sim := { sim with
    allocator := Simulatable.tick sim.simulatable sim.allocator }
  let sim := { sim with
    head := { sim.head with
      stateIndex := StateIndex.next sim.head.stateIndex } }
  sim.snapshotIfDue

/-- Step once with a custom tick, which is recorded for replaying. -/
def stepWith (sim : Simulator S A SnapshotId) (name : String)
    (customTick : S → A → R × A) :
    Option (R × Simulator S A SnapshotId) := do
  let sim ← sim.clearIfDetached
  let result := customTick sim.simulatable sim.allocator
  let sim := { sim with allocator := result.2 }
  let tick : Tick S A :=
    { name := name
      tick := fun simulatable allocator =>
        (customTick simulatable allocator).2 }
  let sim := { sim with
    head := { sim.head with nextCustomTickIndex := sim.customTicks.length } }
  let sim := { sim with
    customTicks := sim.customTicks ++
      [(StateIndex.nextStep sim.head.stateIndex, tick)] }
  let sim := { sim with
    head := { sim.head with
      stateIndex := StateIndex.next sim.head.stateIndex } }
  let sim ← sim.snapshotIfDue
  return (result.1, sim)

/-- Go one state back, if there is one. -/
def undoStep (sim : Simulator S A SnapshotId) :
    Option (Bool × Simulator S A SnapshotId) :=
  match StateIndex.previous sim.head.stateIndex with
  | none => some (false, sim)
  | some target => do
      let sim ← sim.saveIfDirty
      let sim ← sim.goToState target
      return (true, sim)

/-- Go one state forward, if there is one. -/
def redoStep (sim : Simulator S A SnapshotId) :
    Option (Bool × Simulator S A SnapshotId) := do
  if ← sim.isHeadDetached then
    let sim ← sim.goToState (StateIndex.next sim.head.stateIndex)
    return (true, sim)
  else return (false, sim)

/-- Go to the state after so many steps, as far as history goes. -/
def goTo (sim : Simulator S A SnapshotId) (steps : Nat) :
    Option (Simulator S A SnapshotId) := do
  let sim ← sim.saveIfDirty
  sim.goToState (0 + steps)

/-! ## Searching backwards

The closures `pred` and `visit` are `FnMut`; `κ` is the state they share. -/

/-- A predicate on the inspected state. -/
abbrev Pred (S A R κ : Type) := κ → A → S → Option R × κ

/-- Call the predicate at HEAD and remember HEAD if it matched. -/
def checkPred (pred : Pred S A R κ) (env : κ)
    (lastMatched : Option (Nat × R)) (sim : Simulator S A SnapshotId) :
    Option (Nat × R) × κ :=
  let answer := pred env sim.allocator sim.simulatable
  match answer.1 with
  | some r => (some (sim.head.stateIndex, r), answer.2)
  | none => (lastMatched, answer.2)

/-- Replay `n` steps, calling the predicate after each of them. -/
def scan (pred : Pred S A R κ) : Nat → Option (Nat × R) → κ →
    Simulator S A SnapshotId →
    Option (Nat × R) × κ × Simulator S A SnapshotId
  | 0, lastMatched, env, sim => (lastMatched, env, sim)
  | n + 1, lastMatched, env, sim =>
      let sim := sim.replayStep
      let checked := checkPred pred env lastMatched sim
      scan pred n checked.1 checked.2 sim

/-- The outcome of the search from one snapshot on. -/
structure UndoResult (S A SnapshotId R κ : Type) where
  reason : UndoStepStopReason R
  env : κ
  sim : Simulator S A SnapshotId

/-- Revert to a snapshot and search the states from there up to
`topStateIndex`, exclusively. -/
def searchFrom (pred : Pred S A R κ) (snapshotIndex topStateIndex : Nat)
    (env : κ) (sim : Simulator S A SnapshotId) :
    Option (Option (Nat × R) × κ × Simulator S A SnapshotId) := do
  let sim ← sim.goToSnapshot snapshotIndex
  let endStateIndex ← StateIndex.previous topStateIndex
  let first := checkPred pred env none sim
  return scan pred (StateIndex.stepsSince endStateIndex sim.head.stateIndex)
    first.1 first.2 sim

/-- Return to the last match of a search that started at a snapshot. -/
def backToMatch (sim : Simulator S A SnapshotId)
    (snapshotIndex stateIndex : Nat) : Option (Simulator S A SnapshotId) :=
  if stateIndex < sim.head.stateIndex then do
    let sim ← sim.goToSnapshot snapshotIndex
    sim.replayTo stateIndex
  else sim.replayTo stateIndex

/-- The loop over the snapshots, the last one first: `n` snapshots are left,
and the states from `topStateIndex` on have been searched. -/
def undoLoop (pred : Pred S A R κ)
    (visit : κ → Simulator S A SnapshotId → κ) :
    Nat → Nat → κ → Simulator S A SnapshotId →
    Option (UndoResult S A SnapshotId R κ)
  | 0, _, env, sim => do
      let sim ← sim.goToSnapshot 0
      return { reason := .reachedStart, env := env, sim := sim }
  | snapshotIndex + 1, topStateIndex, env, sim => do
      let (lastMatched, env, sim) ←
        searchFrom pred snapshotIndex topStateIndex env sim
      match lastMatched with
      | some (stateIndex, r) =>
          let sim ← sim.backToMatch snapshotIndex stateIndex
          return { reason := .pred r, env := visit env sim, sim := sim }
      | none =>
          let env := visit env sim
          let entry ← sim.snapshots[snapshotIndex]?
          undoLoop pred visit snapshotIndex entry.1.stateIndex env sim

/-- The last snapshot before HEAD, where a search backwards begins. -/
def firstSearched (sim : Simulator S A SnapshotId) : Option Nat := do
  if ← sim.isHeadAtSnapshot then
    if sim.head.baseSnapshotIndex = 0 then none
    else return sim.head.baseSnapshotIndex - 1
  else return sim.head.baseSnapshotIndex

/-- Revert to the most recent past state that satisfies a predicate. -/
def undoStepsUntil (sim : Simulator S A SnapshotId) (pred : Pred S A R κ)
    (visit : κ → Simulator S A SnapshotId → κ) (env : κ) :
    Option (UndoResult S A SnapshotId R κ) :=
  match StateIndex.previous sim.head.stateIndex with
  | none => some { reason := .reachedStart, env := env, sim := sim }
  | some _ => do
      let sim ← sim.saveIfDirty
      let base ← sim.firstSearched
      undoLoop pred visit (base + 1) sim.head.stateIndex env sim

end Simulator

end RedPlanet
