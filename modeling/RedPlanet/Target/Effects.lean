import RedPlanet.Target.Command

/-!
# What a turn of the target does

One lemma for each kind of turn: what becomes of the channels, of the type of
execution and of the breakpoints, and that the simulator is only driven by the
calls of `SimTarget.Call` (`executed_executeCommand`, `advanced_advanceSim`).

`Reaches` also says which calls are used: the future is deleted only by the
command for it, so a target that never executes that command never loses what
it has recorded.
-/

namespace RedPlanet

open Simulator Target Verified SnapshotStore ModifiableStore
open RedPlanet.Core hiding Event

/-! ## Calls -/

namespace SimTarget

variable {A SnapshotId R : Type} [ModifiableStore A Contents SnapshotId]

/-- The calls that keep what was recorded up to HEAD. -/
def Call.Keeps : Call A SnapshotId → Prop
  | .deleteFuture => False
  | _ => True

/-- Some of the allowed calls lead from one target to the other. -/
def Reaches (allowed : Call A SnapshotId → Prop)
    (target target' : SimTarget A SnapshotId) : Prop :=
  Relation.ReflTransGen
    (fun target target' => ∃ call : Call A SnapshotId,
      allowed call ∧ call.run target = some target') target target'

variable {target target' : SimTarget A SnapshotId}
  {allowed allowed' : Call A SnapshotId → Prop}

theorem Reaches.call (call : Call A SnapshotId) (hallowed : allowed call)
    (h : call.run target = some target') : Reaches allowed target target' :=
  Relation.ReflTransGen.single ⟨call, hallowed, h⟩

theorem Reaches.mono (h : Reaches allowed target target')
    (hallowed : ∀ call, allowed call → allowed' call) :
    Reaches allowed' target target' := by
  induction h with
  | refl => exact .refl
  | tail _ hcall ih =>
      obtain ⟨call, hcall, hrun⟩ := hcall
      exact ih.tail ⟨call, hallowed call hcall, hrun⟩

omit [ModifiableStore A Contents SnapshotId] in
/-- A call of the simulator that returns something besides. -/
theorem onSimulator_map {α : Type}
    {o : Option (α × Simulator Machine A SnapshotId)} {a : α}
    {simulator : Simulator Machine A SnapshotId} (h : o = some (a, simulator)) :
    target.onSimulator (o.map fun result => result.2)
      = some { target with simulator := simulator } := by
  rw [h]
  rfl

theorem Reaches.stepWith {name : String} {customTick : Board → R × Board}
    {result : R} (h : target.stepWith name customTick = some (result, target')) :
    Reaches Call.Keeps target target' := by
  obtain ⟨⟨_, simulator⟩, hrun, h⟩ := Option.bind_eq_some_iff.1 h
  cases h
  exact Reaches.call (.stepWith name customTick) trivial (onSimulator_map hrun)

theorem Run.reaches {machine : Machine} {board : Board}
    (h : Run machine board target)
    (hreaches : Reaches allowed target target') :
    Run machine board target' := by
  induction hreaches with
  | refl => exact h
  | tail _ hcall ih =>
      obtain ⟨call, -, hcall⟩ := hcall
      exact ih.call call hcall

end SimTarget

/-! ## Commands -/

namespace Target

/-- The type of execution after a command. -/
def Command.execution (old : Option ExecutionType) :
    Command → Option ExecutionType
  | .pause => none
  | .continues => some .continues
  | .reverseContinue => some .reverseContinue
  | .step => some .step
  | .stepBack => some .stepBack
  | .rangeStep start stop => some (.rangeStep start stop)
  | _ => old

/-- The events of a command. -/
def Command.events : Command → List Event
  | .pause => [.pause]
  | _ => []

def Command.onBreakpoints (breakpoints : Finset (BitVec 32)) :
    Command → Finset (BitVec 32)
  | .addBreakpoint addr => insert addr breakpoints
  | .removeBreakpoint addr => breakpoints.erase addr
  | _ => breakpoints

def Command.returnChannel : Command → Option ℕ
  | .readRegisters channel | .readRegister _ channel
  | .writeRegister _ _ channel | .readAddrs _ _ channel
  | .writeAddrs _ _ channel => some channel
  | _ => none

/-- The command starts or ends an execution. -/
def Command.Wakes : Command → Prop
  | .pause | .continues | .reverseContinue | .step | .stepBack
  | .rangeStep _ _ => True
  | _ => False

instance (command : Command) : Decidable command.Wakes := by
  cases command <;> unfold Command.Wakes <;> infer_instance

end Target

namespace TargetThread

variable {A SnapshotId : Type} [ModifiableStore A Contents SnapshotId]

/-- What a command does. -/
structure Executed (command : Command)
    (thread thread' : TargetThread A SnapshotId) : Prop where
  breakpoints : thread'.breakpoints = command.onBreakpoints thread.breakpoints
  executionType : thread'.executionType
    = command.execution thread.executionType
  sharedState : thread'.sharedState = thread.sharedState
  commandChannel : thread'.commandChannel = thread.commandChannel
  connected : thread'.connected = thread.connected
  eventChannel : thread'.eventChannel
    = thread.eventChannel ++ command.events
  returned : ∃ answer, thread'.returned
    = thread.returned ++ command.returnChannel.toList.map (·, answer)
  target : SimTarget.Reaches
    (fun call => command ≠ .deleteFuture → call.Keeps) thread.target
      thread'.target

/-- What an advance does. -/
structure Advanced (thread thread' : TargetThread A SnapshotId) : Prop where
  breakpoints : thread'.breakpoints = thread.breakpoints
  executionType : thread'.executionType = thread.executionType
  commandChannel : thread'.commandChannel = thread.commandChannel
  connected : thread'.connected = thread.connected
  eventChannel : thread'.eventChannel = thread.eventChannel
  returned : thread'.returned = thread.returned
  target : SimTarget.Reaches SimTarget.Call.Keeps thread.target thread'.target

variable {thread thread' thread'' : TargetThread A SnapshotId}

theorem Advanced.trans (h : Advanced thread thread')
    (h' : Advanced thread' thread'') : Advanced thread thread'' where
  breakpoints := h'.breakpoints.trans h.breakpoints
  executionType := h'.executionType.trans h.executionType
  commandChannel := h'.commandChannel.trans h.commandChannel
  connected := h'.connected.trans h.connected
  eventChannel := h'.eventChannel.trans h.eventChannel
  returned := h'.returned.trans h.returned
  target := h.target.trans h'.target

/-- Only the simulator is advanced. -/
theorem Advanced.of_target {target : SimTarget A SnapshotId}
    (h : SimTarget.Reaches SimTarget.Call.Keeps thread.target target) :
    Advanced thread { thread with target := target } :=
  ⟨rfl, rfl, rfl, rfl, rfl, rfl, h⟩

theorem Advanced.of_shared {target : SimTarget A SnapshotId}
    {shared : SharedTargetState}
    (h : SimTarget.Reaches SimTarget.Call.Keeps thread.target target) :
    Advanced thread
      { thread with target := target, sharedState := shared } :=
  ⟨rfl, rfl, rfl, rfl, rfl, rfl, h⟩

theorem advanced_step {event : Option Event}
    (h : thread.step = some (event, thread')) : Advanced thread thread' := by
  obtain ⟨target, hstep, h⟩ := Option.bind_eq_some_iff.1 h
  cases h
  exact .of_target (.call .step trivial hstep)

theorem advanced_stepBack {event : Option Event}
    (h : thread.stepBack = some (event, thread')) :
    Advanced thread thread' := by
  obtain ⟨⟨undone, simulator⟩, hundo, h⟩ := Option.bind_eq_some_iff.1 h
  have hreaches : SimTarget.Reaches SimTarget.Call.Keeps thread.target
      { thread.target with simulator := simulator } :=
    .call .stepBack trivial (SimTarget.onSimulator_map hundo)
  cases undone with
  | true =>
      cases h
      exact .of_target hreaches
  | false =>
      cases h
      exact .of_target hreaches

theorem advanced_steps {leaves : Contents → Bool} (n : ℕ) :
    ∀ {thread : TargetThread A SnapshotId}
      {result : AdvanceResult × TargetThread A SnapshotId},
      thread.steps leaves n = some result → Advanced thread result.2 := by
  induction n with
  | zero =>
      intro thread result h
      cases h
      exact .of_target .refl
  | succ n ih =>
      intro thread result h
      obtain ⟨⟨event, thread₁⟩, hstep, h⟩ := Option.bind_eq_some_iff.1 h
      have h₁ := advanced_step hstep
      cases event with
      | some event =>
          cases h
          exact h₁
      | none =>
          dsimp only at h
          split at h
          · cases h
            exact h₁
          · exact h₁.trans (ih h)

theorem advanced_reverseContinue {arrived : ℕ → Bool}
    {result : AdvanceResult × TargetThread A SnapshotId}
    (h : thread.reverseContinue arrived = some result) :
    Advanced thread result.2 := by
  obtain ⟨found, hundo, h⟩ := Option.bind_eq_some_iff.1 h
  obtain ⟨shared, -, h⟩ := Option.bind_eq_some_iff.1 h
  have hreaches : SimTarget.Reaches SimTarget.Call.Keeps thread.target
      { thread.target with simulator := found.sim } := by
    refine .call (.reverseContinue (thread.reversePred arrived)
      thread.reverseVisit
      { polls := 0, notified := false, shared := some thread.sharedState })
      trivial ?_
    unfold SimTarget.Call.run
    dsimp only
    rw [hundo]
    rfl
  cases hreason : found.reason with
  | reachedStart =>
      rw [hreason] at h
      cases h
      exact .of_shared hreaches
  | pred answer =>
      rw [hreason] at h
      cases h
      exact .of_shared hreaches

/-- Whichever way the simulator is advanced, it is by calls. -/
theorem advanced_advanceSim {arrived : ℕ → Bool}
    {executionType : ExecutionType}
    {result : AdvanceResult × TargetThread A SnapshotId}
    (h : thread.advanceSim arrived executionType = some result) :
    Advanced thread result.2 := by
  cases executionType with
  | step =>
      obtain ⟨⟨event, thread₁⟩, hstep, h⟩ := Option.bind_eq_some_iff.1 h
      cases h
      exact advanced_step hstep
  | stepBack =>
      obtain ⟨⟨event, thread₁⟩, hback, h⟩ := Option.bind_eq_some_iff.1 h
      cases h
      exact advanced_stepBack hback
  | continues => exact advanced_steps _ h
  | rangeStep start stop => exact advanced_steps _ h
  | reverseContinue => exact advanced_reverseContinue h

/-- Only the step of a custom tick is made. -/
theorem stepWith_eq_some {ε α : Type} {name : String}
    {program : CoreM Board.SystemBus ε α} {result : Except ε α}
    (h : thread.stepWith name program = some (result, thread')) :
    ∃ target, SimTarget.Reaches SimTarget.Call.Keeps thread.target target ∧
      thread' = { thread with target := target } := by
  obtain ⟨⟨_, target⟩, hstep, h⟩ := Option.bind_eq_some_iff.1 h
  obtain ⟨_, -, h⟩ := Option.bind_eq_some_iff.1 h
  cases h
  exact ⟨target, .stepWith hstep, rfl⟩

variable [Build]

theorem readRegister_eq_some {regId : RegId} {value : Option (BitVec 32)}
    (h : thread.readRegister regId = some (value, thread')) :
    ∃ target, SimTarget.Reaches SimTarget.Call.Keeps thread.target target ∧
      thread' = { thread with target := target } := by
  cases regId with
  | gpr i =>
      obtain ⟨_, -, h⟩ := Option.bind_eq_some_iff.1 h
      cases h
      exact ⟨_, .refl, rfl⟩
  | csr specifier =>
      obtain ⟨⟨_, thread₁⟩, hstep, h⟩ := Option.bind_eq_some_iff.1 h
      cases h
      exact stepWith_eq_some hstep
  | fpr i | pc | priv =>
      cases h
      exact ⟨_, .refl, rfl⟩

/-- What each command does, and that only one exits. -/
theorem executed_executeCommand {command : Command} {exits : Bool}
    (h : executeCommand command thread = some (exits, thread')) :
    Executed command thread thread' ∧ (exits = true ↔ command = .exit) := by
  cases command with
  | exit =>
      cases h
      exact ⟨⟨rfl, rfl, rfl, rfl, rfl, (List.append_nil _).symm,
        ⟨none, (List.append_nil _).symm⟩, .refl⟩, by simp⟩
  | pause =>
      cases h
      exact ⟨⟨rfl, rfl, rfl, rfl, rfl, rfl,
        ⟨none, (List.append_nil _).symm⟩, .refl⟩, by simp⟩
  | continues | reverseContinue | step | stepBack | rangeStep _ _
  | addBreakpoint _ | removeBreakpoint _ =>
      cases h
      exact ⟨⟨rfl, rfl, rfl, rfl, rfl, (List.append_nil _).symm,
        ⟨none, (List.append_nil _).symm⟩, .refl⟩, by simp⟩
  | readRegisters channel =>
      cases h
      exact ⟨⟨rfl, rfl, rfl, rfl, rfl, (List.append_nil _).symm, ⟨_, rfl⟩,
        .refl⟩, by simp⟩
  | writeRegisters registers =>
      obtain ⟨⟨_, thread₁⟩, hstep, h⟩ := Option.bind_eq_some_iff.1 h
      obtain ⟨target, hreaches, rfl⟩ := stepWith_eq_some hstep
      cases h
      exact ⟨⟨rfl, rfl, rfl, rfl, rfl, (List.append_nil _).symm,
        ⟨none, (List.append_nil _).symm⟩, hreaches.mono fun _ h _ => h⟩, by simp⟩
  | readRegister regId channel =>
      obtain ⟨⟨value, thread₁⟩, hread, h⟩ := Option.bind_eq_some_iff.1 h
      obtain ⟨target, hreaches, rfl⟩ := readRegister_eq_some hread
      cases h
      exact ⟨⟨rfl, rfl, rfl, rfl, rfl, (List.append_nil _).symm, ⟨_, rfl⟩,
        hreaches.mono fun _ h _ => h⟩, by simp⟩
  | writeRegister regId val channel =>
      obtain ⟨⟨_, thread₁⟩, hstep, h⟩ := Option.bind_eq_some_iff.1 h
      obtain ⟨target, hreaches, rfl⟩ := stepWith_eq_some hstep
      cases h
      exact ⟨⟨rfl, rfl, rfl, rfl, rfl, (List.append_nil _).symm, ⟨_, rfl⟩,
        hreaches.mono fun _ h _ => h⟩, by simp⟩
  | readAddrs addr len channel =>
      obtain ⟨_, -, h⟩ := Option.bind_eq_some_iff.1 h
      cases h
      exact ⟨⟨rfl, rfl, rfl, rfl, rfl, (List.append_nil _).symm, ⟨_, rfl⟩,
        .refl⟩, by simp⟩
  | writeAddrs addr data channel =>
      obtain ⟨⟨_, thread₁⟩, hstep, h⟩ := Option.bind_eq_some_iff.1 h
      obtain ⟨target, hreaches, rfl⟩ := stepWith_eq_some hstep
      cases h
      exact ⟨⟨rfl, rfl, rfl, rfl, rfl, (List.append_nil _).symm, ⟨_, rfl⟩,
        hreaches.mono fun _ h _ => h⟩, by simp⟩
  | deleteFuture =>
      obtain ⟨simulator, hclear, h⟩ := Option.bind_eq_some_iff.1 h
      cases h
      refine ⟨⟨rfl, rfl, rfl, rfl, rfl, (List.append_nil _).symm,
        ⟨none, (List.append_nil _).symm⟩,
        .call .deleteFuture (fun hne => absurd rfl hne) ?_⟩, by simp⟩
      unfold SimTarget.Call.run
      rw [hclear]
      rfl
  | goTo steps =>
      obtain ⟨available, havailable, h⟩ := Option.bind_eq_some_iff.1 h
      by_cases hle : steps ≤ available
      · rw [if_pos hle] at h
        obtain ⟨simulator, hgo, h⟩ := Option.bind_eq_some_iff.1 h
        cases h
        refine ⟨⟨rfl, rfl, rfl, rfl, rfl, (List.append_nil _).symm,
          ⟨none, (List.append_nil _).symm⟩,
          .call (.goTo steps) (fun _ => trivial) ?_⟩, by simp⟩
        unfold SimTarget.Call.run
        dsimp only
        rw [havailable]
        simp only [Option.bind_eq_bind, Option.bind_some]
        rw [if_pos hle, hgo]
        rfl
      · rw [if_neg hle] at h
        cases h
        exact ⟨⟨rfl, rfl, rfl, rfl, rfl, (List.append_nil _).symm,
          ⟨none, (List.append_nil _).symm⟩, .refl⟩, by simp⟩

end TargetThread

end RedPlanet
