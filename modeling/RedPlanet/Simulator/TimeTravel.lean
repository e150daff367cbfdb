import RedPlanet.Simulator.Operations
import RedPlanet.Simulator.Search

/-!
# Time travel is exact

A *session* starts with a new simulator and performs any operations on it.
Next to the simulator it keeps the reference timeline: stepping cuts it at
HEAD and appends one tick, and every other operation leaves the recorded ticks
alone and only moves HEAD.  In every session the visible state is the one the
timeline prescribes for HEAD.

`timelineAfter` and `Moves` say what an operation does to the timeline and
where it leaves HEAD, and `timeTravel_exact` is the result.  The counter at the
end is a simulatable to run it with.
-/

namespace RedPlanet.Simulator

open SnapshotStore Verified.Timeline

/-- The operations of a session, with all their arguments. -/
inductive Operation (S A SnapshotId : Type) : Type 1 where
  | step
  | stepWith {R : Type} (name : String) (customTick : S → A → R × A)
  | undoStep
  | redoStep
  | undoStepsUntil {R κ : Type} (pred : Pred S A R κ)
      (visit : κ → Simulator S A SnapshotId → κ) (env : κ)
  | goTo (steps : Nat)

namespace Operation

variable {S A V SnapshotId : Type}

/-- Perform an operation, ignoring what it returns. -/
def run [SnapshotStore A V SnapshotId] [Simulatable S A] :
    Operation S A SnapshotId → Simulator S A SnapshotId →
    Option (Simulator S A SnapshotId)
  | step, sim => sim.step
  | stepWith name customTick, sim =>
      (sim.stepWith name customTick).map fun result => result.2
  | undoStep, sim => sim.undoStep.map fun result => result.2
  | redoStep, sim => sim.redoStep.map fun result => result.2
  | undoStepsUntil pred visit env, sim =>
      (sim.undoStepsUntil pred visit env).map fun result => result.sim
  | goTo steps, sim => sim.goTo steps

/-- The reference timeline after an operation at a position.  Going to a state
that is recorded leaves it as it is; going further replays default ticks, so
these are recorded. -/
def timelineAfter (timeline : List (TimelineTick S A)) (position : Nat) :
    Operation S A SnapshotId → List (TimelineTick S A)
  | step => cutAppend timeline position none
  | stepWith name customTick =>
      cutAppend timeline position
        (some { name := name, tick := fun s a => (customTick s a).2 })
  | undoStep => timeline
  | redoStep => timeline
  | undoStepsUntil _ _ _ => timeline
  | goTo steps => timeline ++ List.replicate (steps - timeline.length) none

/-- Where an operation moves HEAD, among `available` states. -/
def Moves (available before after : Nat) : Operation S A SnapshotId → Prop
  | step => after = before + 1
  | stepWith _ _ => after = before + 1
  | undoStep => after = before - 1
  | redoStep => after = min (before + 1) available
  | undoStepsUntil _ _ _ => after ≤ before - 1
  | goTo steps => after = steps

/-- Custom ticks have to be deterministic. -/
def Allowed [SnapshotStore A V SnapshotId] (simulatable : S) :
    Operation S A SnapshotId → Prop
  | stepWith _ customTick =>
      Deterministic fun allocator => (customTick simulatable allocator).2
  | _ => True

end Operation

variable {S A V SnapshotId : Type} [SnapshotStore A V SnapshotId]
  [Simulatable S A]

/-- The simulators a session can reach, with their reference timelines. -/
inductive Session (simulatableConstructor : A → S × A) :
    Simulator S A SnapshotId → List (TimelineTick S A) → Prop where
  | new : Session simulatableConstructor
      (Simulator.new simulatableConstructor) []
  | next {sim sim' : Simulator S A SnapshotId}
      {timeline : List (TimelineTick S A)}
      (session : Session simulatableConstructor sim timeline)
      (op : Operation S A SnapshotId) (allowed : op.Allowed sim.simulatable)
      (run : op.run sim = some sim') :
      Session simulatableConstructor sim'
        (op.timelineAfter timeline sim.currentSteps)

variable [LawfulSnapshotStore A V SnapshotId] {history : Nat → A}
  {simulatable : S}
  {timeline : List (TimelineTick S A)} {sim : Simulator S A SnapshotId}

/-- A new simulator is well formed, with an empty timeline. -/
theorem new_wellFormed (simulatableConstructor : A → S × A) :
    WellFormed (fun _ => (simulatableConstructor SnapshotStore.new).2)
      (simulatableConstructor SnapshotStore.new).1 []
      (Simulator.new simulatableConstructor :
        Simulator S A SnapshotId) := by
  have hview := LawfulSnapshotStore.view_makeSnapshot
    (simulatableConstructor SnapshotStore.new).2
  have hcaptured := LawfulSnapshotStore.captured_new
    (simulatableConstructor SnapshotStore.new).2
  refine Or.inr ⟨?_, ?_, rfl, rfl, Nat.le_refl _⟩
  · exact
      { simulatable_eq := rfl
        deterministic := fun _ h => absurd h (by simp)
        first := ⟨_, rfl, rfl⟩
        increasing := List.pairwise_singleton _ _
        ownIndex := by
          intro i entry hentry
          have hi := (List.getElem?_eq_some_iff.1 hentry).1
          have hi0 : i = 0 := Nat.lt_one_iff.1 hi
          subst hi0
          rw [← Option.some.inj hentry]
        within := by
          intro entry hmem
          rw [List.mem_singleton.1 hmem]
          exact Nat.le_refl _
        captured_eq := by
          intro entry hmem
          rw [List.mem_singleton.1 hmem]
          exact hcaptured
        distinct := by simp [Simulator.new]
        customTicks_eq := rfl
        replayed := fun _ _ _ hlt => absurd hlt (Nat.not_lt_zero _) }
  · exact
      { within := Nat.le_refl _
        base := ⟨_, rfl, Nat.le_refl _⟩
        next := fun _ h => absurd h (by simp [Simulator.new])
        view_eq := hview }

/-- One operation keeps the simulator well formed for the reference timeline,
and moves HEAD where it should. -/
theorem WellFormed.operation
    (h : WellFormed history simulatable timeline sim)
    (hdet : Deterministic (Simulatable.tick simulatable : A → A))
    (op : Operation S A SnapshotId) (hallowed : op.Allowed simulatable) :
    ∃ history' sim', op.run sim = some sim' ∧
      WellFormed history' simulatable
        (op.timelineAfter timeline sim.currentSteps) sim' ∧
      Continues simulatable timeline history
        (op.timelineAfter timeline sim.currentSteps) history' ∧
      op.Moves timeline.length sim.currentSteps sim'.currentSteps := by
  cases op with
  | step => exact h.step hdet
  | stepWith name customTick =>
      obtain ⟨history', result, sim', hrun, hwell, hcontinues, hstate⟩ :=
        h.stepWith name customTick hallowed
      exact ⟨history', sim', by simp [Operation.run, hrun], hwell, hcontinues,
        hstate⟩
  | undoStep =>
      obtain ⟨moved, sim', hrun, hwell, hstate⟩ := h.undoStep
      exact ⟨history, sim', by simp [Operation.run, hrun], hwell,
        fun _ => id, hstate⟩
  | redoStep =>
      obtain ⟨moved, sim', hrun, hwell, hstate⟩ := h.redoStep
      exact ⟨history, sim', by simp [Operation.run, hrun], hwell,
        fun _ => id, hstate⟩
  | undoStepsUntil pred visit env =>
      obtain ⟨result, hrun, hwell, hstate⟩ := h.undoStepsUntil pred visit env
      exact ⟨history, result.sim, by simp [Operation.run, hrun], hwell,
        fun _ => id, hstate⟩
  | goTo steps =>
      rcases Nat.lt_or_ge timeline.length steps with hbeyond | hwithin
      · exact h.goTo_beyond hdet hbeyond
      · obtain ⟨sim', hrun, hwell, hstate⟩ := h.goTo steps hwithin
        refine ⟨history, sim', hrun, ?_, ?_, hstate⟩
        · rw [Operation.timelineAfter, Nat.sub_eq_zero_of_le hwithin,
            List.replicate_zero, List.append_nil]
          exact hwell
        · rw [Operation.timelineAfter, Nat.sub_eq_zero_of_le hwithin,
            List.replicate_zero, List.append_nil]
          exact fun _ => id

/-- Every simulator a session reaches is well formed, and none of its ticks is
lost. -/
theorem Session.wellFormed {simulatableConstructor : A → S × A}
    (hdet : Deterministic (Simulatable.tick
      (simulatableConstructor SnapshotStore.new).1 : A → A))
    (h : Session simulatableConstructor sim timeline) :
    ∃ history, WellFormed history
        (simulatableConstructor SnapshotStore.new).1 timeline sim ∧
      Intact (simulatableConstructor SnapshotStore.new).2
        (simulatableConstructor SnapshotStore.new).1 timeline history := by
  induction h with
  | new =>
      refine ⟨_, new_wellFormed simulatableConstructor, fun k hk => ?_⟩
      rw [Nat.le_zero.1 hk, stateAfter, stateAt_zero]
  | next session op allowed run ih =>
      obtain ⟨history, hwell, hintact⟩ := ih
      rw [hwell.recorded.simulatable_eq] at allowed
      obtain ⟨history', sim', hrun, hwell', hcontinues, -⟩ :=
        hwell.operation hdet op allowed
      rw [run] at hrun
      rw [Option.some.inj hrun]
      exact ⟨history', hwell', hcontinues _ hintact⟩

/-- Time travel is exact: in every session the state visible at HEAD results
from the first `current_steps()` ticks of the reference timeline,
`available_steps()` is the length of that timeline, and the next operation
completes and moves HEAD as it should. -/
theorem timeTravel_exact {simulatableConstructor : A → S × A}
    (hdet : Deterministic (Simulatable.tick
      (simulatableConstructor SnapshotStore.new).1 : A → A))
    (h : Session simulatableConstructor sim timeline) :
    view sim.allocator =
        view (replay
          (TimelineTick.run (simulatableConstructor SnapshotStore.new).1)
          (timeline.take sim.currentSteps)
          (simulatableConstructor SnapshotStore.new).2) ∧
      sim.currentSteps ≤ timeline.length ∧
      sim.availableSteps = some timeline.length ∧
      ∀ op : Operation S A SnapshotId, op.Allowed sim.simulatable →
        ∃ sim', op.run sim = some sim' ∧
          op.Moves timeline.length sim.currentSteps sim'.currentSteps := by
  obtain ⟨history, hwell, hintact⟩ := h.wellFormed hdet
  have hwithin := hwell.atState.within
  refine ⟨hwell.atState.view_eq.trans (hintact _ hwithin), hwithin,
    hwell.availableSteps_eq, ?_⟩
  intro op hallowed
  rw [hwell.recorded.simulatable_eq] at hallowed
  obtain ⟨_, sim', hrun, -, -, hmoves⟩ := hwell.operation hdet op hallowed
  exact ⟨sim', hrun, hmoves⟩

/-! ## A counter -/

/-- A simulatable that counts its ticks. -/
structure Counter where

instance : Simulatable Counter (CopyStore Nat) where
  tick _ := CopyStore.modify (· + 1)

/-- Construct a counter; the count is the whole state. -/
def Counter.construct (store : CopyStore Nat) : Counter × CopyStore Nat :=
  (Counter.mk, store)

/-- A custom tick that doubles the count. -/
def doubleTick : Counter → CopyStore Nat → Nat × CopyStore Nat :=
  fun _ store => (store.value, CopyStore.modify (2 * ·) store)

/-- Two steps, a doubling, an undo and another step: the doubling is gone. -/
theorem timeTravel_exact_counter :
    ∃ sim : Simulator Counter (CopyStore Nat) Nat,
      Session Counter.construct sim [none, none, none] ∧
      view sim.allocator = 3 ∧ sim.availableSteps = some 3 := by
  have hdet : Deterministic
      (Simulatable.tick Counter.mk : CopyStore Nat → CopyStore Nat) :=
    CopyStore.deterministic_modify (· + 1)
  have hnew : Session Counter.construct
      (Simulator.new Counter.construct) [] := .new
  have h := (((hnew.next .step trivial rfl).next .step trivial rfl).next
      (.stepWith "double" doubleTick) (CopyStore.deterministic_modify (2 * ·))
      rfl).next .undoStep trivial rfl
  have hexact := timeTravel_exact hdet (h.next .step trivial rfl)
  exact ⟨_, h.next .step trivial rfl, hexact.1, hexact.2.2.1⟩

end RedPlanet.Simulator
