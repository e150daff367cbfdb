import RedPlanet.Simulator.TimeTravel

/-!
# Deleting the future

`clear_forward_history` truncates the custom ticks at `next_custom_tick_index`.
That index is the number of custom ticks before HEAD after a replay or a
revert, but not after `step_with` at the end of history, which sets it to the
position of the tick it is about to record.  From such a state deleting the
(empty) future drops the last custom tick of the past.

`NextTickExact` says that the index is that number, and
`deleteFuture_keepsPast_iff` that deleting the future keeps the past of a
reachable simulator exactly if it is.
-/

namespace RedPlanet.Simulator

open SnapshotStore Verified.Timeline

variable {S A V SnapshotId : Type}

/-- The tick that is recorded for a step. -/
def recordedTick (sim : Simulator S A SnapshotId) (step : Nat) :
    TimelineTick S A :=
  (sim.customTicks.find? fun tick => tick.1 == step).map (·.2)

/-- `next_custom_tick_index` is the number of custom ticks recorded for steps
before HEAD. -/
def NextTickExact (sim : Simulator S A SnapshotId) : Prop :=
  sim.head.nextCustomTickIndex =
    partitionPoint (fun tick : Nat × Tick S A =>
      StepIndex.ltState tick.1 sim.head.stateIndex) sim.customTicks

instance (sim : Simulator S A SnapshotId) : Decidable sim.NextTickExact := by
  unfold NextTickExact
  infer_instance

variable [SnapshotStore A V SnapshotId] [Simulatable S A]

/-- Undo any number of steps, one at a time. -/
def undoSteps : Nat → Simulator S A SnapshotId →
    Option (Simulator S A SnapshotId)
  | 0, sim => some sim
  | n + 1, sim => do
      let moved ← sim.undoStep
      undoSteps n moved.2

/-- `after` has the past of `before` and no future. -/
structure PastKept (before after : Simulator S A SnapshotId) : Prop where
  currentSteps_eq : after.currentSteps = before.currentSteps
  availableSteps_eq : after.availableSteps = some before.currentSteps
  recordedTick_eq : ∀ k, k < before.currentSteps →
    after.recordedTick k = before.recordedTick k
  goTo_eq : ∀ k, k ≤ before.currentSteps →
    ∃ sim sim', before.goTo k = some sim ∧ after.goTo k = some sim' ∧
      view sim'.allocator = view sim.allocator
  undoSteps_eq : ∀ n, ∃ sim sim', before.undoSteps n = some sim ∧
    after.undoSteps n = some sim' ∧ view sim'.allocator = view sim.allocator

/-- Deleting the future of a simulator keeps its past. -/
def DeleteFutureKeepsPast (sim : Simulator S A SnapshotId) : Prop :=
  ∃ sim', sim.clearForwardHistory = some sim' ∧ PastKept sim sim'

variable {history : Nat → A} {simulatable : S} {timeline : List (TimelineTick S A)}
  {sim : Simulator S A SnapshotId}

theorem WellFormed.nextTickExact_iff
    (h : WellFormed history simulatable timeline sim) :
    sim.NextTickExact ↔ ExactNext timeline sim := by
  rw [NextTickExact, ExactNext, partitionPoint, h.recorded.customTicks_eq,
    ← takeWhile_marks]
  simp only [StepIndex.ltState_eq]

variable [LawfulSnapshotStore A V SnapshotId]

/-- A chain of undos visits the states of the timeline. -/
theorem WellFormed.undoSteps (n : Nat) :
    ∀ {sim : Simulator S A SnapshotId},
      WellFormed history simulatable timeline sim →
      ∃ sim', sim.undoSteps n = some sim' ∧
        WellFormed history simulatable timeline sim' ∧
        sim'.head.stateIndex = sim.head.stateIndex - n := by
  induction n with
  | zero => intro sim h; exact ⟨sim, rfl, h, rfl⟩
  | succ n ih =>
      intro sim h
      obtain ⟨moved, sim₁, hundo, hwell, hstate⟩ := h.undoStep
      obtain ⟨sim₂, hrest, hwell₂, hstate₂⟩ := ih hwell
      exact ⟨sim₂, by simp [Simulator.undoSteps, hundo, hrest], hwell₂,
        by omega⟩

/-- With an exact next custom tick the past is kept. -/
theorem WellFormed.pastKept (h : WellFormed history simulatable timeline sim)
    (hexact : ExactNext timeline sim) : DeleteFutureKeepsPast sim := by
  obtain ⟨sim', hrun, hend, hhead⟩ := h.clear_atEnd hexact
  have hwithin := h.atState.within
  have hwell : WellFormed history simulatable
      (timeline.take sim.head.stateIndex) sim' := Or.inr hend
  have hlen := h.atState.length_take
  refine ⟨sim', hrun, ?_⟩
  exact
    { currentSteps_eq := by rw [currentSteps, hhead]; rfl
      availableSteps_eq := by
        rw [hwell.availableSteps_eq, hlen]
        rfl
      recordedTick_eq := by
        intro k hk
        rw [recordedTick, recordedTick, hend.recorded.customTicks_eq,
          h.recorded.customTicks_eq, find?_marks_take hwithin hk]
      goTo_eq := by
        intro k hk
        have hk' : k ≤ sim.head.stateIndex := hk
        obtain ⟨there, hgo, hthere, hstate⟩ :=
          h.goTo k (by omega)
        obtain ⟨there', hgo', hthere', hstate'⟩ :=
          hwell.goTo k (by omega)
        exact ⟨there, there', hgo, hgo', hthere.view_eq hthere'
          (hstate'.trans hstate.symm)⟩
      undoSteps_eq := by
        intro n
        obtain ⟨there, hundo, hthere, hstate⟩ := h.undoSteps n
        obtain ⟨there', hundo', hthere', hstate'⟩ := hwell.undoSteps n
        rw [hhead] at hstate'
        exact ⟨there, there', hundo, hundo', hthere.view_eq hthere'
          (hstate'.trans hstate.symm)⟩ }

/-- Otherwise HEAD is at the end of history, and the truncation drops a custom
tick that has been executed. -/
theorem WellFormed.exactNext_of_pastKept
    (h : WellFormed history simulatable timeline sim)
    (hkept : DeleteFutureKeepsPast sim) : ExactNext timeline sim := by
  by_contra hinexact
  have hend : sim.head.stateIndex = timeline.length := by
    rcases h with hclean | hend
    · exact hclean.exact.resolve_left hinexact
    · exact hend.state_eq
  have hlt : sim.head.nextCustomTickIndex < (marks timeline).length := by
    have hle := h.next_le
    rw [h.recorded.customTicks_eq] at hle
    rw [ExactNext, hend, List.take_length] at hinexact
    omega
  obtain ⟨k, hk, hlost, hfound⟩ := exists_mark_lost hlt
  obtain ⟨allocator, hrun, -⟩ := h.clearForwardHistory
  obtain ⟨sim', hrun', hpast⟩ := hkept
  rw [hrun] at hrun'
  have htick := hpast.recordedTick_eq k (by rw [currentSteps, hend]; exact hk)
  rw [← Option.some.inj hrun', recordedTick, recordedTick,
    h.recorded.customTicks_eq, hlost] at htick
  rw [← Option.isSome_map (f := fun m : Nat × Tick S A => m.2), ← htick]
    at hfound
  exact Bool.false_ne_true hfound

/-- In every session, deleting the future keeps the past if and only if
`next_custom_tick_index` is the number of custom ticks before HEAD. -/
theorem deleteFuture_keepsPast_iff {simulatableConstructor : A → S × A}
    (hdet : Deterministic (Simulatable.tick
      (simulatableConstructor SnapshotStore.new).1 : A → A))
    (h : Session simulatableConstructor sim timeline) :
    DeleteFutureKeepsPast sim ↔ sim.NextTickExact := by
  obtain ⟨history, hwell, -⟩ := h.wellFormed hdet
  rw [hwell.nextTickExact_iff]
  exact ⟨hwell.exactNext_of_pastKept, hwell.pastKept⟩

/-! ## Deleting the future of a counter -/

/-- A step, a doubling and two more steps count to 4.  Back at the third of
them, with the last one still to come, the index is exact; deleting the future
keeps the doubling. -/
theorem deleteFuture_keepsPast_counter : ∃ sim :
    Simulator Counter (CopyStore Nat) Nat,
    sim.currentSteps = 3 ∧ sim.availableSteps = some 4 ∧
      view sim.allocator = 3 ∧ (sim.recordedTick 1).isSome = true ∧
      DeleteFutureKeepsPast sim := by
  have hnew : Session Counter.construct
      (Simulator.new Counter.construct) [] := .new
  have hdouble := (hnew.next .step trivial rfl).next
    (.stepWith "double" doubleTick) (CopyStore.deterministic_modify (2 * ·))
    rfl
  have hend := (hdouble.next .step trivial rfl).next .step trivial rfl
  have h := hend.next (.goTo 3) trivial rfl
  exact ⟨_, rfl, rfl, rfl, rfl, (deleteFuture_keepsPast_iff
    (CopyStore.deterministic_modify (· + 1)) h).2 rfl⟩

/-- Two steps, a doubling and one more step count to 5 by way of 4.  After
deleting the empty future, state 3 is rebuilt without the doubling. -/
theorem deleteFuture_loses_doubling :
    ∃ (sim sim' there there' : Simulator Counter (CopyStore Nat) Nat)
      (timeline : List (TimelineTick Counter (CopyStore Nat))),
      Session Counter.construct sim timeline ∧
      sim.clearForwardHistory = some sim' ∧
      sim.goTo 3 = some there ∧ view there.allocator = 4 ∧
      sim'.goTo 3 = some there' ∧ view there'.allocator = 3 ∧
      ¬ DeleteFutureKeepsPast sim := by
  have hnew : Session Counter.construct
      (Simulator.new Counter.construct) [] := .new
  have h := (((hnew.next .step trivial rfl).next .step trivial rfl).next
      (.stepWith "double" doubleTick) (CopyStore.deterministic_modify (2 * ·))
      rfl).next .step trivial rfl
  refine ⟨_, _, _, _, _, h, rfl, rfl, rfl, rfl, rfl, ?_⟩
  rintro ⟨sim', hrun, hpast⟩
  have htick := hpast.recordedTick_eq 2 (by decide)
  rw [← Option.some.inj hrun] at htick
  have hsome : false = true := congrArg Option.isSome htick
  exact Bool.false_ne_true hsome

end RedPlanet.Simulator
