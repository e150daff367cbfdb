import RedPlanet.Simulator.TimeTravel

/-!
# All public operations

Besides the operations of a session a simulator has `clear_forward_history`.
At the end of history that operation can forget a custom tick of the past.
The simulator stays well formed all the same, for a history in which the
states that are not in a snapshot are what is replayed for them from then on.

`Reachable` are the simulators that all of these reach, and
`Reachable.wellFormed` is the invariant of them, by induction on the
operations.
-/

namespace RedPlanet.Simulator

open SnapshotStore Verified.Timeline

variable {S A V SnapshotId : Type} [SnapshotStore A V SnapshotId]
  [Simulatable S A]

/-- The simulators that the public operations reach. -/
inductive Reachable (simulatableConstructor : A → S × A) :
    Simulator S A SnapshotId → Prop where
  | new : Reachable simulatableConstructor
      (Simulator.new simulatableConstructor)
  | operation {sim sim' : Simulator S A SnapshotId}
      (reachable : Reachable simulatableConstructor sim)
      (op : Operation S A SnapshotId) (allowed : op.Allowed sim.simulatable)
      (run : op.run sim = some sim') :
      Reachable simulatableConstructor sim'
  | clearForwardHistory {sim sim' : Simulator S A SnapshotId}
      (reachable : Reachable simulatableConstructor sim)
      (run : sim.clearForwardHistory = some sim') :
      Reachable simulatableConstructor sim'

variable [LawfulSnapshotStore A V SnapshotId] {history : Nat → A}
  {simulatable : S} {timeline : List (TimelineTick S A)}
  {sim : Simulator S A SnapshotId}

/-- At the end of history only custom ticks are forgotten. -/
theorem AtEnd.clearForwardHistory
    (h : AtEnd history simulatable timeline sim)
    (hdet : Deterministic (Simulatable.tick simulatable : A → A)) :
    ∃ history' sim', sim.clearForwardHistory = some sim' ∧
      AtEnd history' simulatable
        (keepMarks sim.head.nextCustomTickIndex timeline) sim' := by
  obtain ⟨allocator, hrun, hview, hkept⟩ :=
    WellFormed.clearForwardHistory (Or.inr h)
  have hall : sim.snapshots.take (sim.head.baseSnapshotIndex + 1) =
      sim.snapshots := by
    rw [h.last, List.take_length]
  rw [hall] at hrun hkept
  let cleared : Simulator S A SnapshotId :=
    { sim with
      allocator := allocator
      customTicks := sim.customTicks.take sim.head.nextCustomTickIndex }
  have hstored : Stored history simulatable
      (keepMarks sim.head.nextCustomTickIndex timeline) cleared :=
    { simulatable_eq := h.recorded.simulatable_eq
      deterministic := by
        intro tick hmem
        rcases mem_keepMarks hmem with rfl | hmem
        · exact hdet
        · exact h.recorded.deterministic tick hmem
      first := h.recorded.first
      increasing := h.recorded.increasing
      ownIndex := h.recorded.ownIndex
      within := by
        rw [length_keepMarks]
        exact h.recorded.within
      captured_eq := fun entry hmem => (hkept entry hmem).trans
        (h.recorded.captured_eq entry hmem)
      distinct := h.recorded.distinct
      customTicks_eq := by
        rw [marks_keepMarks, ← h.recorded.customTicks_eq] }
  obtain ⟨history', hrecorded, hlast, -⟩ := hstored.rebuild
  rw [length_keepMarks] at hlast
  refine ⟨history', cleared, hrun, ?_⟩
  exact
    { recorded := hrecorded
      atState :=
        { within := by
            rw [length_keepMarks]
            exact h.atState.within
          base := h.atState.base
          next := h.atState.next
          view_eq := by
            show view allocator = view (history' sim.head.stateIndex)
            rw [hview, h.atState.view_eq, h.state_eq, hlast] }
      last := h.last
      state_eq := h.state_eq.trans (length_keepMarks _ _).symm
      next_le := by
        show sim.head.nextCustomTickIndex ≤
          (sim.customTicks.take sim.head.nextCustomTickIndex).length
        rw [List.length_take]
        exact Nat.le_min.2 ⟨Nat.le_refl _, h.next_le⟩ }

/-- Deleting the future leaves a well-formed simulator that ends at HEAD. -/
theorem WellFormed.deleteFuture
    (h : WellFormed history simulatable timeline sim)
    (hdet : Deterministic (Simulatable.tick simulatable : A → A)) :
    ∃ history' timeline' sim', sim.clearForwardHistory = some sim' ∧
      AtEnd history' simulatable timeline' sim' := by
  by_cases hexact : ExactNext timeline sim
  · obtain ⟨sim', hrun, hend, -⟩ := h.clear_atEnd hexact
    exact ⟨history, _, sim', hrun, hend⟩
  · have hend : AtEnd history simulatable timeline sim := by
      rcases h with hclean | hend
      · exact hclean.atEnd
          (hclean.state_eq_iff.1 (hclean.exact.resolve_left hexact))
      · exact hend
    obtain ⟨history', sim', hrun, hend'⟩ := hend.clearForwardHistory hdet
    exact ⟨history', _, sim', hrun, hend'⟩

/-- Every reachable simulator is well formed, for some history. -/
theorem Reachable.wellFormed {simulatableConstructor : A → S × A}
    (hdet : Deterministic (Simulatable.tick
      (simulatableConstructor SnapshotStore.new).1 : A → A))
    (h : Reachable simulatableConstructor sim) :
    ∃ history timeline, WellFormed history
      (simulatableConstructor SnapshotStore.new).1 timeline sim := by
  induction h with
  | new => exact ⟨_, _, new_wellFormed simulatableConstructor⟩
  | operation _ op allowed run ih =>
      obtain ⟨history, timeline, hwell⟩ := ih
      rw [hwell.recorded.simulatable_eq] at allowed
      obtain ⟨history', sim', hrun, hwell', -, -⟩ :=
        hwell.operation hdet op allowed
      rw [run] at hrun
      rw [Option.some.inj hrun]
      exact ⟨history', _, hwell'⟩
  | clearForwardHistory _ run ih =>
      obtain ⟨history, timeline, hwell⟩ := ih
      obtain ⟨history', timeline', sim', hrun, hend⟩ := hwell.deleteFuture hdet
      rw [run] at hrun
      rw [Option.some.inj hrun]
      exact ⟨history', timeline', Or.inr hend⟩

end RedPlanet.Simulator
