import RedPlanet.Simulator.Invariant

/-!
# Saving and moving HEAD

One specification for each private operation of the simulator: taking a
snapshot, replaying steps, reverting to a snapshot and reverting to a state.
Each says that the operation does not panic, which of the invariants it
restores, and where it leaves HEAD.
-/

namespace RedPlanet.Simulator

open SnapshotStore Verified.Timeline

variable {S A V SnapshotId : Type} [Simulatable S A]
  {sim : Simulator S A SnapshotId}

/-! ## Replaying -/

theorem replayStep_custom {tick : Tick S A}
    (h : sim.customTicks[sim.head.nextCustomTickIndex]? =
      some (sim.head.stateIndex, tick)) :
    sim.replayStep =
      { sim with
        allocator := tick.tick sim.simulatable sim.allocator
        head := { sim.head with
          stateIndex := sim.head.stateIndex + 1
          nextCustomTickIndex := sim.head.nextCustomTickIndex + 1 } } := by
  simp [replayStep, h, StateIndex.nextStep, StateIndex.next]

theorem replayStep_default
    (h : ∀ mark, sim.customTicks[sim.head.nextCustomTickIndex]? = some mark →
      mark.1 ≠ sim.head.stateIndex) :
    sim.replayStep =
      { sim with
        allocator := Simulatable.tick sim.simulatable sim.allocator
        head := { sim.head with stateIndex := sim.head.stateIndex + 1 } } := by
  cases hget : sim.customTicks[sim.head.nextCustomTickIndex]? with
  | none => simp [replayStep, hget, StateIndex.next]
  | some mark =>
      simp [replayStep, hget, h mark hget, StateIndex.nextStep,
        StateIndex.next]

variable [SnapshotStore A V SnapshotId] {history : Nat → A} {simulatable : S}
  {timeline : List (TimelineTick S A)}

/-- Replaying a step of the timeline applies its tick and advances HEAD by
one, as long as it does not run into the next snapshot. -/
theorem Clean.replayStep (h : Clean history simulatable timeline sim)
    (hlt : sim.head.stateIndex < timeline.length)
    (hnext : ∀ entry,
      sim.snapshots[sim.head.baseSnapshotIndex + 1]? = some entry →
        sim.head.stateIndex + 1 < entry.1.stateIndex) :
    Clean history simulatable timeline sim.replayStep ∧
      sim.replayStep.head.stateIndex = sim.head.stateIndex + 1 ∧
      sim.replayStep.head.baseSnapshotIndex = sim.head.baseSnapshotIndex ∧
      sim.replayStep.snapshots = sim.snapshots := by
  obtain ⟨tick, hget⟩ : ∃ tick, timeline[sim.head.stateIndex]? = some tick :=
    ⟨_, List.getElem?_eq_getElem hlt⟩
  have hmem := List.mem_of_getElem? hget
  have hdet := h.recorded.deterministic tick hmem
  have hexact := h.exact_of_lt hlt
  -- the next state is not in a snapshot, so it comes from the state at HEAD
  have hview : view (TimelineTick.run simulatable tick sim.allocator) =
      view (history (sim.head.stateIndex + 1)) := by
    rw [h.recorded.replayed _ _ hget (h.lt_of_next hlt hnext)
      (h.recorded.ne_of_next h.atState hnext)]
    exact hdet.view_congr _ _ h.atState.view_eq
  have htake : timeline.take (sim.head.stateIndex + 1) =
      timeline.take sim.head.stateIndex ++ [tick] := by
    rw [List.take_add_one, hget]
    rfl
  -- the two kinds of ticks differ in the next custom tick only
  have hreplay : ∃ next, sim.replayStep =
      { sim with
        allocator := TimelineTick.run simulatable tick sim.allocator
        head := { sim.head with
          stateIndex := sim.head.stateIndex + 1
          nextCustomTickIndex := next } } ∧
      next = (marks (timeline.take (sim.head.stateIndex + 1))).length := by
    rw [htake, marks, marksFrom_append, List.length_append]
    cases tick with
    | some custom =>
        have hcustom : sim.customTicks[sim.head.nextCustomTickIndex]? =
            some (sim.head.stateIndex, custom) := by
          rw [h.recorded.customTicks_eq, hexact]
          exact getElem?_marks_of_some hget
        refine ⟨sim.head.nextCustomTickIndex + 1,
          (replayStep_custom hcustom).trans ?_, ?_⟩
        · rw [h.recorded.simulatable_eq]
          rfl
        · rw [hexact]
          rfl
    | none =>
        have hdefault : ∀ mark,
            sim.customTicks[sim.head.nextCustomTickIndex]? = some mark →
              mark.1 ≠ sim.head.stateIndex := by
          intro mark hmark
          rw [h.recorded.customTicks_eq, hexact] at hmark
          exact ne_of_getElem?_marks_of_none hget hmark
        refine ⟨sim.head.nextCustomTickIndex,
          (replayStep_default hdefault).trans ?_, ?_⟩
        · rw [h.recorded.simulatable_eq]
          rfl
        · rw [hexact]
          rfl
  obtain ⟨next, hreplay, hnextTick⟩ := hreplay
  obtain ⟨base, hbase, hle⟩ := h.atState.base
  rw [hreplay]
  refine ⟨?_, rfl, rfl, rfl⟩
  exact
    { recorded := h.recorded.of_eq rfl rfl rfl (hdet.captured_eq _)
      atState :=
        { within := hlt
          base := ⟨base, hbase, Nat.le_succ_of_le hle⟩
          next := hnext
          view_eq := hview }
      saved := h.saved
      exact := Or.inl hnextTick
      next_le := by
        have hsplit := marks_split timeline (sim.head.stateIndex + 1)
        show next ≤ sim.customTicks.length
        rw [hnextTick, h.recorded.customTicks_eq, hsplit, List.length_append]
        omega }

theorem Clean.replaySteps (n : Nat) :
    ∀ {sim : Simulator S A SnapshotId},
      Clean history simulatable timeline sim →
      sim.head.stateIndex + n ≤ timeline.length →
      (∀ entry,
        sim.snapshots[sim.head.baseSnapshotIndex + 1]? = some entry →
          sim.head.stateIndex + n < entry.1.stateIndex) →
      Clean history simulatable timeline (sim.replaySteps n) ∧
        (sim.replaySteps n).head.stateIndex = sim.head.stateIndex + n ∧
        (sim.replaySteps n).head.baseSnapshotIndex =
          sim.head.baseSnapshotIndex ∧
        (sim.replaySteps n).snapshots = sim.snapshots := by
  induction n with
  | zero => intro sim h _ _; exact ⟨h, rfl, rfl, rfl⟩
  | succ n ih =>
      intro sim h hle hnext
      obtain ⟨hclean, hstate, hbase, hsnapshots⟩ := h.replayStep (by omega)
        (fun entry hentry => by have := hnext entry hentry; omega)
      have hrest := ih hclean (by omega) (by
        intro entry hentry
        rw [hbase, hsnapshots] at hentry
        have := hnext entry hentry
        omega)
      rw [hstate, hbase, hsnapshots] at hrest
      exact ⟨hrest.1, by rw [Simulator.replaySteps, hrest.2.1]; omega,
        hrest.2.2.1, hrest.2.2.2⟩

/-- Replaying up to a state before the next snapshot. -/
theorem Clean.replayTo (h : Clean history simulatable timeline sim)
    (target : Nat) (hfrom : sim.head.stateIndex ≤ target)
    (hwithin : target ≤ timeline.length)
    (hnext : ∀ entry,
      sim.snapshots[sim.head.baseSnapshotIndex + 1]? = some entry →
        target < entry.1.stateIndex) :
    ∃ sim', sim.replayTo target = some sim' ∧
      Clean history simulatable timeline sim' ∧
      sim'.head.stateIndex = target ∧
      sim'.head.baseSnapshotIndex = sim.head.baseSnapshotIndex ∧
      sim'.snapshots = sim.snapshots := by
  have hrest := h.replaySteps (target - sim.head.stateIndex) (by omega) (by
    intro entry hentry
    have := hnext entry hentry
    omega)
  refine ⟨_, by rw [Simulator.replayTo, if_pos hfrom], hrest.1, ?_,
    hrest.2.2.1, hrest.2.2.2⟩
  rw [hrest.2.1]
  omega

/-- The base snapshot of a state exists, and the next one is newer. -/
theorem Recorded.findBaseSnapshot
    (h : Recorded history simulatable timeline sim) (target : Nat) :
    ∃ i, sim.findBaseSnapshot target = some i ∧
      (∃ entry, sim.snapshots[i]? = some entry ∧
        entry.1.stateIndex ≤ target) ∧
      ∀ entry, sim.snapshots[i + 1]? = some entry →
        target < entry.1.stateIndex := by
  let p := fun entry : Head × SnapshotId =>
    decide (entry.1.stateIndex ≤ target)
  have hpos : partitionPoint p sim.snapshots ≠ 0 := by
    intro hzero
    obtain ⟨entry, hentry, hstate⟩ := h.first
    rw [← hzero] at hentry
    have hfalse := partitionPoint_at p hentry
    simp only [p, decide_eq_false_iff_not] at hfalse
    omega
  refine ⟨partitionPoint p sim.snapshots - 1, ?_, ?_, ?_⟩
  · simp only [Simulator.findBaseSnapshot]
    rw [if_neg hpos]
  · obtain ⟨entry, hentry, hle⟩ := partitionPoint_before p
      (show partitionPoint p sim.snapshots - 1 <
        partitionPoint p sim.snapshots by omega)
    exact ⟨entry, hentry, by simpa [p] using hle⟩
  · intro entry hentry
    rw [Nat.sub_add_cancel (Nat.pos_of_ne_zero hpos)] at hentry
    have hfalse := partitionPoint_at p hentry
    simp only [p, decide_eq_false_iff_not] at hfalse
    omega

/-! ## Taking a snapshot -/

/-- Every snapshot is older than HEAD, if the base snapshot is. -/
private theorem lt_state_of_base_lt
    (h : AtEnd history simulatable timeline sim)
    (hbase : ∀ entry,
      sim.snapshots[sim.head.baseSnapshotIndex]? = some entry →
        entry.1.stateIndex < sim.head.stateIndex)
    (entry : Head × SnapshotId) (hmem : entry ∈ sim.snapshots) :
    entry.1.stateIndex < sim.head.stateIndex := by
  obtain ⟨i, hi⟩ := List.mem_iff_getElem?.1 hmem
  have hlen := (List.getElem?_eq_some_iff.1 hi).1
  have hlast := h.last
  rcases Nat.lt_or_ge i sim.head.baseSnapshotIndex with hlt | hge
  · obtain ⟨base, hget, hle⟩ := h.atState.base
    have := h.recorded.lt_of_lt hi hget hlt
    omega
  · have hi' : i = sim.head.baseSnapshotIndex := by omega
    exact hbase entry (hi' ▸ hi)

variable [LawfulSnapshotStore A V SnapshotId]

/-- A snapshot that is newer than all others is recorded. -/
theorem Recorded.makeSnapshot (h : Recorded history simulatable timeline sim)
    (hat : AtState history timeline sim)
    (hlt : ∀ entry ∈ sim.snapshots,
      entry.1.stateIndex < sim.head.stateIndex) :
    Recorded history simulatable timeline sim.makeSnapshot := by
  have hold : ∀ entry ∈ sim.snapshots,
      entry.2 ≠ (SnapshotStore.makeSnapshot sim.allocator).1 := by
    intro entry hmem heq
    have hsome := h.captured_eq entry hmem
    rw [heq, LawfulSnapshotStore.captured_fresh] at hsome
    exact absurd hsome (by simp)
  exact
    { simulatable_eq := h.simulatable_eq
      deterministic := h.deterministic
      first := by
        obtain ⟨entry, hentry, hzero⟩ := h.first
        have hpos := h.length_pos
        refine ⟨entry, ?_, hzero⟩
        rw [← hentry]
        exact List.getElem?_append_left hpos
      increasing := by
        refine List.pairwise_append.2
          ⟨h.increasing, List.pairwise_singleton _ _, ?_⟩
        intro older holder newer hnewer
        rw [List.mem_singleton.1 hnewer]
        exact hlt older holder
      ownIndex := by
        intro i entry hentry
        rcases Nat.lt_or_ge i sim.snapshots.length with hi | hi
        · exact h.ownIndex i entry
            (by rw [← hentry]; exact (List.getElem?_append_left hi).symm)
        · have hi' := (List.getElem?_eq_some_iff.1 hentry).1
          have hlen : sim.makeSnapshot.snapshots.length =
              sim.snapshots.length + 1 := by
            simp [Simulator.makeSnapshot]
          have hieq : i = sim.snapshots.length := by omega
          subst hieq
          have hnew : sim.makeSnapshot.snapshots[sim.snapshots.length]? =
              some (sim.makeSnapshot.head,
                (SnapshotStore.makeSnapshot sim.allocator).1) :=
            List.getElem?_concat_length
          rw [hnew] at hentry
          rw [← Option.some.inj hentry]
          rfl
      within := by
        intro entry hmem
        rcases List.mem_append.1 hmem with hmem | hmem
        · exact h.within entry hmem
        · rw [List.mem_singleton.1 hmem]
          exact hat.within
      captured_eq := by
        intro entry hmem
        rcases List.mem_append.1 hmem with hmem | hmem
        · rw [← h.captured_eq entry hmem]
          exact LawfulSnapshotStore.captured_makeSnapshot _ _ (hold entry hmem)
        · rw [List.mem_singleton.1 hmem]
          have hnew := LawfulSnapshotStore.captured_new sim.allocator
          rw [hat.view_eq] at hnew
          exact hnew
      distinct := by
        rw [show sim.makeSnapshot.snapshots.map (·.2) =
          sim.snapshots.map (·.2) ++
            [(SnapshotStore.makeSnapshot sim.allocator).1] from
          List.map_append]
        refine List.nodup_append.2
          ⟨h.distinct, by simp, ?_⟩
        intro id hid new hnew heq
        obtain ⟨entry, hmem, rfl⟩ := List.mem_map.1 hid
        exact hold entry hmem (heq.trans (List.mem_singleton.1 hnew))
      customTicks_eq := h.customTicks_eq
      replayed := by
        intro k tick hget hk hunsaved
        exact h.replayed k tick hget hk fun entry hmem =>
          hunsaved entry (List.mem_append_left _ hmem) }

/-- A snapshot of an unsaved last state makes the simulator clean. -/
theorem AtEnd.makeSnapshot (h : AtEnd history simulatable timeline sim)
    (hbase : ∀ entry,
      sim.snapshots[sim.head.baseSnapshotIndex]? = some entry →
        entry.1.stateIndex < sim.head.stateIndex) :
    Clean history simulatable timeline sim.makeSnapshot ∧
      AtEnd history simulatable timeline sim.makeSnapshot := by
  have hview : view sim.makeSnapshot.allocator = view sim.allocator :=
    LawfulSnapshotStore.view_makeSnapshot sim.allocator
  have hbaseNew : sim.makeSnapshot.snapshots[
      sim.makeSnapshot.head.baseSnapshotIndex]? =
        some (sim.makeSnapshot.head,
          (SnapshotStore.makeSnapshot sim.allocator).1) :=
    List.getElem?_concat_length
  have hlenNew : sim.makeSnapshot.snapshots.length =
      sim.snapshots.length + 1 := by
    simp [Simulator.makeSnapshot]
  have hat : AtState history timeline sim.makeSnapshot :=
    { within := h.atState.within
      base := ⟨_, hbaseNew, Nat.le_refl _⟩
      next := by
        intro entry hentry
        have := (List.getElem?_eq_some_iff.1 hentry).1
        rw [hlenNew] at this
        exact absurd this (Nat.lt_irrefl _)
      view_eq := hview.trans h.atState.view_eq }
  have hclean : Clean history simulatable timeline sim.makeSnapshot :=
    { recorded := h.recorded.makeSnapshot h.atState
        (lt_state_of_base_lt h hbase)
      atState := hat
      saved := ⟨(sim.makeSnapshot.head,
          (SnapshotStore.makeSnapshot sim.allocator).1),
        by rw [hlenNew]; exact hbaseNew, h.state_eq⟩
      exact := Or.inr h.state_eq
      next_le := h.next_le }
  exact ⟨hclean, hclean.atEnd hlenNew.symm⟩

/-- Saving before a move leaves HEAD in place and the simulator clean. -/
theorem WellFormed.saveIfDirty
    (h : WellFormed history simulatable timeline sim) :
    ∃ sim', sim.saveIfDirty = some sim' ∧
      Clean history simulatable timeline sim' ∧
      sim'.head.stateIndex = sim.head.stateIndex := by
  have hdetached := isHeadDetached_eq h.recorded.length_pos
  obtain ⟨base, hbase, hle⟩ := h.atState.base
  have hat := isHeadAtSnapshot_eq hbase
  by_cases hlast : sim.head.baseSnapshotIndex + 1 = sim.snapshots.length
  · by_cases hstate : base.1.stateIndex = sim.head.stateIndex
    · -- HEAD is at the last snapshot: the last state is saved already
      refine ⟨sim, by simp [Simulator.saveIfDirty, isHeadDirty, hdetached, hlast,
        hat, hstate], ?_, rfl⟩
      have hend := h.atEnd hlast
      exact
        { recorded := hend.recorded
          atState := hend.atState
          saved := ⟨base, by rw [← hlast]; exact hbase,
            hstate.trans hend.state_eq⟩
          exact := Or.inr hend.state_eq
          next_le := hend.next_le }
    · refine ⟨sim.makeSnapshot, by simp [Simulator.saveIfDirty, isHeadDirty,
        hdetached, hlast, hat, hstate], ?_, rfl⟩
      refine ((h.atEnd hlast).makeSnapshot ?_).1
      intro entry hentry
      rw [hbase] at hentry
      rw [← Option.some.inj hentry]
      omega
  · exact ⟨sim, by simp [Simulator.saveIfDirty, isHeadDirty, hdetached, hlast],
      h.clean hlast, rfl⟩

/-- The automatic snapshot after a step. -/
theorem AtEnd.snapshotIfDue (h : AtEnd history simulatable timeline sim) :
    ∃ sim', sim.snapshotIfDue = some sim' ∧
      AtEnd history simulatable timeline sim' ∧
      sim'.head.stateIndex = sim.head.stateIndex := by
  obtain ⟨base, hbase, hle⟩ := h.atState.base
  have hidx : sim.snapshots.length - 1 = sim.head.baseSnapshotIndex := by
    have := h.last
    omega
  have hlast := headAtLastSnapshot_eq (hidx ▸ hbase)
  by_cases hdue : sim.head.stateIndex - base.1.stateIndex > 2048
  · refine ⟨sim.makeSnapshot, by simp [Simulator.snapshotIfDue,
      shouldCreateSnapshot, stepsSinceLastSnapshot, hlast,
      StateIndex.stepsSince, hdue], (h.makeSnapshot ?_).2, rfl⟩
    intro entry hentry
    rw [hbase] at hentry
    rw [← Option.some.inj hentry]
    omega
  · exact ⟨sim, by simp [Simulator.snapshotIfDue, shouldCreateSnapshot,
      stepsSinceLastSnapshot, hlast, StateIndex.stepsSince, hdue], h, rfl⟩

/-! ## Reverting -/

/-- Reverting to a snapshot. -/
theorem Clean.goToSnapshot (h : Clean history simulatable timeline sim)
    {i : Nat} {entry : Head × SnapshotId}
    (hentry : sim.snapshots[i]? = some entry) :
    ∃ sim', sim.goToSnapshot i = some sim' ∧
      Clean history simulatable timeline sim' ∧
      sim'.head.stateIndex = entry.1.stateIndex ∧
      sim'.head.baseSnapshotIndex = i ∧
      sim'.snapshots = sim.snapshots := by
  have hmem := List.mem_of_getElem? hentry
  by_cases hstate : sim.head.stateIndex = entry.1.stateIndex
  · -- the early return: HEAD is there already, and so is its base
    refine ⟨sim, by simp [Simulator.goToSnapshot, hentry, hstate], h, hstate,
      ?_, rfl⟩
    have hle := (h.recorded.le_base_iff h.atState hentry).1 (by omega)
    obtain ⟨base, hbase, hbasele⟩ := h.atState.base
    rcases Nat.lt_or_ge i sim.head.baseSnapshotIndex with hlt | hge
    · have := h.recorded.lt_of_lt hentry hbase hlt
      omega
    · omega
  · obtain ⟨allocator, hcheckout, hview, hcaptured⟩ :=
      LawfulSnapshotStore.checkout_spec sim.allocator entry.2 _
        (h.recorded.captured_eq entry hmem)
    have hnextTick : partitionPoint
        (fun tick : Nat × Tick S A =>
          StepIndex.ltState tick.1 entry.1.stateIndex) sim.customTicks =
        (marks (timeline.take entry.1.stateIndex)).length := by
      rw [← takeWhile_marks, h.recorded.customTicks_eq, partitionPoint]
      simp only [StepIndex.ltState_eq]
    let moved : Simulator S A SnapshotId :=
      { sim with
        allocator := allocator
        head :=
          { stateIndex := entry.1.stateIndex
            baseSnapshotIndex := i
            nextCustomTickIndex := partitionPoint
              (fun tick : Nat × Tick S A =>
                StepIndex.ltState tick.1 entry.1.stateIndex)
              sim.customTicks } }
    refine ⟨moved,
      by simp [Simulator.goToSnapshot, hentry, hstate, hcheckout, moved],
      ?_, rfl, rfl, rfl⟩
    exact
      { recorded := h.recorded.of_eq rfl rfl rfl hcaptured
        atState :=
          { within := h.recorded.within entry hmem
            base := ⟨entry, hentry, Nat.le_refl _⟩
            next := fun newer hnewer =>
              h.recorded.lt_of_lt hentry hnewer (Nat.lt_succ_self i)
            view_eq := hview }
        saved := h.saved
        exact := Or.inl hnextTick
        next_le := by
          show partitionPoint _ sim.customTicks ≤ sim.customTicks.length
          exact (List.takeWhile_prefix _).length_le }

/-- Going to the base snapshot of a later or earlier state, unless replaying
from HEAD gets there. -/
theorem Clean.goToBase (h : Clean history simulatable timeline sim)
    {target i : Nat}
    (hbefore : ∃ entry, sim.snapshots[i]? = some entry ∧
      entry.1.stateIndex ≤ target) :
    ∃ sim', sim.goToBase i target = some sim' ∧
      Clean history simulatable timeline sim' ∧
      sim'.head.stateIndex ≤ target ∧ sim'.head.baseSnapshotIndex = i ∧
      sim'.snapshots = sim.snapshots := by
  obtain ⟨entry, hentry, hle⟩ := hbefore
  by_cases hgo : i ≠ sim.head.baseSnapshotIndex ∨ target < sim.head.stateIndex
  · obtain ⟨sim', hrun, hclean, hstate, hbase, hsnapshots⟩ :=
      h.goToSnapshot hentry
    exact ⟨sim', by rw [Simulator.goToBase, if_pos hgo, hrun], hclean,
      by omega, hbase, hsnapshots⟩
  · exact ⟨sim, by rw [Simulator.goToBase, if_neg hgo], h, by omega, by omega,
      rfl⟩

/-- Reverting to any recorded state. -/
theorem Clean.goToState (h : Clean history simulatable timeline sim)
    (target : Nat) (htarget : target ≤ timeline.length) :
    ∃ sim', sim.goToState target = some sim' ∧
      Clean history simulatable timeline sim' ∧
      sim'.head.stateIndex = target ∧ sim'.snapshots = sim.snapshots := by
  by_cases heq : sim.head.stateIndex = target
  · exact ⟨sim, by simp [Simulator.goToState, heq], h, heq, rfl⟩
  · obtain ⟨i, hfind, hbefore, hafter⟩ := h.recorded.findBaseSnapshot target
    obtain ⟨sim₁, hgo, hclean, hle, hbase, hsnapshots⟩ := h.goToBase hbefore
    obtain ⟨sim₂, hrun, hclean₂, hstate, -, hsnapshots₂⟩ :=
      hclean.replayTo target hle htarget (by rw [hbase, hsnapshots]; exact hafter)
    refine ⟨sim₂, ?_, hclean₂, hstate, hsnapshots₂.trans hsnapshots⟩
    simp only [Simulator.goToState, heq, if_false, hfind, Option.bind_eq_bind,
      Option.bind_some, hgo, hrun]

end RedPlanet.Simulator
