import RedPlanet.Simulator.Moves

/-!
# The operations of the simulator

Each public operation, from a well-formed state: it does not panic, it ends in
a well-formed state for the timeline it is meant to leave behind, and HEAD is
where it should be.  Stepping cuts the timeline at HEAD and appends a tick;
all other operations only move HEAD.
-/

namespace RedPlanet.Simulator

open SnapshotStore Verified.Timeline

variable {S A V SnapshotId R : Type} [SnapshotStore A V SnapshotId]
  [Simulatable S A] {history : Nat → A} {simulatable : S}
  {timeline : List (TimelineTick S A)} {sim : Simulator S A SnapshotId}

/-! ## Ticking at the end of history -/

/-- Applying one more tick at the end of history, whatever is recorded as the
next custom tick.  A last state that is not saved is from then on what is
replayed for it. -/
theorem AtEnd.extend (h : AtEnd history simulatable timeline sim)
    (tick : TimelineTick S A)
    (hdet : Deterministic (TimelineTick.run simulatable tick))
    (sim' : Simulator S A SnapshotId)
    (hsimulatable : sim'.simulatable = sim.simulatable)
    (hsnapshots : sim'.snapshots = sim.snapshots)
    (hbase : sim'.head.baseSnapshotIndex = sim.head.baseSnapshotIndex)
    (hallocator : sim'.allocator =
      TimelineTick.run simulatable tick sim.allocator)
    (hstate : sim'.head.stateIndex = sim.head.stateIndex + 1)
    (hcustom : sim'.customTicks = marks (timeline ++ [tick]))
    (hnext : sim'.head.nextCustomTickIndex ≤ sim'.customTicks.length) :
    ∃ history', AtEnd history' simulatable (timeline ++ [tick]) sim' ∧
      Continues simulatable timeline history (timeline ++ [tick]) history' := by
  have hlen : (timeline ++ [tick]).length = timeline.length + 1 :=
    List.length_append
  have hget : (timeline ++ [tick])[timeline.length]? = some tick :=
    List.getElem?_concat_length
  have hend := h.state_eq
  have hview := h.atState.view_eq
  rw [hend] at hview
  let next : Nat → A := fun k =>
    if k ≤ timeline.length then history k
    else TimelineTick.run simulatable tick (history timeline.length)
  have hnextOld : ∀ k ≤ timeline.length, next k = history k :=
    fun k hk => if_pos hk
  have hnextNew : next (timeline.length + 1) =
      TimelineTick.run simulatable tick (history timeline.length) :=
    if_neg (by omega)
  have hstored : Stored next simulatable (timeline ++ [tick]) sim' :=
    { simulatable_eq := hsimulatable.trans h.recorded.simulatable_eq
      deterministic := by
        intro t ht
        rcases List.mem_append.1 ht with ht | ht
        · exact h.recorded.deterministic t ht
        · rw [List.mem_singleton.1 ht]
          exact hdet
      first := hsnapshots ▸ h.recorded.first
      increasing := hsnapshots ▸ h.recorded.increasing
      ownIndex := hsnapshots ▸ h.recorded.ownIndex
      within := by
        intro entry hmem
        rw [hsnapshots] at hmem
        have := h.recorded.within entry hmem
        omega
      captured_eq := by
        intro entry hmem
        rw [hsnapshots] at hmem
        rw [hallocator, hdet.captured_eq, h.recorded.captured_eq entry hmem,
          hnextOld _ (h.recorded.within entry hmem)]
      distinct := hsnapshots ▸ h.recorded.distinct
      customTicks_eq := hcustom }
  obtain ⟨history', hrecorded, hlast, hcontinues⟩ := hstored.rebuild
  obtain ⟨base, hget', hle⟩ := h.atState.base
  refine ⟨history', ?_, ?_⟩
  · exact
      { recorded := hrecorded
        atState :=
          { within := by omega
            base := ⟨base, by rw [hsnapshots, hbase]; exact hget', by omega⟩
            next := by
              intro entry hentry
              rw [hsnapshots, hbase] at hentry
              have := (List.getElem?_eq_some_iff.1 hentry).1
              have := h.last
              omega
            view_eq := by
              rw [hlen, hnextNew] at hlast
              rw [hallocator, hstate, hend, hlast]
              exact hdet.view_congr _ _ hview }
        last := by rw [hbase, hsnapshots]; exact h.last
        state_eq := by omega
        next_le := hnext }
  · intro initial hintact
    refine hcontinues initial fun k hk => ?_
    rcases Nat.lt_or_ge timeline.length k with hgt | hle
    · have hk' : k = timeline.length + 1 := by omega
      rw [hk', hnextNew, stateAfter, stateAt_succ _ hget,
        stateAt_append_of_le _ (Nat.le_refl _)]
      exact hdet.view_congr _ _ (hintact _ (Nat.le_refl _))
    · rw [hnextOld k hle, stateAfter, stateAt_append_of_le _ hle]
      exact hintact k hle

/-- Replaying past the end of history applies the default tick: every
recorded custom tick belongs to an earlier step. -/
theorem AtEnd.replayStep (h : AtEnd history simulatable timeline sim)
    (hdet : Deterministic (Simulatable.tick simulatable : A → A)) :
    ∃ history', AtEnd history' simulatable (timeline ++ [none])
        sim.replayStep ∧
      Continues simulatable timeline history (timeline ++ [none]) history' := by
  have hdefault : ∀ mark,
      sim.customTicks[sim.head.nextCustomTickIndex]? = some mark →
        mark.1 ≠ sim.head.stateIndex := by
    intro mark hmark
    have hmem := List.mem_of_getElem? hmark
    rw [h.recorded.customTicks_eq] at hmem
    have := (bounds_of_mem_marksFrom hmem).2
    have := h.state_eq
    omega
  have hcustom : sim.customTicks = marks (timeline ++ [none]) :=
    h.recorded.customTicks_eq.trans (marks_concat_none _).symm
  rw [replayStep_default hdefault]
  exact h.extend none hdet _ rfl rfl rfl
    (by rw [h.recorded.simulatable_eq]; rfl) rfl hcustom h.next_le

theorem AtEnd.replaySteps
    (hdet : Deterministic (Simulatable.tick simulatable : A → A)) (n : Nat) :
    ∀ {history : Nat → A} {timeline : List (TimelineTick S A)}
      {sim : Simulator S A SnapshotId},
      AtEnd history simulatable timeline sim →
      ∃ history', AtEnd history' simulatable
          (timeline ++ List.replicate n none) (sim.replaySteps n) ∧
        Continues simulatable timeline history
          (timeline ++ List.replicate n none) history' := by
  induction n with
  | zero =>
      intro history timeline sim h
      rw [List.replicate_zero, List.append_nil]
      exact ⟨history, h, fun _ => id⟩
  | succ n ih =>
      intro history timeline sim h
      obtain ⟨history₁, hstep, hcontinues₁⟩ := h.replayStep hdet
      obtain ⟨history₂, hrest, hcontinues₂⟩ := ih hstep
      rw [List.append_assoc] at hrest hcontinues₂
      exact ⟨history₂, hrest, fun initial hintact =>
        hcontinues₂ initial (hcontinues₁ initial hintact)⟩

/-! ## Clearing the forward history -/

variable [LawfulSnapshotStore A V SnapshotId]

private theorem dropSnapshots_spec (entries : List (Head × SnapshotId)) :
    ∀ allocator : A,
      (entries.map (·.2)).Nodup →
      (∀ entry ∈ entries, ∃ v, captured allocator entry.2 = some v) →
      ∃ allocator', dropSnapshots entries allocator = some allocator' ∧
        view allocator' = view allocator ∧
        ∀ id, id ∉ entries.map (·.2) →
          captured allocator' id = captured allocator id := by
  induction entries with
  | nil => intro allocator _ _; exact ⟨allocator, rfl, rfl, fun _ _ => rfl⟩
  | cons entry entries ih =>
      intro allocator hnodup hcaptured
      rw [List.map_cons, List.nodup_cons] at hnodup
      obtain ⟨v, hv⟩ := hcaptured entry List.mem_cons_self
      obtain ⟨dropped, hdrop, hview, hkept⟩ :=
        LawfulSnapshotStore.dropSnapshot_spec allocator entry.2 v hv
      have hrest : ∀ other ∈ entries,
          ∃ v, captured dropped other.2 = some v := by
        intro other hother
        have hne : other.2 ≠ entry.2 := by
          intro heq
          exact hnodup.1 (heq ▸ List.mem_map_of_mem hother)
        rw [hkept other.2 hne]
        exact hcaptured other (List.mem_cons_of_mem _ hother)
      obtain ⟨allocator', hrun, hview', hkept'⟩ := ih dropped hnodup.2 hrest
      refine ⟨allocator', ?_, hview'.trans hview, ?_⟩
      · simp [dropSnapshots, hdrop, hrun]
      · intro id hid
        rw [List.map_cons, List.mem_cons, not_or] at hid
        exact (hkept' id hid.2).trans (hkept id hid.1)

/-- What clearing the forward history leaves: the snapshots up to the base
snapshot and the custom ticks before the next one. -/
theorem WellFormed.clearForwardHistory
    (h : WellFormed history simulatable timeline sim) :
    ∃ allocator, sim.clearForwardHistory =
        some { sim with
          allocator := allocator
          snapshots := sim.snapshots.take (sim.head.baseSnapshotIndex + 1)
          customTicks := sim.customTicks.take sim.head.nextCustomTickIndex } ∧
      view allocator = view sim.allocator ∧
      ∀ entry ∈ sim.snapshots.take (sim.head.baseSnapshotIndex + 1),
        captured allocator entry.2 = captured sim.allocator entry.2 := by
  have hbase := h.atState.base_lt
  have hnodup := h.recorded.distinct
  rw [← List.take_append_drop (sim.head.baseSnapshotIndex + 1) sim.snapshots,
    List.map_append, List.nodup_append] at hnodup
  obtain ⟨allocator, hdrop, hview, hkept⟩ := dropSnapshots_spec
    (sim.snapshots.drop (sim.head.baseSnapshotIndex + 1)) sim.allocator
    hnodup.2.1 (fun entry hmem =>
      ⟨_, h.recorded.captured_eq entry (List.mem_of_mem_drop hmem)⟩)
  refine ⟨allocator, ?_, hview, ?_⟩
  · have hlen : ¬ sim.snapshots.length < sim.head.baseSnapshotIndex + 1 := by
      omega
    simp [Simulator.clearForwardHistory, hlen, hdrop]
  · intro entry hmem
    refine hkept entry.2 (fun hdropped => ?_)
    exact hnodup.2.2 _ (List.mem_map_of_mem hmem) _ hdropped rfl

omit [LawfulSnapshotStore A V SnapshotId] in
/-- What is recorded up to HEAD, in an allocator that keeps the snapshots up
to the base snapshot. -/
theorem Recorded.take (h : Recorded history simulatable timeline sim)
    (hat : AtState history timeline sim) {allocator : A}
    (hkept : ∀ entry ∈ sim.snapshots.take (sim.head.baseSnapshotIndex + 1),
      captured allocator entry.2 = captured sim.allocator entry.2)
    (hcustom : sim.customTicks.take sim.head.nextCustomTickIndex =
      marks (timeline.take sim.head.stateIndex)) :
    Recorded history simulatable (timeline.take sim.head.stateIndex)
      { sim with
        allocator := allocator
        snapshots := sim.snapshots.take (sim.head.baseSnapshotIndex + 1)
        customTicks := sim.customTicks.take sim.head.nextCustomTickIndex } := by
  have hwithin := hat.within
  have hlen := hat.length_take
  -- an entry of the shorter list is at the same place in the longer one
  have hindex : ∀ {i : Nat} {entry : Head × SnapshotId},
      (sim.snapshots.take (sim.head.baseSnapshotIndex + 1))[i]? = some entry →
      i ≤ sim.head.baseSnapshotIndex ∧ sim.snapshots[i]? = some entry := by
    intro i entry hi
    have hlt := (List.getElem?_eq_some_iff.1 hi).1
    rw [List.length_take] at hlt
    rw [List.getElem?_take_of_lt (by omega)] at hi
    exact ⟨by omega, hi⟩
  exact
    { simulatable_eq := h.simulatable_eq
      deterministic := fun tick htick =>
        h.deterministic tick (List.mem_of_mem_take htick)
      first := by
        obtain ⟨entry, hentry, hzero⟩ := h.first
        refine ⟨entry, ?_, hzero⟩
        rw [← hentry]
        exact List.getElem?_take_of_lt (Nat.succ_pos _)
      increasing := h.increasing.sublist (List.take_sublist _ _)
      ownIndex := fun i entry hi => h.ownIndex i entry (hindex hi).2
      within := by
        intro entry hmem
        obtain ⟨i, hi⟩ := List.mem_iff_getElem?.1 hmem
        rw [hlen]
        exact (h.le_base_iff hat (hindex hi).2).2 (hindex hi).1
      captured_eq := fun entry hmem => (hkept entry hmem).trans
        (h.captured_eq entry (List.mem_of_mem_take hmem))
      distinct := h.distinct.sublist ((List.take_sublist _ _).map _)
      customTicks_eq := hcustom
      replayed := by
        intro k tick hget hk hunsaved
        rw [hlen] at hk
        rw [List.getElem?_take_of_lt (by omega)] at hget
        refine h.replayed k tick hget (by omega) ?_
        intro entry hmem heq
        obtain ⟨i, hi⟩ := List.mem_iff_getElem?.1 hmem
        have hbase := (h.le_base_iff hat hi).1 (by omega)
        refine hunsaved entry (List.mem_of_getElem? (i := i) ?_) heq
        rw [← hi]
        exact List.getElem?_take_of_lt (by omega) }

/-- With an exact next custom tick, the timeline is cut at HEAD. -/
theorem WellFormed.clear_atEnd
    (h : WellFormed history simulatable timeline sim)
    (hexact : ExactNext timeline sim) :
    ∃ sim', sim.clearForwardHistory = some sim' ∧
      AtEnd history simulatable (timeline.take sim.head.stateIndex) sim' ∧
      sim'.head = sim.head := by
  obtain ⟨allocator, hrun, hview, hkept⟩ := h.clearForwardHistory
  refine ⟨_, hrun, ?_, rfl⟩
  have hwithin := h.atState.within
  have hlen := h.atState.length_take
  have hlenTake : (sim.snapshots.take
      (sim.head.baseSnapshotIndex + 1)).length =
        sim.head.baseSnapshotIndex + 1 := by
    have := h.atState.base_lt
    rw [List.length_take]
    omega
  have hcustom : sim.customTicks.take sim.head.nextCustomTickIndex =
      marks (timeline.take sim.head.stateIndex) := by
    rw [h.recorded.customTicks_eq, hexact]
    exact take_marks timeline _
  obtain ⟨base, hget, hle⟩ := h.atState.base
  exact
    { recorded := h.recorded.take h.atState hkept hcustom
      atState :=
        { within := Nat.le_of_eq hlen.symm
          base := by
            refine ⟨base, ?_, hle⟩
            rw [← hget]
            exact List.getElem?_take_of_lt (Nat.lt_succ_self _)
          next := by
            intro entry hentry
            have := (List.getElem?_eq_some_iff.1 hentry).1
            rw [hlenTake] at this
            exact absurd this (Nat.lt_irrefl _)
          view_eq := hview.trans h.atState.view_eq }
      last := hlenTake.symm
      state_eq := hlen.symm
      next_le := by
        show sim.head.nextCustomTickIndex ≤
          (sim.customTicks.take sim.head.nextCustomTickIndex).length
        rw [hcustom]
        exact Nat.le_of_eq hexact }

/-- Before a step, the timeline is cut at HEAD. -/
theorem WellFormed.clearIfDetached
    (h : WellFormed history simulatable timeline sim) :
    ∃ sim', sim.clearIfDetached = some sim' ∧
      AtEnd history simulatable (timeline.take sim.head.stateIndex) sim' ∧
      sim'.head = sim.head := by
  have hdetached := isHeadDetached_eq h.recorded.length_pos
  by_cases hlast : sim.head.baseSnapshotIndex + 1 = sim.snapshots.length
  · refine ⟨sim, by simp [Simulator.clearIfDetached, hdetached, hlast], ?_, rfl⟩
    have hend := h.atEnd hlast
    rw [hend.state_eq, List.take_length]
    exact hend
  · have hclean := h.clean hlast
    have hlt : sim.head.stateIndex < timeline.length := by
      have := hclean.state_eq_iff
      have := h.atState.within
      omega
    obtain ⟨sim', hrun, hend, hhead⟩ := h.clear_atEnd (hclean.exact_of_lt hlt)
    exact ⟨sim', by simp [Simulator.clearIfDetached, hdetached, hlast, hrun],
      hend, hhead⟩

/-! ## Stepping -/

theorem WellFormed.step (h : WellFormed history simulatable timeline sim)
    (hdet : Deterministic (Simulatable.tick simulatable : A → A)) :
    ∃ history' sim', sim.step = some sim' ∧
      WellFormed history' simulatable
        (cutAppend timeline sim.head.stateIndex none) sim' ∧
      Continues simulatable timeline history
        (cutAppend timeline sim.head.stateIndex none) history' ∧
      sim'.head.stateIndex = sim.head.stateIndex + 1 := by
  obtain ⟨sim₁, hclear, hend, hhead⟩ := h.clearIfDetached
  obtain ⟨history', hticked, hcontinues⟩ := hend.extend none hdet
    { sim₁ with
      allocator := Simulatable.tick sim₁.simulatable sim₁.allocator
      head := { sim₁.head with stateIndex := sim₁.head.stateIndex + 1 } }
    rfl rfl rfl (by rw [hend.recorded.simulatable_eq]; rfl) rfl
    (hend.recorded.customTicks_eq.trans (marks_concat_none _).symm) hend.next_le
  obtain ⟨sim₂, hsnapshot, hend₂, hstate⟩ := hticked.snapshotIfDue
  refine ⟨history', sim₂, ?_, Or.inr hend₂, ?_, by rw [hstate, hhead]⟩
  · simp only [Simulator.step, hclear, Option.bind_eq_bind, Option.bind_some,
      StateIndex.next, hsnapshot]
  · exact fun initial hintact => hcontinues initial
      (Continues.take h.atState.within initial hintact)

theorem WellFormed.stepWith (h : WellFormed history simulatable timeline sim)
    (name : String) (customTick : S → A → R × A)
    (hdet : Deterministic fun allocator =>
      (customTick simulatable allocator).2) :
    ∃ history' result sim', sim.stepWith name customTick = some (result, sim') ∧
      WellFormed history' simulatable
        (cutAppend timeline sim.head.stateIndex
          (some { name := name, tick := fun s a => (customTick s a).2 }))
        sim' ∧
      Continues simulatable timeline history
        (cutAppend timeline sim.head.stateIndex
          (some { name := name, tick := fun s a => (customTick s a).2 }))
        history' ∧
      sim'.head.stateIndex = sim.head.stateIndex + 1 := by
  obtain ⟨sim₁, hclear, hend, hhead⟩ := h.clearIfDetached
  let tick : Tick S A := { name := name, tick := fun s a => (customTick s a).2 }
  let ticked : Simulator S A SnapshotId :=
    { sim₁ with
      allocator := (customTick sim₁.simulatable sim₁.allocator).2
      customTicks := sim₁.customTicks ++ [(sim₁.head.stateIndex, tick)]
      head := { sim₁.head with
        stateIndex := sim₁.head.stateIndex + 1
        nextCustomTickIndex := sim₁.customTicks.length } }
  have hcustom : ticked.customTicks =
      marks (timeline.take sim.head.stateIndex ++ [some tick]) := by
    rw [marks_concat_some, ← hend.recorded.customTicks_eq, ← hend.state_eq]
  obtain ⟨history', hticked, hcontinues⟩ := hend.extend (some tick) hdet ticked
    rfl rfl rfl (by rw [← hend.recorded.simulatable_eq]; rfl) rfl hcustom
    (by simp [ticked])
  obtain ⟨sim₂, hsnapshot, hend₂, hstate⟩ := hticked.snapshotIfDue
  refine ⟨history', (customTick sim₁.simulatable sim₁.allocator).1, sim₂, ?_,
    Or.inr hend₂, ?_, by rw [hstate, ← hhead]⟩
  · have hrun : sim.stepWith name customTick = ticked.snapshotIfDue.bind
        fun sim' =>
          some ((customTick sim₁.simulatable sim₁.allocator).1, sim') := by
      simp only [Simulator.stepWith, hclear]
      rfl
    rw [hrun, hsnapshot]
    rfl
  · exact fun initial hintact => hcontinues initial
      (Continues.take h.atState.within initial hintact)

/-! ## Moving HEAD -/

theorem WellFormed.undoStep (h : WellFormed history simulatable timeline sim) :
    ∃ moved sim', sim.undoStep = some (moved, sim') ∧
      WellFormed history simulatable timeline sim' ∧
      sim'.head.stateIndex = sim.head.stateIndex - 1 := by
  by_cases hzero : sim.head.stateIndex = 0
  · exact ⟨false, sim, by simp [Simulator.undoStep, StateIndex.previous, hzero],
      h, by omega⟩
  · have hwithin := h.atState.within
    obtain ⟨sim₁, hsave, hclean, hstate⟩ := h.saveIfDirty
    obtain ⟨sim₂, hgo, hclean₂, hstate₂, -⟩ :=
      hclean.goToState (sim.head.stateIndex - 1) (by omega)
    exact ⟨true, sim₂, by simp [Simulator.undoStep, StateIndex.previous, hzero,
      hsave, hgo], Or.inl hclean₂, hstate₂⟩

theorem WellFormed.redoStep (h : WellFormed history simulatable timeline sim) :
    ∃ moved sim', sim.redoStep = some (moved, sim') ∧
      WellFormed history simulatable timeline sim' ∧
      sim'.head.stateIndex = min (sim.head.stateIndex + 1) timeline.length := by
  have hdetached := isHeadDetached_eq h.recorded.length_pos
  by_cases hlast : sim.head.baseSnapshotIndex + 1 = sim.snapshots.length
  · have hend := (h.atEnd hlast).state_eq
    exact ⟨false, sim, by simp [Simulator.redoStep, hdetached, hlast], h,
      by omega⟩
  · have hclean := h.clean hlast
    have hlt : sim.head.stateIndex < timeline.length := by
      have := hclean.state_eq_iff
      have := h.atState.within
      omega
    obtain ⟨sim₁, hgo, hclean₁, hstate, -⟩ :=
      hclean.goToState (sim.head.stateIndex + 1) hlt
    exact ⟨true, sim₁, by simp [Simulator.redoStep, hdetached, hlast,
      StateIndex.next, hgo], Or.inl hclean₁, by omega⟩

/-- Going to a recorded state. -/
theorem WellFormed.goTo (h : WellFormed history simulatable timeline sim)
    (steps : Nat) (hsteps : steps ≤ timeline.length) :
    ∃ sim', sim.goTo steps = some sim' ∧
      WellFormed history simulatable timeline sim' ∧
      sim'.head.stateIndex = steps := by
  obtain ⟨sim₁, hsave, hclean, -⟩ := h.saveIfDirty
  obtain ⟨sim₂, hgo, hclean₂, hstate, -⟩ := hclean.goToState steps hsteps
  exact ⟨sim₂, by simp [Simulator.goTo, hsave, hgo], Or.inl hclean₂, hstate⟩

/-- Going past the end of history extends it with default ticks. -/
theorem WellFormed.goTo_beyond
    (h : WellFormed history simulatable timeline sim)
    (hdet : Deterministic (Simulatable.tick simulatable : A → A))
    {steps : Nat} (hsteps : timeline.length < steps) :
    ∃ history' sim', sim.goTo steps = some sim' ∧
      WellFormed history' simulatable
        (timeline ++ List.replicate (steps - timeline.length) none) sim' ∧
      Continues simulatable timeline history
        (timeline ++ List.replicate (steps - timeline.length) none) history' ∧
      sim'.head.stateIndex = steps := by
  obtain ⟨sim₁, hsave, hclean, -⟩ := h.saveIfDirty
  have hne : sim₁.head.stateIndex ≠ steps := by
    have := hclean.atState.within
    omega
  obtain ⟨i, hfind, hbefore, hafter⟩ := hclean.recorded.findBaseSnapshot steps
  obtain ⟨sim₂, hgo, hclean₂, hle, hbase, hsnapshots⟩ := hclean.goToBase hbefore
  -- every snapshot is at or before `steps`, so the base is the last one
  have hlast : sim₂.head.baseSnapshotIndex + 1 = sim₂.snapshots.length := by
    have hlt := hclean₂.atState.base_lt
    by_contra hne'
    have hi : i + 1 < sim₁.snapshots.length := by
      rw [hbase, hsnapshots] at hlt hne'
      omega
    have hget := List.getElem?_eq_getElem hi
    have := hafter _ hget
    have := hclean.recorded.within _ (List.mem_of_getElem? hget)
    omega
  have hend := hclean₂.atEnd hlast
  have hstate := hend.state_eq
  obtain ⟨history', hrest, hcontinues⟩ :=
    hend.replaySteps hdet (steps - sim₂.head.stateIndex)
  refine ⟨history', sim₂.replaySteps (steps - sim₂.head.stateIndex), ?_,
    Or.inr ?_, ?_, ?_⟩
  · simp [Simulator.goTo, hsave, Simulator.goToState, hne, hfind, hgo,
      Simulator.replayTo, hle]
  · rw [← hstate]
    exact hrest
  · rw [← hstate]
    exact hcontinues
  · have := hrest.state_eq
    rw [List.length_append, List.length_replicate] at this
    omega

end RedPlanet.Simulator
