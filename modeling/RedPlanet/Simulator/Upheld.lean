import RedPlanet.Simulator.TimeTravel

/-!
# What the ticks uphold

The simulator changes its allocator in four ways only: it makes, checks out
and drops snapshots, and it runs ticks.  A property of the allocator that all
of these keep holds after any operation.  Which ticks are replayed does not
matter, nor whether they are those of the timeline.

`Kept` is such a property and `Upholds` what a simulator is then to keep, with
a lemma for each of its functions.  `Roams` is the same for a property of the
simulator, over the functions that a search uses, and `Attached` is HEAD at
the end of history, where stepping does nothing but to step.
-/

namespace RedPlanet.Simulator

open SnapshotStore

variable {S A V SnapshotId R κ : Type} [SnapshotStore A V SnapshotId]
  [Simulatable S A]

/-- A property that snapshots and default ticks keep. -/
structure Kept (S : Type) {A V SnapshotId : Type} [SnapshotStore A V SnapshotId]
    [Simulatable S A] (P : A → Prop) : Prop where
  makeSnapshot : ∀ a : A, P a → P (SnapshotStore.makeSnapshot a).2
  checkout : ∀ (a a' : A) (id : SnapshotId), P a →
    SnapshotStore.checkout id a = some a' → P a'
  dropSnapshot : ∀ (a a' : A) (id : SnapshotId), P a →
    SnapshotStore.dropSnapshot id a = some a' → P a'
  tick : ∀ (s : S) (a : A), P a → P (Simulatable.tick s a)

/-- The allocator has the property, and the recorded custom ticks keep it. -/
structure Upholds (P : A → Prop) (sim : Simulator S A SnapshotId) : Prop where
  holds : P sim.allocator
  ticks : ∀ tick ∈ sim.customTicks, ∀ (s : S) (a : A), P a →
    P (tick.2.tick s a)

variable {P : A → Prop} {sim sim' : Simulator S A SnapshotId}

/-! ## Moving HEAD -/

theorem Kept.new (h : Kept S P) {simulatableConstructor : A → S × A}
    (hconstructed : P (simulatableConstructor SnapshotStore.new).2) :
    Upholds P (Simulator.new simulatableConstructor :
      Simulator S A SnapshotId) where
  holds := h.makeSnapshot _ hconstructed
  ticks := fun tick hmem => absurd hmem (by simp [Simulator.new])

namespace Upholds

theorem makeSnapshot (hkept : Kept S P) (h : Upholds P sim) :
    Upholds P sim.makeSnapshot where
  holds := hkept.makeSnapshot _ h.holds
  ticks := h.ticks

theorem saveIfDirty (hkept : Kept S P) (h : Upholds P sim)
    (hrun : sim.saveIfDirty = some sim') : Upholds P sim' := by
  rcases saveIfDirty_cases hrun with hsame | hsame
  · rw [hsame]
    exact h.makeSnapshot hkept
  · rw [hsame]
    exact h

theorem snapshotIfDue (hkept : Kept S P) (h : Upholds P sim)
    (hrun : sim.snapshotIfDue = some sim') : Upholds P sim' := by
  rcases snapshotIfDue_cases hrun with hsame | hsame
  · rw [hsame]
    exact h.makeSnapshot hkept
  · rw [hsame]
    exact h

theorem replayStep (hkept : Kept S P) (h : Upholds P sim) :
    Upholds P sim.replayStep := by
  have hdefault := hkept.tick sim.simulatable _ h.holds
  cases hget : sim.customTicks[sim.head.nextCustomTickIndex]? with
  | none =>
      unfold Simulator.replayStep
      rw [hget]
      exact ⟨hdefault, h.ticks⟩
  | some mark =>
      have hcustom := h.ticks mark (List.mem_of_getElem? hget) sim.simulatable
        _ h.holds
      unfold Simulator.replayStep
      rw [hget]
      dsimp only
      by_cases hstep : mark.1 = StateIndex.nextStep sim.head.stateIndex
      · rw [if_pos hstep]
        exact ⟨hcustom, h.ticks⟩
      · rw [if_neg hstep]
        exact ⟨hdefault, h.ticks⟩

theorem replaySteps (hkept : Kept S P) (n : Nat) :
    ∀ {sim : Simulator S A SnapshotId}, Upholds P sim →
      Upholds P (sim.replaySteps n) := by
  induction n with
  | zero => exact fun h => h
  | succ n ih => exact fun h => ih (h.replayStep hkept)

/-- A replay runs ticks and nothing else. -/
theorem replayTo (hkept : Kept S P) (h : Upholds P sim) {target : Nat}
    (hrun : sim.replayTo target = some sim') : Upholds P sim' := by
  unfold Simulator.replayTo at hrun
  split at hrun
  · cases hrun
    exact h.replaySteps hkept _
  · cases hrun

theorem goToSnapshot (hkept : Kept S P) (h : Upholds P sim)
    {snapshotIndex : Nat} (hrun : sim.goToSnapshot snapshotIndex = some sim') :
    Upholds P sim' := by
  obtain ⟨entry, -, hrun⟩ := Option.bind_eq_some_iff.1 hrun
  split at hrun
  · cases hrun
    exact h
  · obtain ⟨allocator, hcheckout, hrun⟩ := Option.bind_eq_some_iff.1 hrun
    cases hrun
    exact ⟨hkept.checkout _ _ _ h.holds hcheckout, h.ticks⟩

theorem goToBase (hkept : Kept S P) (h : Upholds P sim)
    {targetBase target : Nat}
    (hrun : sim.goToBase targetBase target = some sim') : Upholds P sim' := by
  unfold Simulator.goToBase at hrun
  split at hrun
  · exact h.goToSnapshot hkept hrun
  · cases hrun
    exact h

theorem goToState (hkept : Kept S P) (h : Upholds P sim) {target : Nat}
    (hrun : sim.goToState target = some sim') : Upholds P sim' := by
  unfold Simulator.goToState at hrun
  split at hrun
  · cases hrun
    exact h
  · obtain ⟨targetBase, -, hrun⟩ := Option.bind_eq_some_iff.1 hrun
    obtain ⟨sim₁, hbase, hrun⟩ := Option.bind_eq_some_iff.1 hrun
    exact (h.goToBase hkept hbase).replayTo hkept hrun

/-! ## Stepping -/

theorem dropSnapshots (hkept : Kept S P) (entries : List (Head × SnapshotId)) :
    ∀ {a a' : A}, P a → Simulator.dropSnapshots entries a = some a' →
      P a' := by
  induction entries with
  | nil =>
      intro a a' h hrun
      cases hrun
      exact h
  | cons entry rest ih =>
      intro a a' h hrun
      obtain ⟨a₁, hdrop, hrun⟩ := Option.bind_eq_some_iff.1 hrun
      exact ih (hkept.dropSnapshot _ _ _ h hdrop) hrun

theorem clearForwardHistory (hkept : Kept S P) (h : Upholds P sim)
    (hrun : sim.clearForwardHistory = some sim') : Upholds P sim' := by
  obtain ⟨allocator, hdrop, hsim'⟩ := clearForwardHistory_eq hrun
  rw [hsim']
  exact
    { holds := dropSnapshots hkept _ h.holds hdrop
      ticks := fun tick hmem => h.ticks tick (List.mem_of_mem_take hmem) }

theorem clearIfDetached (hkept : Kept S P) (h : Upholds P sim)
    (hrun : sim.clearIfDetached = some sim') : Upholds P sim' := by
  rcases clearIfDetached_cases hrun with hcleared | hsame
  · exact h.clearForwardHistory hkept hcleared
  · rw [hsame]
    exact h

theorem step (hkept : Kept S P) (h : Upholds P sim)
    (hrun : sim.step = some sim') : Upholds P sim' := by
  obtain ⟨sim₁, hclear, hrun⟩ := Option.bind_eq_some_iff.1 hrun
  have h₁ := h.clearIfDetached hkept hclear
  refine snapshotIfDue hkept ?_ hrun
  exact ⟨hkept.tick _ _ h₁.holds, h₁.ticks⟩

theorem stepWith (hkept : Kept S P) (h : Upholds P sim) {name : String}
    {customTick : S → A → R × A}
    (htick : ∀ (s : S) (a : A), P a → P (customTick s a).2)
    {result : R × Simulator S A SnapshotId}
    (hrun : sim.stepWith name customTick = some result) :
    Upholds P result.2 := by
  obtain ⟨sim₁, hclear, hrun⟩ := Option.bind_eq_some_iff.1 hrun
  have h₁ := h.clearIfDetached hkept hclear
  obtain ⟨sim₂, hsnapshot, hrun⟩ := Option.bind_eq_some_iff.1 hrun
  cases hrun
  refine snapshotIfDue hkept ⟨htick _ _ h₁.holds, ?_⟩ hsnapshot
  intro tick hmem
  rcases List.mem_append.1 hmem with hold | hnew
  · exact h₁.ticks tick hold
  · rw [List.mem_singleton.1 hnew]
    exact htick

/-! ## Going back -/

theorem undoStep (hkept : Kept S P) (h : Upholds P sim)
    {result : Bool × Simulator S A SnapshotId}
    (hrun : sim.undoStep = some result) : Upholds P result.2 := by
  unfold Simulator.undoStep at hrun
  split at hrun
  · cases hrun
    exact h
  · obtain ⟨sim₁, hsave, hrun⟩ := Option.bind_eq_some_iff.1 hrun
    obtain ⟨sim₂, hgo, hrun⟩ := Option.bind_eq_some_iff.1 hrun
    cases hrun
    exact (h.saveIfDirty hkept hsave).goToState hkept hgo

theorem redoStep (hkept : Kept S P) (h : Upholds P sim)
    {result : Bool × Simulator S A SnapshotId}
    (hrun : sim.redoStep = some result) : Upholds P result.2 := by
  obtain ⟨detached, -, hrun⟩ := Option.bind_eq_some_iff.1 hrun
  cases detached with
  | true =>
      obtain ⟨sim₁, hgo, hrun⟩ := Option.bind_eq_some_iff.1 hrun
      cases hrun
      exact h.goToState hkept hgo
  | false =>
      cases hrun
      exact h

theorem goTo (hkept : Kept S P) (h : Upholds P sim) {steps : Nat}
    (hrun : sim.goTo steps = some sim') : Upholds P sim' := by
  obtain ⟨sim₁, hsave, hrun⟩ := Option.bind_eq_some_iff.1 hrun
  exact (h.saveIfDirty hkept hsave).goToState hkept hrun

theorem scan (hkept : Kept S P) (pred : Pred S A R κ) (n : Nat) :
    ∀ {lastMatched : Option (Nat × R)} {env : κ}
      {sim : Simulator S A SnapshotId}, Upholds P sim →
        Upholds P (Simulator.scan pred n lastMatched env sim).2.2 := by
  induction n with
  | zero => exact fun h => h
  | succ n ih => exact fun h => ih (h.replayStep hkept)

theorem searchFrom (hkept : Kept S P) (h : Upholds P sim)
    {pred : Pred S A R κ} {snapshotIndex top : Nat} {env : κ}
    {result : Option (Nat × R) × κ × Simulator S A SnapshotId}
    (hrun : Simulator.searchFrom pred snapshotIndex top env sim
      = some result) : Upholds P result.2.2 := by
  obtain ⟨sim₁, hgo, hrun⟩ := Option.bind_eq_some_iff.1 hrun
  obtain ⟨endState, -, hrun⟩ := Option.bind_eq_some_iff.1 hrun
  rw [← Option.some.inj hrun]
  exact (h.goToSnapshot hkept hgo).scan hkept pred _

theorem backToMatch (hkept : Kept S P) (h : Upholds P sim)
    {snapshotIndex stateIndex : Nat}
    (hrun : sim.backToMatch snapshotIndex stateIndex = some sim') :
    Upholds P sim' := by
  unfold Simulator.backToMatch at hrun
  split at hrun
  · obtain ⟨sim₁, hgo, hrun⟩ := Option.bind_eq_some_iff.1 hrun
    exact (h.goToSnapshot hkept hgo).replayTo hkept hrun
  · exact h.replayTo hkept hrun

theorem undoLoop (hkept : Kept S P) {pred : Pred S A R κ}
    {visit : κ → Simulator S A SnapshotId → κ} (n : Nat) :
    ∀ {top : Nat} {env : κ} {sim : Simulator S A SnapshotId}
      {result : UndoResult S A SnapshotId R κ}, Upholds P sim →
        Simulator.undoLoop pred visit n top env sim = some result →
          Upholds P result.sim := by
  induction n with
  | zero =>
      intro top env sim result h hrun
      obtain ⟨sim₁, hgo, hrun⟩ := Option.bind_eq_some_iff.1 hrun
      cases hrun
      exact h.goToSnapshot hkept hgo
  | succ n ih =>
      intro top env sim result h hrun
      obtain ⟨⟨lastMatched, env₁, sim₁⟩, hsearch, hrun⟩ :=
        Option.bind_eq_some_iff.1 hrun
      have h₁ : Upholds P sim₁ := h.searchFrom hkept hsearch
      cases lastMatched with
      | none =>
          obtain ⟨entry, -, hrun⟩ := Option.bind_eq_some_iff.1 hrun
          exact ih h₁ hrun
      | some found =>
          obtain ⟨sim₂, hback, hrun⟩ := Option.bind_eq_some_iff.1 hrun
          cases hrun
          exact h₁.backToMatch hkept hback

/-- A whole search, whatever its closures answer. -/
theorem undoStepsUntil (hkept : Kept S P) (h : Upholds P sim)
    {pred : Pred S A R κ} {visit : κ → Simulator S A SnapshotId → κ} {env : κ}
    {result : UndoResult S A SnapshotId R κ}
    (hrun : sim.undoStepsUntil pred visit env = some result) :
    Upholds P result.sim := by
  unfold Simulator.undoStepsUntil at hrun
  split at hrun
  · cases hrun
    exact h
  · obtain ⟨sim₁, hsave, hrun⟩ := Option.bind_eq_some_iff.1 hrun
    obtain ⟨base, -, hrun⟩ := Option.bind_eq_some_iff.1 hrun
    exact undoLoop hkept _ (h.saveIfDirty hkept hsave) hrun

end Upholds

/-! ## What the closures see -/

omit [Simulatable S A] in
theorem snapshots_goToSnapshot {snapshotIndex : Nat}
    (hrun : sim.goToSnapshot snapshotIndex = some sim') :
    sim'.snapshots = sim.snapshots := by
  obtain ⟨entry, -, hrun⟩ := Option.bind_eq_some_iff.1 hrun
  split at hrun
  · cases hrun
    rfl
  · obtain ⟨allocator, -, hrun⟩ := Option.bind_eq_some_iff.1 hrun
    cases hrun
    rfl

omit [SnapshotStore A V SnapshotId] in
theorem snapshots_replayStep (sim : Simulator S A SnapshotId) :
    sim.replayStep.snapshots = sim.snapshots := by
  unfold Simulator.replayStep
  dsimp only
  split
  · split
    · rfl
    · rfl
  · rfl

/-- A property of the simulator that a search does not lose on its way. -/
structure Roams (Q : Simulator S A SnapshotId → Prop) : Prop where
  goToSnapshot : ∀ {sim sim' : Simulator S A SnapshotId} {snapshotIndex : Nat},
    Q sim → sim.goToSnapshot snapshotIndex = some sim' → Q sim'
  replayStep : ∀ {sim : Simulator S A SnapshotId}, Q sim → Q sim.replayStep

namespace Roams

variable {Q : Simulator S A SnapshotId → Prop} {E : κ → Prop}
  {pred : Pred S A R κ} {visit : κ → Simulator S A SnapshotId → κ}

theorem replaySteps (hroams : Roams Q) (n : Nat) :
    ∀ {sim : Simulator S A SnapshotId}, Q sim → Q (sim.replaySteps n) := by
  induction n with
  | zero => exact fun h => h
  | succ n ih => exact fun h => ih (hroams.replayStep h)

theorem replayTo (hroams : Roams Q) (h : Q sim) {target : Nat}
    (hrun : sim.replayTo target = some sim') : Q sim' := by
  unfold Simulator.replayTo at hrun
  split at hrun
  · cases hrun
    exact hroams.replaySteps _ h
  · cases hrun

theorem goToState (hroams : Roams Q) (h : Q sim) {target : Nat}
    (hrun : sim.goToState target = some sim') : Q sim' := by
  unfold Simulator.goToState at hrun
  split at hrun
  · cases hrun
    exact h
  · obtain ⟨base, -, hrun⟩ := Option.bind_eq_some_iff.1 hrun
    obtain ⟨sim₁, hbase, hrun⟩ := Option.bind_eq_some_iff.1 hrun
    unfold Simulator.goToBase at hbase
    split at hbase
    · exact hroams.replayTo (hroams.goToSnapshot h hbase) hrun
    · cases hbase
      exact hroams.replayTo h hrun

theorem backToMatch (hroams : Roams Q) (h : Q sim)
    {snapshotIndex stateIndex : Nat}
    (hrun : sim.backToMatch snapshotIndex stateIndex = some sim') :
    Q sim' := by
  unfold Simulator.backToMatch at hrun
  split at hrun
  · obtain ⟨sim₁, hgo, hrun⟩ := Option.bind_eq_some_iff.1 hrun
    exact hroams.replayTo (hroams.goToSnapshot h hgo) hrun
  · exact hroams.replayTo h hrun

omit [SnapshotStore A V SnapshotId] [Simulatable S A] in
theorem checkPred (hpred : ∀ env a s, E env → E (pred env a s).2) {env : κ}
    (henv : E env) (lastMatched : Option (Nat × R)) :
    E (Simulator.checkPred pred env lastMatched sim).2 := by
  have hnext := hpred env sim.allocator sim.simulatable henv
  unfold Simulator.checkPred
  dsimp only
  split
  · exact hnext
  · exact hnext

theorem scan (hroams : Roams Q) (hpred : ∀ env a s, E env → E (pred env a s).2)
    (n : Nat) :
    ∀ {lastMatched : Option (Nat × R)} {env : κ}
      {sim : Simulator S A SnapshotId}, Q sim → E env →
        E (Simulator.scan pred n lastMatched env sim).2.1 ∧
          Q (Simulator.scan pred n lastMatched env sim).2.2 := by
  induction n with
  | zero => exact fun h henv => ⟨henv, h⟩
  | succ n ih =>
      exact fun h henv => ih (hroams.replayStep h) (checkPred hpred henv _)

theorem searchFrom (hroams : Roams Q)
    (hpred : ∀ env a s, E env → E (pred env a s).2) (h : Q sim)
    {snapshotIndex top : Nat} {env : κ} (henv : E env)
    {result : Option (Nat × R) × κ × Simulator S A SnapshotId}
    (hrun : Simulator.searchFrom pred snapshotIndex top env sim
      = some result) : E result.2.1 ∧ Q result.2.2 := by
  obtain ⟨sim₁, hgo, hrun⟩ := Option.bind_eq_some_iff.1 hrun
  obtain ⟨endState, -, hrun⟩ := Option.bind_eq_some_iff.1 hrun
  rw [← Option.some.inj hrun]
  exact hroams.scan hpred _ (hroams.goToSnapshot h hgo)
    (checkPred hpred henv _)

theorem undoLoop (hroams : Roams Q)
    (hpred : ∀ env a s, E env → E (pred env a s).2)
    (hvisit : ∀ env sim, Q sim → E env → E (visit env sim)) (n : Nat) :
    ∀ {top : Nat} {env : κ} {sim : Simulator S A SnapshotId}
      {result : UndoResult S A SnapshotId R κ}, Q sim → E env →
        Simulator.undoLoop pred visit n top env sim = some result →
          E result.env ∧ Q result.sim := by
  induction n with
  | zero =>
      intro top env sim result h henv hrun
      obtain ⟨sim₁, hgo, hrun⟩ := Option.bind_eq_some_iff.1 hrun
      cases hrun
      exact ⟨henv, hroams.goToSnapshot h hgo⟩
  | succ n ih =>
      intro top env sim result h henv hrun
      obtain ⟨⟨lastMatched, env₁, sim₁⟩, hsearch, hrun⟩ :=
        Option.bind_eq_some_iff.1 hrun
      obtain ⟨henv₁, h₁⟩ := hroams.searchFrom hpred h henv hsearch
      cases lastMatched with
      | none =>
          obtain ⟨entry, -, hrun⟩ := Option.bind_eq_some_iff.1 hrun
          exact ih h₁ (hvisit _ _ h₁ henv₁) hrun
      | some found =>
          obtain ⟨sim₂, hback, hrun⟩ := Option.bind_eq_some_iff.1 hrun
          cases hrun
          have h₂ := hroams.backToMatch h₁ hback
          exact ⟨hvisit _ _ h₂ henv₁, h₂⟩

/-- What the closures keep of their variables holds after the search, if the
visitor keeps it where the search takes it; so does what roams. -/
theorem undoStepsUntil (hroams : Roams Q)
    (hpred : ∀ env a s, E env → E (pred env a s).2)
    (hvisit : ∀ env sim, Q sim → E env → E (visit env sim)) (h : Q sim)
    (hsnapshot : Q sim.makeSnapshot) {env : κ} (henv : E env)
    {result : UndoResult S A SnapshotId R κ}
    (hrun : sim.undoStepsUntil pred visit env = some result) :
    E result.env ∧ Q result.sim := by
  unfold Simulator.undoStepsUntil at hrun
  split at hrun
  · cases hrun
    exact ⟨henv, h⟩
  · obtain ⟨sim₁, hsave, hrun⟩ := Option.bind_eq_some_iff.1 hrun
    obtain ⟨base, -, hrun⟩ := Option.bind_eq_some_iff.1 hrun
    have h₁ : Q sim₁ := by
      rcases saveIfDirty_cases hsave with hsame | hsame
      · rw [hsame]
        exact hsnapshot
      · rw [hsame]
        exact h
    exact hroams.undoLoop hpred hvisit _ h₁ henv hrun

end Roams

/-! ## At the end of history -/

/-- HEAD is not detached. -/
def Attached (sim : Simulator S A SnapshotId) : Prop :=
  sim.head.baseSnapshotIndex + 1 = sim.snapshots.length

namespace Attached

omit [SnapshotStore A V SnapshotId] [Simulatable S A] in
theorem isHeadDetached_eq (h : Attached sim) :
    sim.isHeadDetached = some false := by
  unfold Attached at h
  rw [Simulator.isHeadDetached_eq (by omega)]
  simp [h]

omit [Simulatable S A] in
theorem clearIfDetached_eq (h : Attached sim) :
    sim.clearIfDetached = some sim := by
  unfold Simulator.clearIfDetached
  rw [h.isHeadDetached_eq]
  rfl

theorem redoStep_eq (h : Attached sim) :
    sim.redoStep = some (false, sim) := by
  unfold Simulator.redoStep
  rw [h.isHeadDetached_eq]
  rfl

omit [Simulatable S A] in
/-- A snapshot does not change what is visible. -/
theorem snapshotIfDue_eq [LawfulSnapshotStore A V SnapshotId]
    (h : Attached sim) :
    ∃ sim', sim.snapshotIfDue = some sim' ∧ Attached sim' ∧
      sim'.simulatable = sim.simulatable ∧
      view sim'.allocator = view sim.allocator := by
  unfold Attached at h
  have hlt : sim.snapshots.length - 1 < sim.snapshots.length := by omega
  have hlast := headAtLastSnapshot_eq (List.getElem?_eq_getElem hlt)
  unfold Simulator.snapshotIfDue Simulator.shouldCreateSnapshot
    Simulator.stepsSinceLastSnapshot
  rw [hlast]
  by_cases hdue : StateIndex.stepsSince sim.head.stateIndex
      sim.snapshots[sim.snapshots.length - 1].1.stateIndex > 2048
  · refine ⟨sim.makeSnapshot, by simp [hdue], ?_, rfl, ?_⟩
    · show sim.snapshots.length + 1 = (sim.snapshots ++ [_]).length
      rw [List.length_append, List.length_singleton]
    · exact LawfulSnapshotStore.view_makeSnapshot sim.allocator
  · exact ⟨sim, by simp [hdue], h, rfl, rfl⟩

theorem step_eq [LawfulSnapshotStore A V SnapshotId] (h : Attached sim) :
    ∃ sim', sim.step = some sim' ∧ Attached sim' ∧
      sim'.simulatable = sim.simulatable ∧
      view sim'.allocator
        = view (Simulatable.tick sim.simulatable sim.allocator) := by
  unfold Simulator.step
  rw [h.clearIfDetached_eq]
  exact snapshotIfDue_eq h

omit [Simulatable S A] in
theorem stepWith_eq [LawfulSnapshotStore A V SnapshotId] (h : Attached sim)
    (name : String) (customTick : S → A → R × A) :
    ∃ sim', sim.stepWith name customTick
        = some ((customTick sim.simulatable sim.allocator).1, sim') ∧
      Attached sim' ∧ sim'.simulatable = sim.simulatable ∧
      view sim'.allocator
        = view (customTick sim.simulatable sim.allocator).2 := by
  let tick : Tick S A :=
    { name := name
      tick := fun simulatable allocator =>
        (customTick simulatable allocator).2 }
  let ticked : Simulator S A SnapshotId :=
    { sim with
      allocator := (customTick sim.simulatable sim.allocator).2
      customTicks := sim.customTicks ++
        [(StateIndex.nextStep sim.head.stateIndex, tick)]
      head := { sim.head with
        stateIndex := StateIndex.next sim.head.stateIndex
        nextCustomTickIndex := sim.customTicks.length } }
  have hticked : Attached ticked := h
  obtain ⟨sim', hsnapshot, hrest⟩ := hticked.snapshotIfDue_eq
  refine ⟨sim', ?_, hrest⟩
  unfold Simulator.stepWith
  rw [h.clearIfDetached_eq, Option.bind_eq_bind, Option.bind_some]
  show (ticked.snapshotIfDue.bind fun sim => _) = _
  rw [hsnapshot]
  rfl

end Attached

end RedPlanet.Simulator

namespace RedPlanet.Simulator

open SnapshotStore

/-! ## What a custom step shows -/

variable {S A V SnapshotId R : Type} [ModifiableStore A V SnapshotId]
  [LawfulModifiableStore A V SnapshotId]
  {sim sim' : Simulator S A SnapshotId}

theorem view_dropSnapshots (entries : List (Head × SnapshotId)) :
    ∀ {a a' : A}, Simulator.dropSnapshots entries a = some a' →
      view a' = view a := by
  induction entries with
  | nil =>
      intro a a' hrun
      cases hrun
      rfl
  | cons entry rest ih =>
      intro a a' hrun
      obtain ⟨a₁, hdrop, hrun⟩ := Option.bind_eq_some_iff.1 hrun
      rw [ih hrun]
      exact (captured_dropSnapshot hdrop).1

/-- The visible state is not changed by dropping snapshots. -/
theorem view_clearForwardHistory
    (hrun : sim.clearForwardHistory = some sim') :
    view sim'.allocator = view sim.allocator := by
  obtain ⟨allocator, hdrop, hsim'⟩ := clearForwardHistory_eq hrun
  rw [hsim']
  exact view_dropSnapshots _ hdrop

theorem view_clearIfDetached (hrun : sim.clearIfDetached = some sim') :
    view sim'.allocator = view sim.allocator := by
  rcases clearIfDetached_cases hrun with hcleared | hsame
  · exact view_clearForwardHistory hcleared
  · rw [hsame]

theorem view_snapshotIfDue (hrun : sim.snapshotIfDue = some sim') :
    view sim'.allocator = view sim.allocator := by
  rcases snapshotIfDue_cases hrun with hsame | hsame
  · rw [hsame]
    exact LawfulSnapshotStore.view_makeSnapshot sim.allocator
  · rw [hsame]

/-- Whether HEAD was detached or not, a custom step shows what it does with
what was shown before. -/
theorem view_stepWith {name : String} {customTick : S → A → R × A} {f : V → V}
    (htick : ∀ (s : S) (a : A), view (customTick s a).2 = f (view a))
    {result : R × Simulator S A SnapshotId}
    (hrun : sim.stepWith name customTick = some result) :
    view result.2.allocator = f (view sim.allocator) := by
  obtain ⟨sim₁, hclear, hrun⟩ := Option.bind_eq_some_iff.1 hrun
  obtain ⟨sim₂, hsnapshot, hrun⟩ := Option.bind_eq_some_iff.1 hrun
  cases hrun
  rw [view_snapshotIfDue hsnapshot, htick, view_clearIfDetached hclear]

/-- It returns what it answers for what was shown before. -/
theorem result_stepWith {name : String} {customTick : S → A → R × A}
    (answer : V → R) (hanswer : ∀ (s : S) (a : A),
      (customTick s a).1 = answer (view a))
    {result : R × Simulator S A SnapshotId}
    (hrun : sim.stepWith name customTick = some result) :
    result.1 = answer (view sim.allocator) := by
  obtain ⟨sim₁, hclear, hrun⟩ := Option.bind_eq_some_iff.1 hrun
  obtain ⟨sim₂, -, hrun⟩ := Option.bind_eq_some_iff.1 hrun
  cases hrun
  rw [hanswer, view_clearIfDetached hclear]

end RedPlanet.Simulator
