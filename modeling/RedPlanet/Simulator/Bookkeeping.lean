import RedPlanet.Simulator.Reachable

/-!
# The bookkeeping of the timeline

Which snapshots and custom ticks are stored, and where HEAD is among them,
does not depend on the states.  So it stays well formed whatever the ticks do
to the state, deterministic or not, as long as they leave the snapshots alone.

The argument uses the results of `Simulator.Moves` once more, for a store of
which only the ids are seen (`idsOnly`): there every tick that keeps the
snapshots is deterministic.  `Recording` are the simulators that the public
operations reach, and `Bookkeeping` is what holds of each of them.
-/

namespace RedPlanet.Simulator

open SnapshotStore Verified.Timeline

variable {S A V SnapshotId : Type}

/-! ## Without the states -/

/-- A store of which is seen only what snapshots it holds. -/
abbrev SnapshotStore.idsOnly (store : SnapshotStore A V SnapshotId) :
    SnapshotStore A Unit SnapshotId where
  new := store.new
  view _ := ()
  captured a id := (store.captured a id).map fun _ => ()
  makeSnapshot := store.makeSnapshot
  checkout := store.checkout
  dropSnapshot := store.dropSnapshot

variable [store : SnapshotStore A V SnapshotId]

/-- What reaches an allocator through the `Allocator` trait only leaves its
snapshots alone. -/
def KeepsSnapshots (f : A → A) : Prop :=
  ∀ a : A, captured (f a) = captured a

/-- All that is seen of a snapshot is that it is there. -/
theorem captured_idsOnly (a : A) :
    store.idsOnly.captured a = fun id => (captured a id).map fun _ => () := rfl

/-- The laws of a store hold for the ids as well. -/
theorem lawful_idsOnly [LawfulSnapshotStore A V SnapshotId] :
    @LawfulSnapshotStore A Unit SnapshotId store.idsOnly := by
  refine @LawfulSnapshotStore.mk A Unit SnapshotId store.idsOnly
    (fun _ => rfl) ?_ ?_ ?_ ?_ ?_
  · intro a
    exact congrArg (Option.map fun _ => ())
      (LawfulSnapshotStore.captured_fresh a)
  · intro a
    exact congrArg (Option.map fun _ => ())
      (LawfulSnapshotStore.captured_new a)
  · intro a id hne
    exact congrArg (Option.map fun _ => ())
      (LawfulSnapshotStore.captured_makeSnapshot a id hne)
  · intro a id v hv
    obtain ⟨state, hstate, -⟩ := Option.map_eq_some_iff.1 hv
    obtain ⟨a', hrun, -, hcaptured⟩ :=
      LawfulSnapshotStore.checkout_spec a id state hstate
    refine ⟨a', hrun, rfl, ?_⟩
    rw [captured_idsOnly, captured_idsOnly, hcaptured]
  · intro a id v hv
    obtain ⟨state, hstate, -⟩ := Option.map_eq_some_iff.1 hv
    obtain ⟨a', hrun, -, hcaptured⟩ :=
      LawfulSnapshotStore.dropSnapshot_spec a id state hstate
    refine ⟨a', hrun, rfl, ?_⟩
    intro id' hne
    exact congrArg (Option.map fun _ => ()) (hcaptured id' hne)

/-- There is no state that a tick could make a difference to. -/
theorem KeepsSnapshots.deterministic {f : A → A} (h : KeepsSnapshots f) :
    @Deterministic A Unit SnapshotId store.idsOnly f := by
  refine @Deterministic.mk A Unit SnapshotId store.idsOnly f
    (fun _ _ _ => rfl) ?_
  intro a
  rw [captured_idsOnly, captured_idsOnly, h a]

/-! ## The simulator never looks at a state -/

theorem dropSnapshots_idsOnly (entries : List (Head × SnapshotId)) :
    ∀ allocator : A,
      @dropSnapshots A Unit SnapshotId store.idsOnly entries allocator
        = dropSnapshots entries allocator := by
  induction entries with
  | nil => exact fun _ => rfl
  | cons entry rest ih =>
      intro allocator
      show (dropSnapshot entry.2 allocator).bind _
        = (dropSnapshot entry.2 allocator).bind _
      exact congrArg _ (funext ih)

theorem clearForwardHistory_idsOnly (sim : Simulator S A SnapshotId) :
    @clearForwardHistory S A Unit SnapshotId store.idsOnly sim
      = sim.clearForwardHistory := by
  unfold clearForwardHistory
  simp only [dropSnapshots_idsOnly]

theorem clearIfDetached_idsOnly (sim : Simulator S A SnapshotId) :
    @clearIfDetached S A Unit SnapshotId store.idsOnly sim
      = sim.clearIfDetached := by
  unfold clearIfDetached
  rw [clearForwardHistory_idsOnly]

variable [Simulatable S A]

theorem undoLoop_idsOnly {R κ : Type} (pred : Pred S A R κ)
    (visit : κ → Simulator S A SnapshotId → κ) (n : Nat) :
    ∀ (top : Nat) (env : κ) (sim : Simulator S A SnapshotId),
      @undoLoop S A Unit SnapshotId R κ store.idsOnly _ pred visit n top env
          sim
        = undoLoop pred visit n top env sim := by
  induction n with
  | zero => exact fun _ _ _ => rfl
  | succ n ih =>
      intro top env sim
      unfold undoLoop
      simp only [ih]
      rfl

/-- The operations do not look at the states. -/
theorem Operation.run_idsOnly (op : Operation S A SnapshotId)
    (sim : Simulator S A SnapshotId) :
    @Operation.run S A Unit SnapshotId store.idsOnly _ op sim = op.run sim := by
  cases op with
  | step =>
      show @Simulator.step S A Unit SnapshotId store.idsOnly _ sim = sim.step
      unfold Simulator.step
      rw [clearIfDetached_idsOnly]
      rfl
  | stepWith name customTick =>
      show (@Simulator.stepWith S A Unit SnapshotId _ store.idsOnly sim name
        customTick).map _ = (sim.stepWith name customTick).map _
      unfold Simulator.stepWith
      rw [clearIfDetached_idsOnly]
      rfl
  | undoStepsUntil pred visit env =>
      show (@Simulator.undoStepsUntil S A Unit SnapshotId _ _ store.idsOnly _
        sim pred visit env).map _ = (sim.undoStepsUntil pred visit env).map _
      unfold Simulator.undoStepsUntil
      simp only [undoLoop_idsOnly]
      rfl
  | undoStep => rfl
  | redoStep => rfl
  | goTo steps => rfl

/-! ## Runs -/

/-- The length of the history after an operation: stepping cuts it at HEAD. -/
def Operation.endAfter (head endOfHistory : Nat) :
    Operation S A SnapshotId → Nat
  | step => head + 1
  | stepWith _ _ => head + 1
  | undoStep => endOfHistory
  | redoStep => endOfHistory
  | undoStepsUntil _ _ _ => endOfHistory
  | goTo steps => max endOfHistory steps

/-- Custom ticks have to leave the snapshots alone. -/
def Operation.Harmless (simulatable : S) : Operation S A SnapshotId → Prop
  | stepWith _ customTick =>
      KeepsSnapshots fun allocator => (customTick simulatable allocator).2
  | _ => True

/-- The simulators that the public operations reach, with the number of steps
of their history. -/
inductive Recording (simulatableConstructor : A → S × A) :
    Simulator S A SnapshotId → Nat → Prop where
  | new : Recording simulatableConstructor
      (Simulator.new simulatableConstructor) 0
  | operation {sim sim' : Simulator S A SnapshotId} {endOfHistory : Nat}
      (recording : Recording simulatableConstructor sim endOfHistory)
      (op : Operation S A SnapshotId) (harmless : op.Harmless sim.simulatable)
      (run : op.run sim = some sim') :
      Recording simulatableConstructor sim'
        (op.endAfter sim.currentSteps endOfHistory)
  | clearForwardHistory {sim sim' : Simulator S A SnapshotId}
      {endOfHistory : Nat}
      (recording : Recording simulatableConstructor sim endOfHistory)
      (run : sim.clearForwardHistory = some sim') :
      Recording simulatableConstructor sim' sim.currentSteps

/-- What is kept of a history and where HEAD is in it. -/
structure Bookkeeping (sim : Simulator S A SnapshotId) (endOfHistory : Nat) :
    Prop where
  first : ∃ entry, sim.snapshots[0]? = some entry ∧ entry.1.stateIndex = 0
  increasing : sim.snapshots.Pairwise
    fun older newer => older.1.stateIndex < newer.1.stateIndex
  ownIndex : ∀ (i : Nat) (entry : Head × SnapshotId),
    sim.snapshots[i]? = some entry → entry.1.baseSnapshotIndex = i
  /-- The base snapshot is the last one at or before HEAD. -/
  base : ∃ entry, sim.snapshots[sim.head.baseSnapshotIndex]? = some entry ∧
    entry.1.stateIndex ≤ sim.head.stateIndex
  next : ∀ (i : Nat) (entry : Head × SnapshotId),
    sim.snapshots[i]? = some entry → sim.head.baseSnapshotIndex < i →
      sim.head.stateIndex < entry.1.stateIndex
  availableSteps_eq : sim.availableSteps = some endOfHistory
  detached : sim.isHeadDetached = some true →
    sim.snapshots.getLast?.map (fun entry => entry.1.stateIndex)
      = some endOfHistory
  attached : sim.isHeadDetached = some false →
    sim.head.stateIndex = endOfHistory
  customTicks_increasing : sim.customTicks.Pairwise
    fun older newer => older.1 < newer.1
  customTicks_lt : ∀ tick ∈ sim.customTicks, tick.1 < endOfHistory
  live : ∀ entry ∈ sim.snapshots,
    (captured sim.allocator entry.2).isSome = true

variable {history : Nat → A} {simulatable : S}
  {timeline : List (TimelineTick S A)} {sim : Simulator S A SnapshotId}

/-- Part of a well-formed simulator. -/
theorem WellFormed.bookkeeping
    (h : WellFormed history simulatable timeline sim) :
    Bookkeeping sim timeline.length where
  first := h.recorded.first
  increasing := h.recorded.increasing
  ownIndex := h.recorded.ownIndex
  base := h.atState.base
  next := by
    intro i entry hentry hafter
    have hiff := h.recorded.le_base_iff h.atState hentry
    omega
  availableSteps_eq := h.availableSteps_eq
  detached := by
    intro hdetached
    rw [isHeadDetached_eq h.recorded.length_pos] at hdetached
    have hlast : sim.head.baseSnapshotIndex + 1 ≠ sim.snapshots.length := by
      simpa using Option.some.inj hdetached
    obtain ⟨last, hentry, hstate⟩ := (h.clean hlast).saved
    rw [List.getLast?_eq_getElem?, hentry, Option.map_some, hstate]
  attached := by
    intro hattached
    rw [isHeadDetached_eq h.recorded.length_pos] at hattached
    have hlast : sim.head.baseSnapshotIndex + 1 = sim.snapshots.length := by
      simpa using Option.some.inj hattached
    exact (h.atEnd hlast).state_eq
  customTicks_increasing := by
    rw [h.recorded.customTicks_eq]
    exact marksFrom_increasing timeline 0
  customTicks_lt := by
    intro tick hmem
    rw [h.recorded.customTicks_eq] at hmem
    have hbounds := bounds_of_mem_marksFrom hmem
    omega
  live := by
    intro entry hmem
    rw [h.recorded.captured_eq entry hmem]
    rfl

omit [Simulatable S A] in
/-- That ids are live is not about the states. -/
theorem bookkeeping_of_idsOnly {endOfHistory : Nat}
    (h : @Bookkeeping S A Unit SnapshotId store.idsOnly sim endOfHistory) :
    Bookkeeping sim endOfHistory := by
  obtain ⟨first, increasing, ownIndex, base, next, available, detached,
    attached, customTicks, customTicks_lt, live⟩ := h
  refine ⟨first, increasing, ownIndex, base, next, available, detached,
    attached, customTicks, customTicks_lt, ?_⟩
  intro entry hmem
  have hlive := live entry hmem
  rw [captured_idsOnly, Option.isSome_map] at hlive
  exact hlive

omit [Simulatable S A] store in
theorem Operation.length_timelineAfter (op : Operation S A SnapshotId)
    {head : Nat} (hle : head ≤ timeline.length) :
    (op.timelineAfter timeline head).length
      = op.endAfter head timeline.length := by
  cases op with
  | step =>
      show (timeline.take head ++ [none]).length = head + 1
      rw [List.length_append, List.length_take, List.length_singleton]
      omega
  | stepWith name customTick =>
      show (timeline.take head ++ [some _]).length = head + 1
      rw [List.length_append, List.length_take, List.length_singleton]
      omega
  | goTo steps =>
      show (timeline ++ List.replicate (steps - timeline.length) none).length
        = max timeline.length steps
      rw [List.length_append, List.length_replicate]
      omega
  | _ => rfl

omit [Simulatable S A] in
theorem Operation.Harmless.allowed {op : Operation S A SnapshotId}
    (h : op.Harmless simulatable) :
    @Operation.Allowed S A Unit SnapshotId store.idsOnly simulatable op := by
  cases op with
  | stepWith name customTick => exact KeepsSnapshots.deterministic h
  | _ => exact trivial

omit [Simulatable S A] in
theorem clearForwardHistory_head {sim' : Simulator S A SnapshotId}
    (h : sim.clearForwardHistory = some sim') : sim'.head = sim.head := by
  obtain ⟨allocator, -, hsim'⟩ := clearForwardHistory_eq h
  rw [hsim']

/-- Well formed but for the states. -/
def IdsFormed (simulatable : S) (sim : Simulator S A SnapshotId)
    (endOfHistory : Nat) : Prop :=
  ∃ (history : Nat → A) (timeline : List (TimelineTick S A)),
    timeline.length = endOfHistory ∧
      @WellFormed S A Unit SnapshotId store.idsOnly _ history simulatable
        timeline sim

theorem IdsFormed.simulatable_eq {endOfHistory : Nat}
    (h : IdsFormed simulatable sim endOfHistory) :
    sim.simulatable = simulatable := by
  obtain ⟨history, timeline, -, hwell⟩ := h
  let _ := store.idsOnly
  exact hwell.recorded.simulatable_eq

theorem IdsFormed.bookkeeping {endOfHistory : Nat}
    (h : IdsFormed simulatable sim endOfHistory) :
    Bookkeeping sim endOfHistory := by
  obtain ⟨history, timeline, hlength, hwell⟩ := h
  rw [← hlength]
  apply bookkeeping_of_idsOnly
  let _ := store.idsOnly
  exact hwell.bookkeeping

variable [LawfulSnapshotStore A V SnapshotId]

/-- A new simulator has one snapshot, of its first state. -/
theorem new_idsFormed (simulatableConstructor : A → S × A) :
    IdsFormed (simulatableConstructor SnapshotStore.new).1
      (Simulator.new simulatableConstructor : Simulator S A SnapshotId) 0 := by
  have hlawful := @lawful_idsOnly A V SnapshotId _ _
  let _ := store.idsOnly
  exact ⟨_, [], rfl, new_wellFormed simulatableConstructor⟩

/-- Every operation keeps the ids well formed. -/
theorem IdsFormed.operation {endOfHistory : Nat}
    (h : IdsFormed simulatable sim endOfHistory)
    (hkeeps : KeepsSnapshots (Simulatable.tick simulatable : A → A))
    (op : Operation S A SnapshotId) (harmless : op.Harmless simulatable) :
    ∃ sim', op.run sim = some sim' ∧
      IdsFormed simulatable sim'
        (op.endAfter sim.currentSteps endOfHistory) := by
  obtain ⟨history, timeline, hlength, hwell⟩ := h
  have hlawful := @lawful_idsOnly A V SnapshotId _ _
  have hdet := hkeeps.deterministic
  have hallowed := harmless.allowed
  have hrun_eq := op.run_idsOnly sim
  unfold IdsFormed
  rw [← hrun_eq, ← hlength]
  let _ := store.idsOnly
  obtain ⟨history', sim', hrun, hwell', -⟩ := hwell.operation hdet op hallowed
  exact ⟨sim', hrun, history', _,
    op.length_timelineAfter hwell.atState.within, hwell'⟩

theorem IdsFormed.clearForwardHistory {endOfHistory : Nat}
    (h : IdsFormed simulatable sim endOfHistory)
    (hkeeps : KeepsSnapshots (Simulatable.tick simulatable : A → A)) :
    ∃ sim', sim.clearForwardHistory = some sim' ∧
      IdsFormed simulatable sim' sim.currentSteps := by
  obtain ⟨history, timeline, -, hwell⟩ := h
  have hlawful := @lawful_idsOnly A V SnapshotId _ _
  have hdet := hkeeps.deterministic
  have hrun_eq := clearForwardHistory_idsOnly sim
  unfold IdsFormed
  rw [← hrun_eq]
  let _ := store.idsOnly
  obtain ⟨history', timeline', sim', hrun, hend⟩ := hwell.deleteFuture hdet
  refine ⟨sim', hrun, history', timeline', ?_, Or.inr hend⟩
  rw [← hend.state_eq, clearForwardHistory_head hrun]
  rfl

variable {simulatableConstructor : A → S × A}

/-- So they are in every reachable simulator. -/
theorem Recording.idsFormed
    (hkeeps : KeepsSnapshots (Simulatable.tick
      (simulatableConstructor SnapshotStore.new).1 : A → A))
    {endOfHistory : Nat}
    (h : Recording simulatableConstructor sim endOfHistory) :
    IdsFormed (simulatableConstructor SnapshotStore.new).1 sim
      endOfHistory := by
  induction h with
  | new => exact new_idsFormed simulatableConstructor
  | operation recording op harmless run ih =>
      rw [ih.simulatable_eq] at harmless
      obtain ⟨sim', hrun, hformed⟩ := ih.operation hkeeps op harmless
      rw [run] at hrun
      rw [Option.some.inj hrun]
      exact hformed
  | clearForwardHistory recording run ih =>
      obtain ⟨sim', hrun, hformed⟩ := ih.clearForwardHistory hkeeps
      rw [run] at hrun
      rw [Option.some.inj hrun]
      exact hformed

/-- In every run the bookkeeping stays well formed, and the next operation
completes. -/
theorem Recording.bookkeeping_kept
    (hkeeps : KeepsSnapshots (Simulatable.tick
      (simulatableConstructor SnapshotStore.new).1 : A → A))
    {endOfHistory : Nat}
    (h : Recording simulatableConstructor sim endOfHistory) :
    Bookkeeping sim endOfHistory ∧
      (∀ op : Operation S A SnapshotId, op.Harmless sim.simulatable →
        ∃ sim', op.run sim = some sim') ∧
      ∃ sim', sim.clearForwardHistory = some sim' := by
  have hformed := h.idsFormed hkeeps
  refine ⟨hformed.bookkeeping, ?_, ?_⟩
  · intro op harmless
    rw [hformed.simulatable_eq] at harmless
    obtain ⟨sim', hrun, -⟩ := hformed.operation hkeeps op harmless
    exact ⟨sim', hrun⟩
  · obtain ⟨sim', hrun, -⟩ := hformed.clearForwardHistory hkeeps
    exact ⟨sim', hrun⟩

/-- A step, a doubling and an undo; then the doubling is forgotten. -/
theorem Recording.bookkeeping_kept_counter :
    ∃ sim : Simulator Counter (CopyStore Nat) Nat,
      Bookkeeping sim 1 ∧ sim.customTicks.length = 0 := by
  have hkeeps : KeepsSnapshots
      (Simulatable.tick Counter.mk : CopyStore Nat → CopyStore Nat) :=
    fun _ => rfl
  have hnew : Recording Counter.construct
      (Simulator.new Counter.construct) 0 := .new
  have hundone := ((hnew.operation .step trivial rfl).operation
    (.stepWith "double" doubleTick) (fun _ => rfl) rfl).operation .undoStep
      trivial rfl
  have hcleared := hundone.clearForwardHistory rfl
  exact ⟨_, (hcleared.bookkeeping_kept hkeeps).1, rfl⟩

end RedPlanet.Simulator
