import RedPlanet.Simulator.Upheld
import RedPlanet.Verified.Related

/-!
# Two stores under one simulator

The simulator never looks into its store.  Two stores whose snapshots come in
pairs, and which correspond after every call and tick if they did before, are
driven through the same states by the same operations: one simulator fails
where the other does, and both have the same HEAD and the same history.

`Coupling` is the relation of the stores and `Coupled` that of the simulators.
There is a lemma for each of the simulator's functions, in the order in which
they call one another, up to the public operations.  The first store may
break, and then stays broken.  Only a search for a state looks at what the
stores show, so only there it has to be good.
-/

namespace RedPlanet.Simulator

open SnapshotStore Verified

variable {S S' A A' V V' I I' : Type} [SnapshotStore A V I]
  [SnapshotStore A' V' I'] [Simulatable S A] [Simulatable S' A']

/-- The stores correspond after every call, as long as these pairs of
snapshots are there; a store that is not good never becomes good. -/
structure Coupling (S : Type) {A A' V V' I I' : Type} [SnapshotStore A V I]
    [SnapshotStore A' V' I'] [Simulatable S A] (Good : A → Prop)
    (rel : List (I × I') → A → A' → Prop) : Prop where
  makeSnapshot : ∀ {ids : List (I × I')} {a : A} {a' : A'}, rel ids a a' →
    rel (ids ++ [((SnapshotStore.makeSnapshot a).1,
        (SnapshotStore.makeSnapshot a').1)])
      (SnapshotStore.makeSnapshot a).2 (SnapshotStore.makeSnapshot a').2
  checkout : ∀ {ids : List (I × I')} {a : A} {a' : A'} {pair : I × I'},
    rel ids a a' → pair ∈ ids →
      Option.Rel (rel ids) (checkout pair.1 a) (checkout pair.2 a')
  dropSnapshot : ∀ {kept rest : List (I × I')} {a : A} {a' : A'}
    {pair : I × I'}, rel (kept ++ pair :: rest) a a' →
      Option.Rel (rel (kept ++ rest)) (dropSnapshot pair.1 a)
        (dropSnapshot pair.2 a')
  broken : Kept S fun a : A => ¬ Good a

/-- Two ticks keep stores corresponding. -/
structure Alike (Good : A → Prop) (rel : List (I × I') → A → A' → Prop)
    (s : S) (s' : S') (f : S → A → A) (f' : S' → A' → A') : Prop where
  corresponds : ∀ {ids : List (I × I')} {a : A} {a' : A'}, rel ids a a' →
    rel ids (f s a) (f' s' a')
  broken : ∀ (s : S) (a : A), ¬ Good a → ¬ Good (f s a)

/-- Two simulators in the same state, with the pairs of their snapshots. -/
structure Coupled (Good : A → Prop) (rel : List (I × I') → A → A' → Prop)
    (s : S) (s' : S') (entries : List (Head × I × I')) (sim : Simulator S A I)
    (sim' : Simulator S' A' I') : Prop where
  simulatable : sim.simulatable = s
  simulatable' : sim'.simulatable = s'
  head : sim.head = sim'.head
  snapshots : sim.snapshots = entries.map fun entry => (entry.1, entry.2.1)
  snapshots' : sim'.snapshots = entries.map fun entry => (entry.1, entry.2.2)
  store : rel (entries.map Prod.snd) sim.allocator sim'.allocator
  tick : Alike Good rel s s' Simulatable.tick Simulatable.tick
  customTicks : List.Forall₂ (fun mark mark' => mark.1 = mark'.1 ∧
      Alike Good rel s s' mark.2.tick mark'.2.tick)
    sim.customTicks sim'.customTicks

/-- Coupled, with some pairs of snapshots. -/
def Couples (Good : A → Prop) (rel : List (I × I') → A → A' → Prop)
    (s : S) (s' : S') (sim : Simulator S A I) (sim' : Simulator S' A' I') : Prop :=
  ∃ entries, Coupled Good rel s s' entries sim sim'

variable {Good : A → Prop} {rel : List (I × I') → A → A' → Prop} {s : S}
  {s' : S'} {entries : List (Head × I × I')}
  {sim : Simulator S A I} {sim' : Simulator S' A' I'}

/-- A search in a list of pairs is one in either list. -/
theorem partitionPoint_map {α β : Type} (p : β → Bool) (f : α → β)
    (xs : List α) :
    partitionPoint p (xs.map f) = partitionPoint (fun x => p (f x)) xs := by
  unfold partitionPoint
  rw [List.takeWhile_map, List.length_map]
  rfl

/-! ## Queries -/

namespace Coupled

section Queries

omit [SnapshotStore A V I] [SnapshotStore A' V' I']

/-- The entry of a snapshot on both sides. -/
theorem entry_cases (h : Coupled Good rel s s' entries sim sim') (i : ℕ) :
    (sim.snapshots[i]? = none ∧ sim'.snapshots[i]? = none) ∨
      ∃ entry ∈ entries, sim.snapshots[i]? = some (entry.1, entry.2.1) ∧
        sim'.snapshots[i]? = some (entry.1, entry.2.2) := by
  rw [h.snapshots, h.snapshots', List.getElem?_map, List.getElem?_map]
  cases hget : entries[i]? with
  | none => exact Or.inl ⟨rfl, rfl⟩
  | some entry =>
      exact Or.inr ⟨entry, List.mem_of_getElem? hget, rfl, rfl⟩

theorem lastSnapshotIndex (h : Coupled Good rel s s' entries sim sim') :
    sim.lastSnapshotIndex = sim'.lastSnapshotIndex := by
  unfold Simulator.lastSnapshotIndex
  rw [h.snapshots, h.snapshots', List.length_map, List.length_map]

/-- What is computed from the entry of a snapshot, without its id. -/
theorem entry_bind {α : Type} (h : Coupled Good rel s s' entries sim sim') (i : ℕ)
    (f : Head → Option α) :
    (sim.snapshots[i]? >>= fun entry => f entry.1)
      = sim'.snapshots[i]? >>= fun entry => f entry.1 := by
  rcases h.entry_cases i with ⟨hget, hget'⟩ | ⟨entry, _, hget, hget'⟩
  · rw [hget, hget']
    rfl
  · rw [hget, hget']
    rfl

theorem headAtLastSnapshot (h : Coupled Good rel s s' entries sim sim') :
    sim.headAtLastSnapshot = sim'.headAtLastSnapshot := by
  unfold Simulator.headAtLastSnapshot
  rw [h.lastSnapshotIndex]
  exact congrArg _ (funext fun last => h.entry_bind last some)

theorem isHeadDetached (h : Coupled Good rel s s' entries sim sim') :
    sim.isHeadDetached = sim'.isHeadDetached := by
  unfold Simulator.isHeadDetached
  rw [h.lastSnapshotIndex, h.head]

theorem isHeadAtSnapshot (h : Coupled Good rel s s' entries sim sim') :
    sim.isHeadAtSnapshot = sim'.isHeadAtSnapshot := by
  unfold Simulator.isHeadAtSnapshot
  rw [h.head]
  exact h.entry_bind _ fun head =>
    some (head.stateIndex == sim'.head.stateIndex)

theorem isHeadDirty (h : Coupled Good rel s s' entries sim sim') :
    sim.isHeadDirty = sim'.isHeadDirty := by
  unfold Simulator.isHeadDirty
  rw [h.isHeadDetached, h.isHeadAtSnapshot]

theorem availableSteps (h : Coupled Good rel s s' entries sim sim') :
    sim.availableSteps = sim'.availableSteps := by
  unfold Simulator.availableSteps Simulator.headAtLastState
  rw [h.isHeadDetached, h.headAtLastSnapshot, h.head]

theorem currentSteps (h : Coupled Good rel s s' entries sim sim') :
    sim.currentSteps = sim'.currentSteps := by
  unfold Simulator.currentSteps
  rw [h.head]

theorem shouldCreateSnapshot (h : Coupled Good rel s s' entries sim sim') :
    sim.shouldCreateSnapshot = sim'.shouldCreateSnapshot := by
  unfold Simulator.shouldCreateSnapshot Simulator.stepsSinceLastSnapshot
  rw [h.headAtLastSnapshot, h.head]

theorem findBaseSnapshot (h : Coupled Good rel s s' entries sim sim') (target : ℕ) :
    sim.findBaseSnapshot target = sim'.findBaseSnapshot target := by
  unfold Simulator.findBaseSnapshot
  rw [h.snapshots, h.snapshots', partitionPoint_map, partitionPoint_map]

theorem firstSearched (h : Coupled Good rel s s' entries sim sim') :
    sim.firstSearched = sim'.firstSearched := by
  unfold Simulator.firstSearched
  rw [h.isHeadAtSnapshot, h.head]

end Queries

/-! ## Moving HEAD -/

variable (hrel : Coupling S Good rel)

include hrel

omit [Simulatable S' A'] in
/-- The pairs are dropped in the same order. -/
theorem dropSnapshots {kept rest : List (Head × I × I')} :
    ∀ {a : A} {a' : A'}, rel ((kept ++ rest).map Prod.snd) a a' →
      Option.Rel (rel (kept.map Prod.snd))
        (Simulator.dropSnapshots
          (rest.map fun entry => (entry.1, entry.2.1)) a)
        (Simulator.dropSnapshots
          (rest.map fun entry => (entry.1, entry.2.2)) a') := by
  induction rest with
  | nil =>
      intro a a' h
      rw [List.append_nil] at h
      exact .some h
  | cons entry rest ih =>
      intro a a' h
      rw [List.map_append, List.map_cons] at h
      refine rel_bind (hrel.dropSnapshot h) fun a₁ a₁' h₁ => ?_
      rw [← List.map_append] at h₁
      exact ih h₁

theorem makeSnapshot (h : Coupled Good rel s s' entries sim sim') :
    Couples Good rel s s' sim.makeSnapshot sim'.makeSnapshot := by
  have hlength : sim.snapshots.length = sim'.snapshots.length := by
    rw [h.snapshots, h.snapshots', List.length_map, List.length_map]
  have hhead : sim.makeSnapshot.head = sim'.makeSnapshot.head := by
    unfold Simulator.makeSnapshot
    rw [h.head, hlength]
  refine ⟨entries ++ [(sim.makeSnapshot.head,
    (SnapshotStore.makeSnapshot sim.allocator).1,
    (SnapshotStore.makeSnapshot sim'.allocator).1)], ?_⟩
  exact
    { simulatable := h.simulatable
      simulatable' := h.simulatable'
      head := hhead
      snapshots := by
        rw [List.map_append, ← h.snapshots]
        rfl
      snapshots' := by
        rw [List.map_append, ← h.snapshots', hhead]
        rfl
      store := by
        rw [List.map_append]
        exact hrel.makeSnapshot h.store
      tick := h.tick
      customTicks := h.customTicks }

theorem saveIfDirty (h : Coupled Good rel s s' entries sim sim') :
    Option.Rel (Couples Good rel s s') sim.saveIfDirty sim'.saveIfDirty := by
  refine rel_bind_eq h.isHeadDirty fun dirty => ?_
  cases dirty with
  | true => exact .some (h.makeSnapshot hrel)
  | false => exact .some ⟨entries, h⟩

theorem snapshotIfDue (h : Coupled Good rel s s' entries sim sim') :
    Option.Rel (Couples Good rel s s') sim.snapshotIfDue sim'.snapshotIfDue := by
  refine rel_bind_eq h.shouldCreateSnapshot fun due => ?_
  cases due with
  | true => exact .some (h.makeSnapshot hrel)
  | false => exact .some ⟨entries, h⟩

omit hrel in
theorem replayStep (h : Coupled Good rel s s' entries sim sim') :
    Coupled Good rel s s' entries sim.replayStep sim'.replayStep := by
  have hget := rel_getElem? h.customTicks sim.head.nextCustomTickIndex
  have hhead := h.head
  have hdefault := h.tick.corresponds h.store
  rw [← h.simulatable, ← h.simulatable'] at hdefault
  cases hmark : sim.customTicks[sim.head.nextCustomTickIndex]? with
  | none =>
      rw [hmark] at hget
      have hmark' := rel_none_left hget
      rw [hhead] at hmark hmark'
      unfold Simulator.replayStep
      rw [hhead, hmark, hmark']
      exact ⟨h.simulatable, h.simulatable', rfl, h.snapshots, h.snapshots',
        hdefault, h.tick, h.customTicks⟩
  | some mark =>
      rw [hmark] at hget
      obtain ⟨mark', hmark', hstep, htick⟩ := rel_some_left hget
      have hcustom := htick.corresponds h.store
      rw [← h.simulatable, ← h.simulatable'] at hcustom
      rw [hhead] at hmark hmark'
      unfold Simulator.replayStep
      rw [hhead, hmark, hmark']
      dsimp only
      rw [hstep]
      split
      · exact ⟨h.simulatable, h.simulatable', rfl, h.snapshots, h.snapshots',
          hcustom, h.tick, h.customTicks⟩
      · exact ⟨h.simulatable, h.simulatable', rfl, h.snapshots, h.snapshots',
          hdefault, h.tick, h.customTicks⟩

omit hrel in
theorem replaySteps (n : ℕ) :
    ∀ {sim : Simulator S A I} {sim' : Simulator S' A' I'},
      Coupled Good rel s s' entries sim sim' →
        Coupled Good rel s s' entries (sim.replaySteps n) (sim'.replaySteps n) := by
  induction n with
  | zero => exact fun h => h
  | succ n ih => exact fun h => ih h.replayStep

omit hrel in
theorem replayTo (h : Coupled Good rel s s' entries sim sim') (target : ℕ) :
    Option.Rel (Coupled Good rel s s' entries) (sim.replayTo target)
      (sim'.replayTo target) := by
  unfold Simulator.replayTo
  rw [h.head]
  split
  · exact .some (h.replaySteps _)
  · exact .none

omit [SnapshotStore A V I] [SnapshotStore A' V' I'] hrel in
theorem partitionPoint_ticks (h : Coupled Good rel s s' entries sim sim')
    (p : ℕ → Bool) :
    partitionPoint (fun mark => p mark.1) sim.customTicks
      = partitionPoint (fun mark => p mark.1) sim'.customTicks := by
  have hsteps : sim.customTicks.map Prod.fst
      = sim'.customTicks.map Prod.fst := by
    rw [← List.forall₂_eq_eq_eq, List.forall₂_map_left_iff,
      List.forall₂_map_right_iff]
    exact h.customTicks.imp fun _ _ hmark => hmark.1
  have hpoint := congrArg (partitionPoint p) hsteps
  rw [partitionPoint_map, partitionPoint_map] at hpoint
  exact hpoint

theorem goToSnapshot (h : Coupled Good rel s s' entries sim sim') (i : ℕ) :
    Option.Rel (Coupled Good rel s s' entries) (sim.goToSnapshot i)
      (sim'.goToSnapshot i) := by
  unfold Simulator.goToSnapshot
  rcases h.entry_cases i with ⟨hget, hget'⟩ | ⟨entry, hmem, hget, hget'⟩
  · rw [hget, hget']
    exact .none
  · rw [hget, hget', h.head]
    simp only [Option.bind_eq_bind, Option.bind_some]
    split
    · exact .some h
    · rw [h.partitionPoint_ticks fun step =>
        StepIndex.ltState step entry.1.stateIndex]
      have hpair : entry.2 ∈ entries.map Prod.snd := List.mem_map_of_mem hmem
      refine rel_bind (hrel.checkout h.store hpair) fun a a' hstore => ?_
      exact .some ⟨h.simulatable, h.simulatable', rfl, h.snapshots,
        h.snapshots', hstore, h.tick, h.customTicks⟩

theorem goToBase (h : Coupled Good rel s s' entries sim sim') (targetBase target : ℕ) :
    Option.Rel (Coupled Good rel s s' entries) (sim.goToBase targetBase target)
      (sim'.goToBase targetBase target) := by
  unfold Simulator.goToBase
  rw [h.head]
  split
  · exact h.goToSnapshot hrel targetBase
  · exact .some h

theorem goToState (h : Coupled Good rel s s' entries sim sim') (target : ℕ) :
    Option.Rel (Coupled Good rel s s' entries) (sim.goToState target)
      (sim'.goToState target) := by
  unfold Simulator.goToState
  rw [h.head]
  split
  · exact .some h
  · refine rel_bind_eq (h.findBaseSnapshot target) fun base => ?_
    exact rel_bind (h.goToBase hrel base target) fun _ _ h₁ =>
      h₁.replayTo target

theorem clearForwardHistory (h : Coupled Good rel s s' entries sim sim') :
    Option.Rel (Couples Good rel s s') sim.clearForwardHistory
      sim'.clearForwardHistory := by
  unfold Simulator.clearForwardHistory
  rw [h.head, h.snapshots, h.snapshots', List.length_map, List.length_map]
  dsimp only
  generalize sim'.head.baseSnapshotIndex + 1 = kept
  by_cases hkept : entries.length < kept
  · rw [if_pos hkept, if_pos hkept]
    exact .none
  · rw [if_neg hkept, if_neg hkept, ← List.map_drop, ← List.map_drop]
    have hstore := h.store
    rw [← List.take_append_drop kept entries] at hstore
    refine rel_bind (dropSnapshots hrel hstore) fun a a' hstore' => ?_
    refine .some ⟨entries.take kept, h.simulatable, h.simulatable', rfl, ?_,
      ?_, hstore', h.tick, ?_⟩
    · rw [List.map_take]
    · rw [List.map_take]
    · exact List.forall₂_take _ h.customTicks

theorem clearIfDetached (h : Coupled Good rel s s' entries sim sim') :
    Option.Rel (Couples Good rel s s') sim.clearIfDetached sim'.clearIfDetached := by
  refine rel_bind_eq h.isHeadDetached fun detached => ?_
  cases detached with
  | true => exact h.clearForwardHistory hrel
  | false => exact .some ⟨entries, h⟩

end Coupled

/-! ## The operations -/

namespace Couples

variable (hrel : Coupling S Good rel)

include hrel

/-- Two new simulators, if their simulatables are constructed alike. -/
theorem new {simulatableConstructor : A → S × A}
    {simulatableConstructor' : A' → S' × A'}
    (hs : (simulatableConstructor SnapshotStore.new).1 = s)
    (hs' : (simulatableConstructor' SnapshotStore.new).1 = s')
    (hstore : rel [] (simulatableConstructor SnapshotStore.new).2
      (simulatableConstructor' SnapshotStore.new).2)
    (htick : Alike Good rel s s' Simulatable.tick Simulatable.tick) :
    Couples Good rel s s' (Simulator.new simulatableConstructor)
      (Simulator.new simulatableConstructor') :=
  ⟨[(_, _, _)], hs, hs', rfl, rfl, rfl, hrel.makeSnapshot hstore, htick,
    .nil⟩

/-- A step makes a snapshot in both or in neither. -/
theorem step (h : Couples Good rel s s' sim sim') :
    Option.Rel (Couples Good rel s s') sim.step sim'.step := by
  obtain ⟨entries, h⟩ := h
  refine rel_bind (h.clearIfDetached hrel) ?_
  rintro sim₁ sim₁' ⟨entries₁, h₁⟩
  have hticked : Coupled Good rel s s' entries₁
      { sim₁ with
        allocator := Simulatable.tick sim₁.simulatable sim₁.allocator
        head := { sim₁.head with
          stateIndex := StateIndex.next sim₁.head.stateIndex } }
      { sim₁' with
        allocator := Simulatable.tick sim₁'.simulatable sim₁'.allocator
        head := { sim₁'.head with
          stateIndex := StateIndex.next sim₁'.head.stateIndex } } := by
    have hstore := h₁.tick.corresponds h₁.store
    rw [← h₁.simulatable, ← h₁.simulatable'] at hstore
    refine ⟨h₁.simulatable, h₁.simulatable', ?_, h₁.snapshots, h₁.snapshots',
      hstore, h₁.tick, h₁.customTicks⟩
    rw [h₁.head]
  exact hticked.snapshotIfDue hrel

/-- The custom ticks have to keep the stores corresponding, and to return the
same where they do. -/
theorem stepWith {R : Type} (h : Couples Good rel s s' sim sim') (name : String)
    {f : S → A → R × A} {f' : S' → A' → R × A'}
    (hticks : Alike Good rel s s' (fun s a => (f s a).2)
      fun s' a' => (f' s' a').2) :
    Option.Rel
      (fun result result' => Couples Good rel s s' result.2 result'.2)
      (sim.stepWith name f) (sim'.stepWith name f') := by
  obtain ⟨entries, h⟩ := h
  refine rel_bind (h.clearIfDetached hrel) ?_
  rintro sim₁ sim₁' ⟨entries₁, h₁⟩
  have hlength := h₁.customTicks.length_eq
  have hstore := hticks.corresponds h₁.store
  rw [← h₁.simulatable, ← h₁.simulatable'] at hstore
  refine rel_bind (Coupled.snapshotIfDue hrel (?_ :
      Coupled Good rel s s' entries₁ _ _)) fun sim₂ sim₂' h₂ => .some h₂
  refine ⟨h₁.simulatable, h₁.simulatable', ?_, h₁.snapshots, h₁.snapshots',
    hstore, h₁.tick, ?_⟩
  · dsimp only
    rw [h₁.head, hlength]
  · dsimp only
    rw [h₁.head]
    exact List.rel_append h₁.customTicks (.cons ⟨rfl, hticks⟩ .nil)

theorem undoStep (h : Couples Good rel s s' sim sim') :
    Option.Rel (fun result result' => result.1 = result'.1 ∧
        Couples Good rel s s' result.2 result'.2) sim.undoStep sim'.undoStep := by
  obtain ⟨entries, h⟩ := h
  unfold Simulator.undoStep
  rw [h.head]
  cases StateIndex.previous sim'.head.stateIndex with
  | none => exact .some ⟨rfl, entries, h⟩
  | some target =>
      refine rel_bind (h.saveIfDirty hrel) ?_
      rintro sim₁ sim₁' ⟨entries₁, h₁⟩
      refine rel_bind (h₁.goToState hrel target) fun sim₂ sim₂' h₂ => ?_
      exact .some ⟨rfl, entries₁, h₂⟩

theorem redoStep (h : Couples Good rel s s' sim sim') :
    Option.Rel (fun result result' => result.1 = result'.1 ∧
        Couples Good rel s s' result.2 result'.2) sim.redoStep sim'.redoStep := by
  obtain ⟨entries, h⟩ := h
  refine rel_bind_eq h.isHeadDetached fun detached => ?_
  cases detached with
  | true =>
      rw [h.head]
      refine rel_bind (h.goToState hrel _) fun sim₁ sim₁' h₁ => ?_
      exact .some ⟨rfl, entries, h₁⟩
  | false => exact .some ⟨rfl, entries, h⟩

/-- Going to a state reverts both to the same snapshot. -/
theorem goTo (h : Couples Good rel s s' sim sim') (steps : ℕ) :
    Option.Rel (Couples Good rel s s') (sim.goTo steps) (sim'.goTo steps) := by
  obtain ⟨entries, h⟩ := h
  refine rel_bind (h.saveIfDirty hrel) ?_
  rintro sim₁ sim₁' ⟨entries₁, h₁⟩
  exact rel_imp (h₁.goToState hrel _) fun _ _ _ h₂ => ⟨entries₁, h₂⟩

end Couples

/-! ## Searching backwards -/

variable {R κ : Type} {pred : Pred S A R κ} {pred' : Pred S' A' R κ}

/-- Wherever the stores correspond, and the first one is good, the predicates
answer the same. -/
def SameAnswers (Good : A → Prop) (rel : List (I × I') → A → A' → Prop)
    (s : S) (s' : S') (pred : Pred S A R κ) (pred' : Pred S' A' R κ) : Prop :=
  ∀ (ids : List (I × I')) (a : A) (a' : A') (env : κ), Good a →
    rel ids a a' → pred env a s = pred' env a' s'

omit [SnapshotStore A' V' I'] in
/-- A store that is good after an operation was good before. -/
theorem Coupled.good (h : Coupled Good rel s s' entries sim sim')
    {sim₁ : Simulator S A I}
    (hupholds : Upholds (fun a => ¬ Good a) sim →
      Upholds (fun a => ¬ Good a) sim₁)
    (hgood : Good sim₁.allocator) : Good sim.allocator := by
  by_contra hbroken
  refine (hupholds ⟨hbroken, ?_⟩).holds hgood
  intro mark hmem
  obtain ⟨i, hget⟩ := List.getElem?_of_mem hmem
  have hrelated := rel_getElem? h.customTicks i
  rw [hget] at hrelated
  obtain ⟨_, _, _, halike⟩ := rel_some_left hrelated
  exact halike.broken

omit [SnapshotStore A V I] [SnapshotStore A' V' I'] in
theorem Coupled.checkPred (h : Coupled Good rel s s' entries sim sim')
    (hgood : Good sim.allocator)
    (hanswers : SameAnswers Good rel s s' pred pred')
    (env : κ) (lastMatched : Option (ℕ × R)) :
    checkPred pred env lastMatched sim
      = checkPred pred' env lastMatched sim' := by
  unfold Simulator.checkPred
  rw [h.simulatable, h.simulatable', hanswers _ _ _ env hgood h.store, h.head]

variable (hrel : Coupling S Good rel)
  (hanswers : SameAnswers Good rel s s' pred pred')

include hrel hanswers

omit hrel hanswers in
/-- What is searched does not depend on the answers. -/
theorem Coupled.scan (n : ℕ) :
    ∀ {lastMatched lastMatched' : Option (ℕ × R)} {env env' : κ}
      {sim : Simulator S A I} {sim' : Simulator S' A' I'},
      Coupled Good rel s s' entries sim sim' →
        Coupled Good rel s s' entries (scan pred n lastMatched env sim).2.2
          (scan pred' n lastMatched' env' sim').2.2 := by
  induction n with
  | zero => exact fun h => h
  | succ n ih => exact fun h => ih h.replayStep

theorem Coupled.scan_eq (n : ℕ) :
    ∀ {lastMatched : Option (ℕ × R)} {env : κ} {sim : Simulator S A I}
      {sim' : Simulator S' A' I'}, Coupled Good rel s s' entries sim sim' →
        Good (Simulator.scan pred n lastMatched env sim).2.2.allocator →
          (Simulator.scan pred n lastMatched env sim).1
              = (Simulator.scan pred' n lastMatched env sim').1 ∧
            (Simulator.scan pred n lastMatched env sim).2.1
              = (Simulator.scan pred' n lastMatched env sim').2.1 := by
  induction n with
  | zero => exact fun _ _ => ⟨rfl, rfl⟩
  | succ n ih =>
      intro lastMatched env sim sim' h hgood
      have hnext := h.replayStep
      have hgood' := hnext.good (fun hbroken =>
        hbroken.scan hrel.broken pred n) hgood
      have hsame := hnext.checkPred hgood' hanswers env lastMatched
      unfold Simulator.scan at hgood ⊢
      dsimp only at hgood ⊢
      rw [← hsame]
      exact ih hnext hgood

theorem Coupled.searchFrom (h : Coupled Good rel s s' entries sim sim')
    (snapshotIndex top : ℕ) (env : κ) :
    Option.Rel (fun result result' =>
        Coupled Good rel s s' entries result.2.2 result'.2.2 ∧
          (Good result.2.2.allocator →
            result.1 = result'.1 ∧ result.2.1 = result'.2.1))
      (searchFrom pred snapshotIndex top env sim)
      (searchFrom pred' snapshotIndex top env sim') := by
  refine rel_bind (h.goToSnapshot hrel snapshotIndex) fun sim₁ sim₁' h₁ => ?_
  refine rel_bind_eq rfl fun endState => ?_
  rw [h₁.head]
  refine .some ⟨h₁.scan _, fun hgood => ?_⟩
  have hgood₁ := h₁.good (fun hbroken => hbroken.scan hrel.broken pred _)
    hgood
  have hsame := h₁.checkPred hgood₁ hanswers env none
  rw [← hsame]
  exact h₁.scan_eq hrel hanswers _ hgood

omit hanswers in
theorem Coupled.backToMatch (h : Coupled Good rel s s' entries sim sim')
    (snapshotIndex stateIndex : ℕ) :
    Option.Rel (Coupled Good rel s s' entries)
      (sim.backToMatch snapshotIndex stateIndex)
      (sim'.backToMatch snapshotIndex stateIndex) := by
  unfold Simulator.backToMatch
  rw [h.head]
  split
  · exact rel_bind (h.goToSnapshot hrel snapshotIndex) fun _ _ h₁ =>
      h₁.replayTo stateIndex
  · exact h.replayTo stateIndex

variable {visit : κ → Simulator S A I → κ} {visit' : κ → Simulator S' A' I' → κ}
  (hvisit : ∀ (env : κ) (sim : Simulator S A I) (sim' : Simulator S' A' I'),
    Good sim.allocator → Couples Good rel s s' sim sim' →
      visit env sim = visit' env sim')

include hvisit

theorem Coupled.undoLoop (n : ℕ) :
    ∀ {top : ℕ} {env : κ} {sim : Simulator S A I} {sim' : Simulator S' A' I'}
      {result : UndoResult S A I R κ}, Coupled Good rel s s' entries sim sim' →
        undoLoop pred visit n top env sim = some result →
        Good result.sim.allocator →
          ∃ result', undoLoop pred' visit' n top env sim' = some result' ∧
            result.reason = result'.reason ∧ result.env = result'.env ∧
            Coupled Good rel s s' entries result.sim result'.sim := by
  induction n with
  | zero =>
      intro top env sim sim' result h hrun _
      have hgo := h.goToSnapshot hrel 0
      obtain ⟨sim₁, hsim₁, hrun⟩ := Option.bind_eq_some_iff.1 hrun
      rw [hsim₁] at hgo
      obtain ⟨sim₁', hsim₁', h₁⟩ := rel_some_left hgo
      cases hrun
      refine ⟨⟨.reachedStart, env, sim₁'⟩, ?_, rfl, rfl, h₁⟩
      unfold Simulator.undoLoop
      rw [hsim₁']
      rfl
  | succ n ih =>
      intro top env sim sim' result h hrun hgood
      have hsearch' := h.searchFrom hrel hanswers n top env
      obtain ⟨⟨lastMatched, env₁, sim₁⟩, hsearch, hrun⟩ :=
        Option.bind_eq_some_iff.1 hrun
      rw [hsearch] at hsearch'
      obtain ⟨⟨lastMatched', env₁', sim₁'⟩, hsim₁', h₁, hsame⟩ :=
        rel_some_left hsearch'
      dsimp only at h₁ hsame
      unfold Simulator.undoLoop
      rw [hsim₁']
      simp only [Option.bind_eq_bind, Option.bind_some]
      cases lastMatched with
      | none =>
          obtain ⟨entry, hentry, hrun⟩ := Option.bind_eq_some_iff.1 hrun
          have hgood₁ := h₁.good
            (fun hbroken => hbroken.undoLoop hrel.broken n hrun) hgood
          obtain ⟨rfl, rfl⟩ := hsame hgood₁
          rcases h₁.entry_cases n with ⟨hnone, _⟩ | ⟨pair, _, hget, hget'⟩
          · rw [hnone] at hentry
            cases hentry
          · rw [hget] at hentry
            cases hentry
            rw [hget', ← hvisit _ _ _ hgood₁ ⟨entries, h₁⟩]
            exact ih h₁ hrun hgood
      | some found =>
          obtain ⟨sim₂, hback, hrun⟩ := Option.bind_eq_some_iff.1 hrun
          cases hrun
          have hgood₁ := h₁.good
            (fun hbroken => hbroken.backToMatch hrel.broken hback) hgood
          obtain ⟨rfl, rfl⟩ := hsame hgood₁
          have hback' := h₁.backToMatch hrel n found.1
          rw [hback] at hback'
          obtain ⟨sim₂', hsim₂', h₂⟩ := rel_some_left hback'
          dsimp only
          rw [hsim₂']
          exact ⟨_, rfl, rfl, hvisit _ _ _ hgood ⟨entries, h₂⟩, h₂⟩

/-- Where the first store is good in the end, both searches find the same. -/
theorem Couples.undoStepsUntil (h : Couples Good rel s s' sim sim') {env : κ}
    {result : UndoResult S A I R κ}
    (hrun : sim.undoStepsUntil pred visit env = some result)
    (hgood : Good result.sim.allocator) :
    ∃ result', sim'.undoStepsUntil pred' visit' env = some result' ∧
      result.reason = result'.reason ∧ result.env = result'.env ∧
      Couples Good rel s s' result.sim result'.sim := by
  obtain ⟨entries, h⟩ := h
  unfold Simulator.undoStepsUntil at hrun ⊢
  rw [h.head] at hrun
  split at hrun
  · cases hrun
    exact ⟨_, rfl, rfl, rfl, entries, h⟩
  · have hsave := h.saveIfDirty hrel
    obtain ⟨sim₁, hsim₁, hrun⟩ := Option.bind_eq_some_iff.1 hrun
    obtain ⟨base, hbase, hrun⟩ := Option.bind_eq_some_iff.1 hrun
    rw [hsim₁] at hsave
    obtain ⟨sim₁', hsim₁', entries₁, h₁⟩ := rel_some_left hsave
    obtain ⟨result', hrun', hreason, henv, h₂⟩ :=
      h₁.undoLoop hrel hanswers hvisit _ hrun hgood
    refine ⟨result', ?_, hreason, henv, entries₁, h₂⟩
    rw [hsim₁']
    simp only [Option.bind_eq_bind, Option.bind_some]
    rw [← h₁.firstSearched, hbase, ← h₁.head]
    exact hrun'

end RedPlanet.Simulator
