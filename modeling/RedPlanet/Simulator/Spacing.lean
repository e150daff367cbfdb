import RedPlanet.Simulator.Bookkeeping
import RedPlanet.Simulator.Upheld

/-!
# How much is replayed

A step more than 2048 steps after the last snapshot takes a new one, and a cut
of the history keeps every snapshot that the remaining states rest on.  So no
state is ever more than 2048 steps after the snapshot it is rebuilt from,
however the history has been walked, cut and extended.  The one exception is
going beyond the end of history, which ticks on without taking snapshots.

`Spaced` is the invariant, which every operation within the history keeps
(`Spaced.operation`), so that it holds of every `Traversal`.  What a move
replays is then bounded by it (`ReplayedWithin`).
-/

namespace RedPlanet.Simulator

open SnapshotStore

variable {S A V SnapshotId : Type}

/-! ## Snapshots close enough to each other -/

/-- Every state up to the end of history is at most 2048 steps after some
snapshot. -/
def Spaced (snapshots : List (Head × SnapshotId)) (endOfHistory : ℕ) : Prop :=
  ∀ k ≤ endOfHistory, ∃ entry ∈ snapshots,
    entry.1.stateIndex ≤ k ∧ k ≤ entry.1.stateIndex + 2048

/-- More snapshots or fewer states. -/
theorem Spaced.mono {snapshots snapshots' : List (Head × SnapshotId)}
    {endOfHistory endOfHistory' : ℕ} (h : Spaced snapshots endOfHistory)
    (hkept : snapshots ⊆ snapshots') (hend : endOfHistory' ≤ endOfHistory) :
    Spaced snapshots' endOfHistory' := by
  intro k hk
  obtain ⟨entry, hmem, hspan⟩ := h k (Nat.le_trans hk hend)
  exact ⟨entry, hkept hmem, hspan⟩

/-- One more state, not too far from the last snapshot. -/
theorem Spaced.succ {snapshots : List (Head × SnapshotId)} {endOfHistory : ℕ}
    (h : Spaced snapshots endOfHistory) {last : Head × SnapshotId}
    (hlast : last ∈ snapshots) (hle : last.1.stateIndex ≤ endOfHistory + 1)
    (hnear : endOfHistory + 1 ≤ last.1.stateIndex + 2048) :
    Spaced snapshots (endOfHistory + 1) := by
  intro k hk
  rcases Nat.le_succ_iff.1 hk with hk | rfl
  · exact h k hk
  · exact ⟨last, hlast, hle, hnear⟩

namespace Bookkeeping

variable [SnapshotStore A V SnapshotId] {sim sim' : Simulator S A SnapshotId}
  {endOfHistory : ℕ}

/-- There is always the snapshot of the first state. -/
theorem length_pos (h : Bookkeeping sim endOfHistory) :
    0 < sim.snapshots.length := by
  obtain ⟨entry, hentry, -⟩ := h.first
  exact (List.getElem?_eq_some_iff.1 hentry).1

/-- The snapshots are in the order of their states. -/
theorem lt_iff (h : Bookkeeping sim endOfHistory) {i j : ℕ}
    {x y : Head × SnapshotId} (hx : sim.snapshots[i]? = some x)
    (hy : sim.snapshots[j]? = some y) :
    x.1.stateIndex < y.1.stateIndex ↔ i < j := by
  obtain ⟨hi, rfl⟩ := List.getElem?_eq_some_iff.1 hx
  obtain ⟨hj, rfl⟩ := List.getElem?_eq_some_iff.1 hy
  have hincreasing := List.pairwise_iff_getElem.1 h.increasing
  constructor
  · intro hlt
    by_contra hge
    rcases Nat.lt_or_eq_of_le (Nat.not_lt.1 hge) with hji | rfl
    · exact absurd hlt (Nat.lt_asymm (hincreasing j i hj hi hji))
    · exact Nat.lt_irrefl _ hlt
  · exact hincreasing i j hi hj

/-- A detached HEAD is before the end of history. -/
theorem head_lt (h : Bookkeeping sim endOfHistory)
    (hdetached : sim.isHeadDetached = some true) :
    sim.head.stateIndex < endOfHistory := by
  have hend := h.detached hdetached
  rw [isHeadDetached_eq h.length_pos] at hdetached
  have hbase : sim.head.baseSnapshotIndex + 1 ≠ sim.snapshots.length := by
    simpa using hdetached
  rw [List.getLast?_eq_getElem?] at hend
  obtain ⟨last, hlast, rfl⟩ := Option.map_eq_some_iff.1 hend
  obtain ⟨base, hget, -⟩ := h.base
  have hlt := (List.getElem?_eq_some_iff.1 hget).1
  exact h.next _ last hlast (by omega)

/-- HEAD is within history. -/
theorem head_le (h : Bookkeeping sim endOfHistory) :
    sim.head.stateIndex ≤ endOfHistory := by
  have hdetached := isHeadDetached_eq h.length_pos
  cases hdecide : decide
      (sim.head.baseSnapshotIndex + 1 ≠ sim.snapshots.length) with
  | true => exact Nat.le_of_lt (h.head_lt (hdecide ▸ hdetached))
  | false => exact Nat.le_of_eq (h.attached (hdecide ▸ hdetached))

/-- Snapshots are of states within history. -/
theorem entry_le (h : Bookkeeping sim endOfHistory)
    {entry : Head × SnapshotId} (hmem : entry ∈ sim.snapshots) :
    entry.1.stateIndex ≤ endOfHistory := by
  obtain ⟨i, hi⟩ := List.mem_iff_getElem?.1 hmem
  have hlt := (List.getElem?_eq_some_iff.1 hi).1
  have hlast : sim.snapshots.length - 1 < sim.snapshots.length := by omega
  have hget := List.getElem?_eq_getElem hlast
  -- the last snapshot is the newest one, and not after the end of history
  have hnewest : entry.1.stateIndex
      ≤ (sim.snapshots[sim.snapshots.length - 1]).1.stateIndex := by
    by_contra hgt
    have hafter := (h.lt_iff hget hi).1 (Nat.lt_of_not_le hgt)
    omega
  refine Nat.le_trans hnewest ?_
  by_cases hbase : sim.head.baseSnapshotIndex + 1 = sim.snapshots.length
  · obtain ⟨base, hbaseEntry, hle⟩ := h.base
    have hindex : sim.head.baseSnapshotIndex = sim.snapshots.length - 1 := by
      omega
    rw [hindex, hget] at hbaseEntry
    rw [Option.some.inj hbaseEntry]
    exact Nat.le_trans hle h.head_le
  · have hdetached := isHeadDetached_eq h.length_pos
    rw [decide_eq_true hbase] at hdetached
    have hend := h.detached hdetached
    rw [List.getLast?_eq_getElem?, hget, Option.map_some] at hend
    exact Nat.le_of_eq (Option.some.inj hend)

/-- The snapshots before HEAD are those up to its base. -/
theorem mem_take (h : Bookkeeping sim endOfHistory)
    {entry : Head × SnapshotId} (hmem : entry ∈ sim.snapshots)
    (hle : entry.1.stateIndex ≤ sim.head.stateIndex) :
    entry ∈ sim.snapshots.take (sim.head.baseSnapshotIndex + 1) := by
  obtain ⟨i, hi⟩ := List.mem_iff_getElem?.1 hmem
  have hbefore : i < sim.head.baseSnapshotIndex + 1 := by
    by_contra hafter
    exact absurd (h.next i entry hi (by omega)) (Nat.not_lt.2 hle)
  apply List.mem_of_getElem? (i := i)
  rw [List.getElem?_take_of_lt hbefore, hi]

/-- Cutting the history at HEAD takes nothing from the states before. -/
theorem spaced_take (h : Bookkeeping sim endOfHistory)
    (hspaced : Spaced sim.snapshots endOfHistory) :
    Spaced (sim.snapshots.take (sim.head.baseSnapshotIndex + 1))
      sim.head.stateIndex := by
  intro k hk
  obtain ⟨entry, hmem, hle, hnear⟩ := hspaced k (Nat.le_trans hk h.head_le)
  exact ⟨entry, h.mem_take hmem (Nat.le_trans hle hk), hle, hnear⟩

/-- The future is cut off, and the snapshots up to the one that HEAD is based on
are kept. -/
theorem clearIfDetached (h : Bookkeeping sim endOfHistory)
    (hrun : sim.clearIfDetached = some sim') :
    sim'.head = sim.head ∧ sim'.snapshots
      = sim.snapshots.take (sim.head.baseSnapshotIndex + 1) := by
  unfold Simulator.clearIfDetached at hrun
  rw [isHeadDetached_eq h.length_pos, Option.bind_eq_bind,
    Option.bind_some] at hrun
  split at hrun
  · obtain ⟨allocator, -, rfl⟩ := clearForwardHistory_eq hrun
    exact ⟨rfl, rfl⟩
  case isFalse hattached =>
    have hbase : sim.head.baseSnapshotIndex + 1 = sim.snapshots.length := by
      simpa using hattached
    rw [← Option.some.inj hrun, hbase, List.take_length]
    exact ⟨rfl, rfl⟩

/-- After a step from HEAD a snapshot is taken in time. -/
theorem spaced_snapshotIfDue (h : Bookkeeping sim endOfHistory)
    (hspaced : Spaced sim.snapshots endOfHistory)
    {ticked : Simulator S A SnapshotId}
    (hsnapshots : ticked.snapshots
      = sim.snapshots.take (sim.head.baseSnapshotIndex + 1))
    (hstate : ticked.head.stateIndex = sim.head.stateIndex + 1)
    (hrun : ticked.snapshotIfDue = some sim') :
    Spaced sim'.snapshots (sim.head.stateIndex + 1) := by
  have hcut := h.spaced_take hspaced
  obtain ⟨base, hbase, hle⟩ := h.base
  have hlength : ticked.snapshots.length = sim.head.baseSnapshotIndex + 1 := by
    have hlt := (List.getElem?_eq_some_iff.1 hbase).1
    rw [hsnapshots, List.length_take]
    omega
  have hlast : ticked.snapshots[ticked.snapshots.length - 1]? = some base := by
    rw [hlength, hsnapshots, Nat.add_sub_cancel,
      List.getElem?_take_of_lt (Nat.lt_succ_self _), hbase]
  rw [← hsnapshots] at hcut
  have hdue : ticked.shouldCreateSnapshot = some (decide
      (sim.head.stateIndex + 1 - base.1.stateIndex > 2048)) := by
    simp [shouldCreateSnapshot, stepsSinceLastSnapshot,
      headAtLastSnapshot_eq hlast, StateIndex.stepsSince, hstate]
  unfold snapshotIfDue at hrun
  rw [hdue, Option.bind_eq_bind, Option.bind_some] at hrun
  split at hrun
  · cases hrun
    have hkept : ticked.snapshots ⊆ ticked.makeSnapshot.snapshots :=
      List.subset_append_left _ _
    have hnew := List.mem_append_right ticked.snapshots
      (List.mem_singleton_self (ticked.makeSnapshot.head,
        (SnapshotStore.makeSnapshot ticked.allocator).1))
    refine (hcut.mono hkept (Nat.le_refl _)).succ hnew ?_ ?_
    · exact Nat.le_of_eq hstate
    · exact Nat.le_trans (Nat.le_of_eq hstate.symm) (Nat.le_add_right _ _)
  case isFalse hnotDue =>
    cases hrun
    have hnear : ¬ sim.head.stateIndex + 1 - base.1.stateIndex > 2048 := by
      simpa using hnotDue
    exact hcut.succ (List.mem_of_getElem? hlast) (Nat.le_succ_of_le hle)
      (by omega)

end Bookkeeping

/-! ## Moving about -/

variable [store : SnapshotStore A V SnapshotId] [Simulatable S A]
  {sim sim' : Simulator S A SnapshotId} {endOfHistory : ℕ}

/-- A search takes snapshots and drops none. -/
theorem roams_snapshots (kept : List (Head × SnapshotId)) :
    Roams fun sim : Simulator S A SnapshotId => kept ⊆ sim.snapshots where
  goToSnapshot := by
    intro sim sim' snapshotIndex h hrun
    rw [snapshots_goToSnapshot hrun]
    exact h
  replayStep := by
    intro sim h
    rw [snapshots_replayStep]
    exact h

omit [Simulatable S A] in
/-- Saving the newest state drops none either. -/
theorem subset_saveIfDirty (hrun : sim.saveIfDirty = some sim') :
    sim.snapshots ⊆ sim'.snapshots := by
  rcases saveIfDirty_cases hrun with rfl | rfl
  · exact List.subset_append_left _ _
  · exact List.Subset.refl _

/-- Going beyond the end of history is left out. -/
def Operation.Within (endOfHistory : ℕ) : Operation S A SnapshotId → Prop
  | goTo steps => steps ≤ endOfHistory
  | _ => True

omit [Simulatable S A] in
/-- Moving along the history keeps every snapshot. -/
theorem Spaced.moved (h : Spaced sim.snapshots endOfHistory)
    (hkept : sim.snapshots ⊆ sim'.snapshots) :
    Spaced sim'.snapshots endOfHistory :=
  h.mono hkept (Nat.le_refl _)

/-- Every operation within history keeps the spacing. -/
theorem Spaced.operation (h : Spaced sim.snapshots endOfHistory)
    (hkeeping : Bookkeeping sim endOfHistory)
    (op : Operation S A SnapshotId) (hwithin : op.Within endOfHistory)
    (hrun : op.run sim = some sim') :
    Spaced sim'.snapshots (op.endAfter sim.currentSteps endOfHistory) := by
  have hroams := roams_snapshots (S := S) (A := A) sim.snapshots
  cases op with
  | step =>
      obtain ⟨sim₁, hclear, hstep⟩ := Option.bind_eq_some_iff.1 hrun
      obtain ⟨hhead, hsnapshots⟩ := hkeeping.clearIfDetached hclear
      refine hkeeping.spaced_snapshotIfDue h ?_ ?_ hstep
      · exact hsnapshots
      · rw [← hhead]
        rfl
  | stepWith name customTick =>
      obtain ⟨⟨result, sim₂⟩, hstep, rfl⟩ := Option.map_eq_some_iff.1 hrun
      obtain ⟨sim₁, hclear, hstep⟩ := Option.bind_eq_some_iff.1 hstep
      obtain ⟨hhead, hsnapshots⟩ := hkeeping.clearIfDetached hclear
      obtain ⟨sim₃, hdue, hstep⟩ := Option.bind_eq_some_iff.1 hstep
      cases hstep
      refine hkeeping.spaced_snapshotIfDue h ?_ ?_ hdue
      · exact hsnapshots
      · rw [← hhead]
        rfl
  | undoStep =>
      obtain ⟨⟨undone, sim₂⟩, hundo, rfl⟩ := Option.map_eq_some_iff.1 hrun
      unfold Simulator.undoStep at hundo
      split at hundo
      · cases hundo
        exact h
      · obtain ⟨sim₁, hsave, hundo⟩ := Option.bind_eq_some_iff.1 hundo
        obtain ⟨sim₃, hgo, hundo⟩ := Option.bind_eq_some_iff.1 hundo
        cases hundo
        exact h.moved (hroams.goToState (subset_saveIfDirty hsave) hgo)
  | redoStep =>
      obtain ⟨⟨redone, sim₂⟩, hredo, rfl⟩ := Option.map_eq_some_iff.1 hrun
      obtain ⟨detached, -, hredo⟩ := Option.bind_eq_some_iff.1 hredo
      cases detached with
      | true =>
          obtain ⟨sim₁, hgo, hredo⟩ := Option.bind_eq_some_iff.1 hredo
          cases hredo
          exact h.moved (hroams.goToState (List.Subset.refl _) hgo)
      | false =>
          cases hredo
          exact h
  | undoStepsUntil pred visit env =>
      obtain ⟨result, hundo, rfl⟩ := Option.map_eq_some_iff.1 hrun
      have hsearched := hroams.undoStepsUntil (E := fun _ => True)
        (fun _ _ _ _ => trivial) (fun _ _ _ _ => trivial)
        (List.Subset.refl _) (List.subset_append_left _ _) trivial hundo
      exact h.moved hsearched.2
  | goTo steps =>
      obtain ⟨sim₁, hsave, hgo⟩ := Option.bind_eq_some_iff.1 hrun
      have hend : max endOfHistory steps = endOfHistory :=
        Nat.max_eq_left hwithin
      show Spaced sim'.snapshots (max endOfHistory steps)
      rw [hend]
      exact h.moved (hroams.goToState (subset_saveIfDirty hsave) hgo)

/-! ## The cost of going somewhere -/

/-- From HEAD or from a snapshot at most `n` steps are replayed. -/
def ReplayedWithin (n : ℕ) (sim sim' : Simulator S A SnapshotId) : Prop :=
  ∃ start m, m ≤ n ∧
    (start = sim ∨ ∃ i, sim.goToSnapshot i = some start) ∧
    sim' = start.replaySteps m

omit [Simulatable S A] in
/-- The base snapshot of a state is one that is close enough. -/
theorem Spaced.findBaseSnapshot (h : Spaced sim.snapshots endOfHistory)
    (hkeeping : Bookkeeping sim endOfHistory) {target i : ℕ}
    (hle : target ≤ endOfHistory)
    (hfind : sim.findBaseSnapshot target = some i) :
    ∃ entry, sim.snapshots[i]? = some entry ∧
      entry.1.stateIndex ≤ target ∧ target ≤ entry.1.stateIndex + 2048 := by
  let p := fun entry : Head × SnapshotId =>
    decide (entry.1.stateIndex ≤ target)
  have hpoint : partitionPoint p sim.snapshots = i + 1 := by
    change (if partitionPoint p sim.snapshots = 0 then none
      else some (partitionPoint p sim.snapshots - 1)) = some i at hfind
    split at hfind
    · cases hfind
    case isFalse hpos =>
      have hi := Option.some.inj hfind
      omega
  obtain ⟨entry, hentry, hbefore⟩ := partitionPoint_before p
    (show i < partitionPoint p sim.snapshots by omega)
  obtain ⟨near, hmem, hnear, hspan⟩ := h target hle
  obtain ⟨j, hj⟩ := List.mem_iff_getElem?.1 hmem
  refine ⟨entry, hentry, of_decide_eq_true hbefore, ?_⟩
  -- the close snapshot is not after the base, so the base is closer
  have hji : j ≤ i := by
    by_contra hgt
    have hlt := (List.getElem?_eq_some_iff.1 hj).1
    have hnext : i + 1 < sim.snapshots.length := by omega
    have hget := List.getElem?_eq_getElem hnext
    have hafter : p sim.snapshots[i + 1] = false := by
      apply partitionPoint_at p
      rw [hpoint]
      exact hget
    have hle' : (sim.snapshots[i + 1]).1.stateIndex ≤ near.1.stateIndex := by
      by_contra hgt'
      have hlt' := (hkeeping.lt_iff hj hget).1 (Nat.lt_of_not_le hgt')
      omega
    exact of_decide_eq_false hafter (Nat.le_trans hle' hnear)
  have hclose : near.1.stateIndex ≤ entry.1.stateIndex := by
    by_contra hgt
    have hlt := (hkeeping.lt_iff hentry hj).1 (Nat.lt_of_not_le hgt)
    omega
  omega

omit [Simulatable S A] in
theorem stateIndex_goToSnapshot {i : ℕ} {entry : Head × SnapshotId}
    (hentry : sim.snapshots[i]? = some entry)
    (hrun : sim.goToSnapshot i = some sim') :
    sim'.head.stateIndex = entry.1.stateIndex := by
  unfold Simulator.goToSnapshot at hrun
  rw [hentry, Option.bind_eq_bind, Option.bind_some] at hrun
  split at hrun
  case isTrue hsame =>
    cases hrun
    exact hsame
  · obtain ⟨allocator, -, hrun⟩ := Option.bind_eq_some_iff.1 hrun
    cases hrun
    rfl

/-- A move replays from HEAD or from the snapshot before its target. -/
theorem Spaced.goToState (h : Spaced sim.snapshots endOfHistory)
    (hkeeping : Bookkeeping sim endOfHistory) {target : ℕ}
    (hle : target ≤ endOfHistory) (hrun : sim.goToState target = some sim') :
    ReplayedWithin 2048 sim sim' := by
  unfold Simulator.goToState at hrun
  split at hrun
  · cases hrun
    exact ⟨sim, 0, Nat.zero_le _, Or.inl rfl, rfl⟩
  · obtain ⟨i, hfind, hrun⟩ := Option.bind_eq_some_iff.1 hrun
    obtain ⟨start, hgo, hrun⟩ := Option.bind_eq_some_iff.1 hrun
    obtain ⟨entry, hentry, hbefore, hnear⟩ :=
      h.findBaseSnapshot hkeeping hle hfind
    unfold Simulator.replayTo at hrun
    split at hrun
    · cases hrun
      unfold Simulator.goToBase at hgo
      split at hgo
      · have hstate := stateIndex_goToSnapshot hentry hgo
        exact ⟨start, _, by omega, Or.inr ⟨i, hgo⟩, rfl⟩
      case isFalse hstay =>
        cases hgo
        obtain ⟨base, hbase, hle'⟩ := hkeeping.base
        have hsame : i = sim.head.baseSnapshotIndex := by
          by_contra hne
          exact hstay (Or.inl hne)
        rw [hsame, hbase] at hentry
        cases hentry
        exact ⟨sim, _, by omega, Or.inl rfl, rfl⟩
    · cases hrun

omit [Simulatable S A] in
/-- A search scans one segment at a time, from a snapshot to the next. -/
theorem Spaced.segment (h : Spaced sim.snapshots endOfHistory)
    (hkeeping : Bookkeeping sim endOfHistory) {i : ℕ}
    {older newer : Head × SnapshotId} (holder : sim.snapshots[i]? = some older)
    (hnewer : sim.snapshots[i + 1]? = some newer) :
    newer.1.stateIndex ≤ older.1.stateIndex + 2049 := by
  have hwithin := hkeeping.entry_le (List.mem_of_getElem? hnewer)
  obtain ⟨near, hmem, hle, hspan⟩ :=
    h (newer.1.stateIndex - 1) (by omega)
  obtain ⟨j, hj⟩ := List.mem_iff_getElem?.1 hmem
  have hpos := (hkeeping.lt_iff holder hnewer).2 (Nat.lt_succ_self i)
  have hji := (hkeeping.lt_iff hj hnewer).1 (by omega)
  have hclose : near.1.stateIndex ≤ older.1.stateIndex := by
    by_contra hgt
    have hlt := (hkeeping.lt_iff holder hj).1 (Nat.lt_of_not_le hgt)
    omega
  omega

/-! ## Runs -/

/-- The simulators that the public operations reach without going beyond the
end of history, with the number of steps of their history. -/
inductive Traversal (simulatableConstructor : A → S × A) :
    Simulator S A SnapshotId → ℕ → Prop where
  | new : Traversal simulatableConstructor
      (Simulator.new simulatableConstructor) 0
  | operation {sim sim' : Simulator S A SnapshotId} {endOfHistory : ℕ}
      (traversal : Traversal simulatableConstructor sim endOfHistory)
      (op : Operation S A SnapshotId) (harmless : op.Harmless sim.simulatable)
      (within : op.Within endOfHistory) (run : op.run sim = some sim') :
      Traversal simulatableConstructor sim'
        (op.endAfter sim.currentSteps endOfHistory)
  | clearForwardHistory {sim sim' : Simulator S A SnapshotId}
      {endOfHistory : ℕ}
      (traversal : Traversal simulatableConstructor sim endOfHistory)
      (run : sim.clearForwardHistory = some sim') :
      Traversal simulatableConstructor sim' sim.currentSteps

variable {simulatableConstructor : A → S × A} {simulatable : S}

theorem Traversal.recording
    (h : Traversal simulatableConstructor sim endOfHistory) :
    Recording simulatableConstructor sim endOfHistory := by
  induction h with
  | new => exact .new
  | operation _ op harmless _ run ih => exact ih.operation op harmless run
  | clearForwardHistory _ run ih => exact ih.clearForwardHistory run

variable [LawfulSnapshotStore A V SnapshotId]

theorem IdsFormed.saveIfDirty (h : IdsFormed simulatable sim endOfHistory) :
    ∃ sim', sim.saveIfDirty = some sim' ∧
      sim'.head.stateIndex = sim.head.stateIndex ∧
      IdsFormed simulatable sim' endOfHistory := by
  obtain ⟨history, timeline, hlength, hwell⟩ := h
  have hlawful := @lawful_idsOnly A V SnapshotId _ _
  unfold IdsFormed
  let _ := store.idsOnly
  obtain ⟨sim', hsave, hclean, hstate⟩ := hwell.saveIfDirty
  exact ⟨sim', hsave, hstate, history, timeline, hlength, Or.inl hclean⟩

/-- The spacing holds after every traversal, by induction. -/
theorem Traversal.spaced
    (hkeeps : KeepsSnapshots (Simulatable.tick
      (simulatableConstructor SnapshotStore.new).1 : A → A))
    (h : Traversal simulatableConstructor sim endOfHistory) :
    Spaced sim.snapshots endOfHistory := by
  induction h with
  | new =>
      intro k hk
      rw [Nat.le_zero.1 hk]
      exact ⟨_, List.mem_singleton_self _, Nat.le_refl _, Nat.zero_le _⟩
  | operation traversal op _ hwithin hrun ih =>
      exact ih.operation (traversal.recording.idsFormed hkeeps).bookkeeping op
        hwithin hrun
  | clearForwardHistory traversal hrun ih =>
      have hkeeping := (traversal.recording.idsFormed hkeeps).bookkeeping
      obtain ⟨allocator, -, rfl⟩ := clearForwardHistory_eq hrun
      exact hkeeping.spaced_take ih

/-- Wherever HEAD is sent within the history, and whichever segment a search
scans, at most 2048 steps are replayed. -/
theorem Traversal.replays_at_most
    (hkeeps : KeepsSnapshots (Simulatable.tick
      (simulatableConstructor SnapshotStore.new).1 : A → A))
    (h : Traversal simulatableConstructor sim endOfHistory) :
    (∀ steps ≤ endOfHistory, ∀ sim', sim.goTo steps = some sim' →
      ∃ saved, sim.saveIfDirty = some saved ∧
        ReplayedWithin 2048 saved sim') ∧
    (∀ sim', sim.undoStep = some (true, sim') →
      ∃ saved, sim.saveIfDirty = some saved ∧
        ReplayedWithin 2048 saved sim') ∧
    (∀ sim', sim.redoStep = some (true, sim') → ReplayedWithin 2048 sim sim') ∧
    ∀ (i : ℕ) (older newer : Head × SnapshotId),
      sim.snapshots[i]? = some older → sim.snapshots[i + 1]? = some newer →
        newer.1.stateIndex ≤ older.1.stateIndex + 2049 := by
  have hformed := h.recording.idsFormed hkeeps
  have hkeeping := hformed.bookkeeping
  have hspaced := h.spaced hkeeps
  obtain ⟨saved, hsave, hstate, hsaved⟩ := hformed.saveIfDirty
  have hspaced' := hspaced.moved (subset_saveIfDirty hsave)
  refine ⟨?_, ?_, ?_, ?_⟩
  · intro steps hsteps sim' hrun
    rw [Simulator.goTo, hsave, Option.bind_eq_bind, Option.bind_some,
      Nat.zero_add] at hrun
    exact ⟨saved, hsave, hspaced'.goToState hsaved.bookkeeping hsteps hrun⟩
  · intro sim' hrun
    unfold Simulator.undoStep at hrun
    split at hrun
    · cases hrun
    case h_2 target hprevious =>
      rw [hsave, Option.bind_eq_bind, Option.bind_some] at hrun
      obtain ⟨sim₁, hgo, hrun⟩ := Option.bind_eq_some_iff.1 hrun
      cases hrun
      have htarget : target ≤ endOfHistory := by
        have hle := hkeeping.head_le
        unfold StateIndex.previous at hprevious
        split at hprevious
        · cases hprevious
        · cases hprevious
          omega
      exact ⟨saved, hsave,
        hspaced'.goToState hsaved.bookkeeping htarget hgo⟩
  · intro sim' hrun
    obtain ⟨detached, hdetached, hrun⟩ := Option.bind_eq_some_iff.1 hrun
    cases detached with
    | true =>
        obtain ⟨sim₁, hgo, hrun⟩ := Option.bind_eq_some_iff.1 hrun
        cases hrun
        exact hspaced.goToState hkeeping (hkeeping.head_lt hdetached) hgo
    | false => cases hrun
  · intro i older newer holder hnewer
    exact hspaced.segment hkeeping holder hnewer

/-- Going back from step 5 leaves a snapshot there.  Three steps later, going
back to step 7 leaves another one at 8, and replays two steps from the one at
5. -/
theorem Traversal.replays_at_most_counter :
    ∃ (sim sim' : Simulator Counter (CopyStore Nat) Nat),
      sim.currentSteps = 8 ∧
        sim.snapshots.map (fun entry => entry.1.stateIndex) = [0, 5] ∧
        sim.goTo 7 = some sim' ∧ view sim'.allocator = 7 ∧
        ∃ saved, sim.saveIfDirty = some saved ∧
          ReplayedWithin 2048 saved sim' := by
  have hkeeps : KeepsSnapshots
      (Simulatable.tick Counter.mk : CopyStore Nat → CopyStore Nat) :=
    fun _ => rfl
  have hnew : Traversal Counter.construct
      (Simulator.new Counter.construct) 0 := .new
  have htwo := (hnew.operation .step trivial trivial rfl).operation
    .step trivial trivial rfl
  have hfour := (htwo.operation .step trivial trivial rfl).operation
    .step trivial trivial rfl
  have hfive := hfour.operation .step trivial trivial rfl
  have hback := hfive.operation (.goTo 2) trivial (by show 2 ≤ 5; decide) rfl
  have hend := hback.operation (.goTo 5) trivial (by show 5 ≤ 5; decide) rfl
  have hseven := (hend.operation .step trivial trivial rfl).operation
    .step trivial trivial rfl
  have height := hseven.operation .step trivial trivial rfl
  exact ⟨_, _, rfl, rfl, rfl, rfl,
    (height.replays_at_most hkeeps).1 7 (by decide) _ rfl⟩

end RedPlanet.Simulator
