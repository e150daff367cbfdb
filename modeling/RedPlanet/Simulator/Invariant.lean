import RedPlanet.Simulator.Model
import RedPlanet.Verified.Timeline

/-!
# The bookkeeping of the simulator

A simulator is compared with its *timeline*, the list of all ticks from the
initial state to the last stored one (`none` standing for the default tick),
and with its *history*, the states it goes back to.  `Stored` says that the
snapshots and the custom ticks describe the two, `Recorded` that each state
that is not in a snapshot is replayed from the one before it, and `AtState`
that HEAD shows the state at its index.  The remaining index,
`next_custom_tick_index`, is exact only while HEAD is away from the end, so
the states between two operations fall into two overlapping kinds: `AtEnd`,
where HEAD is the last state, and `Clean`, where the last state has been
saved.

As long as no tick of the timeline is lost, the history is the one that the
timeline prescribes: it is `Intact`.
-/

namespace RedPlanet.Simulator

open SnapshotStore Verified.Timeline

variable {S A V SnapshotId R κ : Type} {sim : Simulator S A SnapshotId}

/-! ## What the queries answer -/

theorem isHeadDetached_eq (h : 0 < sim.snapshots.length) :
    sim.isHeadDetached =
      some (decide (sim.head.baseSnapshotIndex + 1 ≠ sim.snapshots.length)) := by
  have hne : sim.snapshots.length ≠ 0 := by omega
  have hiff : (sim.head.baseSnapshotIndex != sim.snapshots.length - 1) =
      decide (sim.head.baseSnapshotIndex + 1 ≠ sim.snapshots.length) := by
    rw [Bool.eq_iff_iff]
    simp only [bne_iff_ne, decide_eq_true_eq]
    omega
  simp [isHeadDetached, lastSnapshotIndex, hne, hiff]

theorem isHeadAtSnapshot_eq {entry : Head × SnapshotId}
    (h : sim.snapshots[sim.head.baseSnapshotIndex]? = some entry) :
    sim.isHeadAtSnapshot =
      some (entry.1.stateIndex == sim.head.stateIndex) := by
  simp [isHeadAtSnapshot, h]

theorem headAtLastSnapshot_eq {entry : Head × SnapshotId}
    (h : sim.snapshots[sim.snapshots.length - 1]? = some entry) :
    sim.headAtLastSnapshot = some entry.1 := by
  have hne : sim.snapshots.length ≠ 0 := by
    have := (List.getElem?_eq_some_iff.1 h).1
    omega
  simp [headAtLastSnapshot, lastSnapshotIndex, hne, h]

theorem availableSteps_ne_none (h : 0 < sim.snapshots.length) :
    sim.availableSteps ≠ none := by
  have hlast : sim.snapshots.length - 1 < sim.snapshots.length := by omega
  have hsaved := headAtLastSnapshot_eq (List.getElem?_eq_getElem hlast)
  simp only [availableSteps, headAtLastState, isHeadDetached_eq h, hsaved,
    Option.bind_eq_bind, Option.bind_some]
  split
  · exact Option.some_ne_none _
  · exact Option.some_ne_none _

/-! ## What the steps of an operation leave -/

variable [SnapshotStore A V SnapshotId] {sim' : Simulator S A SnapshotId}

theorem saveIfDirty_cases (h : sim.saveIfDirty = some sim') :
    sim' = sim.makeSnapshot ∨ sim' = sim := by
  obtain ⟨dirty, -, h⟩ := Option.bind_eq_some_iff.1 h
  cases dirty with
  | true => exact Or.inl (Option.some.inj h).symm
  | false => exact Or.inr (Option.some.inj h).symm

theorem snapshotIfDue_cases (h : sim.snapshotIfDue = some sim') :
    sim' = sim.makeSnapshot ∨ sim' = sim := by
  obtain ⟨due, -, h⟩ := Option.bind_eq_some_iff.1 h
  cases due with
  | true => exact Or.inl (Option.some.inj h).symm
  | false => exact Or.inr (Option.some.inj h).symm

/-- The forward history is gone, and HEAD stays. -/
theorem clearForwardHistory_eq (h : sim.clearForwardHistory = some sim') :
    ∃ allocator, dropSnapshots
        (sim.snapshots.drop (sim.head.baseSnapshotIndex + 1)) sim.allocator
          = some allocator ∧
      sim' = { sim with
        allocator := allocator
        snapshots := sim.snapshots.take (sim.head.baseSnapshotIndex + 1)
        customTicks := sim.customTicks.take sim.head.nextCustomTickIndex } := by
  unfold clearForwardHistory at h
  dsimp only at h
  by_cases hlen : sim.snapshots.length < sim.head.baseSnapshotIndex + 1
  · rw [if_pos hlen] at h
    cases h
  · rw [if_neg hlen] at h
    obtain ⟨allocator, hdrop, hsim'⟩ := Option.bind_eq_some_iff.1 h
    exact ⟨allocator, hdrop, (Option.some.inj hsim').symm⟩

theorem clearIfDetached_cases (h : sim.clearIfDetached = some sim') :
    sim.clearForwardHistory = some sim' ∨ sim' = sim := by
  obtain ⟨detached, -, h⟩ := Option.bind_eq_some_iff.1 h
  cases detached with
  | true => exact Or.inl h
  | false => exact Or.inr (Option.some.inj h).symm

/-! ## The timeline -/

variable [Simulatable S A]

/-- A tick of the timeline: a custom one, or the default one. -/
abbrev TimelineTick (S A : Type) := Option (Tick S A)

/-- Apply a tick of the timeline. -/
def TimelineTick.run (simulatable : S) : TimelineTick S A → A → A
  | none => Simulatable.tick simulatable
  | some custom => custom.tick simulatable

/-- The state after `k` ticks of a timeline, from the initial allocator. -/
abbrev stateAfter (initial : A) (simulatable : S)
    (timeline : List (TimelineTick S A)) (k : Nat) : A :=
  stateAt (TimelineTick.run simulatable) timeline initial k

/-! ## The invariants -/

/-- The snapshots hold states of the history, and the custom ticks are those
of the timeline. -/
structure Stored (history : Nat → A) (simulatable : S)
    (timeline : List (TimelineTick S A))
    (sim : Simulator S A SnapshotId) : Prop where
  simulatable_eq : sim.simulatable = simulatable
  deterministic : ∀ tick ∈ timeline,
    Deterministic (TimelineTick.run simulatable tick)
  first : ∃ entry, sim.snapshots[0]? = some entry ∧ entry.1.stateIndex = 0
  increasing : sim.snapshots.Pairwise
    fun older newer => older.1.stateIndex < newer.1.stateIndex
  ownIndex : ∀ (i : Nat) (entry : Head × SnapshotId),
    sim.snapshots[i]? = some entry → entry.1.baseSnapshotIndex = i
  within : ∀ entry ∈ sim.snapshots, entry.1.stateIndex ≤ timeline.length
  captured_eq : ∀ entry ∈ sim.snapshots,
    captured sim.allocator entry.2 =
      some (view (history entry.1.stateIndex))
  distinct : (sim.snapshots.map (·.2)).Nodup
  customTicks_eq : sim.customTicks = marks timeline

/-- A state that is not in a snapshot comes from the one before it, except for
the last state, which is saved before HEAD leaves it. -/
structure Recorded (history : Nat → A) (simulatable : S)
    (timeline : List (TimelineTick S A))
    (sim : Simulator S A SnapshotId) : Prop
    extends Stored history simulatable timeline sim where
  replayed : ∀ (k : Nat) (tick : TimelineTick S A),
    timeline[k]? = some tick → k + 1 < timeline.length →
    (∀ entry ∈ sim.snapshots, entry.1.stateIndex ≠ k + 1) →
    view (history (k + 1)) =
      view (TimelineTick.run simulatable tick (history k))

/-- HEAD shows the state at its index, and its base snapshot is the last one
at or before that state. -/
structure AtState (history : Nat → A)
    (timeline : List (TimelineTick S A))
    (sim : Simulator S A SnapshotId) : Prop where
  within : sim.head.stateIndex ≤ timeline.length
  base : ∃ entry, sim.snapshots[sim.head.baseSnapshotIndex]? = some entry ∧
    entry.1.stateIndex ≤ sim.head.stateIndex
  next : ∀ entry, sim.snapshots[sim.head.baseSnapshotIndex + 1]? = some entry →
    sim.head.stateIndex < entry.1.stateIndex
  view_eq : view sim.allocator = view (history sim.head.stateIndex)

/-- The next custom tick is the first one at or after HEAD. -/
def ExactNext (timeline : List (TimelineTick S A))
    (sim : Simulator S A SnapshotId) : Prop :=
  sim.head.nextCustomTickIndex =
    (marks (timeline.take sim.head.stateIndex)).length

/-- The last state of the timeline is saved in the last snapshot. -/
def Saved (timeline : List (TimelineTick S A))
    (sim : Simulator S A SnapshotId) : Prop :=
  ∃ entry, sim.snapshots[sim.snapshots.length - 1]? = some entry ∧
    entry.1.stateIndex = timeline.length

/-- HEAD can move freely: the last state is saved, and the next custom tick is
known unless there is nothing to replay. -/
structure Clean (history : Nat → A) (simulatable : S)
    (timeline : List (TimelineTick S A))
    (sim : Simulator S A SnapshotId) : Prop where
  recorded : Recorded history simulatable timeline sim
  atState : AtState history timeline sim
  saved : Saved timeline sim
  exact : ExactNext timeline sim ∨ sim.head.stateIndex = timeline.length
  next_le : sim.head.nextCustomTickIndex ≤ sim.customTicks.length

/-- HEAD is the last state of the timeline, saved or not. -/
structure AtEnd (history : Nat → A) (simulatable : S)
    (timeline : List (TimelineTick S A))
    (sim : Simulator S A SnapshotId) : Prop where
  recorded : Recorded history simulatable timeline sim
  atState : AtState history timeline sim
  last : sim.head.baseSnapshotIndex + 1 = sim.snapshots.length
  state_eq : sim.head.stateIndex = timeline.length
  next_le : sim.head.nextCustomTickIndex ≤ sim.customTicks.length

/-- What holds between two operations. -/
def WellFormed (history : Nat → A) (simulatable : S)
    (timeline : List (TimelineTick S A))
    (sim : Simulator S A SnapshotId) : Prop :=
  Clean history simulatable timeline sim ∨
    AtEnd history simulatable timeline sim

/-- No tick of the timeline has been lost: the states of the history are those
that the timeline prescribes. -/
def Intact (initial : A) (simulatable : S)
    (timeline : List (TimelineTick S A)) (history : Nat → A) : Prop :=
  ∀ k ≤ timeline.length,
    view (history k) = view (stateAfter initial simulatable timeline k)

/-- A history goes on, with another timeline, without losing a tick. -/
def Continues (simulatable : S) (timeline : List (TimelineTick S A))
    (history : Nat → A) (timeline' : List (TimelineTick S A))
    (history' : Nat → A) : Prop :=
  ∀ initial, Intact initial simulatable timeline history →
    Intact initial simulatable timeline' history'

variable {history : Nat → A} {simulatable : S}
  {timeline : List (TimelineTick S A)}

/-! ## Consequences -/

/-- Cutting a timeline loses no tick before the cut. -/
theorem Continues.take {n : Nat} (hn : n ≤ timeline.length) :
    Continues simulatable timeline history (timeline.take n) history := by
  intro initial hintact k hk
  rw [List.length_take, Nat.min_eq_left hn] at hk
  rw [stateAfter, stateAt_take _ hk]
  exact hintact k (Nat.le_trans hk hn)

theorem Recorded.length_pos (h : Recorded history simulatable timeline sim) :
    0 < sim.snapshots.length := by
  obtain ⟨entry, hentry, -⟩ := h.first
  exact (List.getElem?_eq_some_iff.1 hentry).1

theorem Recorded.lt_of_lt (h : Recorded history simulatable timeline sim)
    {i j : Nat} {x y : Head × SnapshotId} (hx : sim.snapshots[i]? = some x)
    (hy : sim.snapshots[j]? = some y) (hij : i < j) :
    x.1.stateIndex < y.1.stateIndex := by
  obtain ⟨hi, rfl⟩ := List.getElem?_eq_some_iff.1 hx
  obtain ⟨hj, rfl⟩ := List.getElem?_eq_some_iff.1 hy
  exact List.pairwise_iff_getElem.1 h.increasing i j hi hj hij

/-- `Recorded` does not speak about HEAD or about the visible state. -/
theorem Recorded.of_eq (h : Recorded history simulatable timeline sim)
    {sim' : Simulator S A SnapshotId}
    (hsimulatable : sim'.simulatable = sim.simulatable)
    (hsnapshots : sim'.snapshots = sim.snapshots)
    (hcustom : sim'.customTicks = sim.customTicks)
    (hcaptured : captured sim'.allocator = captured sim.allocator) :
    Recorded history simulatable timeline sim' where
  simulatable_eq := hsimulatable.trans h.simulatable_eq
  deterministic := h.deterministic
  first := hsnapshots ▸ h.first
  increasing := hsnapshots ▸ h.increasing
  ownIndex := hsnapshots ▸ h.ownIndex
  within := hsnapshots ▸ h.within
  captured_eq := by
    rw [hsnapshots, hcaptured]
    exact h.captured_eq
  distinct := hsnapshots ▸ h.distinct
  customTicks_eq := hcustom.trans h.customTicks_eq
  replayed := hsnapshots ▸ h.replayed

/-- A snapshot at or before HEAD comes at or before the base snapshot, and
conversely. -/
theorem Recorded.le_base_iff (h : Recorded history simulatable timeline sim)
    (hat : AtState history timeline sim) {i : Nat}
    {x : Head × SnapshotId} (hx : sim.snapshots[i]? = some x) :
    x.1.stateIndex ≤ sim.head.stateIndex ↔ i ≤ sim.head.baseSnapshotIndex := by
  obtain ⟨base, hbase, hle⟩ := hat.base
  constructor
  · intro hxle
    by_contra hi
    have hlen := (List.getElem?_eq_some_iff.1 hx).1
    have hnext : sim.head.baseSnapshotIndex + 1 < sim.snapshots.length := by
      omega
    have hlt := hat.next _ (List.getElem?_eq_getElem hnext)
    rcases Nat.lt_or_ge (sim.head.baseSnapshotIndex + 1) i with hi' | hi'
    · have := h.lt_of_lt (List.getElem?_eq_getElem hnext) hx hi'
      omega
    · have hi'' : i = sim.head.baseSnapshotIndex + 1 := by omega
      subst hi''
      rw [List.getElem?_eq_getElem hnext] at hx
      rw [Option.some.inj hx] at hlt
      omega
  · intro hi
    rcases Nat.lt_or_ge i sim.head.baseSnapshotIndex with hlt | hge
    · have := h.lt_of_lt hx hbase hlt
      omega
    · have hi' : i = sim.head.baseSnapshotIndex := by omega
      subst hi'
      rw [hx] at hbase
      rw [Option.some.inj hbase]
      exact hle

/-- The state after HEAD is in no snapshot, if the next snapshot is newer. -/
theorem Recorded.ne_of_next (h : Recorded history simulatable timeline sim)
    (hat : AtState history timeline sim)
    (hnext : ∀ entry,
      sim.snapshots[sim.head.baseSnapshotIndex + 1]? = some entry →
        sim.head.stateIndex + 1 < entry.1.stateIndex) :
    ∀ entry ∈ sim.snapshots, entry.1.stateIndex ≠ sim.head.stateIndex + 1 := by
  intro entry hmem heq
  obtain ⟨i, hi⟩ := List.mem_iff_getElem?.1 hmem
  have hafter : ¬ i ≤ sim.head.baseSnapshotIndex := by
    intro hle
    have := (h.le_base_iff hat hi).2 hle
    omega
  rcases Nat.lt_or_ge (sim.head.baseSnapshotIndex + 1) i with hlt | hge
  · have hlen := (List.getElem?_eq_some_iff.1 hi).1
    have hget := List.getElem?_eq_getElem (Nat.lt_trans hlt hlen)
    have := hnext _ hget
    have := h.lt_of_lt hget hi hlt
    omega
  · have hi' : i = sim.head.baseSnapshotIndex + 1 := by omega
    have := hnext entry (hi' ▸ hi)
    omega

omit [Simulatable S A] in
theorem AtState.length_take (hat : AtState history timeline sim) :
    (timeline.take sim.head.stateIndex).length = sim.head.stateIndex := by
  rw [List.length_take]
  exact Nat.min_eq_left hat.within

omit [Simulatable S A] in
theorem AtState.base_lt (hat : AtState history timeline sim) :
    sim.head.baseSnapshotIndex < sim.snapshots.length := by
  obtain ⟨base, hbase, -⟩ := hat.base
  exact (List.getElem?_eq_some_iff.1 hbase).1

/-- In a clean state HEAD is the last state exactly when its base snapshot is
the last one. -/
theorem Clean.state_eq_iff (h : Clean history simulatable timeline sim) :
    sim.head.stateIndex = timeline.length ↔
      sim.head.baseSnapshotIndex + 1 = sim.snapshots.length := by
  obtain ⟨last, hlast, hstate⟩ := h.saved
  have hiff := h.recorded.le_base_iff h.atState hlast
  have hbase := h.atState.base_lt
  have hwithin := h.atState.within
  omega

/-- The last state is in a snapshot, so the state after HEAD is not the last
one if the next snapshot is newer. -/
theorem Clean.lt_of_next (h : Clean history simulatable timeline sim)
    (hlt : sim.head.stateIndex < timeline.length)
    (hnext : ∀ entry,
      sim.snapshots[sim.head.baseSnapshotIndex + 1]? = some entry →
        sim.head.stateIndex + 1 < entry.1.stateIndex) :
    sim.head.stateIndex + 1 < timeline.length := by
  obtain ⟨last, hlast, hstate⟩ := h.saved
  have hne := h.recorded.ne_of_next h.atState hnext last
    (List.mem_of_getElem? hlast)
  omega

theorem Clean.exact_of_lt (h : Clean history simulatable timeline sim)
    (hlt : sim.head.stateIndex < timeline.length) : ExactNext timeline sim :=
  h.exact.resolve_right (by omega)

/-- A clean state whose base is the last snapshot is at the end. -/
theorem Clean.atEnd (h : Clean history simulatable timeline sim)
    (hlast : sim.head.baseSnapshotIndex + 1 = sim.snapshots.length) :
    AtEnd history simulatable timeline sim where
  recorded := h.recorded
  atState := h.atState
  last := hlast
  state_eq := h.state_eq_iff.2 hlast
  next_le := h.next_le

theorem WellFormed.recorded (h : WellFormed history simulatable timeline sim) :
    Recorded history simulatable timeline sim :=
  h.elim Clean.recorded AtEnd.recorded

theorem WellFormed.atState (h : WellFormed history simulatable timeline sim) :
    AtState history timeline sim :=
  h.elim Clean.atState AtEnd.atState

theorem WellFormed.next_le (h : WellFormed history simulatable timeline sim) :
    sim.head.nextCustomTickIndex ≤ sim.customTicks.length :=
  h.elim Clean.next_le AtEnd.next_le

theorem WellFormed.atEnd (h : WellFormed history simulatable timeline sim)
    (hlast : sim.head.baseSnapshotIndex + 1 = sim.snapshots.length) :
    AtEnd history simulatable timeline sim :=
  h.elim (fun hclean => hclean.atEnd hlast) id

/-- Away from the last snapshot a well-formed state is clean. -/
theorem WellFormed.clean (h : WellFormed history simulatable timeline sim)
    (hlast : sim.head.baseSnapshotIndex + 1 ≠ sim.snapshots.length) :
    Clean history simulatable timeline sim :=
  h.elim id (fun hend => absurd hend.last hlast)

/-- Equal positions in one history show equal states. -/
theorem WellFormed.view_eq {timeline' : List (TimelineTick S A)}
    {sim' : Simulator S A SnapshotId}
    (h : WellFormed history simulatable timeline sim)
    (h' : WellFormed history simulatable timeline' sim')
    (hstate : sim'.head.stateIndex = sim.head.stateIndex) :
    view sim'.allocator = view sim.allocator := by
  rw [h.atState.view_eq, h'.atState.view_eq, hstate]

/-! ## Rebuilding the history -/

/-- Where the snapshots hold states of a history, the other states can be
chosen to be what is replayed. -/
theorem Stored.rebuild (h : Stored history simulatable timeline sim) :
    ∃ rebuilt, Recorded rebuilt simulatable timeline sim ∧
      rebuilt timeline.length = history timeline.length ∧
      Continues simulatable timeline history timeline rebuilt := by
  let kept : Nat → Bool := fun k =>
    sim.snapshots.any (fun entry => entry.1.stateIndex == k) ||
      k == timeline.length
  let act : TimelineTick S A → A → A := TimelineTick.run simulatable
  have hsaved : ∀ entry ∈ sim.snapshots, kept entry.1.stateIndex = true := by
    intro entry hmem
    apply Bool.or_eq_true_iff.2
    exact Or.inl (List.any_eq_true.2 ⟨entry, hmem, beq_self_eq_true _⟩)
  have hlast : kept timeline.length = true := by simp [kept]
  have hrecorded :
      Recorded (rebuilt act timeline kept history) simulatable timeline sim :=
    { h with
      captured_eq := by
        intro entry hmem
        rw [rebuilt_of_kept (Or.inr (hsaved entry hmem))]
        exact h.captured_eq entry hmem
      replayed := by
        intro k tick hget hlt hunsaved
        have hkept : kept (k + 1) = false := by
          simp only [kept, Bool.or_eq_false_iff, List.any_eq_false,
            beq_iff_eq, beq_eq_false_iff_ne]
          exact ⟨hunsaved, by omega⟩
        rw [rebuilt_succ hkept hget] }
  refine ⟨_, hrecorded, rebuilt_of_kept (Or.inr hlast), ?_⟩
  intro initial hintact
  apply rebuilt_stateAt (r := fun a b => view a = view b)
  · intro tick hmem
    exact (h.deterministic tick hmem).view_congr
  · exact hintact

/-! ## The recorded length -/

/-- `available_steps` is the length of the timeline. -/
theorem WellFormed.availableSteps_eq
    (h : WellFormed history simulatable timeline sim) :
    sim.availableSteps = some timeline.length := by
  have hdetached := isHeadDetached_eq h.recorded.length_pos
  by_cases hlast : sim.head.baseSnapshotIndex + 1 = sim.snapshots.length
  · simp [availableSteps, headAtLastState, hdetached, hlast,
      StateIndex.stepsSince, (h.atEnd hlast).state_eq]
  · obtain ⟨last, hentry, hstate⟩ := (h.clean hlast).saved
    simp [availableSteps, headAtLastState, hdetached, hlast,
      StateIndex.stepsSince, headAtLastSnapshot_eq hentry, hstate]

end RedPlanet.Simulator
