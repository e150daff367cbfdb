import RedPlanet.Simulator.Reachable
import RedPlanet.Target.Effects

/-!
# What a target replays

Each call of a target is a few operations of its simulator, in an order in
which every new step has been checked and `go_to` stays within the history
(`call_preserves`).  Two things follow for the simulator of a target that any
calls lead to.

It is well formed, for some history (`Run.wellFormed`).  That is all there is
to say once the future may have been deleted, since this can lose a tick of
the past.

As long as the future is not deleted, the simulator is that of a session, and
the default ticks of the reference timeline all complete where they stand
(`Tracked`): each of them was made on a board that did not panic, and whatever
is recorded later does not change the states before it.  So everything that is
replayed completes (`Tracked.replayable`).
-/

namespace RedPlanet.SimTarget

open Simulator Target Verified.Timeline SnapshotStore ModifiableStore

variable {A SnapshotId : Type} [ModifiableStore A Contents SnapshotId]
  {machine : Machine} {board : Board} {target target' : SimTarget A SnapshotId}
  {simulator simulator' : Simulator Machine A SnapshotId}
  {history : ℕ → A} {timeline : List (TimelineTick Machine A)} {initial : A}

/-! ## Calls as operations -/

/-- What a target sees to before an operation: the board does not panic in a
step, and `go_to` does not go past the end of history. -/
def Checked : Operation Machine A SnapshotId →
    Simulator Machine A SnapshotId → Prop
  | .step, simulator =>
      simulator.simulatable.tick
        (view simulator.allocator : Contents).board ≠ none
  | .goTo steps, simulator =>
      ∃ available, simulator.availableSteps = some available ∧
        steps ≤ available
  | _, _ => True

section Preserved

variable [LawfulModifiableStore A Contents SnapshotId]
  {P : Simulator Machine A SnapshotId → Prop}

/-- Operations that are checked keep `P`. -/
def KeptByChecked (P : Simulator Machine A SnapshotId → Prop) : Prop :=
  ∀ {simulator simulator' : Simulator Machine A SnapshotId}
    (op : Operation Machine A SnapshotId), op.Allowed simulator.simulatable →
    Checked op simulator → op.run simulator = some simulator' →
      P simulator → P simulator'

/-- A step with a custom tick that changes the visible state only. -/
theorem KeptByChecked.stepWith {R : Type} (hkept : KeptByChecked P)
    {name : String} {result : R} {answer : A → R}
    {change : Contents → Contents} (h : P simulator)
    (hrun : simulator.stepWith name (fun _ allocator =>
      (answer allocator, modify change allocator))
        = some (result, simulator')) : P simulator' := by
  let op : Operation Machine A SnapshotId :=
    .stepWith name fun _ allocator =>
      (answer allocator, modify change allocator)
  have hallowed : op.Allowed simulator.simulatable :=
    Deterministic.modify change
  have hop : op.run simulator = some simulator' := by
    show (simulator.stepWith name _).map _ = _
    rw [hrun]
    rfl
  exact hkept op hallowed trivial hop h

theorem KeptByChecked.comWithUart (hkept : KeptByChecked P)
    (h : P target.simulator) (hrun : target.comWithUart = some target') :
    P target'.simulator := by
  unfold SimTarget.comWithUart at hrun
  dsimp only at hrun
  split at hrun
  · obtain ⟨⟨_, simulator⟩, hstep, hrun⟩ := Option.bind_eq_some_iff.1 hrun
    cases hrun
    exact hkept.stepWith h hstep
  · cases hrun
    exact h

/-- A call keeps what checked operations keep, and what deleting the future
keeps if it does that. -/
theorem KeptByChecked.call (hkept : KeptByChecked P)
    (call : Call A SnapshotId)
    (hclear : ¬ call.Keeps → ∀ {simulator'},
      target.simulator.clearForwardHistory = some simulator' → P simulator')
    (h : P target.simulator) (hrun : call.run target = some target') :
    P target'.simulator := by
  cases call with
  | receive input =>
      cases hrun
      exact h
  | comWithUart => exact hkept.comWithUart h hrun
  | step =>
      obtain ⟨⟨redone, simulator⟩, hredo, hrun⟩ :=
        Option.bind_eq_some_iff.1 hrun
      have hredone : P simulator := by
        apply hkept .redoStep trivial trivial _ h
        rw [Operation.run, hredo]
        rfl
      cases redone with
      | true =>
          cases hrun
          exact hredone
      | false =>
          obtain ⟨target₁, hcom, hrun⟩ := Option.bind_eq_some_iff.1 hrun
          obtain ⟨board, htick, hrun⟩ := Option.bind_eq_some_iff.1 hrun
          obtain ⟨simulator₂, hstep, hrun⟩ := Option.bind_eq_some_iff.1 hrun
          cases hrun
          have h₁ : P target₁.simulator := hkept.comWithUart hredone hcom
          have hchecked : Checked .step target₁.simulator := by
            show target₁.simulator.simulatable.tick target₁.contents.board
              ≠ none
            rw [htick]
            exact Option.some_ne_none _
          exact hkept .step trivial hchecked hstep h₁
  | stepBack =>
      obtain ⟨simulator, hundo, hrun⟩ := Option.map_eq_some_iff.1 hrun
      rw [← hrun]
      exact hkept .undoStep trivial trivial hundo h
  | reverseContinue pred visit env =>
      obtain ⟨simulator, hundo, hrun⟩ := Option.map_eq_some_iff.1 hrun
      rw [← hrun]
      exact hkept (.undoStepsUntil pred visit env) trivial trivial hundo h
  | goTo steps =>
      obtain ⟨simulator, hgo, hrun⟩ := Option.map_eq_some_iff.1 hrun
      obtain ⟨available, havailable, hgo⟩ := Option.bind_eq_some_iff.1 hgo
      rw [← hrun]
      split at hgo
      · rename_i hle
        exact hkept (.goTo steps) trivial ⟨available, havailable, hle⟩ hgo h
      · cases hgo
        exact h
  | deleteFuture =>
      obtain ⟨simulator, hdelete, hrun⟩ := Option.map_eq_some_iff.1 hrun
      rw [← hrun]
      exact hclear id hdelete
  | stepWith name customTick =>
      obtain ⟨simulator, hstep, hrun⟩ := Option.map_eq_some_iff.1 hrun
      obtain ⟨⟨result, _⟩, hticked, rfl⟩ := Option.map_eq_some_iff.1 hstep
      rw [← hrun]
      exact hkept.stepWith h hticked

/-- The new simulator has made one step. -/
theorem KeptByChecked.new (hkept : KeptByChecked P)
    {uartChannel : List (BitVec 8)}
    (h : P (Simulator.new (construct machine board)))
    (created : SimTarget.new (Simulator.new (construct machine board))
      uartChannel = some target) : P target.simulator := by
  unfold SimTarget.new at created
  obtain ⟨⟨_, simulator⟩, hstep, hcreated⟩ :=
    Option.bind_eq_some_iff.1 created
  cases hcreated
  exact hkept.stepWith h hstep

/-! ## Any calls -/

/-- The calls of a target are public operations of its simulator. -/
theorem Run.reachable (h : Run machine board target) :
    Simulator.Reachable (construct machine board) target.simulator := by
  have hkept : KeptByChecked
      fun simulator : Simulator Machine A SnapshotId =>
        simulator.Reachable (construct machine board) :=
    fun op hallowed _ hrun h => h.operation op hallowed hrun
  induction h with
  | new created => exact hkept.new .new created
  | call _ call called ih =>
      exact hkept.call call (fun _ _ hrun => ih.clearForwardHistory hrun) ih
        called

/-- The simulator of a target is well formed. -/
theorem Run.wellFormed (h : Run machine board target) :
    ∃ history timeline,
      WellFormed history machine timeline target.simulator :=
  h.reachable.wellFormed (Deterministic.modify _)

end Preserved

/-! ## The future is kept -/

/-- Every default tick of the timeline completes in the state before it. -/
def Completing (initial : A) (machine : Machine)
    (timeline : List (TimelineTick Machine A)) : Prop :=
  ∀ k, timeline[k]? = some none →
    machine.tick (view (stateAfter initial machine timeline k) :
      Contents).board ≠ none

/-- One more tick does not change the states before it. -/
theorem Completing.cutAppend (h : Completing initial machine timeline)
    {position : ℕ} (hposition : position ≤ timeline.length)
    {tick : TimelineTick Machine A}
    (htick : tick = none → machine.tick
      (view (stateAfter initial machine timeline position) :
        Contents).board ≠ none) :
    Completing initial machine (cutAppend timeline position tick) := by
  have hlength : (timeline.take position).length = position := by
    rw [List.length_take]
    exact Nat.min_eq_left hposition
  intro k hk
  unfold Verified.Timeline.cutAppend at hk ⊢
  have hle : k ≤ position := by
    have hlt := (List.getElem?_eq_some_iff.1 hk).1
    rw [List.length_append, hlength, List.length_singleton] at hlt
    omega
  have hsame : stateAfter initial machine (timeline.take position ++ [tick]) k
      = stateAfter initial machine timeline k := by
    unfold stateAfter
    rw [stateAt_append_of_le _ (by rw [hlength]; exact hle),
      stateAt_take _ hle]
  rw [hsame]
  rcases Nat.eq_or_lt_of_le hle with rfl | hlt
  · rw [List.getElem?_append_right (Nat.le_of_eq hlength), hlength,
      Nat.sub_self] at hk
    exact htick (Option.some.inj hk)
  · rw [List.getElem?_append_left (by rw [hlength]; exact hlt),
      List.getElem?_take_of_lt hlt] at hk
    exact h k hk

/-- A checked operation on a simulator that has lost nothing. -/
theorem Completing.operation (h : Completing initial machine timeline)
    (hwell : WellFormed history machine timeline simulator)
    (hintact : Intact initial machine timeline history)
    (op : Operation Machine A SnapshotId) (hchecked : Checked op simulator) :
    Completing initial machine
      (op.timelineAfter timeline simulator.currentSteps) := by
  have hwithin := hwell.atState.within
  cases op with
  | step =>
      apply h.cutAppend hwithin
      intro _
      have hview := hwell.atState.view_eq.trans (hintact _ hwithin)
      have hmachine := hwell.recorded.simulatable_eq
      have htick : simulator.simulatable.tick
          (view simulator.allocator : Contents).board ≠ none := hchecked
      rw [hmachine, hview] at htick
      exact htick
  | stepWith name customTick => exact h.cutAppend hwithin nofun
  | goTo steps =>
      obtain ⟨available, havailable, hle⟩ := hchecked
      rw [hwell.availableSteps_eq] at havailable
      cases havailable
      rw [Operation.timelineAfter, Nat.sub_eq_zero_of_le hle, List.replicate_zero, List.append_nil]
      exact h
  | undoStep | redoStep | undoStepsUntil pred visit env => exact h

variable [LawfulModifiableStore A Contents SnapshotId]

/-- The simulator is that of a session whose default ticks all complete. -/
def Tracked (machine : Machine) (board : Board)
    (simulator : Simulator Machine A SnapshotId) : Prop :=
  ∃ timeline, Session (construct machine board) simulator timeline ∧
    Completing (construct machine board (SnapshotStore.new : A)).2 machine
      timeline

theorem kept_tracked :
    KeptByChecked fun simulator : Simulator Machine A SnapshotId =>
      Tracked machine board simulator := by
  rintro simulator simulator' op hallowed hchecked hrun
    ⟨timeline, hsession, hcompleting⟩
  obtain ⟨history, hwell, hintact⟩ :=
    hsession.wellFormed (Deterministic.modify _)
  exact ⟨_, hsession.next op hallowed hrun,
    hcompleting.operation hwell hintact op hchecked⟩

theorem tracked_new {uartChannel : List (BitVec 8)}
    (created : SimTarget.new (Simulator.new (construct machine board))
      uartChannel = some target) :
    Tracked machine board target.simulator :=
  kept_tracked.new ⟨[], .new, nofun⟩ created

/-- Calls that keep the future keep all that was recorded. -/
theorem Tracked.reaches (h : Tracked machine board target.simulator)
    (hreaches : Reaches Call.Keeps target target') :
    Tracked machine board target'.simulator := by
  induction hreaches with
  | refl => exact h
  | tail _ hcall ih =>
      obtain ⟨call, hkeeps, hrun⟩ := hcall
      exact kept_tracked.call call (fun hnot => absurd hkeeps hnot) ih hrun

/-- Whatever such a target replays completes. -/
theorem Tracked.replayable (h : Tracked machine board target.simulator) :
    target.Replayable := by
  obtain ⟨timeline, hsession, hcompleting⟩ := h
  obtain ⟨history, hwell, hintact⟩ :=
    hsession.wellFormed (Deterministic.modify _)
  rintro k contents ⟨available, havailable, hlt⟩ hrecorded hshown
  rw [hwell.availableSteps_eq] at havailable
  cases havailable
  rw [hwell.shownAt (Nat.le_of_lt hlt), hintact k (Nat.le_of_lt hlt)]
    at hshown
  cases hshown
  rw [hwell.recorded.simulatable_eq]
  apply hcompleting
  cases htick : timeline[k]? with
  | none =>
      have hge := List.getElem?_eq_none_iff.1 htick
      omega
  | some tick =>
      cases tick with
      | none => rfl
      | some custom =>
          -- a custom tick would have been recorded
          have hmem := List.mem_of_getElem? (getElem?_marks_of_some htick)
          rw [← hwell.recorded.customTicks_eq] at hmem
          have hnone := Option.map_eq_none_iff.1 hrecorded
          have hne := List.find?_eq_none.1 hnone _ hmem
          exact absurd (beq_self_eq_true k) hne

end RedPlanet.SimTarget
