import RedPlanet.Target.Debugger
import RedPlanet.Target.Replay

/-!
# The target goes on

Where the loop of the target panics, and that it gets stuck nowhere else.

The simulator of a target is well formed after any calls, so the simulator
itself never panics (`Run.completes`).  What is left are the programs that the
target runs on the board: the step of the board, when a new step is made
(`StepPanics`, and for the loops of `advance_sim` `StepsPanic`), and the closure
of a command (`Command.Panics`).  Each of these is exact: a step, an advance
and a command complete if and only if what they run on the board does
(`step_completes_iff`, `advanceSim_completes_iff`,
`executeCommand_completes_iff`).

From these `next_iff` puts together when the loop goes on: unless it was left,
or waits for a command, or is at one of the two panics, it does.
-/

namespace RedPlanet.SimTarget

open Simulator Target Verified SnapshotStore ModifiableStore

variable {A SnapshotId : Type} [ModifiableStore A Contents SnapshotId]
  [LawfulModifiableStore A Contents SnapshotId] {machine : Machine}
  {board : Board} {target target' : SimTarget A SnapshotId}
  {history : ℕ → A} {timeline : List (TimelineTick Machine A)}

/-! ## Calls complete -/

theorem new_completes (machine : Machine) (board : Board)
    (uartChannel : List (BitVec 8)) :
    ∃ target : SimTarget A SnapshotId, SimTarget.new
      (Simulator.new (construct machine board)) uartChannel = some target := by
  obtain ⟨target, hnew, -⟩ := new_eq (A := A) machine board uartChannel
  exact ⟨target, hnew⟩

theorem comWithUart_completes
    (h : WellFormed history machine timeline target.simulator) :
    ∃ history' timeline' target', target.comWithUart = some target' ∧
      WellFormed history' machine timeline' target'.simulator := by
  unfold comWithUart
  dsimp only
  split
  · obtain ⟨history', _, simulator, hstep, hwell, -⟩ :=
      h.stepWith "com with uart" (fun _ allocator => ((), modify
        (fun contents => (exchange
          (target.uartChannel.take target.contents.board.bus.uart0.inputSpace)
          contents).getD contents) allocator)) (Deterministic.modify _)
    refine ⟨history', _, { target with
      simulator := simulator
      uartChannel := target.uartChannel.drop
        target.contents.board.bus.uart0.inputSpace }, ?_, hwell⟩
    rw [hstep]
    rfl
  · exact ⟨history, timeline, _, rfl, h⟩

/-- The next step is a new one, and the board panics in it, after the exchange
with the UART. -/
def StepPanics (target : SimTarget A SnapshotId) : Prop :=
  ∃ (simulator : Simulator Machine A SnapshotId)
      (exchanged : SimTarget A SnapshotId),
    target.simulator.redoStep = some (false, simulator) ∧
      comWithUart { target with simulator := simulator } = some exchanged ∧
        exchanged.simulator.simulatable.tick exchanged.contents.board = none

theorem step_completes_iff
    (h : WellFormed history machine timeline target.simulator) :
    (∃ target', target.step = some target') ↔ ¬ target.StepPanics := by
  obtain ⟨redone, simulator, hredo, hwell, -⟩ := h.redoStep
  unfold step StepPanics
  rw [hredo]
  cases redone with
  | true => exact iff_of_true ⟨_, rfl⟩ fun ⟨_, _, hfalse, _⟩ => nomatch hfalse
  | false =>
      let target₀ : SimTarget A SnapshotId :=
        { target with simulator := simulator }
      have hwell₀ : WellFormed history machine timeline target₀.simulator :=
        hwell
      obtain ⟨_, _, target₁, hcom, hwell₁⟩ := comWithUart_completes hwell₀
      obtain ⟨_, simulator₂, hstep, -⟩ :=
        hwell₁.step (Deterministic.modify _)
      rw [Option.bind_eq_bind, Option.bind_some]
      dsimp only
      rw [if_neg Bool.false_ne_true, hcom, Option.bind_eq_bind,
        Option.bind_some]
      cases htick : target₁.simulator.simulatable.tick
          target₁.contents.board with
      | none =>
          exact iff_of_false (fun ⟨_, hnone⟩ => nomatch hnone) fun hpanics =>
            hpanics ⟨simulator, target₁, rfl, hcom, htick⟩
      | some board =>
          refine iff_of_true ⟨{ target₁ with simulator := simulator₂ }, ?_⟩ ?_
          · rw [Option.bind_eq_bind, Option.bind_some, hstep]
            rfl
          · rintro ⟨_, exchanged, ⟨rfl⟩, hexchanged, hnone⟩
            rw [hcom] at hexchanged
            cases hexchanged
            rw [htick] at hnone
            cases hnone

/-- It panics in a step of the machine. -/
theorem StepPanics.tick_eq_none
    (hpanics : target.StepPanics)
    (h : WellFormed history machine timeline target.simulator) :
    ∃ board, machine.tick board = none := by
  obtain ⟨simulator, exchanged, hredo, hcom, hnone⟩ := hpanics
  obtain ⟨_, _, hredo', hwell, -⟩ := h.redoStep
  rw [hredo] at hredo'
  cases hredo'
  let redone : SimTarget A SnapshotId := { target with simulator := simulator }
  have hredone : WellFormed history machine timeline redone.simulator := hwell
  obtain ⟨_, _, _, hcom', hwell'⟩ := comWithUart_completes hredone
  rw [hcom] at hcom'
  cases hcom'
  rw [hwell'.recorded.simulatable_eq] at hnone
  exact ⟨_, hnone⟩

/-- Whatever the target has been through, the next call completes, unless it
is a step in which the board panics. -/
theorem Run.completes (h : Run machine board target)
    (call : Call A SnapshotId) (hpanics : call = .step → ¬ target.StepPanics) :
    ∃ target', call.run target = some target' := by
  obtain ⟨history, timeline, hwell⟩ := h.wellFormed
  cases call with
  | receive input => exact ⟨_, rfl⟩
  | comWithUart =>
      obtain ⟨_, _, target', hrun, -⟩ := comWithUart_completes hwell
      exact ⟨target', hrun⟩
  | step => exact (step_completes_iff hwell).2 (hpanics rfl)
  | stepBack =>
      obtain ⟨moved, simulator, hundo, -⟩ := hwell.undoStep
      exact ⟨_, onSimulator_map hundo⟩
  | reverseContinue pred visit env =>
      obtain ⟨result, hundo, -⟩ := hwell.undoStepsUntil pred visit env
      refine ⟨{ target with simulator := result.sim }, ?_⟩
      unfold Call.run
      dsimp only
      rw [hundo]
      rfl
  | goTo steps =>
      have havailable := hwell.availableSteps_eq
      unfold Call.run
      dsimp only
      rw [havailable]
      by_cases hle : steps ≤ timeline.length
      · obtain ⟨simulator, hgo, -⟩ := hwell.goTo steps hle
        refine ⟨{ target with simulator := simulator }, ?_⟩
        rw [Option.bind_eq_bind, Option.bind_some, if_pos hle, hgo]
        rfl
      · refine ⟨target, ?_⟩
        rw [Option.bind_eq_bind, Option.bind_some, if_neg hle]
        rfl
  | deleteFuture =>
      obtain ⟨_, _, simulator, hclear, -⟩ :=
        hwell.deleteFuture (Deterministic.modify _)
      refine ⟨{ target with simulator := simulator }, ?_⟩
      unfold Call.run
      dsimp only
      rw [hclear]
      rfl
  | stepWith name customTick =>
      obtain ⟨_, result, simulator, hstep, -⟩ :=
        hwell.stepWith name (fun _ allocator =>
          ((customTick (view allocator).board).1, modify
            (onBoard fun board => (customTick board).2) allocator))
          (Deterministic.modify _)
      exact ⟨_, onSimulator_map hstep⟩

/-! ## Without the UART -/

/-- The target is at the end of history, and has no input for the UART. -/
structure Idle (machine : Machine) (board : Board)
    (target : SimTarget A SnapshotId) : Prop where
  attached : Attached target.simulator
  machine_eq : target.simulator.simulatable = machine
  board_eq : target.contents.board = board
  input_eq : target.uartChannel = []

theorem idle_new (machine : Machine) (board : Board) :
    ∃ target : SimTarget A SnapshotId, SimTarget.new
      (Simulator.new (construct machine board)) [] = some target ∧
        Idle machine board target := by
  obtain ⟨target, hnew, hattached, hmachine, hcontents, hinput⟩ :=
    new_eq (A := A) machine board []
  refine ⟨target, hnew, hattached, hmachine, ?_, hinput⟩
  rw [hcontents]
  rfl

omit [LawfulModifiableStore A Contents SnapshotId] in
/-- Without output either, there is nothing to exchange. -/
theorem Idle.comWithUart_eq (h : Idle machine board target)
    (hpending : board.bus.uart0.pendingOutputAmount = 0) :
    target.comWithUart = some target := by
  have hkept : ∀ n, ({ target with uartChannel := target.uartChannel.drop n } :
      SimTarget A SnapshotId) = target := by
    intro n
    rw [h.input_eq, List.drop_nil, ← h.input_eq]
  have hnothing : ¬ (target.uartChannel.take
      target.contents.board.bus.uart0.inputSpace ≠ [] ∨
        target.contents.board.bus.uart0.pendingOutputAmount ≠ 0) := by
    rw [h.input_eq, List.take_nil, h.board_eq, hpending]
    simp
  unfold comWithUart
  dsimp only
  rw [if_neg hnothing, hkept]
  rfl

/-- A step is a tick of the board. -/
theorem Idle.step_eq {board' : Board} (h : Idle machine board target)
    (hpending : board.bus.uart0.pendingOutputAmount = 0)
    (htick : machine.tick board = some board') :
    ∃ target', target.step = some target' ∧ Idle machine board' target' := by
  obtain ⟨simulator, hstep, hattached, hmachine, hview⟩ := h.attached.step_eq
  have htick' : machine.tick target.contents.board = some board' := by
    rw [h.board_eq]
    exact htick
  have hcontents : view simulator.allocator
      = { target.contents with board := board' } := by
    rw [hview, h.machine_eq]
    show view (modify _ target.simulator.allocator) = _
    rw [LawfulModifiableStore.view_modify]
    exact onBoard_tick htick'
  refine ⟨{ target with simulator := simulator }, ?_, hattached,
    hmachine.trans h.machine_eq, ?_, h.input_eq⟩
  · unfold step
    rw [h.attached.redoStep_eq]
    show Option.bind target.comWithUart _ = _
    rw [h.comWithUart_eq hpending]
    show Option.bind (target.simulator.simulatable.tick _) _ = _
    rw [h.machine_eq, htick']
    show Option.bind target.simulator.step _ = _
    rw [hstep]
    rfl
  · show (view simulator.allocator : Contents).board = board'
    rw [hcontents]

omit [LawfulModifiableStore A Contents SnapshotId] in
theorem Idle.stepPanics (h : Idle machine board target)
    (hpending : board.bus.uart0.pendingOutputAmount = 0)
    (htick : machine.tick board = none) : target.StepPanics := by
  refine ⟨target.simulator, target, h.attached.redoStep_eq,
    h.comWithUart_eq hpending, ?_⟩
  rw [h.machine_eq, h.board_eq]
  exact htick

/-! ## Publishing -/

omit [LawfulModifiableStore A Contents SnapshotId] in
theorem readUartOutput_ne_none {contents : Contents} (h : Logged contents)
    (buf : List (BitVec 8)) : readUartOutput contents buf ≠ none := by
  unfold readUartOutput
  rcases h with habsent | ⟨buffer, hholds⟩
  · rw [habsent.len_eq]
    exact Option.some_ne_none _
  · rw [hholds.len_eq, hholds.buffer_eq]
    dsimp only
    rw [Option.bind_eq_bind, Option.bind_some]
    split
    · exact Option.some_ne_none _
    · exact Option.some_ne_none _

/-- What publishing needs of a simulator. -/
structure Publishable (simulator : Simulator Machine A SnapshotId) : Prop where
  upholds : Upholds AllLogged simulator
  snapshots : 0 < simulator.snapshots.length

omit [LawfulModifiableStore A Contents SnapshotId] in
theorem publish_ne_none (h : Publishable target.simulator)
    (executionType : Option ExecutionType) (shared : SharedTargetState) :
    target.publish executionType shared ≠ none := by
  obtain ⟨⟨read, outputBuffer⟩, hread⟩ := Option.ne_none_iff_exists'.1
    (readUartOutput_ne_none h.upholds.holds.1 shared.outputBuffer)
  obtain ⟨available, havailable⟩ := Option.ne_none_iff_exists'.1
    (availableSteps_ne_none h.snapshots)
  unfold publish
  rw [show readUartOutput target.contents shared.outputBuffer = _ from hread,
    havailable]
  exact Option.some_ne_none _

theorem Run.publishable (h : Run machine board target) :
    Publishable target.simulator := by
  obtain ⟨history, timeline, hwell⟩ := h.wellFormed
  exact ⟨h.upholds, hwell.recorded.length_pos⟩

theorem roams_publishable :
    Roams (Publishable : Simulator Machine A SnapshotId → Prop) where
  goToSnapshot := by
    intro sim sim' snapshotIndex h hrun
    refine ⟨h.upholds.goToSnapshot kept_allLogged hrun, ?_⟩
    rw [snapshots_goToSnapshot hrun]
    exact h.snapshots
  replayStep := by
    intro sim h
    refine ⟨h.upholds.replayStep kept_allLogged, ?_⟩
    rw [snapshots_replayStep]
    exact h.snapshots

end RedPlanet.SimTarget

namespace RedPlanet.TargetThread

open Simulator Target Verified SnapshotStore ModifiableStore
open RedPlanet.Core hiding Event
open SimTarget (Run Publishable)

variable {A SnapshotId : Type} [ModifiableStore A Contents SnapshotId]
  [LawfulModifiableStore A Contents SnapshotId] {machine : Machine}
  {board : Board} {thread thread' : TargetThread A SnapshotId}

/-! ## Advancing completes -/

omit [LawfulModifiableStore A Contents SnapshotId] in
theorem step_eq {target : SimTarget A SnapshotId}
    (h : thread.target.step = some target) :
    thread.step = some (({ thread with target := target } :
      TargetThread A SnapshotId).eventAt, { thread with target := target }) := by
  unfold TargetThread.step
  rw [h]
  rfl

/-- A step of the thread is one of the target, and then the events of the
state that it leads to. -/
theorem step_completes_iff (h : Run machine board thread.target) :
    (∃ result, thread.step = some result) ↔ ¬ thread.target.StepPanics := by
  obtain ⟨history, timeline, hwell⟩ := h.wellFormed
  rw [← SimTarget.step_completes_iff hwell]
  constructor
  · rintro ⟨result, hrun⟩
    obtain ⟨target, hstep, -⟩ := Option.bind_eq_some_iff.1 hrun
    exact ⟨target, hstep⟩
  · rintro ⟨target, hstep⟩
    exact ⟨_, step_eq hstep⟩

theorem stepBack_completes (h : Run machine board thread.target) :
    ∃ result, thread.stepBack = some result := by
  obtain ⟨history, timeline, hwell⟩ := h.wellFormed
  obtain ⟨undone, simulator, hundo, -⟩ := hwell.undoStep
  unfold TargetThread.stepBack
  rw [hundo]
  cases undone with
  | true => exact ⟨_, rfl⟩
  | false => exact ⟨_, rfl⟩

omit [LawfulModifiableStore A Contents SnapshotId] in
/-- One turn of the loop, after which it goes on. -/
theorem steps_eq_of_none {leaves : Contents → Bool} {n : ℕ}
    (hstep : thread.step = some (none, thread'))
    (hleaves : leaves thread'.contents = false) :
    thread.steps leaves (n + 1) = thread'.steps leaves n := by
  rw [TargetThread.steps, hstep, Option.bind_eq_bind, Option.bind_some]
  dsimp only
  rw [hleaves, if_neg Bool.false_ne_true]

omit [LawfulModifiableStore A Contents SnapshotId] in
/-- One turn of the loop that ends it with an event. -/
theorem steps_eq_of_event {leaves : Contents → Bool} {n : ℕ} {event : Event}
    (hstep : thread.step = some (some event, thread')) :
    thread.steps leaves (n + 1) = some (.event event, thread') := by
  rw [TargetThread.steps, hstep, Option.bind_eq_bind, Option.bind_some]
  rfl

/-- In a loop of at most this many steps, the board panics in one that the
loop gets to. -/
inductive StepsPanic (leaves : Contents → Bool) :
    ℕ → TargetThread A SnapshotId → Prop where
  | here {n : ℕ} {thread : TargetThread A SnapshotId}
      (hpanics : thread.target.StepPanics) : StepsPanic leaves (n + 1) thread
  | later {n : ℕ} {thread thread' : TargetThread A SnapshotId}
      (hstep : thread.step = some (none, thread'))
      (hleaves : leaves thread'.contents = false)
      (hrest : StepsPanic leaves n thread') : StepsPanic leaves (n + 1) thread

omit [LawfulModifiableStore A Contents SnapshotId] in
/-- After a step that the board survives, the loop has to go on to panic. -/
theorem stepsPanic_succ_iff {leaves : Contents → Bool} {n : ℕ}
    {event : Option Event} (hpanics : ¬ thread.target.StepPanics)
    (hstep : thread.step = some (event, thread')) :
    StepsPanic leaves (n + 1) thread ↔
      event = none ∧ leaves thread'.contents = false ∧
        StepsPanic leaves n thread' := by
  constructor
  · intro hlater
    cases hlater with
    | here hpanics' => exact absurd hpanics' hpanics
    | later hstep' hleaves hrest =>
        rw [hstep] at hstep'
        cases hstep'
        exact ⟨rfl, hleaves, hrest⟩
  · rintro ⟨rfl, hleaves, hrest⟩
    exact .later hstep hleaves hrest

/-- A loop completes unless the board panics in one of its steps.  By
induction on the steps that are left. -/
theorem steps_completes_iff (leaves : Contents → Bool) (n : ℕ) :
    ∀ {thread : TargetThread A SnapshotId}, Run machine board thread.target →
      ((∃ result, thread.steps leaves n = some result) ↔
        ¬ StepsPanic leaves n thread) := by
  induction n with
  | zero => exact fun _ => iff_of_true ⟨_, rfl⟩ nofun
  | succ n ih =>
      intro thread h
      unfold TargetThread.steps
      by_cases hpanics : thread.target.StepPanics
      · refine iff_of_false ?_ fun hnot => hnot (.here hpanics)
        rintro ⟨result, hrun⟩
        obtain ⟨result', hstep, -⟩ := Option.bind_eq_some_iff.1 hrun
        exact (step_completes_iff h).1 ⟨result', hstep⟩ hpanics
      · obtain ⟨⟨event, thread'⟩, hstep⟩ := (step_completes_iff h).2 hpanics
        rw [stepsPanic_succ_iff hpanics hstep, hstep, Option.bind_eq_bind,
          Option.bind_some]
        dsimp only
        cases event with
        | some event => exact iff_of_true ⟨_, rfl⟩ fun hrest => nomatch hrest.1
        | none =>
            dsimp only
            cases hleaves : leaves thread'.contents with
            | true => exact iff_of_true ⟨_, rfl⟩ fun hrest => nomatch hrest.2.1
            | false =>
                rw [if_neg Bool.false_ne_true,
                  ih (h.reaches (advanced_step hstep).target)]
                simp

theorem reverseContinue_completes (h : Run machine board thread.target)
    (arrived : ℕ → Bool) :
    ∃ result, thread.reverseContinue arrived = some result := by
  obtain ⟨history, timeline, hwell⟩ := h.wellFormed
  obtain ⟨result, hundo, -⟩ := hwell.undoStepsUntil
    (thread.reversePred arrived) thread.reverseVisit
    { polls := 0, notified := false, shared := some thread.sharedState }
  have hpublishable := h.publishable
  have hshared : result.env.shared ≠ none := by
    refine (SimTarget.roams_publishable.undoStepsUntil
      (E := fun search => search.shared ≠ none) ?_ ?_ hpublishable ?_ ?_
      hundo).1
    · intro search allocator machine hsome
      unfold reversePred
      dsimp only
      split
      · exact hsome
      · split
        · exact hsome
        · exact hsome
    · intro search simulator hsimulator hsome
      obtain ⟨shared, hshared⟩ := Option.ne_none_iff_exists'.1 hsome
      unfold reverseVisit
      rw [hshared]
      exact SimTarget.publish_ne_none hsimulator _ _
    · refine ⟨hpublishable.upholds.makeSnapshot kept_allLogged, ?_⟩
      unfold Simulator.makeSnapshot
      rw [List.length_append]
      exact Nat.lt_add_left _ Nat.one_pos
    · exact Option.some_ne_none _
  obtain ⟨shared, hshared⟩ := Option.ne_none_iff_exists'.1 hshared
  unfold TargetThread.reverseContinue
  rw [hundo, Option.bind_eq_bind, Option.bind_some, hshared]
  cases result.reason with
  | reachedStart => exact ⟨_, rfl⟩
  | pred answer => exact ⟨_, rfl⟩

omit [LawfulModifiableStore A Contents SnapshotId] in
theorem advanceSim_step {target : SimTarget A SnapshotId}
    {arrived : ℕ → Bool} (h : thread.target.step = some target) :
    thread.advanceSim arrived .step
      = some (.event (({ thread with target := target } :
          TargetThread A SnapshotId).eventAt.getD .doneStep),
        { thread with target := target }) := by
  unfold advanceSim
  dsimp only
  rw [step_eq h]
  rfl

/-! ### A guest without output -/

/-- A step of an idle target to a board without events. -/
theorem step_eq_none {board' : Board}
    (h : SimTarget.Idle machine board thread.target)
    (hpending : board.bus.uart0.pendingOutputAmount = 0)
    (htick : machine.tick board = some board')
    (hbreak : board'.registers.pc ∉ thread.breakpoints)
    (hpower : board'.bus.powerDown = false) :
    ∃ target, thread.step = some (none, { thread with target := target }) ∧
      SimTarget.Idle machine board' target := by
  obtain ⟨target, hstep, hidle⟩ := h.step_eq hpending htick
  have hnone : ({ thread with target := target } :
      TargetThread A SnapshotId).eventAt = none := by
    unfold eventAt shouldBreak contents
    dsimp only
    rw [hidle.board_eq, if_neg (by simpa using hbreak), hpower,
      if_neg Bool.false_ne_true]
  refine ⟨target, ?_, hidle⟩
  rw [step_eq hstep, hnone]

/-- A step of an idle target to a breakpoint. -/
theorem step_eq_breaks {board' : Board}
    (h : SimTarget.Idle machine board thread.target)
    (hpending : board.bus.uart0.pendingOutputAmount = 0)
    (htick : machine.tick board = some board')
    (hbreak : board'.registers.pc ∈ thread.breakpoints) :
    ∃ target, thread.step = some (some .breaks,
        { thread with target := target }) ∧
      SimTarget.Idle machine board' target := by
  obtain ⟨target, hstep, hidle⟩ := h.step_eq hpending htick
  have hbreaks : ({ thread with target := target } :
      TargetThread A SnapshotId).eventAt = some .breaks := by
    unfold eventAt shouldBreak contents
    dsimp only
    rw [hidle.board_eq, if_pos (by simpa using hbreak)]
  refine ⟨target, ?_, hidle⟩
  rw [step_eq hstep, hbreaks]

/-- Boards that go on for `n` steps, and then panic. -/
theorem stepsPanic_of_boards {boards : ℕ → Board} {n : ℕ}
    (hpending : ∀ k ≤ n, (boards k).bus.uart0.pendingOutputAmount = 0)
    (hticks : ∀ k < n, machine.tick (boards k) = some (boards (k + 1)))
    (hpower : ∀ k < n, (boards (k + 1)).bus.powerDown = false)
    (hpanics : machine.tick (boards n) = none) (m : ℕ) :
    ∀ {k : ℕ} {thread : TargetThread A SnapshotId}, k ≤ n → n < k + m →
      SimTarget.Idle machine (boards k) thread.target →
        thread.breakpoints = ∅ → StepsPanic (fun _ => false) m thread := by
  induction m with
  | zero =>
      intro k _ hle hlt
      omega
  | succ m ih =>
      intro k thread hle hlt hidle hbreakpoints
      rcases Nat.eq_or_lt_of_le hle with rfl | hbefore
      · exact .here (hidle.stepPanics (hpending k hle) hpanics)
      · obtain ⟨target, hstep, hidle'⟩ := step_eq_none hidle (hpending k hle)
          (hticks k hbefore) (by rw [hbreakpoints]; exact Finset.notMem_empty _)
          (hpower k hbefore)
        refine .later hstep rfl ?_
        exact ih (Nat.succ_le_of_lt hbefore) (by omega) hidle' hbreakpoints

/-- The guest does not use the UART. -/
theorem pending_guest :
    ∀ k ≤ 5, (Board.guestAfter k).bus.uart0.pendingOutputAmount = 0 := by
  decide +kernel

theorem tick_guest {k : ℕ} (hk : k < 5) :
    (@boardMachine Core.Build.debug).tick (Board.guestAfter k)
      = some (Board.guestAfter (k + 1)) := by
  have hruns : ∀ k < 5, (@Board.step Core.Build.debug
      (Board.guestAfter k)).panicked = false := by decide +kernel
  exact @boardMachine_tick_eq_some Core.Build.debug _ (hruns k hk)

/-- It panics in its sixth step. -/
theorem stepsPanic_guest {thread : TargetThread A SnapshotId}
    (hidle : SimTarget.Idle (@boardMachine Core.Build.debug) Board.guestBoard
      thread.target) (hbreakpoints : thread.breakpoints = ∅) :
    StepsPanic (fun _ => false) 1024 thread := by
  let _ : Core.Build := Core.Build.debug
  have hpanics : (@boardMachine Core.Build.debug).tick (Board.guestAfter 5)
      = none := boardMachine_tick_eq_none (by decide +kernel)
  exact stepsPanic_of_boards pending_guest (fun _ hk => tick_guest hk)
    (by decide +kernel) hpanics 1024 (Nat.zero_le 5) (by decide) hidle
    hbreakpoints

/-- The board panics in a step of this advance. -/
def AdvancePanics (executionType : ExecutionType)
    (thread : TargetThread A SnapshotId) : Prop :=
  match executionType with
  | .step => thread.target.StepPanics
  | .continues => StepsPanic (fun _ => false) 1024 thread
  | .rangeStep start stop => StepsPanic (outside start stop) 1024 thread
  | .stepBack | .reverseContinue => False

/-- Whichever way the target advances, it completes if the board does. -/
theorem advanceSim_completes_iff (h : Run machine board thread.target)
    (arrived : ℕ → Bool) (executionType : ExecutionType) :
    (∃ result, thread.advanceSim arrived executionType = some result) ↔
      ¬ thread.AdvancePanics executionType := by
  cases executionType with
  | step =>
      show _ ↔ ¬ thread.target.StepPanics
      rw [← step_completes_iff h]
      constructor
      · rintro ⟨result, hrun⟩
        obtain ⟨result', hstep, -⟩ := Option.bind_eq_some_iff.1 hrun
        exact ⟨result', hstep⟩
      · rintro ⟨⟨event, thread'⟩, hstep⟩
        exact ⟨(.event (event.getD .doneStep), thread'), by
          rw [advanceSim, hstep]
          rfl⟩
  | stepBack =>
      obtain ⟨⟨event, thread'⟩, hback⟩ := stepBack_completes h
      exact iff_of_true ⟨(.event (event.getD .doneStep), thread'), by
        rw [advanceSim, hback]
        rfl⟩ id
  | continues => exact steps_completes_iff _ _ h
  | rangeStep start stop => exact steps_completes_iff _ _ h
  | reverseContinue =>
      exact iff_of_true (reverseContinue_completes h arrived) id

end RedPlanet.TargetThread

/-! ## Commands that panic -/

namespace RedPlanet.Target

open RedPlanet.Core hiding Event
open Verified

theorem runOn_eq_none_iff {ε α : Type}
    {program : CoreM Board.SystemBus ε α} {board : Board} :
    (runOn program board).1 = none ↔ (program board).panicked = true := by
  unfold runOn
  cases program board with
  | ok value board => exact ⟨nofun, nofun⟩
  | error err board => exact ⟨nofun, nofun⟩
  | panic board => exact ⟨fun _ => rfl, fun _ => rfl⟩

theorem specifierNew_eq_none_iff {i : BitVec 8} :
    specifierNew i = none ↔ 32 ≤ i.toNat := by
  unfold specifierNew
  split
  · rename_i hlt
    exact ⟨nofun, fun hle => absurd hlt (Nat.not_lt.2 hle)⟩
  · rename_i hlt
    exact ⟨fun _ => Nat.not_lt.1 hlt, fun _ => rfl⟩

variable [Build]

/-- What a command does with the board panics. -/
def Command.Panics (board : Board) : Command → Prop
  | .readRegister (.gpr i) _ => 32 ≤ i.toNat
  | .readRegister (.csr specifier) _ =>
      (inspectCsr specifier board).panicked = true
  | .writeRegister regId val _ =>
      (Target.writeRegister regId val board).panicked = true
  | .readAddrs addr len _ => (readRangeDebug addr len board).panicked = true
  | .writeAddrs addr data _ => (writeRange addr data board).panicked = true
  | _ => False

end RedPlanet.Target

namespace RedPlanet.TargetThread

open Simulator Target Verified SnapshotStore ModifiableStore
open RedPlanet.Core hiding Event
open SimTarget (Run)

variable {A SnapshotId : Type} [ModifiableStore A Contents SnapshotId]
  [LawfulModifiableStore A Contents SnapshotId] {machine : Machine}
  {board : Board} {thread : TargetThread A SnapshotId}

/-- A step with a program of the core returns what the program does on the
board at HEAD. -/
theorem stepWith_eq (h : Run machine board thread.target) {ε α : Type}
    (name : String) (program : CoreM Board.SystemBus ε α) :
    ∃ target, thread.stepWith name program
      = (runOn program thread.contents.board).1.map
        fun result => (result, { thread with target := target }) := by
  obtain ⟨target, hrun⟩ := h.completes (.stepWith name (runOn program)) nofun
  obtain ⟨_, hrun, -⟩ := Option.map_eq_some_iff.1 hrun
  obtain ⟨⟨result, simulator⟩, hstep, -⟩ := Option.map_eq_some_iff.1 hrun
  have hresult := result_stepWith (A := A)
    (fun contents => (runOn program contents.board).1) (fun _ _ => rfl) hstep
  refine ⟨{ thread.target with simulator := simulator }, ?_⟩
  unfold TargetThread.stepWith SimTarget.stepWith
  rw [hstep]
  show Option.bind result _ = _
  rw [show result = (runOn program thread.contents.board).1 from hresult]
  cases (runOn program thread.contents.board).1 with
  | none => rfl
  | some result => rfl

/-- What goes on with a result, and does not fail, completes iff there is a
result. -/
theorem bind_completes_iff {α β : Type} {x : Option α} {f : α → Option β}
    (hf : ∀ a, ∃ b, f a = some b) : (∃ b, x.bind f = some b) ↔ ¬ x = none := by
  cases x with
  | none => exact ⟨fun ⟨_, hnone⟩ => (nomatch hnone), fun h => absurd rfl h⟩
  | some a => exact ⟨fun _ => nofun, fun _ => hf a⟩

/-- A command that runs a program of the core and then answers completes
unless the program panics. -/
theorem stepWith_completes_iff (h : Run machine board thread.target)
    {ε α β : Type} (name : String) (program : CoreM Board.SystemBus ε α)
    {f : Except ε α × TargetThread A SnapshotId → Option β}
    (hf : ∀ result, ∃ b, f result = some b) :
    (∃ b, (thread.stepWith name program).bind f = some b) ↔
      ¬ (program thread.contents.board).panicked = true := by
  obtain ⟨target, hstep⟩ := stepWith_eq h name program
  rw [← runOn_eq_none_iff, hstep, Option.bind_map]
  exact bind_completes_iff fun _ => hf _

variable [Build]

/-- A command completes unless it panics. -/
theorem executeCommand_completes_iff (h : Run machine board thread.target)
    (command : Command) :
    (∃ result, executeCommand command thread = some result) ↔
      ¬ command.Panics thread.contents.board := by
  obtain ⟨history, timeline, hwell⟩ := h.wellFormed
  cases command with
  | readRegister regId channel =>
      cases regId with
      | gpr i =>
          show _ ↔ ¬ 32 ≤ i.toNat
          rw [← specifierNew_eq_none_iff]
          show (∃ result, Option.bind (Option.bind _ _) _ = some result) ↔ _
          rw [Option.bind_assoc]
          exact bind_completes_iff fun _ => ⟨_, rfl⟩
      | csr specifier =>
          show (∃ result, Option.bind (Option.bind _ _) _ = some result) ↔ _
          rw [Option.bind_assoc]
          exact stepWith_completes_iff h "inspect csr" (inspectCsr specifier)
            fun _ => ⟨_, rfl⟩
      | fpr _ | pc | priv => exact ⟨fun _ => id, fun _ => ⟨_, rfl⟩⟩
  | writeRegisters registers =>
      refine (stepWith_completes_iff h "write all registers"
        (Exec.modify (State.onRegisters fun _ => registers) :
          CoreM Board.SystemBus Empty Unit) fun _ => ⟨_, rfl⟩).trans ?_
      exact ⟨fun _ => id, fun _ => Bool.false_ne_true⟩
  | writeRegister regId val channel =>
      exact stepWith_completes_iff h "gdb write single register"
        (Target.writeRegister regId val) fun _ => ⟨_, rfl⟩
  | readAddrs addr len channel =>
      show _ ↔ ¬ (readRangeDebug addr len _).panicked = true
      rw [← runOn_eq_none_iff]
      exact bind_completes_iff fun _ => ⟨_, rfl⟩
  | writeAddrs addr data channel =>
      exact stepWith_completes_iff h "write data" (writeRange addr data)
        fun _ => ⟨_, rfl⟩
  | deleteFuture =>
      obtain ⟨_, _, simulator, hclear, -⟩ :=
        hwell.deleteFuture (Deterministic.modify _)
      refine ⟨fun _ => id, fun _ => ⟨(false, { thread with
        target := { thread.target with simulator := simulator } }), ?_⟩⟩
      unfold executeCommand
      dsimp only
      rw [hclear]
      rfl
  | goTo steps =>
      refine ⟨fun _ => id, fun _ => ?_⟩
      unfold executeCommand
      dsimp only
      rw [hwell.availableSteps_eq, Option.bind_eq_bind, Option.bind_some]
      by_cases hle : steps ≤ timeline.length
      · obtain ⟨simulator, hgo, -⟩ := hwell.goTo steps hle
        rw [if_pos hle, hgo]
        exact ⟨_, rfl⟩
      · rw [if_neg hle]
        exact ⟨_, rfl⟩
  | _ => exact ⟨fun _ => id, fun _ => ⟨_, rfl⟩⟩

/-! ## The loop goes on -/

/-- The target has left its loop, or it waits for a command, or the next
command panics, or it advances and the board panics in one of the steps. -/
def Halted (thread : TargetThread A SnapshotId) : Prop :=
  thread.phase = .stopped ∨
    (thread.phase = .receiving ∧ thread.commandChannel = [] ∧
      thread.connected = true) ∨
    ((thread.phase = .receiving ∨ thread.phase = .polling) ∧
      ∃ command ∈ thread.commandChannel.head?,
        command.Panics thread.contents.board) ∨
    thread.phase = .advancing ∧
      ∃ executionType ∈ thread.executionType,
        thread.AdvancePanics executionType

/-- A turn that looks at the channel, unless there is nothing to wait for. -/
theorem next_of_channel (h : Run machine board thread.target)
    (hphase : thread.phase = .receiving ∨ thread.phase = .polling)
    (hwaits : thread.phase = .receiving → thread.commandChannel = [] →
      thread.connected = false)
    (hpanics : ∀ command ∈ thread.commandChannel.head?,
      ¬ command.Panics thread.contents.board) :
    ∃ thread', Next thread thread' := by
  cases hchannel : thread.commandChannel with
  | nil =>
      cases hconnected : thread.connected with
      | false => exact ⟨_, .disconnected hphase hchannel hconnected⟩
      | true =>
          rcases hphase with hreceiving | hpolling
          · have hclosed := hwaits hreceiving hchannel
            rw [hconnected] at hclosed
            cases hclosed
          · exact ⟨_, .empty hpolling hchannel hconnected⟩
  | cons command rest =>
      have hcommand : ¬ command.Panics thread.contents.board := by
        apply hpanics
        rw [hchannel]
        rfl
      have hrest : Run machine board
          ({ thread with commandChannel := rest } :
            TargetThread A SnapshotId).target := h
      obtain ⟨result, hrun⟩ :=
        (executeCommand_completes_iff hrest command).2 hcommand
      exact ⟨_, .command hphase hchannel hrun⟩

/-- In phase, the target goes on exactly if it is not halted. -/
theorem next_iff (h : Run machine board thread.target)
    (hphase : thread.InPhase) :
    (∃ thread', Next thread thread') ↔ ¬ Halted thread := by
  constructor
  · rintro ⟨thread', hnext⟩ (hstopped | ⟨hreceiving, hempty, hconnected⟩ |
      ⟨hlooks, command, hhead, hpanics⟩ |
      ⟨hadvancing, executionType, htype, hpanics⟩)
    · exact hnext.not_stopped hstopped
    · cases hnext with
      | head hphase _ | advance _ hphase _ _ | empty hphase _ _ =>
          rw [hphase] at hreceiving
          cases hreceiving
      | command _ hchannel _ =>
          rw [hchannel] at hempty
          cases hempty
      | disconnected _ _ hclosed =>
          rw [hclosed] at hconnected
          cases hconnected
    · cases hnext with
      | head hphase _ | advance _ hphase _ _ =>
          rw [hphase] at hlooks
          rcases hlooks with hlooks | hlooks
          · cases hlooks
          · cases hlooks
      | @command _ rest result _ hchannel hrun =>
          rw [hchannel] at hhead
          cases hhead
          have hrest : Run machine board
              ({ thread with commandChannel := rest } :
                TargetThread A SnapshotId).target := h
          exact (executeCommand_completes_iff hrest _).1 ⟨_, hrun⟩ hpanics
      | empty _ hchannel _ | disconnected _ hchannel _ =>
          rw [hchannel] at hhead
          cases hhead
    · cases hnext with
      | head hphase _ | empty hphase _ _ =>
          rw [hphase] at hadvancing
          cases hadvancing
      | command hphase _ _ | disconnected hphase _ _ =>
          rw [hadvancing] at hphase
          rcases hphase with hphase | hphase
          · cases hphase
          · cases hphase
      | @advance executionType' result arrived _ htype' hrun =>
          rw [htype'] at htype
          cases htype
          exact (advanceSim_completes_iff h arrived _).1 ⟨result, hrun⟩ hpanics
  · intro hgoes
    unfold Halted at hgoes
    push Not at hgoes
    obtain ⟨hstopped, hwaits, hpanics, hadvances⟩ := hgoes
    cases hat : thread.phase with
    | stopped => exact absurd hat hstopped
    | head =>
        obtain ⟨shared, hshared⟩ := Option.ne_none_iff_exists'.1
          (SimTarget.publish_ne_none h.publishable thread.executionType
            thread.sharedState)
        exact ⟨_, .head hat hshared⟩
    | advancing =>
        obtain ⟨executionType, htype⟩ :=
          Option.ne_none_iff_exists'.1 (hphase.advancing hat)
        obtain ⟨result, hrun⟩ :=
          (advanceSim_completes_iff h (fun _ => false) executionType).2
            (hadvances hat executionType htype)
        exact ⟨_, .advance _ hat htype hrun⟩
    | receiving =>
        exact next_of_channel h (Or.inl hat)
          (fun hreceiving hempty =>
            Bool.eq_false_iff.2 (hwaits hreceiving hempty))
          (hpanics (Or.inl hat))
    | polling =>
        exact next_of_channel h (Or.inr hat)
          (fun hreceiving hempty =>
            Bool.eq_false_iff.2 (hwaits hreceiving hempty))
          (hpanics (Or.inr hat))

end RedPlanet.TargetThread
