import RedPlanet.Board.UartStore
import RedPlanet.Target.SimTarget

/-!
# The log of the UART output

The result of the write into the output buffer is ignored.  As long as all
that was output fits, the buffer holds exactly that; from the first write that
does not fit on, the length is past the end of the buffer and nothing can be
read any more.

A guest gets there by sending one byte after the other: each step of the
target records the byte of the step before it.
-/

namespace RedPlanet.Target

open RedPlanet.Simulator RedPlanet.Resources RedPlanet.Verified
open SnapshotStore ModifiableStore

/-! ## What the buffer holds -/

/-- The length counts all that was output, and the buffer holds it if it
fits. -/
structure LogHolds (buffer : Flat (BitVec 8)) (contents : Contents) :
    Prop where
  buffer_eq : contents.outputBuffer = some buffer
  size_eq : buffer.size = 1024
  len_eq : contents.outputBufferLen = some contents.collected.length
  read_eq : contents.collected.length ≤ 1024 →
    buffer.read 0 contents.collected.length = some contents.collected

/-- The buffer is not there yet. -/
structure LogAbsent (contents : Contents) : Prop where
  buffer_eq : contents.outputBuffer = none
  len_eq : contents.outputBufferLen = none
  collected_eq : contents.collected = []

def Logged (contents : Contents) : Prop :=
  LogAbsent contents ∨ ∃ buffer, LogHolds buffer contents

theorem logged_ofBoard (board : Board) : Logged (Contents.ofBoard board) :=
  Or.inl ⟨rfl, rfl, rfl⟩

theorem logHolds_addOutputBuffer (contents : Contents) :
    LogHolds (Flat.replicate 1024 0) (addOutputBuffer contents) :=
  ⟨rfl, rfl, rfl, fun _ => rfl⟩

theorem logged_addOutputBuffer (contents : Contents) :
    Logged (addOutputBuffer contents) :=
  Or.inr ⟨_, logHolds_addOutputBuffer contents⟩

theorem Logged.onBoard {contents : Contents} (h : Logged contents)
    (f : Board → Board) : Logged (onBoard f contents) := by
  rcases h with habsent | ⟨buffer, hholds⟩
  · exact Or.inl ⟨habsent.buffer_eq, habsent.len_eq, habsent.collected_eq⟩
  · exact Or.inr ⟨buffer, hholds.buffer_eq, hholds.size_eq, hholds.len_eq,
      hholds.read_eq⟩

/-- The bytes that were output follow those that were recorded, and the UART
has the input. -/
theorem LogHolds.exchange_eq {buffer : Flat (BitVec 8)}
    {contents contents' : Contents} {inputBuf : List (BitVec 8)}
    (h : LogHolds buffer contents)
    (hrun : exchange inputBuf contents = some contents') :
    contents.board.pushInput inputBuf = some contents'.board ∧
      contents'.collected = contents.collected
        ++ (contents.board.bus.uart0.pushAndRead inputBuf).1.2 := by
  obtain ⟨board, hboard, hrun⟩ := Option.bind_eq_some_iff.1 hrun
  rw [h.len_eq, h.buffer_eq] at hrun
  cases hrun
  exact ⟨hboard, rfl⟩

theorem LogHolds.exchange {buffer : Flat (BitVec 8)}
    {contents contents' : Contents} {inputBuf : List (BitVec 8)}
    (h : LogHolds buffer contents)
    (hrun : exchange inputBuf contents = some contents') :
    ∃ buffer', LogHolds buffer' contents' := by
  obtain ⟨board, -, hrun⟩ := Option.bind_eq_some_iff.1 hrun
  rw [h.len_eq, h.buffer_eq] at hrun
  cases hrun
  generalize (contents.board.bus.uart0.pushAndRead inputBuf).1.2 = output
  refine ⟨_, rfl, ?_, ?_, ?_⟩
  · cases hwrite : buffer.write contents.collected.length output with
    | none => exact h.size_eq
    | some buffer' => exact (Flat.size_write hwrite).trans h.size_eq
  · show some _ = some _
    rw [List.length_append]
  · intro hfits
    dsimp only at hfits ⊢
    rw [List.length_append] at hfits ⊢
    have hsize := h.size_eq
    obtain ⟨buffer', hwrite⟩ := Option.ne_none_iff_exists'.1
      (buffer.write_ne_none contents.collected.length output (by omega))
    rw [hwrite, Option.getD_some]
    exact Flat.read_write_append (h.read_eq (by omega)) hwrite

theorem LogAbsent.exchange {contents contents' : Contents}
    {inputBuf : List (BitVec 8)} (h : LogAbsent contents)
    (hrun : exchange inputBuf contents = some contents') :
    LogAbsent contents' := by
  obtain ⟨board, -, hrun⟩ := Option.bind_eq_some_iff.1 hrun
  rw [h.len_eq] at hrun
  cases hrun
  exact ⟨h.buffer_eq, rfl, h.collected_eq⟩

/-- What becomes of the log in `com_with_uart`. -/
theorem Logged.exchange {contents contents' : Contents}
    {inputBuf : List (BitVec 8)} (h : Logged contents)
    (hrun : exchange inputBuf contents = some contents') :
    Logged contents' := by
  rcases h with habsent | ⟨buffer, hholds⟩
  · exact Or.inl (habsent.exchange hrun)
  · exact Or.inr (hholds.exchange hrun)

/-- What waits in the UART fits behind what was recorded. -/
def Fits (contents : Contents) : Prop :=
  ∀ len, contents.outputBufferLen = some len →
    len + contents.board.bus.uart0.pendingOutputAmount ≤ 1024

/-- After `com_with_uart` the output fits if it did so before with what was
pending. -/
theorem Logged.fits_iff {contents contents' : Contents}
    {inputBuf : List (BitVec 8)} (h : Logged contents)
    (hrun : Target.exchange inputBuf contents = some contents') :
    contents'.collected.length ≤ 1024 ↔ Fits contents := by
  unfold Fits
  rcases h with habsent | ⟨buffer, hholds⟩
  · rw [(habsent.exchange hrun).collected_eq, habsent.len_eq]
    simp
  · rw [(hholds.exchange_eq hrun).2, hholds.len_eq, List.length_append,
      Uart.length_output]
    simp

/-- Without pending output nothing changes. -/
theorem Logged.fits_iff_of_idle {contents : Contents} (h : Logged contents)
    (hidle : contents.board.bus.uart0.pendingOutputAmount = 0) :
    contents.collected.length ≤ 1024 ↔ Fits contents := by
  unfold Fits
  rcases h with habsent | ⟨buffer, hholds⟩
  · rw [habsent.len_eq]
    simp [habsent.collected_eq]
  · rw [hholds.len_eq, hidle]
    simp

theorem exchange_ne_none {contents : Contents} (h : Logged contents)
    (inputBuf : List (BitVec 8)) : exchange inputBuf contents ≠ none := by
  obtain ⟨board, hboard⟩ := Option.ne_none_iff_exists'.1
    (contents.board.pushInput_ne_none inputBuf)
  unfold Target.exchange
  rw [hboard]
  rcases h with habsent | ⟨buffer, hholds⟩
  · rw [habsent.len_eq]
    exact Option.some_ne_none _
  · rw [hholds.len_eq, hholds.buffer_eq]
    exact Option.some_ne_none _

/-! ## What is shown -/

/-- The length is that of the buffer at most, the buffer begins with what was
output, up to its end, and reading it succeeds and shows nothing else. -/
structure LogConsistent (contents : Contents) : Prop where
  length_le : ∀ len, contents.outputBufferLen = some len → len ≤ 1024
  holds : ∀ len buffer, contents.outputBufferLen = some len →
    contents.outputBuffer = some buffer →
      ∃ items, buffer.read 0 len = some items ∧
        items <+: contents.collected ∧
        (items = contents.collected ∨ len = 1024)
  shown : ∀ buf, ∃ items, readUartOutput contents buf = some (true, items) ∧
    items <+: contents.collected

@[simp] theorem length_resize (len : ℕ) (buf : List (BitVec 8)) :
    (resize len buf).length = len := by
  unfold resize
  rw [List.length_append, List.length_take, List.length_replicate]
  omega

theorem LogHolds.readUartOutput {buffer : Flat (BitVec 8)}
    {contents : Contents} (h : LogHolds buffer contents)
    (hfits : contents.collected.length ≤ 1024) (buf : List (BitVec 8)) :
    readUartOutput contents buf = some (true, contents.collected) := by
  unfold Target.readUartOutput
  rw [h.len_eq, h.buffer_eq]
  dsimp only
  rw [Option.bind_eq_bind, Option.bind_some, length_resize, h.read_eq hfits]
  rfl

/-- The log is consistent exactly as long as the output fits. -/
theorem Logged.consistent_iff {contents : Contents} (h : Logged contents) :
    LogConsistent contents ↔ contents.collected.length ≤ 1024 := by
  rcases h with habsent | ⟨buffer, hholds⟩
  · have hnil := habsent.collected_eq
    have hconsistent : LogConsistent contents :=
      { length_le := by
          intro len hlen
          rw [habsent.len_eq] at hlen
          cases hlen
        holds := by
          intro len buffer hlen
          rw [habsent.len_eq] at hlen
          cases hlen
        shown := by
          intro buf
          refine ⟨[], ?_, List.nil_prefix⟩
          unfold Target.readUartOutput
          rw [habsent.len_eq] }
    rw [hnil]
    exact ⟨fun _ => Nat.zero_le _, fun _ => hconsistent⟩
  · constructor
    · intro hconsistent
      exact hconsistent.length_le _ hholds.len_eq
    · intro hfits
      exact
        { length_le := by
            intro len hlen
            rw [hholds.len_eq] at hlen
            cases hlen
            exact hfits
          holds := by
            intro len buffer' hlen hbuffer
            rw [hholds.len_eq] at hlen
            rw [hholds.buffer_eq] at hbuffer
            cases hlen
            cases hbuffer
            exact ⟨_, hholds.read_eq hfits, List.prefix_rfl, Or.inl rfl⟩
          shown := fun buf =>
            ⟨_, hholds.readUartOutput hfits buf, List.prefix_rfl⟩ }

/-! ## Runs -/

variable {A SnapshotId : Type} [ModifiableStore A Contents SnapshotId]

/-- The visible contents and those of all snapshots are as logged. -/
def AllLogged (allocator : A) : Prop :=
  Logged (view allocator) ∧
    ∀ (id : SnapshotId) (contents : Contents),
      captured allocator id = some contents → Logged contents

variable [LawfulModifiableStore A Contents SnapshotId]

theorem AllLogged.modify {allocator : A} (h : AllLogged allocator)
    {f : Contents → Contents}
    (hf : ∀ contents, Logged contents → Logged (f contents)) :
    AllLogged (modify f allocator) := by
  unfold AllLogged
  rw [LawfulModifiableStore.view_modify, LawfulModifiableStore.captured_modify]
  exact ⟨hf _ h.1, h.2⟩

theorem kept_allLogged : Kept Machine (AllLogged : A → Prop) where
  makeSnapshot := by
    intro a h
    refine ⟨?_, ?_⟩
    · rw [LawfulSnapshotStore.view_makeSnapshot]
      exact h.1
    · intro id contents hcaptured
      by_cases hid : id = (makeSnapshot a).1
      · rw [hid, LawfulSnapshotStore.captured_new] at hcaptured
        rw [← Option.some.inj hcaptured]
        exact h.1
      · rw [LawfulSnapshotStore.captured_makeSnapshot a id hid] at hcaptured
        exact h.2 id contents hcaptured
  checkout := by
    intro a a' id h hrun
    obtain ⟨hcaptured, hsame⟩ := captured_checkout hrun
    unfold AllLogged
    rw [hsame]
    exact ⟨h.2 id _ hcaptured, h.2⟩
  dropSnapshot := by
    intro a a' id h hrun
    obtain ⟨hview, hdropped, hsame⟩ := captured_dropSnapshot hrun
    unfold AllLogged
    rw [hview]
    refine ⟨h.1, ?_⟩
    intro id' contents hcaptured
    by_cases hid : id' = id
    · rw [hid, hdropped] at hcaptured
      cases hcaptured
    · rw [hsame id' hid] at hcaptured
      exact h.2 id' contents hcaptured
  tick := fun _ _ h => h.modify fun _ hlogged => hlogged.onBoard _

end RedPlanet.Target

namespace RedPlanet.SimTarget

open RedPlanet.Simulator RedPlanet.Target SnapshotStore ModifiableStore

variable {A SnapshotId : Type} [ModifiableStore A Contents SnapshotId]
  [LawfulModifiableStore A Contents SnapshotId] {machine : Machine}
  {board : Board} {target target' : SimTarget A SnapshotId}

theorem upholds_comWithUart
    (h : Upholds AllLogged target.simulator)
    (hrun : target.comWithUart = some target') :
    Upholds AllLogged target'.simulator := by
  unfold comWithUart at hrun
  dsimp only at hrun
  split at hrun
  · obtain ⟨⟨_, simulator⟩, hstep, hrun⟩ := Option.bind_eq_some_iff.1 hrun
    cases hrun
    refine h.stepWith kept_allLogged ?_ hstep
    intro _ a hlogged
    apply hlogged.modify
    intro contents hcontents
    obtain ⟨contents', hexchange⟩ := Option.ne_none_iff_exists'.1
      (exchange_ne_none hcontents _)
    rw [hexchange, Option.getD_some]
    exact hcontents.exchange hexchange
  · cases hrun
    exact h

/-- What `com_with_uart` shows. -/
theorem fits_comWithUart (h : Upholds AllLogged target.simulator)
    (hrun : target.comWithUart = some target') :
    target'.contents.collected.length ≤ 1024 ↔ Fits target.contents := by
  have hlogged : Logged target.contents := h.holds.1
  unfold comWithUart at hrun
  dsimp only at hrun
  split at hrun
  · obtain ⟨⟨_, simulator⟩, hstep, hrun⟩ := Option.bind_eq_some_iff.1 hrun
    cases hrun
    have hview := view_stepWith (f := fun contents : Contents =>
      (exchange (target.uartChannel.take
        target.contents.board.bus.uart0.inputSpace) contents).getD contents)
      (fun _ a => LawfulModifiableStore.view_modify _ a) hstep
    obtain ⟨contents', hexchange⟩ := Option.ne_none_iff_exists'.1
      (exchange_ne_none hlogged
        (target.uartChannel.take target.contents.board.bus.uart0.inputSpace))
    have hcontents : view simulator.allocator = contents' := by
      rw [← Option.getD_some (a := contents') (b := target.contents),
        ← hexchange]
      exact hview
    show (view simulator.allocator).collected.length ≤ 1024 ↔ _
    rw [hcontents]
    exact hlogged.fits_iff hexchange
  · rename_i hidle
    cases hrun
    exact hlogged.fits_iff_of_idle (by simp_all)

theorem upholds_step (h : Upholds AllLogged target.simulator)
    (hrun : target.step = some target') :
    Upholds AllLogged target'.simulator := by
  obtain ⟨⟨redone, simulator⟩, hredo, hrun⟩ := Option.bind_eq_some_iff.1 hrun
  have hredone := h.redoStep kept_allLogged hredo
  cases redone with
  | true =>
      cases hrun
      exact hredone
  | false =>
      obtain ⟨target₁, hcom, hrun⟩ := Option.bind_eq_some_iff.1 hrun
      obtain ⟨_, -, hrun⟩ := Option.bind_eq_some_iff.1 hrun
      obtain ⟨simulator₂, hstep, hrun⟩ := Option.bind_eq_some_iff.1 hrun
      cases hrun
      refine (upholds_comWithUart ?_ hcom).step kept_allLogged hstep
      exact hredone

/-- One call keeps the logs of all states. -/
theorem upholds_call (call : Call A SnapshotId)
    (h : Upholds AllLogged target.simulator)
    (hrun : call.run target = some target') :
    Upholds AllLogged target'.simulator := by
  cases call with
  | receive input =>
      cases hrun
      exact h
  | comWithUart => exact upholds_comWithUart h hrun
  | step => exact upholds_step h hrun
  | stepBack =>
      obtain ⟨simulator, hundo, hrun⟩ := Option.map_eq_some_iff.1 hrun
      obtain ⟨result, hundo, hresult⟩ := Option.map_eq_some_iff.1 hundo
      rw [← hrun, ← hresult]
      exact h.undoStep kept_allLogged hundo
  | reverseContinue pred visit env =>
      obtain ⟨simulator, hundo, hrun⟩ := Option.map_eq_some_iff.1 hrun
      obtain ⟨result, hundo, hresult⟩ := Option.map_eq_some_iff.1 hundo
      rw [← hrun, ← hresult]
      exact h.undoStepsUntil kept_allLogged hundo
  | goTo steps =>
      obtain ⟨simulator, hgo, hrun⟩ := Option.map_eq_some_iff.1 hrun
      obtain ⟨available, -, hgo⟩ := Option.bind_eq_some_iff.1 hgo
      rw [← hrun]
      split at hgo
      · exact h.goTo kept_allLogged hgo
      · cases hgo
        exact h
  | deleteFuture =>
      obtain ⟨simulator, hclear, hrun⟩ := Option.map_eq_some_iff.1 hrun
      rw [← hrun]
      exact h.clearForwardHistory kept_allLogged hclear
  | stepWith name customTick =>
      obtain ⟨simulator, hstep, hrun⟩ := Option.map_eq_some_iff.1 hrun
      obtain ⟨result, hstep, hresult⟩ := Option.map_eq_some_iff.1 hstep
      rw [← hrun, ← hresult]
      refine h.stepWith kept_allLogged ?_ hstep
      intro _ a hlogged
      exact hlogged.modify fun _ hcontents => hcontents.onBoard _

theorem Run.upholds (h : Run machine board target) :
    Upholds AllLogged target.simulator := by
  induction h with
  | new created =>
      unfold SimTarget.new at created
      obtain ⟨⟨_, simulator⟩, hstep, hcreated⟩ :=
        Option.bind_eq_some_iff.1 created
      cases hcreated
      refine Upholds.stepWith kept_allLogged ?_ ?_ hstep
      · apply kept_allLogged.new
        unfold AllLogged construct
        rw [LawfulModifiableStore.view_modify,
          LawfulModifiableStore.captured_modify]
        refine ⟨logged_ofBoard board, ?_⟩
        intro id contents hcaptured
        rw [LawfulModifiableStore.captured_empty] at hcaptured
        cases hcaptured
      · intro _ a hlogged
        exact hlogged.modify fun contents _ => logged_addOutputBuffer contents
  | call _ call called ih => exact upholds_call call ih called

/-! ## A guest that sends -/

/-- The board is about to send `n` times, at least `k` bytes were output, and
more is pending. -/
structure Sending [Core.Build] (src base : Core.Specifier) (offset : BitVec 32)
    (n k : ℕ) (target : SimTarget A SnapshotId) : Prop where
  attached : Attached target.simulator
  machine : target.simulator.simulatable = boardMachine
  sends : Board.Sends src base offset n target.contents.board
  pending : target.contents.board.bus.uart0.pendingOutputAmount ≠ 0
  holds : ∃ buffer, LogHolds buffer target.contents
  le : k ≤ target.contents.collected.length

variable {src base : Core.Specifier} {offset : BitVec 32} {n k : ℕ}

/-- What is pending is recorded. -/
theorem Sending.comWithUart [Core.Build]
    (h : Sending src base offset n k target) :
    ∃ target', target.comWithUart = some target' ∧
      Attached target'.simulator ∧
      target'.simulator.simulatable = boardMachine ∧
      Board.Sends src base offset n target'.contents.board ∧
      (∃ buffer, LogHolds buffer target'.contents) ∧
      k + 1 ≤ target'.contents.collected.length := by
  obtain ⟨buffer, hholds⟩ := h.holds
  have hpending := h.pending
  have hle := h.le
  let inputBuf : List (BitVec 8) :=
    target.uartChannel.take target.contents.board.bus.uart0.inputSpace
  obtain ⟨contents', hexchange⟩ := Option.ne_none_iff_exists'.1
    (exchange_ne_none (Or.inr ⟨buffer, hholds⟩) inputBuf)
  obtain ⟨hboard, hcollected⟩ := hholds.exchange_eq hexchange
  obtain ⟨simulator, hstep, hattached, hmachine, hview⟩ :=
    h.attached.stepWith_eq "com with uart" fun _ allocator => ((),
      modify (fun contents => (exchange inputBuf contents).getD contents)
        allocator)
  rw [LawfulModifiableStore.view_modify] at hview
  have hcontents : view simulator.allocator = contents' := by
    rw [hview]
    show (exchange inputBuf target.contents).getD target.contents = contents'
    rw [hexchange, Option.getD_some]
  refine ⟨{ target with
    simulator := simulator
    uartChannel := target.uartChannel.drop
      target.contents.board.bus.uart0.inputSpace }, ?_, hattached,
    hmachine.trans h.machine, ?_, ?_, ?_⟩
  · unfold SimTarget.comWithUart
    dsimp only
    rw [if_pos (Or.inr hpending)]
    show Option.bind (target.simulator.stepWith _ _) _ = _
    rw [hstep]
    rfl
  · show Board.Sends src base offset n (view simulator.allocator).board
    rw [hcontents]
    exact h.sends.pushInput hboard
  · show ∃ buffer, LogHolds buffer (view simulator.allocator)
    rw [hcontents]
    exact hholds.exchange hexchange
  · show k + 1 ≤ (view simulator.allocator).collected.length
    rw [hcontents, hcollected, List.length_append,
      Resources.Uart.length_output]
    omega

/-- A step records what is pending, and more is pending after it. -/
theorem Sending.step [Core.Build]
    (h : Sending src base offset (n + 1) k target) :
    ∃ target', target.step = some target' ∧
      Sending src base offset n (k + 1) target' := by
  obtain ⟨target₁, hcom, hattached, hmachine, hsends, ⟨buffer, hholds⟩, hle⟩ :=
    h.comWithUart
  obtain ⟨simulator, hstep, hattached', hmachine', hview⟩ := hattached.step_eq
  obtain ⟨board, hboard, hsends', hpending⟩ := hsends.step_eq
  have htick : boardMachine.tick target₁.contents.board = some board := by
    rw [boardMachine_tick_eq_some (by rw [hboard]; rfl), hboard]
    rfl
  have hcontents : view simulator.allocator
      = { target₁.contents with board := board } := by
    rw [hview, hmachine]
    show view (modify _ target₁.simulator.allocator) = _
    rw [LawfulModifiableStore.view_modify]
    exact onBoard_tick htick
  refine ⟨{ target₁ with simulator := simulator }, ?_, ?_⟩
  · unfold SimTarget.step
    rw [h.attached.redoStep_eq]
    show Option.bind target.comWithUart _ = _
    rw [hcom]
    show Option.bind (target₁.simulator.simulatable.tick _) _ = _
    rw [hmachine, htick]
    show Option.bind target₁.simulator.step _ = _
    rw [hstep]
    rfl
  · exact
      { attached := hattached'
        machine := hmachine'.trans hmachine
        sends := by
          show Board.Sends src base offset n (view simulator.allocator).board
          rw [hcontents]
          exact hsends'
        pending := by
          show (view simulator.allocator).board.bus.uart0.pendingOutputAmount
            ≠ 0
          rw [hcontents]
          exact hpending
        holds := by
          show ∃ buffer, LogHolds buffer (view simulator.allocator)
          rw [hcontents]
          exact ⟨buffer, hholds.buffer_eq, hholds.size_eq, hholds.len_eq,
            hholds.read_eq⟩
        le := by
          show k + 1 ≤ (view simulator.allocator).collected.length
          rw [hcontents]
          exact hle }

/-- A new target shows its board, and an empty buffer. -/
theorem new_eq (machine : Machine) (board : Board)
    (uartChannel : List (BitVec 8)) :
    ∃ target : SimTarget A SnapshotId,
      SimTarget.new (Simulator.new (construct machine board)) uartChannel
        = some target ∧
      Attached target.simulator ∧ target.simulator.simulatable = machine ∧
      target.contents = addOutputBuffer (Contents.ofBoard board) ∧
      target.uartChannel = uartChannel := by
  have hattached : Attached (Simulator.new (construct machine board) :
      Simulator Machine A SnapshotId) := rfl
  obtain ⟨simulator, hstep, hattached', hmachine, hview⟩ :=
    hattached.stepWith_eq "adding output buffer" fun _ allocator =>
      ((), modify addOutputBuffer allocator)
  refine ⟨{ simulator := simulator, uartChannel := uartChannel }, ?_,
    hattached', hmachine, ?_, rfl⟩
  · unfold SimTarget.new
    rw [hstep]
    rfl
  · show view simulator.allocator = _
    rw [hview, LawfulModifiableStore.view_modify]
    unfold Simulator.new construct
    rw [LawfulSnapshotStore.view_makeSnapshot,
      LawfulModifiableStore.view_modify]

/-- A new target whose board sends. -/
theorem sending_new [Core.Build] {board : Board}
    (hsends : Board.Sends src base offset n board)
    (hpending : board.bus.uart0.pendingOutputAmount ≠ 0) :
    ∃ target : SimTarget A SnapshotId,
      SimTarget.new (Simulator.new (construct boardMachine board)) []
        = some target ∧ Sending src base offset n 0 target := by
  obtain ⟨target, hnew, hattached, hmachine, hcontents, -⟩ :=
    new_eq (A := A) boardMachine board []
  refine ⟨target, hnew, ?_⟩
  exact
    { attached := hattached
      machine := hmachine
      sends := by
        rw [hcontents]
        exact hsends
      pending := by
        rw [hcontents]
        exact hpending
      holds := by
        rw [hcontents]
        exact ⟨_, logHolds_addOutputBuffer _⟩
      le := Nat.zero_le _ }

/-- The board sends a byte with every step. -/
theorem Run.sending [Core.Build] {board : Board} (m : ℕ) :
    ∀ {k : ℕ} {target : SimTarget A SnapshotId},
      Run boardMachine board target →
        Sending src base offset (n + m) k target →
          ∃ target' : SimTarget A SnapshotId, Run boardMachine board target' ∧
            Sending src base offset n (k + m) target' := by
  induction m with
  | zero => exact fun hrun h => ⟨_, hrun, h⟩
  | succ m ih =>
      intro k target hrun h
      obtain ⟨target₁, hstep, h₁⟩ := h.step
      obtain ⟨target', hrun', h'⟩ := ih (hrun.call .step hstep) h₁
      refine ⟨target', hrun', ?_⟩
      rw [Nat.add_succ, ← Nat.succ_add]
      exact h'

/-- As much is output as the guest sends. -/
theorem run_sends [Core.Build] {board : Board}
    (hsends : Board.Sends src base offset n board)
    (hpending : board.bus.uart0.pendingOutputAmount ≠ 0) :
    ∃ target : SimTarget A SnapshotId, Run boardMachine board target ∧
      n ≤ target.contents.collected.length := by
  obtain ⟨target, hnew, hsending⟩ := sending_new (A := A) hsends hpending
  rw [← Nat.zero_add n] at hsending
  obtain ⟨target', hrun, hsent⟩ := Run.sending n (.new hnew) hsending
  refine ⟨target', hrun, ?_⟩
  rw [← Nat.zero_add n]
  exact hsent.le

/-! ## The guest -/

/-- `lui x6, 0x10000`, the divisor latch set to 1, and from then on
`sb x5, 0(x6)` in every word. -/
def guestWord (i : ℕ) : BitVec 32 :=
  ([0x10000337, 0x08300393, 0x007301A3, 0x00100293, 0x00530023, 0x00300393,
    0x007301A3][i]?).getD 0x00530023

def guestByte (i : ℕ) : BitVec 8 :=
  (guestWord (i / 4) >>> (8 * (i % 4))).setWidth 8

def guestStart : Board :=
  ((Board.new { Board.guestConfig with bootToFlash := false }).get
    (by decide +kernel)).loadDram guestByte

/-- The board after its first byte for the UART. -/
def guestSending : Board := (@Board.runSteps Core.Build.debug 12 guestStart).state

/-- The word at an address of the guest. -/
def guestFetch (address : BitVec 32) : BitVec 32 :=
  @Core.Memory.word Board.SystemBus (@Board.SystemBus.coreBus Core.Build.debug)
    (@Board.memory Core.Build.debug) guestSending.bus address

/-- The code that is ahead of the guest. -/
theorem guest_storeAt {i : ℕ} (hi : i < 1025) :
    @Board.StoreAt Core.Build.debug 5 6 0 guestSending
      (guestSending.registers.pc + BitVec.ofNat 32 (4 * i)) := by
  let _ : Core.Build := Core.Build.debug
  have hpc : guestSending.registers.pc = 0x80000020 := by decide +kernel
  have hsize : guestSending.bus.dram.data.size = 2 ^ 31 := by decide +kernel
  have hfetch : ∀ i < 1025, guestFetch (0x80000020 + BitVec.ofNat 32 (4 * i))
      = 0x00530023 := by
    decide +kernel
  have haligned : ∀ i < 1025, Core.isAligned Core.HALFWORD
      (0x80000020 + BitVec.ofNat 32 (4 * i)) = true := by
    decide +kernel
  have hdecode : Core.decode 0x00530023 = .ok (.store .sb 5 6 0) := by
    decide +kernel
  have haddress : (0x80000020 + BitVec.ofNat 32 (4 * i)).toNat
      = 0x80000020 + 4 * i := by
    rw [BitVec.toNat_add, BitVec.toNat_ofNat]
    show (0x80000020 + _) % 2 ^ 32 = _
    omega
  rw [hpc]
  exact
    { aligned := haligned i hi
      inDram :=
        { pos := by decide
          start_le := by
            show 2147483648 ≤ (0x80000020 + BitVec.ofNat 32 (4 * i)).toNat
            omega
          le := by
            rw [hsize, haddress]
            show _ - 2147483648 + 4 ≤ _
            omega
          le_last := by
            rw [haddress]
            omega }
      decode_eq := by
        show Core.decode (guestFetch _) = _
        rw [hfetch i hi]
        exact hdecode }

theorem guest_sends :
    @Board.Sends Core.Build.debug 5 6 0 1025 guestSending := by
  let _ : Core.Build := Core.Build.debug
  exact
    { undisturbed := ⟨by decide +kernel, by decide +kernel, by decide +kernel⟩
      running := by decide +kernel
      program := fun _ hi => guest_storeAt hi
      device := by decide +kernel
      transmits := ⟨by decide +kernel, by decide +kernel⟩ }

theorem guest_pending : guestSending.bus.uart0.pendingOutputAmount ≠ 0 := by
  decide +kernel

/-! ## When the log is consistent -/

/-- In every run, at every state of the history: the log is consistent, and
what is shown was output, if and only if the output fits into the buffer.
After `com_with_uart` it is if and only if there was room before for what was
pending. -/
theorem Run.outputLog_iff (h : Run machine board target) :
    (LogConsistent target.contents ↔
      target.contents.collected.length ≤ 1024) ∧
    ∀ target' : SimTarget A SnapshotId, target.comWithUart = some target' →
      (LogConsistent target'.contents ↔ Fits target.contents) := by
  refine ⟨h.upholds.holds.1.consistent_iff, ?_⟩
  intro target' hrun
  have hupholds' := upholds_comWithUart h.upholds hrun
  rw [← fits_comWithUart h.upholds hrun]
  exact hupholds'.holds.1.consistent_iff

/-- A guest that sends more bytes than the buffer holds. -/
theorem Run.outputLog_iff_guest :
    ∃ target : SimTarget (CopyStore Contents) ℕ,
      1025 ≤ target.contents.collected.length ∧
      (LogConsistent target.contents ↔
        target.contents.collected.length ≤ 1024) ∧
      ∀ target' : SimTarget (CopyStore Contents) ℕ,
        target.comWithUart = some target' →
          (LogConsistent target'.contents ↔ Fits target.contents) := by
  obtain ⟨target, hrun, hle⟩ := @run_sends (CopyStore Contents) ℕ _ _ 5 6 0
    1025 Core.Build.debug guestSending guest_sends guest_pending
  exact ⟨target, hle, Run.outputLog_iff hrun⟩

/-- The guest makes the log inconsistent. -/
theorem outputLog_inconsistent :
    ¬ ∀ target : SimTarget (CopyStore Contents) ℕ,
        Run (@boardMachine Core.Build.debug) guestSending target →
          LogConsistent target.contents := by
  intro hall
  obtain ⟨target, hrun, hle⟩ := @run_sends (CopyStore Contents) ℕ _ _ 5 6 0
    1025 Core.Build.debug guestSending guest_sends guest_pending
  have hlogged : Logged target.contents := hrun.upholds.holds.1
  have hfits := hlogged.consistent_iff.1 (hall target hrun)
  omega

end RedPlanet.SimTarget
