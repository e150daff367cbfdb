import RedPlanet.Target.Progress

/-!
# What holds between the tasks of the debugger

Whatever the three tasks do, and in whichever order: the server for gdb never
waits in vain, every return channel is used at most once
(`Reachable.never_in_vain`), and the simulator is driven by the calls of the
target alone (`Reachable.run`).  The target itself goes on unless it is done,
or waits, or is about to panic (`Reachable.goes_on_iff`), and what the terminal
shows is current whenever it does (`Reachable.shown`).

That a turn panics exactly if its own command or its own steps do is only true
as long as the history can be replayed.  It can if no one deletes the future:
deleting it may lose a custom tick of the past, and then default ticks are
replayed on boards that they were never made on.

The server also has to know when the target is stopped.  It does as long as
nothing but its own resumptions starts or stops the target
(`Reachable.in_step`), and an interrupt is enough to put the two out of step
(`interrupt_out_of_step`).
-/

namespace RedPlanet.Debugger

open Simulator Target Verified SnapshotStore ModifiableStore
open RedPlanet.Core hiding Event

variable {A SnapshotId : Type} [ModifiableStore A Contents SnapshotId]
  {machine : Machine} {board : Board} {allowed : Party → Command → Prop}
  {debugger debugger' : Debugger A SnapshotId}

/-! ## Nothing is lost -/

/-- What the server waits for is under way. -/
structure Served (debugger : Debugger A SnapshotId) : Prop where
  inPhase : debugger.thread.InPhase
  awaited : debugger.gdb = .running → debugger.thread.Awaited
  answering : ∀ channel, debugger.gdb = .querying channel →
    debugger.thread.Answering channel
  distinct : debugger.thread.channels.Nodup
  bounded : ∀ channel ∈ debugger.thread.channels,
    channel < debugger.nextChannel

omit [ModifiableStore A Contents SnapshotId] in
theorem channels_send (command : Command) :
    (debugger.send command).thread.channels
      = debugger.thread.channels ++ command.returnChannel.toList := by
  unfold TargetThread.channels send
  rw [List.filterMap_append, List.append_assoc]
  cases hchannel : command.returnChannel with
  | none => rw [List.filterMap_cons_none hchannel]; rfl
  | some channel => rw [List.filterMap_cons_some hchannel]; rfl

omit [ModifiableStore A Contents SnapshotId] in
theorem Served.send (h : Served debugger) {command : Command}
    (hfresh : Fresh command debugger) : Served (debugger.send command) where
  inPhase := ⟨h.inPhase.receiving, h.inPhase.advancing⟩
  awaited := by
    intro hrunning
    rcases h.awaited hrunning with hstopped | ⟨other, hmem, hwakes⟩ | h
    · exact Or.inl hstopped
    · exact Or.inr (Or.inl ⟨other, List.mem_append_left _ hmem, hwakes⟩)
    · exact Or.inr (Or.inr h)
  answering := by
    intro channel hquery
    have hanswering := h.answering channel hquery
    rw [TargetThread.answering_iff] at hanswering ⊢
    rw [channels_send]
    exact hanswering.imp id (List.mem_append_left _)
  distinct := by
    rw [channels_send]
    cases hchannel : command.returnChannel with
    | none => simpa using h.distinct
    | some channel =>
        have hnew := hfresh channel hchannel
        rw [List.nodup_append]
        refine ⟨h.distinct, List.nodup_singleton _, ?_⟩
        intro old hmem new hmem' heq
        have hlt := h.bounded old hmem
        rw [heq, List.mem_singleton.1 hmem', hnew] at hlt
        exact absurd hlt (Nat.lt_irrefl _)
  bounded := by
    rw [channels_send]
    intro channel hmem
    unfold Debugger.send
    dsimp only
    rcases List.mem_append.1 hmem with hmem | hmem
    · have := h.bounded channel hmem
      omega
    · have hchannel := Option.mem_toList.1 hmem
      have hnew := hfresh channel hchannel
      rw [Option.mem_def.1 hchannel, hnew]
      simp

omit [ModifiableStore A Contents SnapshotId] in
/-- The server stops waiting. -/
theorem Served.withGdb (h : Served debugger) {gdb : Gdb}
    (hawaited : gdb = .running → debugger.thread.Awaited)
    (hanswering : ∀ channel, gdb = .querying channel →
      debugger.thread.Answering channel) : Served (debugger.withGdb gdb) :=
  ⟨h.inPhase, hawaited, hanswering, h.distinct, h.bounded⟩

omit [ModifiableStore A Contents SnapshotId] in
theorem served_new (target : SimTarget A SnapshotId)
    {commands : List Command}
    (hcommands : commands.filterMap Command.returnChannel = []) (gdb : Gdb)
    (hgdb : gdb = .idle ∨ gdb = .gone) (nextChannel : ℕ) :
    Served { thread := { TargetThread.new target with
                commandChannel := commands }
             gdb := gdb
             tui := true
             nextChannel := nextChannel } where
  inPhase := ⟨nofun, nofun⟩
  awaited := by
    rintro rfl
    rcases hgdb with h | h
    · cases h
    · cases h
  answering := by
    rintro channel rfl
    rcases hgdb with h | h
    · cases h
    · cases h
  distinct := by
    unfold TargetThread.channels
    rw [hcommands]
    exact List.nodup_nil
  bounded := by
    unfold TargetThread.channels
    rw [hcommands]
    exact nofun

variable [Build]

theorem Served.step (h : Served debugger)
    (hstep : Step allowed debugger debugger') : Served debugger' := by
  cases hstep with
  | target hnext =>
      exact
        { inPhase := hnext.inPhase
          awaited := fun hrunning => hnext.awaited (h.awaited hrunning)
          answering := fun channel hquery =>
            hnext.answering (h.answering channel hquery)
          distinct := hnext.channels_eq ▸ h.distinct
          bounded := hnext.channels_eq ▸ h.bounded }
  | panic _ =>
      exact ⟨⟨nofun, nofun⟩, fun _ => Or.inl rfl, fun _ _ => Or.inl rfl,
        h.distinct, h.bounded⟩
  | input bytes =>
      exact ⟨⟨h.inPhase.receiving, h.inPhase.advancing⟩, h.awaited,
        h.answering, h.distinct, h.bounded⟩
  | tui command _ _ _ hfresh => exact h.send hfresh
  | tuiExit _ =>
      have hfresh : Fresh .exit debugger := fun _ hmem => nomatch hmem
      have hsent := h.send hfresh
      exact ⟨hsent.inPhase, hsent.awaited, hsent.answering, hsent.distinct,
        hsent.bounded⟩
  | query command _ hcommand _ hfresh =>
      refine (h.send hfresh).withGdb nofun ?_
      rintro channel ⟨rfl⟩
      rw [TargetThread.answering_iff, channels_send]
      right
      apply List.mem_append_right
      rw [Option.mem_toList]
      cases command
      case readRegisters | readRegister | writeRegister | readAddrs
          | writeAddrs =>
        exact congrArg some (hfresh _ rfl)
      all_goals exact hcommand.elim
  | answer _ _ => exact h.withGdb nofun nofun
  | tell command _ hcommand _ =>
      apply h.send
      intro channel hmem
      cases command
      case addBreakpoint | removeBreakpoint | writeRegisters => cases hmem
      all_goals exact hcommand.elim
  | resume command _ hcommand =>
      have hfresh : Fresh command debugger := by
        intro channel hmem
        cases command
        case continues | reverseContinue | step | stepBack | rangeStep =>
          cases hmem
        all_goals exact hcommand.elim
      refine (h.send hfresh).withGdb ?_ nofun
      intro _
      exact Or.inr (Or.inl ⟨command, List.mem_append_right _
        (List.mem_singleton_self _), hcommand.wakes⟩)
  | interrupt _ _ => exact h.send fun _ hmem => nomatch hmem
  | report _ _ =>
      exact ⟨⟨h.inPhase.receiving, h.inPhase.advancing⟩, nofun, nofun,
        h.distinct, h.bounded⟩
  | leave _ => exact h.withGdb nofun nofun
  | disconnect hgdb _ =>
      exact ⟨⟨h.inPhase.receiving, h.inPhase.advancing⟩, h.awaited,
        h.answering, h.distinct, h.bounded⟩

theorem Reachable.served (h : Reachable machine board allowed debugger) :
    Served debugger := by
  induction h with
  | withPort _ => exact served_new _ rfl _ (Or.inl rfl) _
  | withoutPort _ => exact served_new _ rfl _ (Or.inr rfl) _
  | step _ hstep ih => exact ih.step hstep

/-- The target is driven by its calls, whoever asks for them. -/
theorem Reachable.run (h : Reachable machine board allowed debugger) :
    SimTarget.Run machine board debugger.thread.target := by
  induction h with
  | withPort created => exact .new created
  | withoutPort created => exact .new created
  | step _ hstep ih =>
      cases hstep with
      | target hnext => exact ih.reaches hnext.reaches
      | input bytes => exact ih.call (.receive bytes) rfl
      | _ => exact ih

section Runs

variable [LawfulModifiableStore A Contents SnapshotId]

/-- gdb asks for the registers, and the answer is there. -/
theorem exists_querying (machine : Machine) (board : Board)
    (allowed : Party → Command → Prop)
    (hallowed : allowed .gdb (.readRegisters 0)) :
    ∃ debugger : Debugger A SnapshotId,
      Reachable machine board allowed debugger ∧
        debugger.gdb = .querying 0 ∧ debugger.thread.phase = .receiving ∧
          debugger.thread.commandChannel = [] ∧
            debugger.thread.connected = true := by
  obtain ⟨target, created⟩ :=
    SimTarget.new_completes (A := A) machine board []
  have hpublish : ∀ shared, ∃ shared',
      target.publish none shared = some shared' :=
    fun shared => Option.ne_none_iff_exists'.1
      (SimTarget.publish_ne_none (SimTarget.Run.new created).publishable _ _)
  obtain ⟨shared₁, hshared₁⟩ := hpublish default
  obtain ⟨shared₂, hshared₂⟩ := hpublish shared₁
  have hnew : Reachable machine board allowed (Debugger.withPort target) :=
    .withPort created
  have hready := hnew.step (.target (.head rfl hshared₁))
  have hasked := hready.step
    (.query (.readRegisters 0) rfl trivial hallowed fun _ hmem =>
      (Option.some.inj hmem).symm)
  have hanswered := hasked.step (.target (.command (Or.inl rfl) rfl rfl))
  have hwaiting := hanswered.step (.target (.head rfl hshared₂))
  exact ⟨_, hwaiting, rfl, rfl, rfl, rfl⟩

end Runs

/-- The target does not go on by itself. -/
def Blocked (debugger : Debugger A SnapshotId) : Prop :=
  debugger.thread.phase = .stopped ∨
    debugger.thread.phase = .receiving ∧
      debugger.thread.commandChannel = []

/-- The loop takes a turn, or panics in it, or there is nothing to do. -/
theorem turn_or_blocked (h : debugger.thread.InPhase) :
    (∃ thread, TargetThread.Next debugger.thread thread) ∨
      debugger.thread.Panics ∨ Blocked debugger := by
  have hlooks : debugger.thread.phase = .receiving ∨
      debugger.thread.phase = .polling →
        (∃ thread, TargetThread.Next debugger.thread thread) ∨
          debugger.thread.Panics ∨ Blocked debugger := by
    intro hphase
    cases hchannel : debugger.thread.commandChannel with
    | nil =>
        rcases hphase with hreceiving | hpolling
        · exact Or.inr (Or.inr (Or.inr ⟨hreceiving, hchannel⟩))
        · cases hconnected : debugger.thread.connected with
          | true => exact Or.inl ⟨_, .empty hpolling hchannel hconnected⟩
          | false =>
              exact Or.inl ⟨_, .disconnected (Or.inr hpolling) hchannel
                hconnected⟩
    | cons command rest =>
        cases hrun : TargetThread.executeCommand command
            { debugger.thread with commandChannel := rest } with
        | some result => exact Or.inl ⟨_, .command hphase hchannel hrun⟩
        | none => exact Or.inr (Or.inl (.command hphase hchannel hrun))
  cases hphase : debugger.thread.phase with
  | stopped => exact Or.inr (Or.inr (Or.inl hphase))
  | receiving => exact hlooks (Or.inl hphase)
  | polling => exact hlooks (Or.inr hphase)
  | head =>
      cases hshared : debugger.thread.target.publish
          debugger.thread.executionType debugger.thread.sharedState with
      | some shared => exact Or.inl ⟨_, .head hphase hshared⟩
      | none => exact Or.inr (Or.inl (.head hphase hshared))
  | advancing =>
      obtain ⟨executionType, htype⟩ :=
        Option.ne_none_iff_exists'.1 (h.advancing hphase)
      cases hrun : debugger.thread.advanceSim (fun _ => false)
          executionType with
      | some result => exact Or.inl ⟨_, .advance _ hphase htype hrun⟩
      | none => exact Or.inr (Or.inl (.advance _ hphase htype hrun))

/-- A server that waits for a blocked target can stop waiting. -/
theorem Served.unblocks (h : Served debugger) (hidle : debugger.gdb ≠ .idle)
    (hgone : debugger.gdb ≠ .gone) (hblocked : Blocked debugger) :
    ∃ debugger' : Debugger A SnapshotId,
      (debugger'.gdb = .idle ∨ debugger'.gdb = .gone) ∧
        Step allowed debugger debugger' := by
  by_cases hstopped : debugger.thread.phase = .stopped
  · exact ⟨_, Or.inr rfl, .leave (Or.inr (Or.inr hstopped))⟩
  · obtain ⟨hreceiving, hempty⟩ := hblocked.resolve_left hstopped
    have htype := h.inPhase.receiving hreceiving
    cases hgdb : debugger.gdb with
    | idle => exact absurd hgdb hidle
    | gone => exact absurd hgdb hgone
    | running =>
        rcases h.awaited hgdb with hphase | ⟨command, hmem, _⟩ |
            hexecutes | hevent
        · exact absurd hphase hstopped
        · rw [hempty] at hmem
          cases hmem
        · exact absurd htype hexecutes
        · obtain ⟨event, rest, hevent⟩ := List.exists_cons_of_ne_nil hevent
          exact ⟨_, Or.inl rfl, .report hgdb hevent⟩
    | querying channel =>
        rcases h.answering channel hgdb with hphase |
            ⟨command, hmem, _⟩ | ⟨answer, hanswer⟩
        · exact absurd hphase hstopped
        · rw [hempty] at hmem
          cases hmem
        · exact ⟨_, Or.inl rfl, .answer hgdb hanswer⟩

section Lawful

variable [LawfulModifiableStore A Contents SnapshotId]

omit [Build] [ModifiableStore A Contents SnapshotId]
  [LawfulModifiableStore A Contents SnapshotId] in

/-- No one asks to delete the future. -/
def KeepsFuture (allowed : Party → Command → Prop) : Prop :=
  ∀ party command, allowed party command → command ≠ .deleteFuture

omit [LawfulModifiableStore A Contents SnapshotId] in
/-- A turn puts nothing into the command channel. -/
theorem mem_of_next {thread thread' : TargetThread A SnapshotId}
    (hnext : TargetThread.Next thread thread') {command : Command}
    (hmem : command ∈ thread'.commandChannel) :
    command ∈ thread.commandChannel := by
  cases hnext with
  | head _ _ | empty _ _ _ | disconnected _ _ _ => exact hmem
  | @command first rest result _ hchannel hrun =>
      rw [hchannel]
      rw [(TargetThread.executed_of_run hrun).commandChannel] at hmem
      exact List.mem_cons_of_mem _ hmem
  | @advance executionType result arrived _ _ hrun =>
      have hadvanced := TargetThread.advanced_advanceSim hrun
      unfold TargetThread.afterAdvance at hmem
      cases hevent : result.1 with
      | event event =>
          rw [hevent] at hmem
          exact hadvanced.commandChannel ▸ hmem
      | continues =>
          rw [hevent] at hmem
          exact hadvanced.commandChannel ▸ hmem

/-- The future is never deleted, so nothing that was recorded is lost. -/
structure Keeping (machine : Machine) (board : Board)
    (debugger : Debugger A SnapshotId) : Prop where
  commands : ∀ command ∈ debugger.thread.commandChannel,
    command ≠ .deleteFuture
  tracked : SimTarget.Tracked machine board debugger.thread.target.simulator

omit [LawfulModifiableStore A Contents SnapshotId] [Build] in
theorem Keeping.send (h : Keeping machine board debugger) {command : Command}
    (hkeeps : command ≠ .deleteFuture) :
    Keeping machine board (debugger.send command) where
  commands := by
    intro other hmem
    rcases List.mem_append.1 hmem with hmem | hmem
    · exact h.commands other hmem
    · rw [List.mem_singleton.1 hmem]
      exact hkeeps
  tracked := h.tracked

theorem Keeping.step (h : Keeping machine board debugger)
    (hkeeps : KeepsFuture allowed) (hstep : Step allowed debugger debugger') :
    Keeping machine board debugger' := by
  cases hstep with
  | target hnext =>
      have hreaches := hnext.reaches.mono
        fun _ hcall => hcall h.commands
      exact ⟨fun command hmem => h.commands command (mem_of_next hnext hmem),
        h.tracked.reaches hreaches⟩
  | tui command _ _ hallowed _ => exact h.send (hkeeps _ _ hallowed)
  | tuiExit _ =>
      have hexit : Command.exit ≠ .deleteFuture := nofun
      have hsent := h.send hexit
      exact ⟨hsent.commands, hsent.tracked⟩
  | query command _ _ hallowed _ =>
      have hsent := h.send (hkeeps _ _ hallowed)
      exact ⟨hsent.commands, hsent.tracked⟩
  | tell command _ _ hallowed => exact h.send (hkeeps _ _ hallowed)
  | resume command _ hcommand =>
      have hresumes : command ≠ .deleteFuture := by
        rintro rfl
        exact hcommand.elim
      have hsent := h.send hresumes
      exact ⟨hsent.commands, hsent.tracked⟩
  | interrupt _ hallowed => exact h.send (hkeeps _ _ hallowed)
  | panic _ | input _ | answer _ _ | report _ _ | leave _ | disconnect _ _ =>
      exact ⟨h.commands, h.tracked⟩

theorem Reachable.keeping (h : Reachable machine board allowed debugger)
    (hkeeps : KeepsFuture allowed) : Keeping machine board debugger := by
  induction h with
  | withPort created => exact ⟨nofun, SimTarget.tracked_new created⟩
  | withoutPort created =>
      refine ⟨?_, SimTarget.tracked_new created⟩
      intro command hmem
      rw [List.mem_singleton.1 hmem]
      exact nofun
  | step _ hstep ih => exact ih.step hkeeps hstep

/-- As long as the future is not deleted, whatever else the tasks have done so
far, all of the history can be replayed, and the target goes on, unless it has
left its loop, or waits for a command, or the next command panics, or the board
panics in a step of the advance. -/
theorem Reachable.goes_on_iff
    (h : Reachable machine board allowed debugger)
    (hkeeps : KeepsFuture allowed) :
    debugger.thread.target.Replayable ∧
      ((∃ thread, TargetThread.Next debugger.thread thread) ↔
        ¬ debugger.thread.Halted) :=
  ⟨(h.keeping hkeeps).tracked.replayable,
    TargetThread.next_iff h.run h.served.inPhase⟩

omit [Build] [ModifiableStore A Contents SnapshotId]
  [LawfulModifiableStore A Contents SnapshotId] in

/-- The guest is about to run for 1024 steps, and panics in the sixth. -/
theorem Reachable.goes_on_iff_guest :
    ∃ debugger : Debugger (CopyStore Contents) ℕ,
      debugger.thread.executionType = some .continues ∧
        debugger.thread.target.Replayable ∧
          ¬ ∃ thread, @TargetThread.Next _ _ _ Core.Build.debug debugger.thread
            thread := by
  let _ : Core.Build := Core.Build.debug
  obtain ⟨target, created, hidle⟩ := SimTarget.idle_new
    (A := CopyStore Contents) boardMachine Board.guestBoard
  have hpublish : ∀ executionType shared, ∃ shared',
      target.publish executionType shared = some shared' :=
    fun _ _ => Option.ne_none_iff_exists'.1
      (SimTarget.publish_ne_none (SimTarget.Run.new created).publishable _ _)
  obtain ⟨shared₁, hshared₁⟩ := hpublish none default
  obtain ⟨shared₂, hshared₂⟩ := hpublish (some .continues) shared₁
  have hnew : Reachable boardMachine Board.guestBoard
      (fun _ command => command ≠ .deleteFuture)
      (Debugger.withoutPort target) := .withoutPort created
  have hready := hnew.step (.target (.head rfl hshared₁))
  have hstarted := hready.step (.target (.command (Or.inl rfl) rfl rfl))
  have hadvances := hstarted.step (.target (.head rfl hshared₂))
  obtain ⟨hreplayable, hgoes⟩ :=
    Reachable.goes_on_iff hadvances fun _ _ => id
  refine ⟨_, rfl, hreplayable, fun hnext => hgoes.1 hnext ?_⟩
  exact Or.inr (Or.inr (Or.inr ⟨rfl, .continues, rfl,
    TargetThread.stepsPanic_guest hidle rfl⟩))

/-! ## What the terminal shows -/

/-- The shared state is that of the target. -/
structure Shown (thread : TargetThread A SnapshotId) : Prop where
  state : thread.sharedState.state = thread.executionType
  currentStep : thread.sharedState.currentStep
    = thread.target.simulator.currentSteps
  totalSteps : thread.target.simulator.availableSteps
    = some thread.sharedState.totalSteps
  outputBuffer : thread.contents.collected.length ≤ 1024 →
    thread.sharedState.outputBuffer = thread.contents.collected

omit [LawfulModifiableStore A Contents SnapshotId] [Build] in
theorem readUartOutput_fits {contents : Contents} (h : Logged contents)
    (hfits : contents.collected.length ≤ 1024) (buf : List (BitVec 8)) :
    readUartOutput contents buf = some (true, contents.collected) := by
  rcases h with habsent | ⟨buffer, hholds⟩
  · unfold readUartOutput
    rw [habsent.len_eq, habsent.collected_eq]
  · exact hholds.readUartOutput hfits buf

omit [LawfulModifiableStore A Contents SnapshotId] [Build] in
theorem shown_of_publish {thread : TargetThread A SnapshotId}
    {shared : SharedTargetState} {phase : Phase}
    (h : Logged thread.contents)
    (hshared : thread.target.publish thread.executionType thread.sharedState
      = some shared) :
    Shown { thread with sharedState := shared, phase := phase } := by
  obtain ⟨⟨read, outputBuffer⟩, hread, hshared⟩ :=
    Option.bind_eq_some_iff.1 hshared
  obtain ⟨totalSteps, htotal, hshared⟩ := Option.bind_eq_some_iff.1 hshared
  cases hshared
  refine ⟨rfl, rfl, htotal, ?_⟩
  intro hfits
  have hall := readUartOutput_fits h hfits thread.sharedState.outputBuffer
  rw [show readUartOutput thread.contents _ = _ from hread] at hall
  exact congrArg Prod.snd (Option.some.inj hall)

/-- Whenever the target waits, or is about to advance, the terminal has its
state, HEAD and the end of history, and all that the guest has output up to
HEAD, as long as it fits. -/
theorem Reachable.shown (h : Reachable machine board allowed debugger)
    (hphase : debugger.thread.phase = .receiving ∨
      debugger.thread.phase = .advancing) : Shown debugger.thread := by
  induction h with
  | withPort _ | withoutPort _ =>
      rcases hphase with hphase | hphase
      · cases hphase
      · cases hphase
  | step hreachable hstep ih =>
      cases hstep with
      | target hnext =>
          obtain ⟨shared, phase, hshared, rfl⟩ := hnext.published hphase
          exact shown_of_publish hreachable.run.upholds.holds.1 hshared
      | panic _ =>
          rcases hphase with hphase | hphase
          · cases hphase
          · cases hphase
      | input bytes | tuiExit _ | answer _ _ | leave _ | disconnect _ _
      | report _ _ =>
          have hshown := ih hphase
          exact ⟨hshown.state, hshown.currentStep, hshown.totalSteps,
            hshown.outputBuffer⟩
      | tui command _ _ _ _ | query command _ _ _ _ | tell command _ _ _
      | resume command _ _ | interrupt _ _ =>
          have hshown := ih hphase
          exact ⟨hshown.state, hshown.currentStep, hshown.totalSteps,
            hshown.outputBuffer⟩

omit [Build] [ModifiableStore A Contents SnapshotId]
  [LawfulModifiableStore A Contents SnapshotId] in
/-- What is shared while gdb waits for an answer. -/
theorem Reachable.shown_query :
    ∃ debugger : Debugger (CopyStore Contents) ℕ,
      debugger.gdb = .querying 0 ∧ Shown debugger.thread := by
  let _ : Core.Build := Core.Build.debug
  obtain ⟨debugger, hreachable, hgdb, hphase, -, -⟩ :=
    exists_querying (A := CopyStore Contents) boardMachine Board.guestBoard
      (fun _ _ => True) trivial
  exact ⟨debugger, hgdb, Reachable.shown hreachable (Or.inl hphase)⟩

end Lawful

end RedPlanet.Debugger

/-! ## In step with the target -/

namespace RedPlanet.TargetThread

open Simulator Target Verified SnapshotStore ModifiableStore
open RedPlanet.Core hiding Event

variable {A SnapshotId : Type} [ModifiableStore A Contents SnapshotId]

/-- What leads to an event, or is one: the commands that wake the target, its
execution, and the events that no one has taken yet. -/
def pending (thread : TargetThread A SnapshotId) : ℕ :=
  thread.commandChannel.countP (fun command => command.Wakes)
    + thread.executionType.toList.length + thread.eventChannel.length

variable [Build] {thread thread' : TargetThread A SnapshotId}

/-- As long as at most one event is to come, none is lost in a turn, and none
is added. -/
theorem Next.pending_eq (hnext : Next thread thread')
    (h : thread.pending ≤ 1) : thread'.pending = thread.pending := by
  cases hnext with
  | head _ _ | empty _ _ _ | disconnected _ _ _ => rfl
  | @command command rest result _ hchannel hrun =>
      have hexecuted := executed_of_run hrun
      unfold pending at h ⊢
      rw [hchannel, List.countP_cons] at h ⊢
      rw [hexecuted.commandChannel]
      by_cases hwakes : command.Wakes
      · -- it is the only one, so nothing is executing
        rw [if_pos (decide_eq_true hwakes)] at h ⊢
        have hidle : thread.executionType.toList.length = 0 := by omega
        rw [hexecuted.executionType, hexecuted.eventChannel,
          List.length_append, hidle]
        cases command
        case pause | continues | reverseContinue | step | stepBack | rangeStep =>
          show _ + _ + (_ + _) = _
          dsimp only [Command.execution, Command.events, Option.toList,
            List.length_cons, List.length_nil]
          omega
        all_goals exact hwakes.elim
      · obtain ⟨htype, hevents⟩ := hexecuted.of_not_wakes hwakes
        have hskipped : ¬ decide command.Wakes = true :=
          fun hdecide => hwakes (of_decide_eq_true hdecide)
        rw [if_neg hskipped, htype, hevents]
        rfl
  | @advance executionType result arrived _ htype hrun =>
      have hadvanced := advanced_advanceSim hrun
      unfold afterAdvance pending
      cases result.1 with
      | event event =>
          dsimp only
          rw [hadvanced.commandChannel, hadvanced.eventChannel, htype,
            List.length_append]
          dsimp only [Option.toList, List.length_cons, List.length_nil]
          omega
      | continues =>
          dsimp only
          rw [hadvanced.commandChannel, hadvanced.eventChannel,
            hadvanced.executionType]

end RedPlanet.TargetThread

namespace RedPlanet.Debugger

open Simulator Target Verified SnapshotStore ModifiableStore
open RedPlanet.Core hiding Event

variable {A SnapshotId : Type} [ModifiableStore A Contents SnapshotId]
  [Build] {machine : Machine} {board : Board}
  {debugger debugger' : Debugger A SnapshotId}

/-- Nothing starts or stops the target but what gdb waits for. -/
def Quiet (_ : Party) (command : Command) : Prop :=
  ¬ command.Wakes

/-- While the server runs there is one event to come, and none otherwise. -/
def InStep (debugger : Debugger A SnapshotId) : Prop :=
  debugger.gdb ≠ .gone →
    debugger.thread.pending = if debugger.gdb = .running then 1 else 0

omit [ModifiableStore A Contents SnapshotId] [Build] in
theorem pending_send (command : Command) :
    (debugger.send command).thread.pending
      = debugger.thread.pending + if command.Wakes then 1 else 0 := by
  unfold TargetThread.pending send
  dsimp only
  rw [List.countP_append, List.countP_singleton]
  by_cases hwakes : command.Wakes
  · rw [if_pos hwakes, if_pos (decide_eq_true hwakes)]
    omega
  · rw [if_neg hwakes, if_neg fun hdecide => hwakes (of_decide_eq_true hdecide)]
    omega

omit [ModifiableStore A Contents SnapshotId] [Build] in
theorem InStep.send (h : InStep debugger) {command : Command}
    (hwakes : ¬ command.Wakes) : InStep (debugger.send command) := by
  intro hgone
  rw [pending_send, if_neg hwakes]
  exact h hgone

theorem InStep.step (h : InStep debugger)
    (hstep : Step Quiet debugger debugger') : InStep debugger' := by
  cases hstep with
  | target hnext =>
      intro hgone
      have hpending := h hgone
      have hle : debugger.thread.pending ≤ 1 := by
        rw [hpending]
        split <;> omega
      rw [hnext.pending_eq hle]
      exact hpending
  | panic _ | input _ => exact h
  | tui command _ _ hquiet _ => exact h.send hquiet
  | tuiExit _ => exact h.send id
  | query command hidle hcommand hquiet _ =>
      intro _
      have hpending := h (by rw [hidle]; exact nofun)
      rw [hidle] at hpending
      show (debugger.send command).thread.pending = 0
      rw [pending_send, if_neg hquiet, hpending]
      rfl
  | answer hquery _ =>
      intro _
      have hpending := h (by rw [hquery]; exact nofun)
      rw [hquery] at hpending
      exact hpending
  | tell command _ _ hquiet => exact h.send hquiet
  | resume command hidle hcommand =>
      intro _
      have hpending := h (by rw [hidle]; exact nofun)
      rw [hidle] at hpending
      show (debugger.send command).thread.pending = 1
      rw [pending_send, if_pos hcommand.wakes, hpending]
      rfl
  | interrupt _ hquiet => exact absurd trivial hquiet
  | @report event rest hrunning hevent =>
      intro _
      have hpending := h (by rw [hrunning]; exact nofun)
      rw [hrunning] at hpending
      unfold TargetThread.pending at hpending
      rw [hevent, List.length_cons] at hpending
      show _ + _ + _ = 0
      dsimp only [withGdb]
      have hone : (if Gdb.running = Gdb.running then 1 else 0) = 1 := rfl
      omega
  | leave _ => exact fun hgone => absurd rfl hgone
  | disconnect _ _ => exact h

theorem Reachable.inStep (h : Reachable machine board Quiet debugger) :
    InStep debugger := by
  induction h with
  | withPort _ => exact fun _ => rfl
  | withoutPort _ => exact fun hgone => absurd rfl hgone
  | step _ hstep ih => exact ih.step hstep

/-- As long as nothing else starts or stops the target, the server knows how
it is: while gdb is not waiting for a stop, the target neither executes nor is
about to, and no stop is left over; and each time that gdb waits there is one
stop to come, no more. -/
theorem Reachable.in_step (h : Reachable machine board Quiet debugger)
    (hgone : debugger.gdb ≠ .gone) :
    (debugger.gdb ≠ .running →
      debugger.thread.executionType = none ∧
        debugger.thread.eventChannel = [] ∧
          ∀ command ∈ debugger.thread.commandChannel, ¬ command.Wakes) ∧
    (debugger.gdb = .running → debugger.thread.pending = 1) := by
  have hpending := h.inStep hgone
  constructor
  · intro hwaits
    rw [if_neg hwaits] at hpending
    unfold TargetThread.pending at hpending
    refine ⟨?_, List.length_eq_zero_iff.1 (by omega), ?_⟩
    · cases htype : debugger.thread.executionType with
      | none => rfl
      | some executionType =>
          rw [htype] at hpending
          dsimp only [Option.toList, List.length_cons] at hpending
          omega
    · have hcount : debugger.thread.commandChannel.countP
          (fun command => command.Wakes) = 0 := by omega
      intro command hmem hwakes
      exact List.countP_eq_zero.1 hcount command hmem (decide_eq_true hwakes)
  · intro hrunning
    rw [if_pos hrunning] at hpending
    exact hpending

omit [Build] [ModifiableStore A Contents SnapshotId] in
/-- A continue of gdb is under way. -/
theorem Reachable.in_step_continues :
    ∃ debugger : Debugger (CopyStore Contents) ℕ,
      debugger.gdb = .running ∧ debugger.thread.pending = 1 := by
  let _ : Core.Build := Core.Build.debug
  obtain ⟨target, created⟩ := SimTarget.new_completes
    (A := CopyStore Contents) boardMachine Board.guestBoard []
  have hnew : Reachable boardMachine Board.guestBoard Quiet
      (Debugger.withPort target) := .withPort created
  have hruns := hnew.step (.resume .continues rfl trivial)
  exact ⟨_, rfl, (Reachable.in_step hruns nofun).2 rfl⟩

/-- An interrupt that crosses a stop leaves its own stop behind, and the next
time that gdb waits it gets that one.  Then gdb is idle, and the target
executes. -/
theorem interrupt_out_of_step [LawfulModifiableStore A Contents SnapshotId]
    (machine : Machine) (board : Board)
    (hticks : ∀ board, machine.tick board ≠ none) :
    ∃ debugger : Debugger A SnapshotId,
      Reachable machine board (fun party _ => party = .gdb) debugger ∧
        debugger.gdb = .idle ∧
          debugger.thread.executionType = some .continues := by
  obtain ⟨target, created⟩ :=
    SimTarget.new_completes (A := A) machine board []
  have hrun := SimTarget.Run.new created
  obtain ⟨history, timeline, hwell⟩ := hrun.wellFormed
  obtain ⟨stepped, hstepped⟩ := hrun.completes .step fun _ hpanics =>
    let ⟨board, hnone⟩ := hpanics.tick_eq_none hwell
    hticks board hnone
  have hrun' := hrun.call .step hstepped
  have hpublish : ∀ (target : SimTarget A SnapshotId),
      SimTarget.Run machine board target → ∀ executionType shared,
        ∃ shared', target.publish executionType shared = some shared' :=
    fun _ hrun _ _ => Option.ne_none_iff_exists'.1
      (SimTarget.publish_ne_none hrun.publishable _ _)
  obtain ⟨shared₁, hshared₁⟩ := hpublish _ hrun none default
  obtain ⟨shared₂, hshared₂⟩ := hpublish _ hrun (some .step) shared₁
  obtain ⟨shared₃, hshared₃⟩ := hpublish _ hrun' none shared₂
  obtain ⟨shared₄, hshared₄⟩ := hpublish _ hrun' none shared₃
  have hnew : Reachable machine board (fun party _ => party = .gdb)
      (Debugger.withPort target) := .withPort created
  -- a step, and an interrupt before it is made
  have hsent := ((hnew.step (.target (.head rfl hshared₁))).step
    (.resume .step rfl trivial)).step (.interrupt (Or.inr rfl) rfl)
  have hadvances := (hsent.step (.target (.command (Or.inl rfl) rfl rfl))).step
    (.target (.head rfl hshared₂))
  have hstopped := hadvances.step (.target (.advance (fun _ => false) rfl rfl
    (TargetThread.advanceSim_step hstepped)))
  -- both stops are in the channel
  have hpaused := (hstopped.step (.target (.head rfl hshared₃))).step
    (.target (.command (Or.inl rfl) rfl rfl))
  have hreported := (hpaused.step (.report rfl rfl)).step
    (.target (.head rfl hshared₄))
  -- the second one ends the next wait
  have hcontinues := (hreported.step (.resume .continues rfl trivial)).step
    (.target (.command (Or.inl rfl) rfl rfl))
  exact ⟨_, hcontinues.step (.report rfl rfl), rfl, rfl⟩

end RedPlanet.Debugger
