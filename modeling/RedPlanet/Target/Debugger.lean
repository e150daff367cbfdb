import RedPlanet.Target.Effects

/-!
# The debugger

Three tasks: the target, the server for gdb of `gdb.rs`, and the terminal of
`tui.rs`.  The other two send commands to the target whenever they like; only
the server reads its events.  The packets of gdb are not modelled: whatever
the server may do next in its state, it may do at any time.

The target runs on the main task.  When it panics, its channels are dropped as
they are when it returns, and the others learn that it is gone.

While the server waits, for a stop or for an answer, it does nothing else.
What it waits for is under way all the time: `Next.awaited` and
`Next.answering` are the step lemmas for that, and `Next.channels_eq` says that
no return channel is lost or used twice.
-/

namespace RedPlanet

open Simulator Target Verified SnapshotStore ModifiableStore
open RedPlanet.Core hiding Event

/-! ## The parties -/

/-- The state of `run_server`: `idle` and `running` are those of the state
machine that it drives, `querying` is a call of the target that waits for a
return channel. -/
inductive Gdb where
  | idle
  | querying (returnChannel : ℕ)
  | running
  | gone
deriving DecidableEq, Repr

inductive Party where
  | gdb
  | tui
deriving DecidableEq, Repr

structure Debugger (A SnapshotId : Type) where
  thread : TargetThread A SnapshotId
  gdb : Gdb
  tui : Bool
  /-- Return channels from here on are new. -/
  nextChannel : ℕ

namespace Target

/-- The commands that gdb waits for the answer of. -/
def Command.Queries : Command → Prop
  | .readRegisters _ | .readRegister _ _ | .writeRegister _ _ _
  | .readAddrs _ _ _ | .writeAddrs _ _ _ => True
  | _ => False

/-- The commands that gdb does not wait for. -/
def Command.Tells : Command → Prop
  | .addBreakpoint _ | .removeBreakpoint _ | .writeRegisters _ => True
  | _ => False

/-- The commands after which gdb waits for a stop. -/
def Command.Resumes : Command → Prop
  | .continues | .reverseContinue | .step | .stepBack | .rangeStep _ _ => True
  | _ => False

/-- The commands of `run_command`, and those of the keys. -/
def Command.FromTui : Command → Prop
  | .exit | .pause | .continues | .step | .reverseContinue | .stepBack
  | .deleteFuture | .goTo _ | .readRegisters _ => True
  | _ => False

theorem Command.Resumes.wakes {command : Command} (h : command.Resumes) :
    command.Wakes := by
  cases command <;> first | exact h.elim | exact True.intro

end Target

namespace Debugger

variable {A SnapshotId : Type} [ModifiableStore A Contents SnapshotId]

/-- Put a command into the channel. -/
def send (command : Command) (debugger : Debugger A SnapshotId) :
    Debugger A SnapshotId :=
  { debugger with
    thread := { debugger.thread with
      commandChannel := debugger.thread.commandChannel ++ [command] }
    nextChannel := debugger.nextChannel
      + command.returnChannel.toList.length }

def withGdb (gdb : Gdb) (debugger : Debugger A SnapshotId) :
    Debugger A SnapshotId :=
  { debugger with gdb := gdb }

/-- The return channel of a command, if it has one, is new. -/
def Fresh (command : Command) (debugger : Debugger A SnapshotId) : Prop :=
  ∀ channel ∈ command.returnChannel, channel = debugger.nextChannel

variable [Build]

/-- One step of one of the parties.  What may be sent besides the stops that
gdb asks for is restricted by `allowed`. -/
inductive Step (allowed : Party → Command → Prop) :
    Debugger A SnapshotId → Debugger A SnapshotId → Prop where
  | target {debugger : Debugger A SnapshotId}
      {thread : TargetThread A SnapshotId}
      (hnext : TargetThread.Next debugger.thread thread) :
      Step allowed debugger { debugger with thread := thread }
  /-- A panic ends `run`, which drops its ends of all channels.  Unless the
  whole history can be replayed, any turn may panic in a replay. -/
  | panic {debugger : Debugger A SnapshotId}
      (hpanics : debugger.thread.Panics ∨
        ¬ debugger.thread.target.Replayable ∧
          ∃ thread, TargetThread.Next debugger.thread thread) :
      Step allowed debugger { debugger with
        thread := { debugger.thread with phase := .stopped } }
  /-- Bytes for the UART. -/
  | input {debugger : Debugger A SnapshotId} (bytes : List (BitVec 8)) :
      Step allowed debugger { debugger with
        thread := { debugger.thread with
          target := { debugger.thread.target with
            uartChannel := debugger.thread.target.uartChannel ++ bytes } } }
  | tui {debugger : Debugger A SnapshotId} (command : Command)
      (halive : debugger.tui = true) (hcommand : command.FromTui)
      (hallowed : allowed .tui command) (hfresh : Fresh command debugger) :
      Step allowed debugger (debugger.send command)
  /-- The terminal exits, which drops its sender. -/
  | tuiExit {debugger : Debugger A SnapshotId} (halive : debugger.tui = true) :
      Step allowed debugger { debugger.send .exit with tui := false }
  | query {debugger : Debugger A SnapshotId} (command : Command)
      (hidle : debugger.gdb = .idle) (hcommand : command.Queries)
      (hallowed : allowed .gdb command) (hfresh : Fresh command debugger) :
      Step allowed debugger
        ((debugger.send command).withGdb (.querying debugger.nextChannel))
  /-- An answer, or the news that there will be none. -/
  | answer {debugger : Debugger A SnapshotId} {channel : ℕ}
      {answer : Option Answer} (hquery : debugger.gdb = .querying channel)
      (hanswer : (channel, answer) ∈ debugger.thread.returned) :
      Step allowed debugger (debugger.withGdb .idle)
  | tell {debugger : Debugger A SnapshotId} (command : Command)
      (hidle : debugger.gdb = .idle) (hcommand : command.Tells)
      (hallowed : allowed .gdb command) :
      Step allowed debugger (debugger.send command)
  | resume {debugger : Debugger A SnapshotId} (command : Command)
      (hidle : debugger.gdb = .idle) (hcommand : command.Resumes) :
      Step allowed debugger ((debugger.send command).withGdb .running)
  /-- Control-C, which is answered by the stop that it leads to. -/
  | interrupt {debugger : Debugger A SnapshotId}
      (hgdb : debugger.gdb = .idle ∨ debugger.gdb = .running)
      (hallowed : allowed .gdb .pause) :
      Step allowed debugger (debugger.send .pause)
  /-- The server takes an event, and reports it to gdb as a stop. -/
  | report {debugger : Debugger A SnapshotId} {event : Event}
      {rest : List Event} (hrunning : debugger.gdb = .running)
      (hevent : debugger.thread.eventChannel = event :: rest) :
      Step allowed debugger
        ({ debugger with
          thread := { debugger.thread with eventChannel := rest } }.withGdb
            .idle)
  /-- The connection ends, or the target is gone. -/
  | leave {debugger : Debugger A SnapshotId}
      (hgdb : debugger.gdb = .idle ∨ debugger.gdb = .running ∨
        debugger.thread.phase = .stopped) :
      Step allowed debugger (debugger.withGdb .gone)
  /-- No one is left to send commands. -/
  | disconnect {debugger : Debugger A SnapshotId}
      (hgdb : debugger.gdb = .gone) (htui : debugger.tui = false) :
      Step allowed debugger { debugger with
        thread := { debugger.thread with connected := false } }

end Debugger

/-- The target as it is created, with nothing in its channels. -/
def TargetThread.new {A SnapshotId : Type} (target : SimTarget A SnapshotId) :
    TargetThread A SnapshotId where
  target := target
  breakpoints := ∅
  executionType := none
  sharedState := default
  commandChannel := []
  connected := true
  eventChannel := []
  returned := []
  phase := .head

namespace Debugger

variable {A SnapshotId : Type} [ModifiableStore A Contents SnapshotId]

/-- With a port, the target waits for gdb. -/
def withPort (target : SimTarget A SnapshotId) : Debugger A SnapshotId where
  thread := TargetThread.new target
  gdb := .idle
  tui := true
  nextChannel := 0

/-- Without one, the first command is sent right away. -/
def withoutPort (target : SimTarget A SnapshotId) : Debugger A SnapshotId where
  thread := { TargetThread.new target with commandChannel := [.continues] }
  gdb := .gone
  tui := true
  nextChannel := 0

variable [Build]

/-- What is reached from a new target, whichever steps the parties take. -/
inductive Reachable (machine : Machine) (board : Board)
    (allowed : Party → Command → Prop) : Debugger A SnapshotId → Prop where
  | withPort {target : SimTarget A SnapshotId} {uartChannel : List (BitVec 8)}
      (created : SimTarget.new (Simulator.new (SimTarget.construct machine
        board)) uartChannel = some target) :
      Reachable machine board allowed (Debugger.withPort target)
  | withoutPort {target : SimTarget A SnapshotId}
      {uartChannel : List (BitVec 8)}
      (created : SimTarget.new (Simulator.new (SimTarget.construct machine
        board)) uartChannel = some target) :
      Reachable machine board allowed (Debugger.withoutPort target)
  | step {debugger debugger' : Debugger A SnapshotId}
      (reachable : Reachable machine board allowed debugger)
      (step : Step allowed debugger debugger') :
      Reachable machine board allowed debugger'

end Debugger

/-! ## The invariant -/

namespace TargetThread

variable {A SnapshotId : Type} [ModifiableStore A Contents SnapshotId]

/-- There will be an event, if the execution ends: a command leads to it, or
the target is executing, or it is in the channel already. -/
def Awaited (thread : TargetThread A SnapshotId) : Prop :=
  thread.phase = .stopped ∨
    (∃ command ∈ thread.commandChannel, command.Wakes) ∨
    thread.executionType ≠ none ∨ thread.eventChannel ≠ []

/-- There will be an answer, or there is one. -/
def Answering (channel : ℕ) (thread : TargetThread A SnapshotId) : Prop :=
  thread.phase = .stopped ∨
    (∃ command ∈ thread.commandChannel,
      command.returnChannel = some channel) ∨
    ∃ answer, (channel, answer) ∈ thread.returned

/-- The target advances while it executes, and waits while it does not. -/
structure InPhase (thread : TargetThread A SnapshotId) : Prop where
  receiving : thread.phase = .receiving → thread.executionType = none
  advancing : thread.phase = .advancing → thread.executionType ≠ none

/-- The return channels that were used, and those that wait in commands. -/
def channels (thread : TargetThread A SnapshotId) : List ℕ :=
  thread.returned.map Prod.fst
    ++ thread.commandChannel.filterMap Command.returnChannel

variable [Build] {thread thread' : TargetThread A SnapshotId} {channel : ℕ}

/-- What a command that is taken from the channel does. -/
theorem executed_of_run {command : Command} {rest : List Command}
    {result : Bool × TargetThread A SnapshotId}
    (h : executeCommand command { thread with commandChannel := rest }
      = some result) :
    Executed command { thread with commandChannel := rest }
      (afterCommand result) := by
  obtain ⟨exits, thread'⟩ := result
  obtain ⟨hexecuted, _⟩ := executed_executeCommand h
  exact ⟨hexecuted.breakpoints, hexecuted.executionType,
    hexecuted.sharedState, hexecuted.commandChannel, hexecuted.connected,
    hexecuted.eventChannel, hexecuted.returned, hexecuted.target⟩

omit [Build] in
/-- A command that wakes no one leaves execution and events alone. -/
theorem Executed.of_not_wakes {command : Command}
    (h : Executed command thread thread') (hwakes : ¬ command.Wakes) :
    thread'.executionType = thread.executionType ∧
      thread'.eventChannel = thread.eventChannel := by
  have htype := h.executionType
  have hevents := h.eventChannel
  cases command
  case pause | continues | reverseContinue | step | stepBack | rangeStep =>
    exact absurd True.intro hwakes
  all_goals exact ⟨htype, hevents.trans (List.append_nil _)⟩

omit [Build] in
/-- One that wakes starts an execution, or ends one with an event. -/
theorem Executed.of_wakes {command : Command}
    (h : Executed command thread thread') (hwakes : command.Wakes) :
    thread'.executionType ≠ none ∨ thread'.eventChannel ≠ [] := by
  have htype := h.executionType
  have hevents := h.eventChannel
  cases command
  case pause =>
    right
    rw [hevents]
    exact List.append_ne_nil_of_right_ne_nil _ (List.cons_ne_nil _ _)
  case continues | reverseContinue | step | stepBack | rangeStep =>
    left
    rw [htype]
    exact Option.some_ne_none _
  all_goals exact hwakes.elim

/-- Only a thread that has not left its loop takes a turn. -/
theorem Next.not_stopped (hnext : Next thread thread') :
    thread.phase ≠ .stopped := by
  intro hstopped
  cases hnext with
  | head hphase _ | advance _ hphase _ _ | empty hphase _ _ =>
      rw [hstopped] at hphase
      cases hphase
  | command hphase _ _ | disconnected hphase _ _ =>
      rw [hstopped] at hphase
      rcases hphase with hphase | hphase
      · cases hphase
      · cases hphase

theorem Panics.not_stopped (hpanics : thread.Panics) :
    thread.phase ≠ .stopped := by
  intro hstopped
  cases hpanics with
  | head hphase _ | advance _ hphase _ _ =>
      rw [hstopped] at hphase
      cases hphase
  | command hphase _ _ =>
      rw [hstopped] at hphase
      rcases hphase with hphase | hphase
      · cases hphase
      · cases hphase

theorem Next.awaited (hnext : Next thread thread') (h : thread.Awaited) :
    thread'.Awaited := by
  have hrest := h.resolve_left hnext.not_stopped
  cases hnext with
  | head hphase _ => exact Or.inr hrest
  | @command command rest result hphase hchannel hrun =>
      have hexecuted := executed_of_run hrun
      by_cases hwakes : command.Wakes
      · exact Or.inr (Or.inr (hexecuted.of_wakes hwakes))
      · obtain ⟨htype, hevents⟩ := hexecuted.of_not_wakes hwakes
        unfold Awaited
        rw [htype, hevents, hexecuted.commandChannel]
        rcases hrest with ⟨other, hmem, hother⟩ | hrest
        · rw [hchannel] at hmem
          rcases List.mem_cons.1 hmem with rfl | hmem
          · exact absurd hother hwakes
          · exact Or.inr (Or.inl ⟨other, hmem, hother⟩)
        · exact Or.inr (Or.inr hrest)
  | @advance executionType result arrived hphase htype hrun =>
      have hadvanced := advanced_advanceSim hrun
      unfold afterAdvance
      cases result.1 with
      | event event =>
          exact Or.inr (Or.inr (Or.inr
            (List.append_ne_nil_of_right_ne_nil _ (List.cons_ne_nil _ _))))
      | continues =>
          refine Or.inr (Or.inr (Or.inl ?_))
          dsimp only
          rw [hadvanced.executionType, htype]
          exact Option.some_ne_none _
  | empty hphase _ _ => exact Or.inr hrest
  | disconnected _ _ _ => exact Or.inl rfl

/-- No return channel is lost, and none is used twice. -/
theorem Next.channels_eq (hnext : Next thread thread') :
    thread'.channels = thread.channels := by
  cases hnext with
  | head _ _ => rfl
  | @command command rest result hphase hchannel hrun =>
      have hexecuted := executed_of_run hrun
      obtain ⟨answer, hreturned⟩ := hexecuted.returned
      unfold channels
      rw [hreturned, hexecuted.commandChannel, hchannel, List.map_append]
      cases hcommand : command.returnChannel with
      | none =>
          rw [List.filterMap_cons_none hcommand]
          exact congrArg (· ++ _) (List.append_nil _)
      | some channel =>
          rw [List.filterMap_cons_some hcommand]
          exact List.append_assoc _ _ _
  | @advance executionType result arrived hphase htype hrun =>
      have hadvanced := advanced_advanceSim hrun
      unfold channels afterAdvance
      cases result.1 with
      | event event =>
          dsimp only
          rw [hadvanced.returned, hadvanced.commandChannel]
      | continues =>
          dsimp only
          rw [hadvanced.returned, hadvanced.commandChannel]
  | empty _ _ _ => rfl
  | disconnected _ _ _ => rfl

omit [ModifiableStore A Contents SnapshotId] [Build] in
theorem answering_iff : thread.Answering channel ↔
    thread.phase = .stopped ∨ channel ∈ thread.channels := by
  unfold Answering channels
  rw [List.mem_append, List.mem_filterMap, List.mem_map]
  constructor
  · rintro (hstopped | hcommand | ⟨answer, hmem⟩)
    · exact Or.inl hstopped
    · exact Or.inr (Or.inr hcommand)
    · exact Or.inr (Or.inl ⟨_, hmem, rfl⟩)
  · rintro (hstopped | ⟨⟨_, answer⟩, hmem, rfl⟩ | hcommand)
    · exact Or.inl hstopped
    · exact Or.inr (Or.inr ⟨answer, hmem⟩)
    · exact Or.inr (Or.inl hcommand)

theorem Next.answering (hnext : Next thread thread')
    (h : thread.Answering channel) : thread'.Answering channel := by
  rw [answering_iff] at h ⊢
  rw [hnext.channels_eq]
  exact Or.inr (h.resolve_left hnext.not_stopped)

theorem Next.inPhase (hnext : Next thread thread') : thread'.InPhase := by
  cases hnext with
  | head _ _ =>
      constructor
      · intro hphase
        cases htype : thread.executionType with
        | none => rfl
        | some executionType =>
            rw [htype] at hphase
            cases hphase
      · intro hphase htype
        dsimp only at htype hphase
        rw [htype] at hphase
        cases hphase
  | @command command rest result hphase hchannel hrun =>
      unfold afterCommand
      cases result.1 with
      | true => exact ⟨nofun, nofun⟩
      | false => exact ⟨nofun, nofun⟩
  | @advance executionType result arrived hphase htype hrun =>
      unfold afterAdvance
      cases result.1 with
      | event event => exact ⟨nofun, nofun⟩
      | continues => exact ⟨nofun, nofun⟩
  | empty _ _ _ => exact ⟨nofun, nofun⟩
  | disconnected _ _ _ => exact ⟨nofun, nofun⟩

/-- The target only comes to wait, or to advance, after publishing. -/
theorem Next.published (hnext : Next thread thread')
    (hphase : thread'.phase = .receiving ∨ thread'.phase = .advancing) :
    ∃ shared phase, thread.target.publish thread.executionType
        thread.sharedState = some shared ∧
      thread' = { thread with sharedState := shared, phase := phase } := by
  cases hnext with
  | head _ hshared => exact ⟨_, _, hshared, rfl⟩
  | @command command rest result _ _ _ =>
      unfold afterCommand at hphase
      cases hexits : result.1 with
      | true =>
          rw [hexits] at hphase
          rcases hphase with hphase | hphase <;> cases hphase
      | false =>
          rw [hexits] at hphase
          rcases hphase with hphase | hphase <;> cases hphase
  | @advance executionType result arrived _ _ _ =>
      unfold afterAdvance at hphase
      cases hevent : result.1 with
      | event event =>
          rw [hevent] at hphase
          rcases hphase with hphase | hphase <;> cases hphase
      | continues =>
          rw [hevent] at hphase
          rcases hphase with hphase | hphase <;> cases hphase
  | empty _ _ _ | disconnected _ _ _ =>
      rcases hphase with hphase | hphase <;> cases hphase

/-- The simulator is only driven by calls, and the future is only deleted by a
command from the channel. -/
theorem Next.reaches (hnext : Next thread thread') :
    SimTarget.Reaches
      (fun call => (∀ command ∈ thread.commandChannel,
        command ≠ .deleteFuture) → call.Keeps)
      thread.target thread'.target := by
  cases hnext with
  | head _ _ | empty _ _ _ | disconnected _ _ _ => exact .refl
  | command _ hchannel hrun =>
      refine (executed_of_run hrun).target.mono fun call hkeeps hall => ?_
      rw [hchannel] at hall
      exact hkeeps (hall _ List.mem_cons_self)
  | @advance executionType result arrived hphase htype hrun =>
      have hadvanced := advanced_advanceSim hrun
      unfold afterAdvance
      cases result.1 with
      | event event => exact hadvanced.target.mono fun _ h _ => h
      | continues => exact hadvanced.target.mono fun _ h _ => h

end TargetThread

end RedPlanet
