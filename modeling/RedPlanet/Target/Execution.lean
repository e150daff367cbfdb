import RedPlanet.Simulator.ReverseSearch
import RedPlanet.Target.Protocol

/-!
# Where an execution stops

An execution goes on over many turns of the target: forward it makes up to
1024 steps in a turn, and backward it ends a turn early when a command
arrives.  Commands that only look at the target, and bytes for the UART, may
arrive all the time.  Wherever the turns end, the execution stops at the first
state that asks for it, in its direction.
-/

namespace RedPlanet

open Simulator Target Verified SnapshotStore ModifiableStore
open RedPlanet.Core hiding Event

namespace Target

/-- The commands that leave everything but the answers alone. -/
def Command.Watches : Command → Prop
  | .readRegisters _ | .readAddrs _ _ _ => True
  | .readRegister (.csr _) _ => False
  | .readRegister _ _ => True
  | _ => False

/-- What ends a forward execution besides the events of a state. -/
def ExecutionType.leaves : ExecutionType → Option (Contents → Bool)
  | .step => some fun _ => true
  | .rangeStep start stop => some (TargetThread.outside start stop)
  | .continues => some fun _ => false
  | .stepBack | .reverseContinue => none

/-- The event with which a forward execution stops at a state. -/
def stopEvent (breakpoints : Finset (BitVec 32)) (leaves : Contents → Bool)
    (contents : Contents) : Option Event :=
  if shouldBreak breakpoints contents then some .breaks
  else if contents.board.bus.powerDown then some .poweredDown
  else if leaves contents then some .doneStep
  else none

end Target

namespace TargetThread

variable {A SnapshotId : Type} [ModifiableStore A Contents SnapshotId]

omit [ModifiableStore A Contents SnapshotId] in
theorem afterAdvance_continues
    {result : AdvanceResult × TargetThread A SnapshotId}
    (h : result.1 = .continues) :
    afterAdvance result = { result.2 with phase := .polling } := by
  unfold afterAdvance
  rw [h]

omit [ModifiableStore A Contents SnapshotId] in
theorem afterAdvance_event {event : Event}
    {result : AdvanceResult × TargetThread A SnapshotId}
    (h : result.1 = .event event) :
    afterAdvance result = { result.2 with
      executionType := none
      eventChannel := result.2.eventChannel ++ [event]
      phase := .head } := by
  unfold afterAdvance
  rw [h]

/-! ## Turns while others watch -/

section Watched

variable [Build]

/-- The target takes a turn, or something arrives that does not interfere. -/
inductive Watched : TargetThread A SnapshotId → TargetThread A SnapshotId →
    Prop where
  | next {thread thread' : TargetThread A SnapshotId}
      (hnext : Next thread thread') : Watched thread thread'
  | arrives {thread : TargetThread A SnapshotId} (command : Command)
      (hwatches : command.Watches) :
      Watched thread { thread with
        commandChannel := thread.commandChannel ++ [command] }
  | input {thread : TargetThread A SnapshotId} (bytes : List (BitVec 8)) :
      Watched thread { thread with
        target := { thread.target with
          uartChannel := thread.target.uartChannel ++ bytes } }

/-- Only watching commands are in the channel. -/
def OnlyWatched (thread : TargetThread A SnapshotId) : Prop :=
  ∀ command ∈ thread.commandChannel, command.Watches

variable {thread thread' : TargetThread A SnapshotId}

/-- A watching command is executed without a trace but for its answer. -/
theorem executed_of_watches {command : Command} {rest : List Command}
    {result : Bool × TargetThread A SnapshotId} (hwatches : command.Watches)
    (h : executeCommand command { thread with commandChannel := rest }
      = some result) :
    (afterCommand result).target = thread.target ∧
      (afterCommand result).breakpoints = thread.breakpoints ∧
      (afterCommand result).executionType = thread.executionType ∧
      (afterCommand result).eventChannel = thread.eventChannel ∧
      (afterCommand result).commandChannel = rest := by
  cases command with
  | readRegisters channel =>
      cases h
      exact ⟨rfl, rfl, rfl, rfl, rfl⟩
  | readAddrs addr len channel =>
      obtain ⟨_, -, h⟩ := Option.bind_eq_some_iff.1 h
      cases h
      exact ⟨rfl, rfl, rfl, rfl, rfl⟩
  | readRegister regId channel =>
      obtain ⟨⟨value, thread₁⟩, hread, h⟩ := Option.bind_eq_some_iff.1 h
      cases h
      cases regId with
      | gpr i =>
          obtain ⟨_, -, hread⟩ := Option.bind_eq_some_iff.1 hread
          cases hread
          exact ⟨rfl, rfl, rfl, rfl, rfl⟩
      | csr specifier => exact hwatches.elim
      | fpr _ | pc | priv =>
          cases hread
          exact ⟨rfl, rfl, rfl, rfl, rfl⟩
  | _ => exact hwatches.elim

/-- What a turn does while others watch: it advances, or nothing happens but
that the shared state and answers are sent. -/
theorem Watched.cases (h : Watched thread thread')
    (hwatched : thread.OnlyWatched) :
    thread'.OnlyWatched ∧ thread'.breakpoints = thread.breakpoints ∧
      ((∃ arrived executionType result,
          thread.executionType = some executionType ∧
            thread.advanceSim arrived executionType = some result ∧
              thread' = afterAdvance result) ∨
        ((thread'.target = thread.target ∨
            ∃ bytes, thread'.target = { thread.target with
              uartChannel := thread.target.uartChannel ++ bytes }) ∧
          thread'.executionType = thread.executionType ∧
            thread'.eventChannel = thread.eventChannel)) := by
  cases h with
  | arrives command hwatches =>
      refine ⟨?_, rfl, Or.inr ⟨Or.inl rfl, rfl, rfl⟩⟩
      intro other hmem
      rcases List.mem_append.1 hmem with hmem | hmem
      · exact hwatched other hmem
      · rw [List.mem_singleton.1 hmem]
        exact hwatches
  | input bytes => exact ⟨hwatched, rfl, Or.inr ⟨Or.inr ⟨bytes, rfl⟩, rfl, rfl⟩⟩
  | next hnext =>
      cases hnext with
      | head _ _ | empty _ _ _ | disconnected _ _ _ =>
          exact ⟨hwatched, rfl, Or.inr ⟨Or.inl rfl, rfl, rfl⟩⟩
      | @command command rest result _ hchannel hrun =>
          unfold OnlyWatched at hwatched
          rw [hchannel] at hwatched
          obtain ⟨htarget, hbreakpoints, htype, hevents, hrest⟩ :=
            executed_of_watches (hwatched command List.mem_cons_self) hrun
          refine ⟨?_, hbreakpoints, Or.inr ⟨Or.inl htarget, htype, hevents⟩⟩
          unfold OnlyWatched
          rw [hrest]
          exact fun other hmem => hwatched other (List.mem_cons_of_mem _ hmem)
      | @advance executionType result arrived _ htype hrun =>
          have hadvanced := advanced_advanceSim hrun
          refine ⟨?_, ?_, Or.inl ⟨arrived, executionType, result, htype, hrun,
            rfl⟩⟩
          · unfold OnlyWatched afterAdvance
            cases result.1 <;> exact hadvanced.commandChannel ▸ hwatched
          · unfold afterAdvance
            cases result.1 <;> exact hadvanced.breakpoints

end Watched

/-! ## Forward -/

/-- A step after which the execution goes on, or bytes for the UART. -/
inductive Passes (breakpoints : Finset (BitVec 32)) (leaves : Contents → Bool) :
    SimTarget A SnapshotId → SimTarget A SnapshotId → Prop where
  | step {target target' : SimTarget A SnapshotId}
      (hstep : target.step = some target')
      (hnone : stopEvent breakpoints leaves target'.contents = none) :
      Passes breakpoints leaves target target'
  | input {target : SimTarget A SnapshotId} (bytes : List (BitVec 8)) :
      Passes breakpoints leaves target
        { target with uartChannel := target.uartChannel ++ bytes }

/-- Any number of them. -/
def PassesMany (breakpoints : Finset (BitVec 32)) (leaves : Contents → Bool) :
    SimTarget A SnapshotId → SimTarget A SnapshotId → Prop :=
  Relation.ReflTransGen (Passes breakpoints leaves)

variable {thread thread' : TargetThread A SnapshotId}
  {leaves : Contents → Bool}

theorem stopEvent_eq (thread : TargetThread A SnapshotId)
    (leaves : Contents → Bool) :
    stopEvent thread.breakpoints leaves thread.contents
      = thread.eventAt.or
        (if leaves thread.contents then some .doneStep else none) := by
  unfold stopEvent eventAt
  split
  · rfl
  · split
    · rfl
    · rfl

/-- The last step of an execution, which stops it with an event. -/
def StopsWith (breakpoints : Finset (BitVec 32)) (leaves : Contents → Bool)
    (event : Event) (target target' : SimTarget A SnapshotId) : Prop :=
  ∃ last, PassesMany breakpoints leaves target last ∧
    last.step = some target' ∧
      stopEvent breakpoints leaves target'.contents = some event

/-- The steps of a turn pass, or the last one of them stops. -/
theorem steps_passes (n : ℕ) :
    ∀ {thread : TargetThread A SnapshotId}
      {result : AdvanceResult × TargetThread A SnapshotId},
      thread.steps leaves n = some result →
        match result.1 with
        | .continues => PassesMany thread.breakpoints leaves thread.target
            result.2.target
        | .event event => StopsWith thread.breakpoints leaves event
            thread.target result.2.target := by
  induction n with
  | zero =>
      intro thread result h
      cases h
      exact .refl
  | succ n ih =>
      intro thread result h
      obtain ⟨⟨event, thread₁⟩, hthread, h⟩ := Option.bind_eq_some_iff.1 h
      obtain ⟨target, hstep, hthread⟩ := Option.bind_eq_some_iff.1 hthread
      cases hthread
      have hstop := stopEvent_eq ({ thread with target := target } :
        TargetThread A SnapshotId) leaves
      dsimp only at h
      cases hevent : ({ thread with target := target } :
          TargetThread A SnapshotId).eventAt with
      | some event =>
          rw [hevent] at h hstop
          cases h
          exact ⟨_, .refl, hstep, hstop⟩
      | none =>
          rw [hevent, Option.none_or] at hstop
          rw [hevent] at h
          dsimp only at h
          by_cases hleaves : leaves ({ thread with target := target } :
              TargetThread A SnapshotId).contents = true
          · rw [if_pos hleaves] at h hstop
            cases h
            exact ⟨_, .refl, hstep, hstop⟩
          · rw [if_neg hleaves] at h hstop
            have hpass : Passes thread.breakpoints leaves thread.target target :=
              .step hstep hstop
            have hrest := ih h
            cases hresult : result.1 with
            | continues =>
                rw [hresult] at hrest
                exact .head hpass hrest
            | event event =>
                rw [hresult] at hrest
                obtain ⟨last, hlast, hstops⟩ := hrest
                exact ⟨last, .head hpass hlast, hstops⟩

/-- The same for the forward types of execution, each with its own range. -/
theorem advanceSim_passes {arrived : ℕ → Bool}
    {executionType : ExecutionType}
    {result : AdvanceResult × TargetThread A SnapshotId}
    (hleaves : executionType.leaves = some leaves)
    (h : thread.advanceSim arrived executionType = some result) :
    match result.1 with
    | .continues => PassesMany thread.breakpoints leaves thread.target
        result.2.target
    | .event event => StopsWith thread.breakpoints leaves event
        thread.target result.2.target := by
  cases executionType with
  | stepBack | reverseContinue => cases hleaves
  | continues | rangeStep start stop =>
      cases hleaves
      exact steps_passes _ h
  | step =>
      cases hleaves
      obtain ⟨⟨event, thread₁⟩, hthread, h⟩ := Option.bind_eq_some_iff.1 h
      obtain ⟨target, hstep, hthread⟩ := Option.bind_eq_some_iff.1 hthread
      cases hthread
      cases h
      refine ⟨_, .refl, hstep, ?_⟩
      have hstop := stopEvent_eq ({ thread with target := target } :
        TargetThread A SnapshotId) fun _ => true
      refine hstop.trans ?_
      cases ({ thread with target := target } :
          TargetThread A SnapshotId).eventAt with
      | some event => rfl
      | none => rfl

/-- Where a forward execution is: it has passed some states, or it has stopped
and nothing else happens. -/
inductive Forward (leaves : Contents → Bool)
    (thread thread' : TargetThread A SnapshotId) : Prop where
  | going (hbreakpoints : thread'.breakpoints = thread.breakpoints)
      (htype : thread'.executionType = thread.executionType)
      (hevents : thread'.eventChannel = thread.eventChannel)
      (hpasses : PassesMany thread.breakpoints leaves thread.target
        thread'.target)
  | stopped {target : SimTarget A SnapshotId} {event : Event}
      (htype : thread'.executionType = none)
      (hevents : thread'.eventChannel = thread.eventChannel ++ [event])
      (hstops : StopsWith thread.breakpoints leaves event thread.target target)
      (hsimulator : thread'.target.simulator = target.simulator)

variable [Build]

theorem Forward.watched {executionType : ExecutionType}
    {thread'' : TargetThread A SnapshotId}
    (htype : thread.executionType = some executionType)
    (hleaves : executionType.leaves = some leaves)
    (h : Forward leaves thread thread') (hwatched : thread'.OnlyWatched)
    (hturn : Watched thread' thread'') : Forward leaves thread thread'' := by
  obtain ⟨-, hbreakpoints', hturn⟩ := hturn.cases hwatched
  cases h with
  | going hbreakpoints hsame hevents hpasses =>
      rcases hturn with ⟨arrived, executionType', result, htype', hrun, rfl⟩ |
          ⟨htarget, hsame', hevents'⟩
      · rw [hsame, htype] at htype'
        cases htype'
        have hadvanced := advanced_advanceSim hrun
        have hturn := advanceSim_passes hleaves hrun
        rw [hbreakpoints] at hturn
        cases hresult : result.1 with
        | continues =>
            rw [afterAdvance_continues hresult] at hbreakpoints' ⊢
            rw [hresult] at hturn
            exact .going (hbreakpoints'.trans hbreakpoints)
              (hadvanced.executionType.trans hsame)
              (hadvanced.eventChannel.trans hevents) (hpasses.trans hturn)
        | event event =>
            rw [afterAdvance_event hresult]
            rw [hresult] at hturn
            obtain ⟨last, hlast, hstops⟩ := hturn
            refine .stopped rfl ?_ ⟨last, hpasses.trans hlast, hstops⟩ rfl
            dsimp only
            rw [hadvanced.eventChannel, hevents]
      · refine .going (hbreakpoints'.trans hbreakpoints) (hsame'.trans hsame)
          (hevents'.trans hevents) ?_
        rcases htarget with htarget | ⟨bytes, htarget⟩
        · rw [htarget]
          exact hpasses
        · rw [htarget]
          exact hpasses.tail (.input bytes)
  | stopped hnone hevents hstops hsimulator =>
      rcases hturn with ⟨arrived, executionType', result, htype', -, -⟩ |
          ⟨htarget, hsame', hevents'⟩
      · rw [hnone] at htype'
        cases htype'
      · refine .stopped (hsame'.trans hnone) (hevents'.trans hevents) hstops ?_
        rcases htarget with htarget | ⟨bytes, htarget⟩
        · rw [htarget]
          exact hsimulator
        · rw [htarget]
          exact hsimulator

/-- While others only watch, a forward execution stops at the first state, and
the only one, that is at a breakpoint, or powered down, or outside the range,
or, for a single step, at the first one at all.  It sends the event of that
state, and nothing else, in however many turns. -/
theorem forward_stops {executionType : ExecutionType}
    (htype : thread.executionType = some executionType)
    (hleaves : executionType.leaves = some leaves)
    (hwatched : thread.OnlyWatched)
    (hrun : Relation.ReflTransGen Watched thread thread') :
    Forward leaves thread thread' := by
  have hall : thread'.OnlyWatched ∧ Forward leaves thread thread' := by
    induction hrun with
    | refl => exact ⟨hwatched, .going rfl rfl rfl .refl⟩
    | tail _ hturn ih =>
        exact ⟨(hturn.cases ih.1).1, ih.2.watched htype hleaves ih.1 hturn⟩
  exact hall.2

omit [ModifiableStore A Contents SnapshotId] [Build] in
/-- The guest meets a breakpoint after three steps, while gdb asks for the
registers. -/
theorem forward_stops_breakpoint :
    ∃ thread thread' : TargetThread (CopyStore Contents) ℕ,
      thread.executionType = some .continues ∧
        thread'.eventChannel = [.breaks] ∧
        thread'.contents.board = Board.guestAfter 3 ∧
        Forward (fun _ => false) thread thread' := by
  let _ : Core.Build := Core.Build.debug
  obtain ⟨target, -, hidle⟩ := SimTarget.idle_new (A := CopyStore Contents)
    boardMachine Board.guestBoard
  let thread : TargetThread (CopyStore Contents) ℕ :=
    { TargetThread.new target with
      breakpoints := {(Board.guestAfter 3).registers.pc}
      executionType := some .continues
      phase := .advancing }
  let asked : TargetThread (CopyStore Contents) ℕ :=
    { thread with commandChannel := [.readRegisters 0] }
  have hbefore : ∀ k < 2, (Board.guestAfter (k + 1)).registers.pc
      ∉ ({(Board.guestAfter 3).registers.pc} : Finset (BitVec 32)) := by
    decide +kernel
  have hidle₀ : SimTarget.Idle _ (Board.guestAfter 0) asked.target := hidle
  obtain ⟨target₁, hstep₁, hidle₁⟩ := step_eq_none hidle₀
    (pending_guest 0 (by decide)) (tick_guest (by decide))
    (hbefore 0 (by decide)) (by decide +kernel)
  let asked₁ : TargetThread (CopyStore Contents) ℕ :=
    { asked with target := target₁ }
  have hidle₁' : SimTarget.Idle _ _ asked₁.target := hidle₁
  obtain ⟨target₂, hstep₂, hidle₂⟩ := step_eq_none hidle₁'
    (pending_guest 1 (by decide)) (tick_guest (by decide))
    (hbefore 1 (by decide)) (by decide +kernel)
  let asked₂ : TargetThread (CopyStore Contents) ℕ :=
    { asked with target := target₂ }
  have hidle₂' : SimTarget.Idle _ _ asked₂.target := hidle₂
  obtain ⟨target₃, hstep₃, hidle₃⟩ := step_eq_breaks hidle₂'
    (pending_guest 2 (by decide)) (tick_guest (by decide))
    (Finset.mem_singleton_self _)
  have hrun : asked.advanceSim (fun _ => false) .continues
      = some (.event .breaks, { asked with target := target₃ }) := by
    rw [advanceSim, show 1024 = 1021 + 1 + 1 + 1 from rfl,
      steps_eq_of_none hstep₁ rfl, steps_eq_of_none hstep₂ rfl,
      steps_eq_of_event hstep₃]
  have harrives : Watched thread asked := .arrives (.readRegisters 0) trivial
  have hturn := Watched.next (Next.advance _ rfl rfl hrun)
  have hwatched : thread.OnlyWatched :=
    fun _ hmem => absurd hmem List.not_mem_nil
  refine ⟨thread, _, rfl, ?_, ?_, forward_stops rfl rfl hwatched
    ((Relation.ReflTransGen.single harrives).tail hturn)⟩
  · rfl
  · exact hidle₃.board_eq

/-! ## Backward -/

/-- The step that a thread is at. -/
def position (thread : TargetThread A SnapshotId) : ℕ :=
  thread.target.simulator.currentSteps

/-- There is no breakpoint from one step up to, but without, another. -/
def NoneBetween (breakpoints : Finset (BitVec 32)) (state : ℕ → Contents)
    (low high : ℕ) : Prop :=
  ∀ k, low ≤ k → k < high → shouldBreak breakpoints (state k) = false

/-- A reverse execution ends at the last breakpoint before it began, or at
the start if there is none. -/
inductive Found (breakpoints : Finset (BitVec 32)) (state : ℕ → Contents)
    (before after : ℕ) : Event → Prop where
  | breaks (hlt : after < before)
      (hbreak : shouldBreak breakpoints (state after) = true)
      (hnone : NoneBetween breakpoints state (after + 1) before) :
      Found breakpoints state before after .breaks
  | reachedStart (hstart : after = 0)
      (hnone : NoneBetween breakpoints state 0 before) :
      Found breakpoints state before after .reachedStart

omit [ModifiableStore A Contents SnapshotId] [Build] in
theorem NoneBetween.trans {breakpoints : Finset (BitVec 32)}
    {state : ℕ → Contents} {low middle high : ℕ}
    (h : NoneBetween breakpoints state low middle)
    (h' : NoneBetween breakpoints state middle high) :
    NoneBetween breakpoints state low high := by
  intro k hlow hhigh
  rcases Nat.lt_or_ge k middle with hlt | hge
  · exact h k hlow hlt
  · exact h' k hge hhigh

omit [ModifiableStore A Contents SnapshotId] [Build] in
/-- What is found before a stretch without breakpoints is found from its end
on as well. -/
theorem Found.extend {breakpoints : Finset (BitVec 32)} {state : ℕ → Contents}
    {before middle after : ℕ} {event : Event}
    (h : Found breakpoints state middle after event)
    (hle : middle ≤ before)
    (hnone : NoneBetween breakpoints state middle before) :
    Found breakpoints state before after event := by
  cases h with
  | breaks hlt hbreak hnone' =>
      exact .breaks (Nat.lt_of_lt_of_le hlt hle) hbreak (hnone'.trans hnone)
  | reachedStart hstart hnone' => exact .reachedStart hstart (hnone'.trans hnone)

/-- What the predicate of a reverse continue may answer. -/
def ReverseAnswers (breakpoints : Finset (BitVec 32)) (contents : Contents)
    (given : Option AdvanceResult) : Prop :=
  given = (if shouldBreak breakpoints contents then some (.event .breaks)
    else none) ∨
  shouldBreak breakpoints contents = false ∧ given = some .continues

omit [Build] in
theorem answers_reversePred (arrived : ℕ → Bool) (machine : Machine) :
    Answers machine (thread.reversePred arrived)
      (ReverseAnswers thread.breakpoints) := by
  intro search allocator
  unfold ReverseAnswers reversePred
  cases hbreak : shouldBreak thread.breakpoints (view allocator) with
  | true => exact Or.inl rfl
  | false =>
      dsimp only
      rw [if_neg Bool.false_ne_true]
      split
      · exact Or.inr ⟨rfl, rfl⟩
      · exact Or.inl rfl

section Lawful

variable [LawfulModifiableStore A Contents SnapshotId] {machine : Machine}
  {history : ℕ → A} {timeline : List (TimelineTick Machine A)}

omit [Build] in
/-- A turn of a reverse execution passes no breakpoint, whenever commands
arrive, and it goes back. -/
theorem reverseContinue_found {arrived : ℕ → Bool}
    {result : AdvanceResult × TargetThread A SnapshotId}
    (h : WellFormed history machine timeline thread.target.simulator)
    (hrun : thread.reverseContinue arrived = some result) :
    WellFormed history machine timeline result.2.target.simulator ∧
      match result.1 with
      | .continues => result.2.position < thread.position ∧
          NoneBetween thread.breakpoints (fun k => view (history k))
            result.2.position thread.position
      | .event event => Found thread.breakpoints (fun k => view (history k))
          thread.position result.2.position event := by
  obtain ⟨found, hundo, hrun⟩ := Option.bind_eq_some_iff.1 hrun
  obtain ⟨shared, -, hrun⟩ := Option.bind_eq_some_iff.1 hrun
  obtain ⟨hwell, hfound⟩ :=
    h.undoStepsUntil_found (answers_reversePred arrived machine) hundo
  have hnone : ∀ k, ReverseAnswers thread.breakpoints (view (history k)) none →
      shouldBreak thread.breakpoints (view (history k)) = false := by
    intro k hanswer
    rcases hanswer with hanswer | ⟨hfalse, -⟩
    · cases hbreak : shouldBreak thread.breakpoints (view (history k)) with
      | true =>
          rw [hbreak] at hanswer
          cases hanswer
      | false => rfl
    · exact hfalse
  rcases hfound with ⟨answer, hreason, hlt, hanswer, hafter⟩ |
      ⟨hreason, hzero, hbefore⟩
  · rw [hreason] at hrun
    cases hrun
    refine ⟨hwell, ?_⟩
    rcases hanswer with hanswer | ⟨hfalse, hanswer⟩
    · -- a breakpoint
      cases hbreak : shouldBreak thread.breakpoints
          (view (history found.sim.head.stateIndex)) with
      | false =>
          rw [hbreak] at hanswer
          cases hanswer
      | true =>
          rw [hbreak] at hanswer
          cases hanswer
          exact .breaks hlt hbreak fun k hk hlt' =>
            hnone k (hafter k (Nat.lt_of_succ_le hk) hlt')
    · -- a command
      cases hanswer
      refine ⟨hlt, ?_⟩
      intro k hk hlt'
      rcases Nat.eq_or_lt_of_le hk with rfl | hk
      · exact hfalse
      · exact hnone k (hafter k hk hlt')
  · rw [hreason] at hrun
    cases hrun
    exact ⟨hwell, .reachedStart hzero fun k _ hlt => hnone k (hbefore k hlt)⟩

/-- Where a reverse execution is. -/
inductive Backward (state : ℕ → Contents)
    (thread thread' : TargetThread A SnapshotId) : Prop where
  | going (hbreakpoints : thread'.breakpoints = thread.breakpoints)
      (htype : thread'.executionType = thread.executionType)
      (hevents : thread'.eventChannel = thread.eventChannel)
      (hle : thread'.position ≤ thread.position)
      (hnone : NoneBetween thread.breakpoints state thread'.position
        thread.position)
  | stopped {event : Event} (htype : thread'.executionType = none)
      (hevents : thread'.eventChannel = thread.eventChannel ++ [event])
      (hfound : Found thread.breakpoints state thread.position
        thread'.position event)

theorem Backward.watched {thread'' : TargetThread A SnapshotId}
    (htype : thread.executionType = some .reverseContinue)
    (hwell : WellFormed history machine timeline thread'.target.simulator)
    (h : Backward (fun k => view (history k)) thread thread')
    (hwatched : thread'.OnlyWatched) (hturn : Watched thread' thread'') :
    WellFormed history machine timeline thread''.target.simulator ∧
      Backward (fun k => view (history k)) thread thread'' := by
  obtain ⟨-, hbreakpoints', hturn⟩ := hturn.cases hwatched
  rcases hturn with ⟨arrived, executionType, result, htype', hrun, rfl⟩ |
      ⟨htarget, hsame', hevents'⟩
  · cases h with
    | stopped hnone _ _ =>
        rw [hnone] at htype'
        cases htype'
    | going hbreakpoints hsame hevents hle hnone =>
        rw [hsame, htype] at htype'
        cases htype'
        have hadvanced := advanced_advanceSim hrun
        obtain ⟨hwell', hfound⟩ := reverseContinue_found hwell hrun
        rw [hbreakpoints] at hfound
        cases hresult : result.1 with
        | continues =>
            rw [afterAdvance_continues hresult] at hbreakpoints' ⊢
            rw [hresult] at hfound
            obtain ⟨hlt, hnone'⟩ := hfound
            exact ⟨hwell', .going (hbreakpoints'.trans hbreakpoints)
              (hadvanced.executionType.trans hsame)
              (hadvanced.eventChannel.trans hevents)
              (Nat.le_trans (Nat.le_of_lt hlt) hle) (hnone'.trans hnone)⟩
        | event event =>
            rw [afterAdvance_event hresult]
            rw [hresult] at hfound
            refine ⟨hwell', .stopped rfl ?_ (hfound.extend hle hnone)⟩
            dsimp only
            rw [hadvanced.eventChannel, hevents]
  · have hsimulator : thread''.target.simulator = thread'.target.simulator := by
      rcases htarget with htarget | ⟨bytes, htarget⟩
      · rw [htarget]
      · rw [htarget]
    have hposition : thread''.position = thread'.position :=
      congrArg Simulator.currentSteps hsimulator
    rw [hsimulator]
    refine ⟨hwell, ?_⟩
    cases h with
    | going hbreakpoints hsame hevents hle hnone =>
        rw [← hposition] at hle hnone
        exact .going (hbreakpoints'.trans hbreakpoints) (hsame'.trans hsame)
          (hevents'.trans hevents) hle hnone
    | stopped hnone hevents hfound =>
        rw [← hposition] at hfound
        exact .stopped (hsame'.trans hnone) (hevents'.trans hevents) hfound

/-- While others only watch, a reverse execution stops at the last breakpoint
before the state that it began at, or at the start if there is none, however
often a command ends one of its turns.  On the way nothing that was recorded
is lost. -/
theorem reverse_stops {board : Board}
    (h : SimTarget.Run machine board thread.target)
    (htype : thread.executionType = some .reverseContinue)
    (hwatched : thread.OnlyWatched)
    (hrun : Relation.ReflTransGen Watched thread thread') :
    ∃ (state : ℕ → Contents) (available : ℕ),
      thread.target.simulator.availableSteps = some available ∧
      thread.position ≤ available ∧
      (∀ k ≤ available, thread.target.simulator.shownAt k = some (state k) ∧
        thread'.target.simulator.shownAt k = some (state k)) ∧
      thread'.contents = state thread'.position ∧
      Backward state thread thread' := by
  obtain ⟨history, timeline, hwell⟩ := h.wellFormed
  have hall : thread'.OnlyWatched ∧
      WellFormed history machine timeline thread'.target.simulator ∧
        Backward (fun k => view (history k)) thread thread' := by
    induction hrun with
    | refl =>
        exact ⟨hwatched, hwell, .going rfl rfl rfl (Nat.le_refl _)
          fun k hk hlt => absurd hlt (Nat.not_lt.2 hk)⟩
    | tail _ hturn ih =>
        exact ⟨(hturn.cases ih.1).1, ih.2.2.watched htype ih.2.1 ih.1 hturn⟩
  obtain ⟨-, hwell', hbackward⟩ := hall
  exact ⟨fun k => view (history k), timeline.length, hwell.availableSteps_eq,
    hwell.atState.within,
    fun k hk => ⟨hwell.shownAt hk, hwell'.shownAt hk⟩,
    hwell'.atState.view_eq, hbackward⟩

end Lawful

/-- A new target after three steps of the guest. -/
def guestSteps : Option (SimTarget (CopyStore Contents) ℕ) :=
  (SimTarget.new (Simulator.new (SimTarget.construct
      (@boardMachine Core.Build.debug) Board.guestBoard)) []).bind
    fun target => target.step.bind fun target => target.step.bind
      fun target => target.step

def guestTarget : SimTarget (CopyStore Contents) ℕ :=
  guestSteps.get (by decide +kernel)

omit [Build] in
theorem run_guestTarget :
    SimTarget.Run (@boardMachine Core.Build.debug) Board.guestBoard
      guestTarget := by
  have hsteps : guestSteps = some guestTarget := (Option.some_get _).symm
  unfold guestSteps at hsteps
  obtain ⟨target, created, hsteps⟩ := Option.bind_eq_some_iff.1 hsteps
  obtain ⟨target₁, hstep₁, hsteps⟩ := Option.bind_eq_some_iff.1 hsteps
  obtain ⟨target₂, hstep₂, hstep₃⟩ := Option.bind_eq_some_iff.1 hsteps
  exact (((SimTarget.Run.new created).call .step hstep₁).call .step
    hstep₂).call .step hstep₃

/-- On its way back, with a breakpoint after the first step. -/
def guestReverse : TargetThread (CopyStore Contents) ℕ :=
  { TargetThread.new guestTarget with
    breakpoints := {(Board.guestAfter 1).registers.pc}
    executionType := some .reverseContinue
    phase := .advancing }

/-- A command arrives before the target looks for it. -/
def guestAsked : TargetThread (CopyStore Contents) ℕ :=
  { guestReverse with commandChannel := [.readRegisters 0] }

def guestTurn : AdvanceResult × TargetThread (CopyStore Contents) ℕ :=
  (guestAsked.advanceSim (fun _ => false) .reverseContinue).get
    (by decide +kernel)

omit [ModifiableStore A Contents SnapshotId] [Build] in
/-- The search notices the command in the first state, and goes on to the
breakpoint, which is later. -/
theorem reverse_stops_breakpoint :
    guestReverse.position = 4 ∧ guestTurn.2.position = 2 ∧
      (afterAdvance guestTurn).eventChannel = [.breaks] ∧
      ∃ (state : ℕ → Contents) (available : ℕ),
        guestReverse.target.simulator.availableSteps = some available ∧
        guestReverse.position ≤ available ∧
        (∀ k ≤ available,
          guestReverse.target.simulator.shownAt k = some (state k) ∧
            (afterAdvance guestTurn).target.simulator.shownAt k
              = some (state k)) ∧
        (afterAdvance guestTurn).contents
          = state (afterAdvance guestTurn).position ∧
        Backward state guestReverse (afterAdvance guestTurn) := by
  let _ : Core.Build := Core.Build.debug
  have hturn : guestAsked.advanceSim (fun _ => false) .reverseContinue
      = some guestTurn := (Option.some_get _).symm
  have harrives : Watched guestReverse guestAsked :=
    .arrives (.readRegisters 0) trivial
  have hnext : Watched guestAsked (afterAdvance guestTurn) :=
    .next (.advance _ rfl rfl hturn)
  have hrun : Relation.ReflTransGen Watched guestReverse
      (afterAdvance guestTurn) :=
    (Relation.ReflTransGen.single harrives).tail hnext
  exact ⟨by decide +kernel, by decide +kernel, by decide +kernel,
    reverse_stops run_guestTarget rfl nofun hrun⟩

end TargetThread

end RedPlanet
