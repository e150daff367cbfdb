import RedPlanet.Board.Board
import RedPlanet.Core.Lines

/-!
# The timer interrupt line

The CLINT signals the edges of `mtimecmp <= mtime`, and nobody else writes
MTIP.  A relation between the line and its condition that survives edges is
therefore kept by every access to the bus (`timerLine_external`,
`timerLine_edge`), by every step of the board (`timerLine_step`), and by every
run (`timerLine_run`).

Agreement is such a relation, so a line that is exact stays exact
(`mtip_iff_of_agrees`).  A fresh CLINT is due already, though, with no edge to
signal that: `due_new` says that a new board does not agree with its timer.
What becomes of it from there is in `RedPlanet.Board.Silence`.
-/

namespace RedPlanet

open RedPlanet.Core RedPlanet.Resources RedPlanet.Verified Discipline

/-! ## The calls of the CLINT -/

namespace Resources.Clint

/-- The calls tell the edge of the condition. -/
def Signals (before : Clint) (result : Clint × List Callback) : Prop :=
  result.2 = edge before.needsInterrupt result.1.needsInterrupt

theorem signals_update (op : Clint → Clint) (clint : Clint) :
    Signals clint (update op clint) := rfl

theorem signals_self (clint : Clint) : Signals clint (clint, []) := by
  unfold Signals
  cases clint.needsInterrupt <;> rfl

theorem signals_write (address : BitVec 32) (buf : List (BitVec 8))
    (clint : Clint) : Signals clint (clint.write address buf) := by
  unfold write writeU32 writeU64
  repeat' split
  all_goals first
    | exact signals_self clint
    | exact signals_update _ clint

end Resources.Clint

namespace Board

/-! ## Bus accesses and the timer -/

namespace SystemBus

/-- The calls are for the external interrupt. -/
def External (calls : List IrqCall) : Prop :=
  ∀ call ∈ calls, call.code = .machineExternalInterrupt

theorem external_nil : External [] := by
  intro call hcall
  exact nomatch hcall

theorem external_plicCalls (calls : List Callback) :
    External (plicCalls calls) := by
  intro call hcall
  obtain ⟨callback, _, hcallback⟩ := List.mem_map.1 hcall
  rw [← hcallback, IrqCall.code_of]

theorem withUart_clint {uart0 : Uart} {callbacks : List Callback}
    {bus bus' : SystemBus} {calls : List IrqCall}
    (h : bus.withUart uart0 callbacks = some (bus', calls)) :
    bus'.clint = bus.clint ∧ External calls := by
  unfold withUart at h
  rw [Option.map_eq_some_iff] at h
  obtain ⟨⟨plic, callbacks'⟩, _, hcalls⟩ := h
  cases hcalls
  exact ⟨rfl, external_plicCalls callbacks'⟩

/-- Reads do not touch the timer. -/
theorem read_clint [Build] {address : BitVec 32} {buf buf' : List (BitVec 8)}
    {bus bus' : SystemBus} {calls : List IrqCall}
    (h : bus.read address buf = some (buf', bus', calls)) :
    bus'.clint = bus.clint ∧ External calls := by
  cases read_cases h with
  | unchanged => exact ⟨rfl, external_nil⟩
  | plic _ _ => exact ⟨rfl, external_plicCalls _⟩
  | uart0 _ _ hforward => exact withUart_clint hforward

/-- A write leaves the timer alone, or it is a write of the CLINT, which
signals the edge. -/
theorem write_clint {address : BitVec 32} {buf : List (BitVec 8)}
    {bus bus' : SystemBus} {calls : List IrqCall}
    (h : bus.write address buf = some (bus', calls)) :
    (bus'.clint = bus.clint ∧ External calls) ∨
      calls = (edge bus.clint.needsInterrupt bus'.clint.needsInterrupt).map
        (IrqCall.of .machineTimerInterrupt) := by
  cases write_cases h with
  | unchanged => exact Or.inl ⟨rfl, external_nil⟩
  | clint _ =>
      right
      exact congrArg (List.map _) (Clint.signals_write _ buf bus.clint)
  | plic _ _ => exact Or.inl ⟨rfl, external_plicCalls _⟩
  | uart0 _ _ hforward => exact Or.inl (withUart_clint hforward)
  | dram _ _ => exact Or.inl ⟨rfl, external_nil⟩
  | powerDown _ =>
      left
      refine ⟨?_, external_nil⟩
      unfold writePowerDown
      split <;> rfl

end SystemBus

/-! ## The line -/

/-- The bit of the timer interrupt in mip. -/
def mtip (board : Board) : Bool :=
  board.interrupts.mip.getLsbD Interrupt.machineTimerInterrupt.toNat

/-- The timer interrupt is due. -/
def Due (board : Board) : Prop :=
  board.bus.clint.mtimecmp ≤ board.bus.clint.mtime

theorem needsInterrupt_iff (board : Board) :
    board.bus.clint.needsInterrupt = true ↔ board.Due :=
  decide_eq_true_iff

/-- A relation between the line and its condition. -/
def TimerLine (R : Bool → Bool → Prop) (board : Board) : Prop :=
  R board.mtip board.bus.clint.needsInterrupt

variable {R : Bool → Bool → Prop}

/-- Bus accesses that do not touch the timer, with their calls. -/
theorem timerLine_external {board : Board} {bus : SystemBus}
    {calls : List IrqCall} (hclint : bus.clint = board.bus.clint)
    (hcalls : SystemBus.External calls) (h : TimerLine R board) :
    TimerLine R
      ({ board with bus := bus }.onInterrupts
        (Interrupts.deliverAll calls)) := by
  have hne : ∀ call ∈ calls,
      call.code.toNat ≠ Interrupt.machineTimerInterrupt.toNat := by
    intro call hcall
    rw [hcalls call hcall]
    decide
  have hmip := Interrupts.mip_deliverAll_ne calls hne board.interrupts
  have hcondition :
      bus.clint.needsInterrupt = board.bus.clint.needsInterrupt :=
    congrArg Clint.needsInterrupt hclint
  show R ((Interrupts.deliverAll calls board.interrupts).mip.getLsbD _)
    bus.clint.needsInterrupt
  rw [hmip, hcondition]
  exact h

/-- A change of the timer that signals its edge. -/
theorem timerLine_edge (hR : Edgewise R) {board : Board} {bus : SystemBus}
    (h : TimerLine R board) :
    TimerLine R ({ board with bus := bus }.onInterrupts
      (Interrupts.deliverAll
        ((edge board.bus.clint.needsInterrupt bus.clint.needsInterrupt).map
          (IrqCall.of .machineTimerInterrupt)))) := by
  have htimer : Interrupt.machineTimerInterrupt.Line := True.intro
  have hmip := Interrupts.mip_deliverAll_edge htimer
    board.bus.clint.needsInterrupt bus.clint.needsInterrupt board.interrupts
  have hdrive := hR _ _ bus.clint.needsInterrupt h
  show R ((Interrupts.deliverAll _ board.interrupts).mip.getLsbD _)
    bus.clint.needsInterrupt
  rw [hmip]
  exact hdrive

section Steps

variable [Build]

theorem steps_timerLine (hR : Edgewise R) :
    Steps (preserving (TimerLine R)) := by
  apply steps_lines
  · intro s t hframe hs
    have hmip := hframe.mip .machineTimerInterrupt True.intro
    unfold TimerLine mtip
    rw [hframe.bus, hmip]
    exact hs
  · apply accesses_preserving
    · intro s event hs
      exact hs
    · intro s address buf buf' bus calls hread hs
      obtain ⟨hclint, hcalls⟩ := SystemBus.read_clint hread
      exact timerLine_external hclint hcalls hs
    · intro s address buf bus calls _ hwrite hs
      cases SystemBus.write_clint hwrite with
      | inl hother => exact timerLine_external hother.1 hother.2 hs
      | inr hcalls =>
          rw [hcalls]
          exact timerLine_edge hR hs

/-- A step of the board keeps every edgewise relation. -/
theorem timerLine_step (hR : Edgewise R) {board : Board}
    (h : TimerLine R board) : TimerLine R (step board).state :=
  preserves_step (steps_timerLine hR) (fun _ hs => hs)
    (fun _ hs => timerLine_edge hR hs) h

/-! ## Runs -/

/-- `Clint::reset` on the CLINT of the board, with its callback. -/
def resetClint (board : Board) : Board :=
  let (clint, calls) := board.bus.clint.reset
  { board with bus := { board.bus with clint := clint } }.onInterrupts
    (Interrupts.deliverAll (calls.map (IrqCall.of .machineTimerInterrupt)))

/-- What becomes of a board when it is stepped, its CLINT is reset, memory is
loaded and the UART is fed, in any order. -/
inductive Run (start : Board) : Board → Prop where
  | start : Run start start
  | step {s t : Board} (h : Run start s) (hstep : step s = .ok () t) :
      Run start t
  | resetClint {s : Board} (h : Run start s) : Run start s.resetClint
  | loadDram {s : Board} (contents : ℕ → BitVec 8) (h : Run start s) :
      Run start (s.loadDram contents)
  | pushInput {s t : Board} {input : List (BitVec 8)} (h : Run start s)
      (hinput : s.pushInput input = some t) : Run start t

theorem timerLine_run (hR : Edgewise R) {s t : Board} (hrun : Run s t)
    (h : TimerLine R s) : TimerLine R t := by
  induction hrun with
  | start => exact h
  | step _ hstep ih =>
      have hkeep := timerLine_step hR ih
      rw [hstep] at hkeep
      exact hkeep
  | resetClint _ ih => exact timerLine_edge hR ih
  | loadDram contents _ ih => exact ih
  | pushInput _ hinput ih =>
      obtain ⟨bus, calls, hwith, hboard⟩ := pushInput_eq hinput
      rw [hboard]
      obtain ⟨hclint, hcalls⟩ := SystemBus.withUart_clint hwith
      exact timerLine_external hclint hcalls ih

end Steps

theorem due_new {config : Config} {board : Board}
    (h : new config = some board) : board.mtip = false ∧ board.Due := by
  obtain ⟨_, _, _, hboard⟩ := new_eq h
  have hclear : Interrupts.new.mip.getLsbD
      Interrupt.machineTimerInterrupt.toNat = false := by decide
  have hdue : Clint.new.mtimecmp ≤ Clint.new.mtime := by decide
  rw [hboard]
  exact ⟨hclear, hdue⟩

/-- A line that agrees with the timer goes on agreeing with it, whatever the
guest does.  It is the start that this needs and that a new board does not
have. -/
theorem mtip_iff_of_agrees [Build] {s t : Board} (hrun : Run s t)
    (h : s.mtip = true ↔ s.Due) : t.mtip = true ↔ t.Due := by
  rw [← needsInterrupt_iff, ← Bool.eq_iff_iff] at h
  have heq : t.mtip = t.bus.clint.needsInterrupt :=
    timerLine_run edgewise_eq hrun h
  rw [heq]
  exact needsInterrupt_iff t

end Board

end RedPlanet
