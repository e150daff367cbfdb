import RedPlanet.Board.Board
import RedPlanet.Core.Lines
import RedPlanet.Resources.PlicRun

/-!
# The external interrupt line

The PLIC compares before and after each of its operations whether a source
asks for an interrupt, and signals the edge.  As nobody else writes MEIP, the
bit shows the condition in every state.

`Signals` is what an operation of the PLIC does to its condition and to the
line, `ExternalLine` the relation between MEIP and the condition, and `Exact`
the same of a board.  Every access keeps it, and the step of the core keeps it
because it leaves the bit alone (`Core.Lines`), so that it holds along every
run (`exact_of_run`).
-/

namespace RedPlanet

open RedPlanet.Core RedPlanet.Resources RedPlanet.Verified Discipline

/-! ## The calls of the PLIC -/

namespace Resources.Plic

/-- What a call of the PLIC does: the calls tell the edge of the condition,
and source 0 keeps its priority. -/
structure Signals (before after : Plic) (calls : List Callback) : Prop where
  calls : calls = edge before.needsInterrupt after.needsInterrupt
  reserved : before.Reserved → after.Reserved

/-- An operation that changes nothing signals nothing. -/
theorem signals_self (plic : Plic) : Signals plic plic [] where
  calls := by cases plic.needsInterrupt <;> rfl
  reserved := id

/-- The calls are the edge of the condition. -/
theorem edge_of_update {R : Type} {op : Plic → Option (R × Plic)}
    {plic plic' : Plic} {res : R} {calls : List Callback}
    (h : plic.update op = some (res, plic', calls)) :
    calls = edge plic.needsInterrupt plic'.needsInterrupt := by
  unfold update at h
  dsimp only at h
  rw [Option.map_eq_some_iff] at h
  obtain ⟨⟨res', after⟩, _, hresult⟩ := h
  cases hresult
  rfl

/-- Every operation on the sources and contexts. -/
theorem signals_apply (op : Operation) {plic plic' : Plic}
    {calls : List Callback} (h : op.apply plic = some (plic', calls)) :
    Signals plic plic' calls where
  reserved := reserved_apply h
  calls := by
    cases op with
    | raise i =>
        simp only [Operation.apply, raise, Option.map_eq_some_iff] at h
        obtain ⟨⟨_, after, calls'⟩, hupdate, hresult⟩ := h
        cases hresult
        exact edge_of_update hupdate
    | lower i =>
        cases h
        exact (signals_self plic).calls
    | readU32 address =>
        simp only [Operation.apply, Option.map_eq_some_iff] at h
        obtain ⟨⟨value, after, calls'⟩, hread, hresult⟩ := h
        cases hresult
        by_cases haddress :
            AddrAccessor.fromAddress address.toNat = some .claimComplete
        · simp only [readU32, haddress] at hread
          exact edge_of_update hread
        · rcases readU32_cases hread with ⟨hclaim, _⟩ | ⟨_, hsame, hnone⟩
          · exact absurd hclaim haddress
          · rw [hsame, hnone]
            exact (signals_self plic).calls
    | writeU32 address value =>
        simp only [Operation.apply, writeU32] at h
        cases hacc : AddrAccessor.fromAddress address.toNat with
        | none =>
            simp only [hacc] at h
            cases h
            exact (signals_self plic).calls
        | some accessor =>
            simp only [hacc, Option.map_eq_some_iff] at h
            obtain ⟨⟨_, after, calls'⟩, hupdate, hresult⟩ := h
            cases hresult
            exact edge_of_update hupdate
    | reset =>
        simp only [Operation.apply, reset, Option.map_eq_some_iff] at h
        obtain ⟨⟨_, after, calls'⟩, hupdate, hresult⟩ := h
        cases hresult
        exact edge_of_update hupdate

/-- A read claims an interrupt, or just reads. -/
theorem signals_read {address : BitVec 32} {buf buf' : List (BitVec 8)}
    {plic plic' : Plic} {calls : List Callback}
    (h : plic.read address buf = some (buf', plic', calls)) :
    Signals plic plic' calls := by
  unfold read at h
  split at h
  · cases h
    exact signals_self plic
  · split at h
    · rw [Option.map_eq_some_iff] at h
      obtain ⟨⟨value, after, calls'⟩, hread, hresult⟩ := h
      cases hresult
      apply signals_apply (.readU32 address)
      simp only [Operation.apply, hread, Option.map_some]
    · cases h
      exact signals_self plic

/-- A write completes an interrupt, or sets a register. -/
theorem signals_write {address : BitVec 32} {buf : List (BitVec 8)}
    {plic plic' : Plic} {calls : List Callback}
    (h : plic.write address buf = some (plic', calls)) :
    Signals plic plic' calls := by
  unfold write at h
  split at h
  · cases h
    exact signals_self plic
  · split at h
    · exact signals_apply (.writeU32 address (ofLeBytes 32 buf)) h
    · cases h
      exact signals_self plic

end Resources.Plic

namespace Board

/-! ## The line -/

/-- The bit of the external interrupt in mip. -/
def meip (board : Board) : Bool :=
  board.interrupts.mip.getLsbD Interrupt.machineExternalInterrupt.toNat

/-- MEIP shows whether the PLIC needs an interrupt. -/
structure ExternalLine (interrupts : Interrupts) (plic : Plic) : Prop where
  line : interrupts.mip.getLsbD Interrupt.machineExternalInterrupt.toNat
    = plic.needsInterrupt
  reserved : plic.Reserved

/-- The line follows the condition through an operation. -/
theorem externalLine_signals {interrupts : Interrupts} {plic plic' : Plic}
    {calls : List Callback} (h : ExternalLine interrupts plic)
    (hsignals : Plic.Signals plic plic' calls) :
    ExternalLine
      (Interrupts.deliverAll (SystemBus.plicCalls calls) interrupts)
      plic' where
  line := by
    have hexternal : Interrupt.machineExternalInterrupt.Line := True.intro
    have hmip := Interrupts.mip_deliverAll_edge hexternal
      plic.needsInterrupt plic'.needsInterrupt interrupts
    have hdrive := edgewise_eq _ _ plic'.needsInterrupt h.line
    unfold SystemBus.plicCalls
    rw [hsignals.calls, hmip]
    exact hdrive
  reserved := hsignals.reserved h.reserved

/-! ## Bus accesses and the PLIC -/

/-- Without calls nothing changes. -/
theorem externalLine_nil {interrupts : Interrupts} {plic : Plic}
    (h : ExternalLine interrupts plic) :
    ExternalLine (Interrupts.deliverAll [] interrupts) plic := h

/-- The UART raises its source at the PLIC, one call after the other. -/
theorem externalLine_forwardUart {callbacks : List Callback}
    {interrupts : Interrupts} {plic plic' : Plic} {calls : List Callback}
    (h : SystemBus.forwardUart callbacks plic = some (plic', calls))
    (hline : ExternalLine interrupts plic) :
    ExternalLine
      (Interrupts.deliverAll (SystemBus.plicCalls calls) interrupts)
      plic' := by
  induction callbacks generalizing interrupts plic calls with
  | nil =>
      cases h
      exact hline
  | cons callback rest ih =>
      unfold SystemBus.forwardUart at h
      simp only [Option.bind_eq_bind, Option.bind_eq_some_iff,
        Option.pure_def, Option.some.injEq, Prod.mk.injEq] at h
      obtain ⟨⟨middle, first⟩, hfirst, ⟨last, more⟩, hmore, rfl, rfl⟩ := h
      have hsignals : Plic.Signals plic middle first := by
        cases callback with
        | raise =>
            exact Plic.signals_apply (.raise SystemBus.UART0_IRQ) hfirst
        | lower =>
            exact Plic.signals_apply (.lower SystemBus.UART0_IRQ) hfirst
      have hrest := ih hmore (externalLine_signals hline hsignals)
      have happend : SystemBus.plicCalls (first ++ more)
          = SystemBus.plicCalls first ++ SystemBus.plicCalls more :=
        List.map_append
      rw [happend]
      unfold Interrupts.deliverAll at hrest ⊢
      rw [List.foldl_append]
      exact hrest

/-- The UART raises and lowers its source at the PLIC. -/
theorem externalLine_withUart {uart0 : Uart} {callbacks : List Callback}
    {bus bus' : SystemBus} {calls : List IrqCall} {interrupts : Interrupts}
    (h : bus.withUart uart0 callbacks = some (bus', calls))
    (hline : ExternalLine interrupts bus.plic) :
    ExternalLine (Interrupts.deliverAll calls interrupts) bus'.plic := by
  unfold SystemBus.withUart at h
  rw [Option.map_eq_some_iff] at h
  obtain ⟨⟨plic, callbacks'⟩, hforward, hresult⟩ := h
  cases hresult
  exact externalLine_forwardUart hforward hline

/-- A read of the bus, at whatever device. -/
theorem externalLine_read [Build] {address : BitVec 32}
    {buf buf' : List (BitVec 8)} {bus bus' : SystemBus}
    {calls : List IrqCall} {interrupts : Interrupts}
    (h : bus.read address buf = some (buf', bus', calls))
    (hline : ExternalLine interrupts bus.plic) :
    ExternalLine (Interrupts.deliverAll calls interrupts) bus'.plic := by
  cases SystemBus.read_cases h with
  | unchanged => exact externalLine_nil hline
  | plic _ hread => exact externalLine_signals hline (Plic.signals_read hread)
  | uart0 _ _ hforward => exact externalLine_withUart hforward hline

/-- Calls of the CLINT do not touch the line. -/
theorem externalLine_timer {interrupts : Interrupts} {plic : Plic}
    (calls : List Callback) (h : ExternalLine interrupts plic) :
    ExternalLine
      (Interrupts.deliverAll
        (calls.map (IrqCall.of .machineTimerInterrupt)) interrupts)
      plic where
  line := by
    have hne : ∀ call ∈ calls.map (IrqCall.of .machineTimerInterrupt),
        call.code.toNat ≠ Interrupt.machineExternalInterrupt.toNat := by
      intro call hcall
      obtain ⟨callback, _, hcallback⟩ := List.mem_map.1 hcall
      rw [← hcallback, IrqCall.code_of]
      decide
    rw [Interrupts.mip_deliverAll_ne _ hne]
    exact h.line
  reserved := h.reserved

/-- A write to the bus, at whatever device. -/
theorem externalLine_write {address : BitVec 32} {buf : List (BitVec 8)}
    {bus bus' : SystemBus} {calls : List IrqCall} {interrupts : Interrupts}
    (h : bus.write address buf = some (bus', calls))
    (hline : ExternalLine interrupts bus.plic) :
    ExternalLine (Interrupts.deliverAll calls interrupts) bus'.plic := by
  cases SystemBus.write_cases h with
  | unchanged => exact externalLine_nil hline
  | clint _ => exact externalLine_timer _ hline
  | plic _ hwrite => exact externalLine_signals hline (Plic.signals_write hwrite)
  | uart0 _ _ hforward => exact externalLine_withUart hforward hline
  | dram _ _ => exact externalLine_nil hline
  | powerDown _ =>
      have hplic : (SystemBus.writePowerDown buf bus).plic = bus.plic := by
        unfold SystemBus.writePowerDown
        split <;> rfl
      rw [hplic]
      exact externalLine_nil hline

/-! ## Runs -/

/-- The line of the board. -/
def Exact (board : Board) : Prop :=
  ExternalLine board.interrupts board.bus.plic

/-- Neither the bus nor the line changes. -/
theorem exact_of_lineFrame {s t : Board} (hframe : LineFrame s t)
    (h : Exact s) : Exact t where
  line := by
    rw [hframe.mip .machineExternalInterrupt True.intro, hframe.bus]
    exact h.line
  reserved := hframe.bus ▸ h.reserved

/-- The operation on the PLIC of the board, with its callback. -/
def plicOp (op : Plic.Operation) (board : Board) : Option Board :=
  (op.apply board.bus.plic).map fun (plic, calls) =>
    { board with bus := { board.bus with plic := plic } }.onInterrupts
      (Interrupts.deliverAll (SystemBus.plicCalls calls))

section Steps

variable [Build]

/-- The parts of a step of the core. -/
theorem steps_exact : Steps (preserving Exact) := by
  apply steps_lines exact_of_lineFrame
  apply accesses_preserving
  · intro s event hs
    exact hs
  · intro s address buf buf' bus calls hread hs
    exact externalLine_read hread hs
  · intro s address buf bus calls _ hwrite hs
    exact externalLine_write hwrite hs

/-- The tick of the CLINT before it is about another line. -/
theorem exact_step {board : Board} (h : Exact board) :
    Exact (step board).state :=
  preserves_step steps_exact (fun _ hs => hs)
    (fun _ hs => externalLine_timer _ hs) h

/-- What becomes of a board by operations on its PLIC, CSR writes at any
privilege level, and whole steps of the board, in any order. -/
inductive PlicRun (start : Board) : Board → Prop where
  | start : PlicRun start start
  | plic {s t : Board} {op : Plic.Operation} (h : PlicRun start s)
      (hop : s.plicOp op = some t) : PlicRun start t
  | writeCsr {s : Board} (specifier : CsrSpecifier) (level : PrivilegeLevel)
      (value mask : BitVec 32) (h : PlicRun start s) :
      PlicRun start (writeCsr specifier level value mask s).state
  | step {s : Board} (h : PlicRun start s) : PlicRun start (step s).state
  | pushInput {s t : Board} {input : List (BitVec 8)} (h : PlicRun start s)
      (hinput : s.pushInput input = some t) : PlicRun start t

/-- Every run keeps the line exact, by induction. -/
theorem exact_of_run {s t : Board} (hrun : PlicRun s t) (h : Exact s) :
    Exact t := by
  induction hrun with
  | start => exact h
  | plic _ hop ih =>
      unfold plicOp at hop
      rw [Option.map_eq_some_iff] at hop
      obtain ⟨⟨plic, calls⟩, happly, hboard⟩ := hop
      rw [← hboard]
      exact externalLine_signals ih (Plic.signals_apply _ happly)
  | writeCsr specifier level value mask _ ih =>
      exact exact_of_lineFrame (lineFrame_writeCsr specifier level value mask _)
        ih
  | step _ ih => exact exact_step ih
  | pushInput _ hinput ih =>
      obtain ⟨bus, calls, hwith, hboard⟩ := pushInput_eq hinput
      rw [hboard]
      exact externalLine_withUart hwith ih

/-- From a fresh core with a fresh PLIC on, MEIP is set if and only if some
source asks for an interrupt. -/
theorem meip_iff_of_run (config : Core.Config) (bus : SystemBus)
    (hfresh : bus.plic = Plic.new) {t : Board}
    (hrun : PlicRun (State.new config bus) t) :
    t.meip = true ↔
      ∃ index, 1 ≤ index ∧ index ≤ 52 ∧ Plic.Asserts index t.bus.plic := by
  have hexact : Exact (State.new config bus) := by
    have hline : Interrupts.new.mip.getLsbD
        Interrupt.machineExternalInterrupt.toNat = Plic.new.needsInterrupt := by
      decide
    constructor
    · show Interrupts.new.mip.getLsbD _ = bus.plic.needsInterrupt
      rw [hfresh]
      exact hline
    · show bus.plic.Reserved
      rw [hfresh]
      rfl
  have hrunExact := exact_of_run hrun hexact
  rw [← Plic.needsInterrupt_iff hrunExact.reserved]
  exact Bool.eq_iff_iff.1 hrunExact.line

end Steps

/-- The board of the reset vector, and a guest that enables source 40. -/
theorem meip_iff_of_run_guest :
    ∃ t : Board,
      @PlicRun Build.debug (State.new coreConfig guestBoard.bus) t ∧
      t.meip = true ∧
      ∃ index, 1 ≤ index ∧ index ≤ 52 ∧ Plic.Asserts index t.bus.plic := by
  have hset : ((plicOp (.writeU32 0x2B 1)
        (State.new coreConfig guestBoard.bus)).bind fun s =>
      (s.plicOp (.writeU32 0x2001 0xFFFFFFFF)).bind fun s =>
        s.plicOp (.raise 40)).any (fun t => t.meip) = true := by
    decide +kernel
  rw [Option.any_eq_true] at hset
  obtain ⟨t, ht, hmeip⟩ := hset
  simp only [Option.bind_eq_some_iff] at ht
  obtain ⟨s, hpriority, s', henable, hraise⟩ := ht
  have hrun : @PlicRun Build.debug (State.new coreConfig guestBoard.bus) t :=
    @PlicRun.plic Build.debug _ _ _ _
      (@PlicRun.plic Build.debug _ _ _ _
        (@PlicRun.plic Build.debug _ _ _ _ (@PlicRun.start Build.debug _)
          hpriority) henable) hraise
  have hfresh : guestBoard.bus.plic = Plic.new := by decide +kernel
  exact ⟨t, hrun, hmeip,
    (@meip_iff_of_run Build.debug coreConfig guestBoard.bus hfresh t hrun).1
      hmeip⟩

end Board

end RedPlanet
