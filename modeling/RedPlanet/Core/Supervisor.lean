import RedPlanet.Core.Levels

/-!
# Supervisor code and machine-level state

`machineState` collects what only M-level CSRs expose.  In S-mode the checks
let writes through to supervisor registers only, and each of these writes a
register of its own or a masked view of a machine register that leaves the
machine-level part alone.

The exception is SENVCFG, which the dispatch sends to menvcfg.  So an
instruction in S-mode leaves the machine-level state alone iff it does not
write new bits to SENVCFG (`machineState_executeInstruction_iff`), and
`senvcfg_writes_menvcfg` is one that does.
-/

namespace RedPlanet.Core

open RedPlanet.Verified Discipline

variable {β : Type}

/-! ## Machine-level state -/

/-- The state that only M-level CSRs expose, as they expose it. -/
structure MachineState where
  mtvec : BitVec 32 × VectorMode
  mscratch : BitVec 32
  mepc : BitVec 32
  mcause : BitVec 32
  mtval : BitVec 32
  mtval2 : BitVec 32
  mtinst : BitVec 32
  medeleg : BitVec 32
  mideleg : BitVec 16
  /-- The bits of mie that mideleg does not delegate. -/
  mie : BitVec 16
  mcounteren : BitVec 32
  mcountinhibit : BitVec 32
  mcycle : BitVec 32 × BitVec 32
  minstret : BitVec 32 × BitVec 32
  menvcfg : BitVec 32
  menvcfgh : BitVec 32
  mstatush : BitVec 32
  mstatusMie : Bool
  mstatusMpie : Bool
  mstatusMpp : BitVec 2
  mstatusTvm : Bool
  mstatusTw : Bool
  mstatusTsr : Bool
deriving DecidableEq, Repr

/-- The machine-level part of each register of the core. -/
def State.machineState (s : State β) : MachineState where
  mtvec := (s.trap.mVectorBaseAddress, s.trap.mVectorMode)
  mscratch := s.trap.mscratch
  mepc := s.trap.mepc
  mcause := s.trap.readMcause
  mtval := s.trap.mtval
  mtval2 := s.trap.mtval2
  mtinst := s.trap.mtinst
  medeleg := s.trap.delegateException
  mideleg := s.interrupts.delegate
  mie := s.interrupts.mie &&& ~~~s.interrupts.delegate
  mcounteren := s.counterControl.mcounteren
  mcountinhibit := s.counterControl.mcountinhibit
  mcycle := (s.counters.mcycle, s.counters.mcycleh)
  minstret := (s.counters.minstret, s.counters.minstreth)
  menvcfg := s.envcfg.menvcfg
  menvcfgh := s.envcfg.menvcfgh
  mstatush := s.status.mstatush
  mstatusMie := s.status.mie
  mstatusMpie := s.status.mpie
  mstatusMpp := loadU2 s.status.mstatus idx.MPP
  mstatusTvm := s.status.tvm
  mstatusTw := s.status.tw
  mstatusTsr := s.status.tsr

/-- Memory instructions write no CSR at all. -/
theorem MemFrame.machineState_eq [SystemBus β] {K : BusContract β}
    {s t : State β} (h : MemFrame K s t) :
    t.machineState = s.machineState := by
  unfold State.machineState
  rw [h.trap, h.counters, h.counterControl, h.envcfg, h.status,
    h.interrupts.delegate, h.interrupts.mie]

/-- Two status words that agree on the machine-level fields. -/
structure Status.SameMachineFields (before after : Status) : Prop where
  mstatush : after.mstatush = before.mstatush
  mie : after.mie = before.mie
  mpie : after.mpie = before.mpie
  mpp : loadU2 after.mstatus idx.MPP = loadU2 before.mstatus idx.MPP
  tvm : after.tvm = before.tvm
  tw : after.tw = before.tw
  tsr : after.tsr = before.tsr

/-- Of the status only the machine-level fields count. -/
theorem machineState_onStatus {f : Status → Status} {s : State β}
    (h : Status.SameMachineFields s.status (f s.status)) :
    (s.onStatus f).machineState = s.machineState := by
  unfold State.machineState State.onStatus
  rw [h.mstatush, h.mie, h.mpie, h.mpp, h.tvm, h.tw, h.tsr]

/-- The mask of sstatus selects none of these fields. -/
theorem Status.sameMachineFields_writeSstatus (value mask : BitVec 32)
    (status : Status) :
    SameMachineFields status (writeSstatus value mask status) where
  mstatush := mstatush_writeMstatus _ _ _
  mie := bit_writeSstatus (by decide)
  mpie := bit_writeSstatus (by decide)
  mpp := loadU2_congr (bit_writeSstatus (by decide))
    (bit_writeSstatus (by decide))
  tvm := bit_writeSstatus (by decide)
  tw := bit_writeSstatus (by decide)
  tsr := bit_writeSstatus (by decide)

/-- A setter that touches none of the machine-level fields. -/
theorem Status.sameMachineFields_of_touches {bits : List Nat}
    {set : Status → Status} (h : Touches bits set)
    (hout : ∀ i ∈ [idx.MIE, idx.MPIE, idx.MPP, idx.MPP + 1, idx.TVM, idx.TW,
      idx.TSR], i ∉ bits) (status : Status) :
    SameMachineFields status (set status) where
  mstatush := (h status).1
  mie := bit_of_touches h (hout _ (by decide)) status
  mpie := bit_of_touches h (hout _ (by decide)) status
  mpp := loadU2_congr (bit_of_touches h (hout _ (by decide)) status)
    (bit_of_touches h (hout _ (by decide)) status)
  tvm := bit_of_touches h (hout _ (by decide)) status
  tw := bit_of_touches h (hout _ (by decide)) status
  tsr := bit_of_touches h (hout _ (by decide)) status

/-- Of the interrupt registers mideleg counts, and the bits of mie that are
not delegated. -/
theorem machineState_onInterrupts {f : Interrupts → Interrupts} {s : State β}
    (hdelegate : (f s.interrupts).delegate = s.interrupts.delegate)
    (hmie : (f s.interrupts).mie &&& ~~~s.interrupts.delegate
      = s.interrupts.mie &&& ~~~s.interrupts.delegate) :
    (s.onInterrupts f).machineState = s.machineState := by
  calc (s.onInterrupts f).machineState
      = { s.machineState with
          mideleg := (f s.interrupts).delegate
          mie := (f s.interrupts).mie &&& ~~~(f s.interrupts).delegate } := rfl
    _ = s.machineState := by
        rw [hdelegate, hmie]
        rfl

/-- The undelegated bits of mie cannot be written through sie. -/
theorem machineState_writeSie (value mask : BitVec 32) (s : State β) :
    (s.onInterrupts (Interrupts.writeSie value mask)).machineState
      = s.machineState := by
  apply machineState_onInterrupts rfl
  apply BitVec.eq_of_getLsbD_eq
  intro i hi
  unfold Interrupts.writeSie
  rw [BitVec.getLsbD_and, BitVec.getLsbD_and, getLsbD_merge,
    BitVec.getLsbD_and, BitVec.getLsbD_not]
  cases s.interrupts.delegate.getLsbD i <;> simp [hi]

/-- The pending bits are not part of it, since devices write them as well. -/
theorem machineState_writeSip (value mask : BitVec 32) (s : State β) :
    (s.onInterrupts (Interrupts.writeSip value mask)).machineState
      = s.machineState := by
  by_cases h :
      mask.getLsbD Interrupt.supervisorSoftwareInterrupt.toNat = true
  · apply machineState_onInterrupts <;>
      (unfold Interrupts.writeSip; rw [if_pos h]; rfl)
  · apply machineState_onInterrupts <;>
      (unfold Interrupts.writeSip; rw [if_neg h])

/-- stvec is a register of its own. -/
theorem machineState_putStvec (value mask : BitVec 32) (s : State β) :
    ((putTvec (Trap.writeStvec value mask) : CoreM β CsrWriteError Unit)
      s).state.machineState = s.machineState := by
  unfold putTvec Trap.writeStvec
  rw [Exec.get_bind]
  cases writeTvec s.trap.sVectorBaseAddress s.trap.sVectorMode value mask with
  | none => rfl
  | some tvec => rfl

theorem machineState_writeSatp (value mask : BitVec 32) (s : State β) :
    (writeSatp value mask s).state.machineState = s.machineState := by
  unfold writeSatp
  rw [Exec.get_bind]
  cases s.status.tvm with
  | true => rfl
  | false => rfl

/-! ## CSR writes in S-mode -/

/-- The specifier `csr::SENVCFG`. -/
def SENVCFG : CsrSpecifier := 0x10A

/-- Only one number in the table is that of SENVCFG. -/
theorem csrTable_senvcfg : ∀ range ∈ csrTable,
    ∀ offset ≤ range.last - range.first, range.csr offset = .senvcfg →
      BitVec.ofNat 16 (range.first + offset) = SENVCFG := by
  decide +kernel

/-- So the dispatch gets there by this number only. -/
theorem ofSpecifier_eq_senvcfg {specifier : CsrSpecifier}
    (h : Csr.ofSpecifier specifier = some .senvcfg) : specifier = SENVCFG := by
  have hentry := Csr.ofSpecifier_entry h
  obtain ⟨range, hmem, offset, hle, hcsr, hspec⟩ := hentry
  rw [hspec]
  exact csrTable_senvcfg range hmem offset hle hcsr

/-- The dispatch at supervisor level, but for SENVCFG: the unprivileged
registers are unsupported or read-only. -/
theorem machineState_writeCsrOf [SystemBus β] {csr : Csr}
    (specifier : CsrSpecifier) (value mask : BitVec 32)
    (hlevel : csr.level.toNat ≤ PrivilegeLevel.supervisor.toNat)
    (hcsr : csr ≠ .senvcfg) (s : State β) :
    (writeCsrOf specifier value mask csr s).state.machineState
      = s.machineState := by
  cases csr with
  | sstatus =>
      exact machineState_onStatus (Status.sameMachineFields_writeSstatus _ _ _)
  | sie => exact machineState_writeSie value mask s
  | sip => exact machineState_writeSip value mask s
  | stvec => exact machineState_putStvec value mask s
  | satp => exact machineState_writeSatp value mask s
  | senvcfg => exact absurd rfl hcsr
  | _ =>
      first
        | rfl
        | exact absurd hlevel (show ¬ 3 ≤ 1 by decide)

/-- The checks and the dispatch together. -/
theorem machineState_writeCsr [SystemBus β] {specifier : CsrSpecifier}
    (value mask : BitVec 32) (h : specifier ≠ SENVCFG) (s : State β) :
    (writeCsr specifier .supervisor value mask s).state.machineState
      = s.machineState := by
  cases writeCsr_cases specifier .supervisor value mask (β := β) with
  | inl hthrow =>
      obtain ⟨e, he⟩ := hthrow
      rw [he]
      rfl
  | inr harm =>
      obtain ⟨csr, hspec, hlevel, _, _, harm⟩ := harm
      have hcsr : csr ≠ .senvcfg := by
        intro hcsr
        rw [hcsr] at hspec
        exact h (ofSpecifier_eq_senvcfg hspec)
      rw [harm]
      exact machineState_writeCsrOf specifier value mask hlevel hcsr s

/-- `sret` changes none of the machine-level fields of the status. -/
theorem machineState_sret (s : State β) :
    ((sret : CoreM β _ _) s).state.machineState = s.machineState := by
  cases sret_cases s with
  | inl hthrow =>
      rw [hthrow]
      rfl
  | inr hreturn =>
      rw [hreturn.2]
      show ((s.onStatus (leaveStatus s.status.spp sretStatus))).machineState
        = s.machineState
      apply machineState_onStatus
      exact Status.sameMachineFields_of_touches
        (touches_leaveStatus _ touches_sretStatus) (by decide) _

section Instructions

variable [SystemBus β]

/-- Instructions that write no CSR leave all of it alone. -/
theorem executes_machineState [Build] :
    Executes (keeping (State.machineState (β := β))) := by
  apply (executes_memory (K := BusContract.trivial)).imp
  · intro s hinv
    exact hinv.elim
  · intro s hinv
    exact hinv.elim
  · intro ε α m hm
    exact hm.keeping fun _ _ hframe => hframe.machineState_eq

/-- A CSR instruction at supervisor level that does not write SENVCFG. -/
theorem machineState_csrOpAt [Build] (config : Config) (op : CsrOp)
    (dest : Specifier) (csr : CsrSpecifier) (srcValue : Option (BitVec 32))
    (h : csr = SENVCFG → srcValue = none) (s : State β) :
    (csrOpAt config .supervisor op dest csr srcValue s).state.machineState
      = s.machineState := by
  have htame : (keeping State.machineState).Tame
      (csrOpAt config .supervisor op dest csr srcValue : CoreM β _ _) := by
    apply (executes_machineState.moves config).tame_csrOpAt
    intro src hsrc
    apply tame_keeping
    intro t
    apply machineState_writeCsr
    intro hcsr
    rw [h hcsr] at hsrc
    exact nomatch hsrc
  exact htame.step s

/-! ## SENVCFG -/

/-- Writing SENVCFG writes menvcfg. -/
theorem machineState_csrOpAt_SENVCFG (config : Config) (op : CsrOp)
    (dest : Specifier) (src : BitVec 32) (s : State β) :
    (csrOpAt config .supervisor op dest SENVCFG (some src)
        s).state.machineState
      = { s.machineState with
          menvcfg := merge s.envcfg.menvcfg (csrOperand op src).1
            (csrOperand op src).2 } := by
  unfold csrOpAt
  by_cases hread : op ≠ .readWrite ∨ dest ≠ 0
  · rw [if_pos hread]
    rfl
  · rw [if_neg hread]
    rfl

variable [Build]

/-- The value and the mask that an instruction writes to SENVCFG, if it
does. -/
def senvcfgWrite (s : State β) (instruction : Instruction) :
    Option (BitVec 32 × BitVec 32) :=
  match instruction with
  | .csr op _ csr _ | .csri op _ csr _ =>
      if csr = SENVCFG then (csrSource s instruction).map (csrOperand op)
      else none
  | _ => none

/-- A CSR instruction at supervisor level leaves the machine-level state alone
iff it does not write new bits to SENVCFG. -/
theorem machineState_csrOpAt_iff (config : Config) (op : CsrOp)
    (dest : Specifier) (csr : CsrSpecifier) (srcValue : Option (BitVec 32))
    (s : State β) :
    (csrOpAt config .supervisor op dest csr srcValue s).state.machineState
        = s.machineState ↔
      ∀ write,
        (if csr = SENVCFG then srcValue.map (csrOperand op) else none)
            = some write →
          (write.1 ^^^ s.envcfg.menvcfg) &&& write.2 = 0 := by
  by_cases hcsr : csr = SENVCFG
  · rw [if_pos hcsr, hcsr]
    cases srcValue with
    | none =>
        constructor
        · intro _ write hwrite
          exact nomatch hwrite
        · intro _
          exact machineState_csrOpAt config op dest SENVCFG none
            (fun _ => rfl) s
    | some src =>
        rw [machineState_csrOpAt_SENVCFG]
        constructor
        · intro hsame write hwrite
          have hmenvcfg := congrArg MachineState.menvcfg hsame
          rw [← Option.some.inj hwrite]
          exact (merge_eq_self_iff _ _ _).1 hmenvcfg
        · intro hbits
          rw [(merge_eq_self_iff _ _ _).2 (hbits (csrOperand op src) rfl)]
          rfl
  · rw [if_neg hcsr]
    constructor
    · intro _ write hwrite
      exact nomatch hwrite
    · intro _
      exact machineState_csrOpAt config op dest csr srcValue
        (fun h => absurd h hcsr) s

/-! ## Every instruction -/

/-- In S-mode an instruction leaves the machine-level state alone iff it does
not write new bits to SENVCFG. -/
theorem machineState_executeInstruction_iff (config : Config)
    (instruction : Instruction) {s : State β}
    (h : s.privilegeMode = .supervisor) :
    (executeInstruction config instruction s).state.machineState
        = s.machineState ↔
      ∀ write, senvcfgWrite s instruction = some write →
        (write.1 ^^^ s.envcfg.menvcfg) &&& write.2 = 0 := by
  cases instruction with
  | csr op dest csr src =>
      rw [executeInstruction_csr, h]
      exact machineState_csrOpAt_iff config op dest csr _ s
  | csri op dest csr immediate =>
      rw [executeInstruction_csri, h]
      exact machineState_csrOpAt_iff config op dest csr _ s
  | sret =>
      rw [executeInstruction_sret]
      exact iff_of_true (machineState_sret s) fun _ hwrite => nomatch hwrite
  | mret =>
      cases mret_cases s with
      | inl hthrow =>
          rw [executeInstruction_mret, hthrow]
          exact iff_of_true rfl fun _ hwrite => nomatch hwrite
      | inr hreturn =>
          rw [h] at hreturn
          exact absurd hreturn.1 (by decide)
  | _ =>
      apply iff_of_true
      · apply MemFrame.machineState_eq (K := BusContract.trivial)
        apply frame_executeInstruction config
        exact not_false
      · intro _ hwrite
        exact nomatch hwrite

end Instructions

/-! ## One core -/

/-- A fresh core that has entered S-mode. -/
def supervisorCore : State NoDevices :=
  (State.new NoDevices.config .unit).setPrivilegeMode .supervisor

/-- `csrrsi x5, senvcfg, 0` in S-mode, which writes nothing. -/
theorem machineState_executeInstruction_iff_core :
    (@executeInstruction NoDevices _ Build.debug NoDevices.config
        (.csri .readSet 5 SENVCFG 0) supervisorCore).state.machineState
        = supervisorCore.machineState ↔
      ∀ write, senvcfgWrite supervisorCore (.csri .readSet 5 SENVCFG 0)
        = some write →
          (write.1 ^^^ supervisorCore.envcfg.menvcfg) &&& write.2 = 0 :=
  @machineState_executeInstruction_iff NoDevices _ Build.debug
    NoDevices.config (.csri .readSet 5 SENVCFG 0) supervisorCore rfl

/-- `csrrwi x0, senvcfg, 1` sets a bit of menvcfg. -/
theorem senvcfg_writes_menvcfg :
    (@executeInstruction NoDevices _ Build.debug NoDevices.config
        (.csri .readWrite 0 SENVCFG 1) supervisorCore).state.machineState
      ≠ supervisorCore.machineState := by
  decide +kernel

end RedPlanet.Core
