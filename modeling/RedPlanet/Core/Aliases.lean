import RedPlanet.Core.Illegal
import RedPlanet.Core.Views
import RedPlanet.Verified.Footprint

/-!
# Aliases among the CSRs

Several CSRs show the same piece of state: the supervisor registers show parts
of machine ones, the unprivileged counters are shown through two enable
registers, satp through TVM, and SENVCFG is sent to menvcfg.  The state that
the CSRs show is cut into parts, so that every read has a footprint and every
write one; two registers are aliases where the footprints meet.  No write is
noticed by any other register, and every alias is.
-/

namespace RedPlanet.Core

open RedPlanet.Verified

variable {β ε : Type}

/-! ## The parts -/

/-- What the CSRs show of the state.  `sstatus` is the part of the mstatus
register that the supervisor sees and `mstatus` the rest; every other part is
named like the register that shows it. -/
inductive Part where
  | privilegeMode
  | bus
  | sstatus
  | mstatus
  | mstatush
  | mie
  | mip
  | mideleg
  | medeleg
  | mtvec
  | stvec
  | mscratch
  | sscratch
  | mepc
  | sepc
  | mcause
  | scause
  | mtval
  | mtval2
  | mtinst
  | stval
  | satp
  | mcycle
  | mcycleh
  | minstret
  | minstreth
  | mcounteren
  | scounteren
  | mcountinhibit
  | menvcfg
  | menvcfgh
deriving DecidableEq, Repr

namespace Part

def Value (β : Type) : Part → Type
  | privilegeMode => PrivilegeLevel
  | bus => β
  | mie | mip | mideleg => BitVec 16
  | mtvec | stvec => BitVec 32 × VectorMode
  | _ => BitVec 32

def get : (part : Part) → State β → part.Value β
  | privilegeMode, s => s.privilegeMode
  | bus, s => s.bus
  | sstatus, s => s.status.mstatus &&& SSTATUS_MASK
  | mstatus, s => s.status.mstatus &&& ~~~SSTATUS_MASK
  | mstatush, s => s.status.mstatush
  | mie, s => s.interrupts.mie
  | mip, s => s.interrupts.mip
  | mideleg, s => s.interrupts.delegate
  | medeleg, s => s.trap.delegateException
  | mtvec, s => (s.trap.mVectorBaseAddress, s.trap.mVectorMode)
  | stvec, s => (s.trap.sVectorBaseAddress, s.trap.sVectorMode)
  | mscratch, s => s.trap.mscratch
  | sscratch, s => s.trap.sscratch
  | mepc, s => s.trap.mepc
  | sepc, s => s.trap.sepc
  | mcause, s => s.trap.readMcause
  | scause, s => s.trap.readScause
  | mtval, s => s.trap.mtval
  | mtval2, s => s.trap.mtval2
  | mtinst, s => s.trap.mtinst
  | stval, s => s.trap.stval
  | satp, s => s.trap.satp
  | mcycle, s => s.counters.mcycle
  | mcycleh, s => s.counters.mcycleh
  | minstret, s => s.counters.minstret
  | minstreth, s => s.counters.minstreth
  | mcounteren, s => s.counterControl.mcounteren
  | scounteren, s => s.counterControl.scounteren
  | mcountinhibit, s => s.counterControl.mcountinhibit
  | menvcfg, s => s.envcfg.menvcfg
  | menvcfgh, s => s.envcfg.menvcfgh

/-- The registers whose writes change a part. -/
def writers : Part → List Csr
  | privilegeMode | bus => []
  | sstatus => [.sstatus, .mstatus]
  | mstatus => [.mstatus]
  | mstatush => [.mstatush]
  | mie => [.mie, .sie]
  | mip => [.mip, .sip]
  | mideleg => [.mideleg]
  | medeleg => [.medeleg]
  | mtvec => [.mtvec]
  | stvec => [.stvec]
  | mscratch => [.mscratch]
  | sscratch => [.sscratch]
  | mepc => [.mepc]
  | sepc => [.sepc]
  | mcause => [.mcause]
  | scause => [.scause]
  | mtval => [.mtval]
  | mtval2 => [.mtval2]
  | mtinst => [.mtinst]
  | stval => [.stval]
  | satp => [.satp]
  | mcycle => [.mcycle]
  | mcycleh => [.mcycleh]
  | minstret => [.minstret]
  | minstreth => [.minstreth]
  | mcounteren => [.mcounteren]
  | scounteren => [.scounteren]
  | mcountinhibit => [.mcountinhibit]
  | menvcfg => [.menvcfg, .senvcfg]
  | menvcfgh => [.menvcfgh]

/-- What decides whether an unprivileged counter can be read. -/
def gate : List Part := [privilegeMode, mcounteren, scounteren]

end Part

namespace Csr

/-- The parts that reading a register looks at. -/
def reads : Csr → List Part
  | fflags | frm | fcsr => []
  | cycle => .mcycle :: Part.gate
  | time => .bus :: Part.gate
  | instret => .minstret :: Part.gate
  | hpmcounter _ => Part.gate
  | cycleh => .mcycleh :: Part.gate
  | timeh => .bus :: Part.gate
  | instreth => .minstreth :: Part.gate
  | hpmcounterh _ => Part.gate
  | sstatus => [.sstatus]
  | sie => [.mie, .mideleg]
  | stvec => [.stvec]
  | scounteren => [.scounteren]
  | senvcfg => [.menvcfg]
  | sscratch => [.sscratch]
  | sepc => [.sepc]
  | scause => [.scause]
  | stval => [.stval]
  | sip => [.mip, .mideleg]
  | satp => [.satp, .mstatus]
  | mvendorid | marchid | mimpid | mhartid | mconfigptr => []
  | mstatus => [.sstatus, .mstatus]
  | misa => []
  | medeleg => [.medeleg]
  | mideleg => [.mideleg]
  | mie => [.mie]
  | mtvec => [.mtvec]
  | mcounteren => [.mcounteren]
  | mstatush => [.mstatush]
  | mscratch => [.mscratch]
  | mepc => [.mepc]
  | mcause => [.mcause]
  | mtval => [.mtval]
  | mip => [.mip]
  | mtinst => [.mtinst]
  | mtval2 => [.mtval2]
  | menvcfg => [.menvcfg]
  | menvcfgh => [.menvcfgh]
  | mseccfg | mseccfgh | pmpcfg _ | pmpaddr _ => []
  | mcycle => [.mcycle]
  | minstret => [.minstret]
  | mhpmcounter _ => []
  | mcycleh => [.mcycleh]
  | minstreth => [.minstreth]
  | mhpmcounterh _ => []
  | mcountinhibit => [.mcountinhibit]
  | mhpmevent _ => []
  | tselect | tdata1 | tdata2 | tdata3 | mcontext => []

/-- Writing `csr` changes a part that reading `other` looks at. -/
def Affects (csr other : Csr) : Prop :=
  ∃ part ∈ other.reads, csr ∈ part.writers

instance (csr other : Csr) : Decidable (csr.Affects other) :=
  inferInstanceAs (Decidable (∃ part ∈ other.reads, csr ∈ part.writers))

end Csr

/-! ## The footprint of a read -/

section Reads

variable {s t : State β}

theorem result_view {f : State β → BitVec 32} (h : f s = f t) :
    ((view f : CoreM β ε _) s).result = ((view f : CoreM β ε _) t).result :=
  congrArg (fun value => some (Except.ok value)) h

theorem checkAccess_apply (check : Counteren → Bool)
    (specifier : CsrSpecifier) (name : String) (s : State β) :
    (checkAccess check specifier name : CoreM β _ _) s
      = if s.privilegeMode < .supervisor ∧ !check s.counterControl.scounteren
        then .error (.csrUnavailable specifier
          (name ++ " access prohibited by scounteren")) s
        else if s.privilegeMode < .machine ∧ !check s.counterControl.mcounteren
        then .error (.csrUnavailable specifier
          (name ++ " access prohibited by mcounteren")) s
        else .ok () s := by
  unfold checkAccess
  rw [Exec.get_bind]
  split
  · rfl
  · split
    · rfl
    · rfl

/-- An unprivileged counter is let through in both states or in neither. -/
theorem result_gated (h : SameAt Part.get {p | p ∈ Part.gate} s t)
    {check : Counteren → Bool} {specifier : CsrSpecifier} {name : String}
    {m : CoreM β CsrAccessError (BitVec 32)}
    (hm : (m s).result = (m t).result) :
    ((checkAccess check specifier name >>= fun _ => m) s).result
      = ((checkAccess check specifier name >>= fun _ => m) t).result := by
  have hmode : s.privilegeMode = t.privilegeMode :=
    h .privilegeMode (by decide)
  have hmcounteren : s.counterControl.mcounteren
      = t.counterControl.mcounteren := h .mcounteren (by decide)
  have hscounteren : s.counterControl.scounteren
      = t.counterControl.scounteren := h .scounteren (by decide)
  rw [Exec.bind_apply, Exec.bind_apply, checkAccess_apply, checkAccess_apply,
    hmode, hmcounteren, hscounteren]
  by_cases hsupervisor : t.privilegeMode < .supervisor ∧
      !check t.counterControl.scounteren
  · rw [if_pos hsupervisor, if_pos hsupervisor]
    rfl
  · rw [if_neg hsupervisor, if_neg hsupervisor]
    by_cases hmachine : t.privilegeMode < .machine ∧
        !check t.counterControl.mcounteren
    · rw [if_pos hmachine, if_pos hmachine]
      rfl
    · rw [if_neg hmachine, if_neg hmachine]
      exact hm

theorem result_tvec {base : Trap → BitVec 32} {mode : Trap → VectorMode}
    (h : (base s.trap, mode s.trap) = (base t.trap, mode t.trap)) :
    ((viewTvec base mode : CoreM β ε _) s).result
      = ((viewTvec base mode : CoreM β ε _) t).result := by
  obtain ⟨hbase, hmode⟩ := Prod.mk.inj h
  unfold viewTvec
  rw [Exec.get_bind, Exec.get_bind, hbase, hmode]
  cases readTvec (base t.trap) (mode t.trap) with
  | none => rfl
  | some value => rfl

/-- mstatus is made up of what the supervisor sees and the rest. -/
theorem mstatus_eq (h : SameAt Part.get {p | p ∈ Csr.mstatus.reads} s t) :
    s.status.mstatus = t.status.mstatus := by
  have hseen : s.status.mstatus &&& SSTATUS_MASK
      = t.status.mstatus &&& SSTATUS_MASK := h .sstatus (by decide)
  have hrest : s.status.mstatus &&& ~~~SSTATUS_MASK
      = t.status.mstatus &&& ~~~SSTATUS_MASK := h .mstatus (by decide)
  have hsplit : ∀ x : BitVec 32,
      x = x &&& SSTATUS_MASK ||| x &&& ~~~SSTATUS_MASK := by
    intro x
    rw [← BitVec.and_or_distrib_left, BitVec.or_not_self, BitVec.and_allOnes]
  rw [hsplit s.status.mstatus, hseen, hrest, ← hsplit]

theorem tvm_eq (h : s.status.mstatus &&& ~~~SSTATUS_MASK
    = t.status.mstatus &&& ~~~SSTATUS_MASK) :
    s.status.tvm = t.status.tvm := by
  have hbit := congrArg (fun x : BitVec 32 => x.getLsbD idx.TVM) h
  have hin : (~~~SSTATUS_MASK).getLsbD idx.TVM = true := by decide
  simp only [BitVec.getLsbD_and, hin, Bool.and_true] at hbit
  exact hbit

theorem result_satp (h : SameAt Part.get {p | p ∈ Csr.satp.reads} s t) :
    ((readSatp : CoreM β _ _) s).result
      = ((readSatp : CoreM β _ _) t).result := by
  have hsatp : s.trap.satp = t.trap.satp := h .satp (by decide)
  have htvm : s.status.tvm = t.status.tvm := tvm_eq (h .mstatus (by decide))
  unfold readSatp
  rw [Exec.get_bind, Exec.get_bind, hsatp, htvm]
  cases t.status.tvm with
  | true => rfl
  | false => rfl

theorem result_mhpm (n : ℕ) :
    ((readMhpm n : CoreM β ε _) s).result
      = ((readMhpm n : CoreM β ε _) t).result := by
  unfold readMhpm assertNumber
  cases decide (3 ≤ n ∧ n ≤ 31) with
  | true => rfl
  | false => rfl

theorem result_hpmcounter (h : SameAt Part.get {p | p ∈ Part.gate} s t)
    (n : ℕ) :
    ((readHpmcounter n : CoreM β _ _) s).result
      = ((readHpmcounter n : CoreM β _ _) t).result := by
  unfold readHpmcounter assertNumber
  cases decide (3 ≤ n ∧ n ≤ 31) with
  | true => exact result_gated h (result_mhpm n)
  | false => rfl

variable [SystemBus β]

/-- What `readMtime` makes of the bus does not depend on the rest. -/
theorem result_mtime (h : s.bus = t.bus) (config : Config)
    (f : BitVec 64 → BitVec 32) :
    ((readMtime config >>= fun mtime => pure (f mtime) : CoreM β ε _) s).result
      = ((readMtime config >>= fun mtime => pure (f mtime) :
        CoreM β ε _) t).result := by
  have hresult : ∀ u : State β,
      ((readMtime config >>= fun mtime => pure (f mtime) :
        CoreM β ε _) u).result
        = (SystemBus.read config.mtimeAddress (List.replicate 8 0) u.bus).map
            fun reply => .ok (f (ofLeBytes 64 reply.1)) := by
    intro u
    unfold readMtime
    rw [Exec.bind_apply, Exec.bind_apply]
    dsimp only [busRead, State.record]
    cases SystemBus.read config.mtimeAddress (List.replicate 8 0) u.bus with
    | none => rfl
    | some reply => rfl
  rw [hresult, hresult, h]

/-- A read looks at the parts of its footprint only. -/
theorem readCsrOf_readsOnly (config : Config) (specifier : CsrSpecifier)
    (csr : Csr) :
    ReadsOnly Part.get {p | p ∈ csr.reads} fun s : State β =>
      (readCsrOf config specifier csr s).result := by
  intro s t h
  have hgate : Part.gate ⊆ csr.reads →
      SameAt Part.get {p | p ∈ Part.gate} s t :=
    fun hsub p hp => h p (hsub hp)
  cases csr with
  | cycle =>
      exact result_gated (hgate (by decide))
        (result_view (h .mcycle (by decide)))
  | time =>
      have hbus : s.bus = t.bus := h .bus (by decide)
      exact result_gated (hgate (by decide)) (result_mtime hbus config _)
  | instret =>
      exact result_gated (hgate (by decide))
        (result_view (h .minstret (by decide)))
  | hpmcounter n => exact result_hpmcounter h n
  | cycleh =>
      exact result_gated (hgate (by decide))
        (result_view (h .mcycleh (by decide)))
  | timeh =>
      have hbus : s.bus = t.bus := h .bus (by decide)
      exact result_gated (hgate (by decide)) (result_mtime hbus config _)
  | instreth =>
      exact result_gated (hgate (by decide))
        (result_view (h .minstreth (by decide)))
  | hpmcounterh n => exact result_hpmcounter h n
  | sstatus => exact result_view (h .sstatus (by decide))
  | sie =>
      have hmie : s.interrupts.mie = t.interrupts.mie := h .mie (by decide)
      have hmideleg : s.interrupts.delegate = t.interrupts.delegate :=
        h .mideleg (by decide)
      apply result_view
      rw [Interrupts.readSie, Interrupts.readSie, hmie, hmideleg]
  | sip =>
      have hmip : s.interrupts.mip = t.interrupts.mip := h .mip (by decide)
      have hmideleg : s.interrupts.delegate = t.interrupts.delegate :=
        h .mideleg (by decide)
      apply result_view
      rw [Interrupts.readSip, Interrupts.readSip, hmip, hmideleg]
  | mie =>
      exact result_view
        (congrArg (fun x : BitVec 16 => x.setWidth 32) (h .mie (by decide)))
  | mip =>
      exact result_view
        (congrArg (fun x : BitVec 16 => x.setWidth 32) (h .mip (by decide)))
  | mideleg =>
      exact result_view
        (congrArg (fun x : BitVec 16 => x.setWidth 32)
          (h .mideleg (by decide)))
  | stvec => exact result_tvec (h .stvec (by decide))
  | mtvec => exact result_tvec (h .mtvec (by decide))
  | satp => exact result_satp h
  | mstatus => exact result_view (mstatus_eq h)
  | scounteren => exact result_view (h .scounteren (by decide))
  | senvcfg => exact result_view (h .menvcfg (by decide))
  | sscratch => exact result_view (h .sscratch (by decide))
  | sepc => exact result_view (h .sepc (by decide))
  | scause => exact result_view (h .scause (by decide))
  | stval => exact result_view (h .stval (by decide))
  | medeleg => exact result_view (h .medeleg (by decide))
  | mcounteren => exact result_view (h .mcounteren (by decide))
  | mstatush => exact result_view (h .mstatush (by decide))
  | mscratch => exact result_view (h .mscratch (by decide))
  | mepc => exact result_view (h .mepc (by decide))
  | mcause => exact result_view (h .mcause (by decide))
  | mtval => exact result_view (h .mtval (by decide))
  | mtinst => exact result_view (h .mtinst (by decide))
  | mtval2 => exact result_view (h .mtval2 (by decide))
  | menvcfg => exact result_view (h .menvcfg (by decide))
  | menvcfgh => exact result_view (h .menvcfgh (by decide))
  | mcycle => exact result_view (h .mcycle (by decide))
  | mcycleh => exact result_view (h .mcycleh (by decide))
  | minstret => exact result_view (h .minstret (by decide))
  | minstreth => exact result_view (h .minstreth (by decide))
  | mcountinhibit => exact result_view (h .mcountinhibit (by decide))
  | mhpmcounter n => exact result_mhpm n
  | mhpmcounterh n => exact result_mhpm n
  | mhpmevent n => exact result_mhpm n
  | _ => rfl

end Reads

/-! ## The footprint of a write -/

theorem sstatus_writeSstatus (value mask : BitVec 32) (status : Status) :
    (status.writeSstatus value mask).mstatus &&& ~~~SSTATUS_MASK
      = status.mstatus &&& ~~~SSTATUS_MASK := by
  apply BitVec.eq_of_getLsbD_eq
  intro i hi
  rw [BitVec.getLsbD_and, BitVec.getLsbD_and, BitVec.getLsbD_not]
  cases hmask : SSTATUS_MASK.getLsbD i with
  | true => simp
  | false =>
      have hbit : (status.writeSstatus value mask).bit i = status.bit i :=
        Status.bit_writeSstatus (SView.mem_machineBits hi hmask)
      unfold Status.bit at hbit
      rw [hbit]

theorem mstatus_writeMstatush (value mask : BitVec 32) (status : Status) :
    (status.writeMstatush value mask).mstatus = status.mstatus := by
  unfold Status.writeMstatush
  apply Status.update_rule (P := fun t => t.mstatus = status.mstatus)
  · exact fun _ h => h
  · apply Status.update_rule (P := fun t => t.mstatus = status.mstatus)
    · exact fun _ h => h
    · rfl

/-- Writes of mip keep mie and mideleg. -/
theorem enables_writeMip (value mask : BitVec 32) (interrupts : Interrupts) :
    (interrupts.writeMip value mask).mie = interrupts.mie ∧
      (interrupts.writeMip value mask).delegate = interrupts.delegate := by
  unfold Interrupts.writeMip
  dsimp only
  constructor
  · split <;> split <;> split <;> rfl
  · split <;> split <;> split <;> rfl

theorem enables_writeSip (value mask : BitVec 32) (interrupts : Interrupts) :
    (interrupts.writeSip value mask).mie = interrupts.mie ∧
      (interrupts.writeSip value mask).delegate = interrupts.delegate := by
  unfold Interrupts.writeSip
  dsimp only
  constructor
  · split <;> rfl
  · split <;> rfl

theorem writesOnly_writeMhpm (n : ℕ) :
    WritesOnly Part.get ∅ fun s : State β =>
      ((writeMhpm n : CoreM β ε Unit) s).state := by
  intro s p _
  unfold writeMhpm assertNumber
  cases decide (3 ≤ n ∧ n ≤ 31) with
  | true => rfl
  | false => rfl

theorem writesOnly_writeSatp (value mask : BitVec 32) :
    WritesOnly Part.get {Part.satp} fun s : State β =>
      ((writeSatp value mask : CoreM β _ _) s).state := by
  intro s p hp
  show p.get ((writeSatp value mask : CoreM β _ _) s).state = _
  unfold writeSatp
  rw [Exec.get_bind]
  cases s.status.tvm with
  | true => rfl
  | false =>
      cases p with
      | satp => exact absurd rfl hp
      | _ => rfl

/-- A write of a vector goes to the trap registers, or it panics. -/
theorem state_putTvec (write : Trap → Option Trap) (s : State β) :
    ((putTvec write : CoreM β ε Unit) s).state
      = { s with trap := (write s.trap).getD s.trap } := by
  unfold putTvec
  rw [Exec.get_bind]
  cases write s.trap with
  | none => rfl
  | some trap => rfl

theorem writesOnly_writeMtvec (value mask : BitVec 32) :
    WritesOnly Part.get {Part.mtvec} fun s : State β =>
      ((putTvec (Trap.writeMtvec value mask) : CoreM β ε Unit) s).state := by
  intro s p hp
  show p.get ((putTvec (Trap.writeMtvec value mask) :
    CoreM β ε Unit) s).state = _
  rw [state_putTvec]
  unfold Trap.writeMtvec
  cases writeTvec s.trap.mVectorBaseAddress s.trap.mVectorMode value mask with
  | none => rfl
  | some tvec =>
      cases p with
      | mtvec => exact absurd rfl hp
      | _ => rfl

theorem writesOnly_writeStvec (value mask : BitVec 32) :
    WritesOnly Part.get {Part.stvec} fun s : State β =>
      ((putTvec (Trap.writeStvec value mask) : CoreM β ε Unit) s).state := by
  intro s p hp
  show p.get ((putTvec (Trap.writeStvec value mask) :
    CoreM β ε Unit) s).state = _
  rw [state_putTvec]
  unfold Trap.writeStvec
  cases writeTvec s.trap.sVectorBaseAddress s.trap.sVectorMode value mask with
  | none => rfl
  | some tvec =>
      cases p with
      | stvec => exact absurd rfl hp
      | _ => rfl

/-- A write changes only the parts that it is a writer of. -/
theorem writeCsrOf_writesOnly (specifier : CsrSpecifier)
    (value mask : BitVec 32) (csr : Csr) :
    WritesOnly Part.get {p | csr ∈ p.writers} fun s : State β =>
      (writeCsrOf specifier value mask csr s).state := by
  intro s p hp
  cases csr with
  | sstatus =>
      cases p with
      | sstatus => exact absurd List.mem_cons_self hp
      | mstatus => exact sstatus_writeSstatus value mask s.status
      | mstatush => exact Status.mstatush_writeMstatus _ _ _
      | _ => rfl
  | mstatus =>
      cases p with
      | sstatus => exact absurd (by decide) hp
      | mstatus => exact absurd (by decide) hp
      | mstatush => exact Status.mstatush_writeMstatus _ _ _
      | _ => rfl
  | mstatush =>
      have hkept := mstatus_writeMstatush value mask s.status
      cases p with
      | sstatus => exact congrArg (· &&& SSTATUS_MASK) hkept
      | mstatus => exact congrArg (· &&& ~~~SSTATUS_MASK) hkept
      | mstatush => exact absurd (by decide) hp
      | _ => rfl
  | mip =>
      cases p with
      | mip => exact absurd (by decide) hp
      | mie => exact (enables_writeMip value mask s.interrupts).1
      | mideleg => exact (enables_writeMip value mask s.interrupts).2
      | _ => rfl
  | sip =>
      cases p with
      | mip => exact absurd (by decide) hp
      | mie => exact (enables_writeSip value mask s.interrupts).1
      | mideleg => exact (enables_writeSip value mask s.interrupts).2
      | _ => rfl
  | satp =>
      apply writesOnly_writeSatp value mask s p
      rintro rfl
      exact hp (by decide)
  | mhpmcounter n => exact writesOnly_writeMhpm n s p id
  | mhpmcounterh n => exact writesOnly_writeMhpm n s p id
  | mhpmevent n => exact writesOnly_writeMhpm n s p id
  | mtvec =>
      apply writesOnly_writeMtvec value mask s p
      rintro rfl
      exact hp (by decide)
  | stvec =>
      apply writesOnly_writeStvec value mask s p
      rintro rfl
      exact hp (by decide)
  | _ =>
      -- the other registers have one part, or none, to themselves
      cases p <;> first
        | rfl
        | exact absurd (by decide) hp

/-! ## Aliases -/

/-- A write of the first register is noticed by a read of the second. -/
def Aliases (specifier other : CsrSpecifier) : Prop :=
  ∃ csr csr', Csr.ofSpecifier specifier = some csr ∧
    Csr.ofSpecifier other = some csr' ∧ csr.Affects csr'

/-- The arguments of a write. -/
structure CsrWrite where
  specifier : CsrSpecifier
  level : PrivilegeLevel
  value : BitVec 32
  mask : BitVec 32
deriving DecidableEq, Repr

/-- Make a write, whether it succeeds or not. -/
def CsrWrite.run (s : State β) (write : CsrWrite) : State β :=
  (writeCsr write.specifier write.level write.value write.mask s).state

theorem run_writesOnly (write : CsrWrite) :
    WritesOnly Part.get
      {p | ∃ csr, Csr.ofSpecifier write.specifier = some csr ∧
        csr ∈ p.writers} fun s : State β => write.run s := by
  intro s p hp
  show p.get (writeCsr write.specifier write.level write.value write.mask
    s).state = _
  cases writeCsr_cases write.specifier write.level write.value write.mask
    (β := β) with
  | inl hthrow =>
      obtain ⟨e, he⟩ := hthrow
      rw [he]
      rfl
  | inr harm =>
      obtain ⟨csr, hcsr, _, _, _, harm⟩ := harm
      rw [harm]
      exact writeCsrOf_writesOnly _ _ _ csr s p fun hwriter =>
        hp ⟨csr, hcsr, hwriter⟩

theorem readCsr_readsOnly [SystemBus β] (config : Config)
    (specifier : CsrSpecifier) (level : PrivilegeLevel) :
    ReadsOnly Part.get
      {p | ∃ csr, Csr.ofSpecifier specifier = some csr ∧ p ∈ csr.reads}
      fun s : State β => (readCsr config specifier level s).result := by
  intro s t h
  show (readCsr config specifier level s).result
    = (readCsr config specifier level t).result
  cases readCsr_cases config specifier level (β := β) with
  | inl hthrow =>
      obtain ⟨e, he⟩ := hthrow
      rw [he]
      rfl
  | inr harm =>
      obtain ⟨csr, hcsr, _, harm⟩ := harm
      rw [harm]
      exact readCsrOf_readsOnly config specifier csr s t fun p hp =>
        h p ⟨csr, hcsr, hp⟩

/-- No series of writes is noticed by a register that is an alias of none. -/
theorem readCsr_writes [SystemBus β] (config : Config) {other : CsrSpecifier}
    (level : PrivilegeLevel) {writes : List CsrWrite}
    (h : ∀ write ∈ writes, ¬ Aliases write.specifier other) (s : State β) :
    (readCsr config other level (writes.foldl CsrWrite.run s)).result
      = (readCsr config other level s).result := by
  apply (readCsr_readsOnly config other level).unchanged
    (WritesOnly.foldl run_writesOnly writes)
  rintro p ⟨csr', hcsr', hreads⟩ ⟨write, hmem, csr, hcsr, hwriter⟩
  exact h write hmem ⟨csr, csr', hcsr, hcsr', p, hreads, hwriter⟩

/-! ## Every alias shows -/

/-- A core in user mode in which every supervisor interrupt is delegated,
enabled and pending. -/
def probeState : State NoDevices :=
  { State.new NoDevices.config .unit with
    privilegeMode := .user
    interrupts :=
      { delegate := DELEGATABLE_INTERRUPTS_MASK
        seipExternal := false
        seipInternal := true
        mip := DELEGATABLE_INTERRUPTS_MASK
        mie := DELEGATABLE_INTERRUPTS_MASK } }

/-- A value that changes every part that the register is a writer of. -/
def Csr.probe : Csr → BitVec 32
  | scounteren | mcounteren | mideleg | mie | sie | mip | sip => 0
  | mcause | scause => 1
  | _ => 0xFFFFFFFD

def Csr.probed (csr : Csr) : State NoDevices :=
  (writeCsrOf 0 csr.probe 0xFFFFFFFF csr probeState).state

theorem probe_hpmcounter : ∀ n ≤ 31, 3 ≤ n → ∀ p ∈ Part.gate,
    ∀ csr ∈ p.writers,
      ((readHpmcounter n : CoreM NoDevices _ _) csr.probed).result
        ≠ ((readHpmcounter n : CoreM NoDevices _ _) probeState).result := by
  decide

/-- Writing the value to an alias changes what a register reads. -/
theorem probe_affects {csr other : Csr} (h : csr.Affects other)
    (hnumbered : other.Numbered) :
    ((readCsrOf NoDevices.config 0 other : CoreM NoDevices _ _)
        csr.probed).result
      ≠ ((readCsrOf NoDevices.config 0 other : CoreM NoDevices _ _)
        probeState).result := by
  obtain ⟨p, hreads, hwriter⟩ := h
  revert csr
  revert p
  cases other with
  | hpmcounter n =>
      intro p hp csr
      exact probe_hpmcounter n hnumbered.2 hnumbered.1 p hp csr
  | hpmcounterh n =>
      intro p hp csr
      exact probe_hpmcounter n hnumbered.2 hnumbered.1 p hp csr
  | pmpcfg n | pmpaddr n | mhpmcounter n | mhpmcounterh n | mhpmevent n =>
      intro p hp
      cases hp
  | _ => decide

/-- Every specifier of the table has 12 bits. -/
theorem csrTable_isValid : ∀ range ∈ csrTable,
    ∀ offset ≤ range.last - range.first,
      isValid (BitVec.ofNat 16 (range.first + offset)) = true := by
  decide +kernel

theorem checkCsrAccess_machine {specifier : CsrSpecifier} {csr : Csr}
    (h : Csr.ofSpecifier specifier = some csr) :
    (checkCsrAccess specifier .machine : CoreM β _ Unit) = pure () := by
  obtain ⟨range, hmem, offset, hle, -, hspec⟩ := Csr.ofSpecifier_entry h
  have hvalid := csrTable_isValid range hmem offset hle
  rw [← hspec] at hvalid
  have hlevel : ¬ PrivilegeLevel.machine.toNat
      < (requiredPrivilegeLevel specifier).toNat := by
    cases requiredPrivilegeLevel specifier <;> decide
  unfold checkCsrAccess
  rw [hvalid]
  exact if_neg hlevel

theorem readCsr_machine [SystemBus β] (config : Config)
    {specifier : CsrSpecifier} {csr : Csr}
    (h : Csr.ofSpecifier specifier = some csr) :
    (readCsr config specifier .machine : CoreM β _ _)
      = readCsrOf config specifier csr := by
  unfold readCsr
  rw [checkCsrAccess_machine h, h]
  rfl

theorem readOnly_of_mem_writers {p : Part} : ∀ csr ∈ p.writers,
    csr.readOnly = false := by
  cases p <;> decide

theorem writeCsr_machine {specifier : CsrSpecifier} {csr : Csr} {p : Part}
    (h : Csr.ofSpecifier specifier = some csr) (hwriter : csr ∈ p.writers)
    (value mask : BitVec 32) :
    (writeCsr specifier .machine value mask : CoreM β _ _)
      = writeCsrOf specifier value mask csr := by
  have hreadOnly := (Csr.ofSpecifier_sound h).2.1
  rw [readOnly_of_mem_writers csr hwriter] at hreadOnly
  unfold writeCsr
  rw [checkCsrAccess_machine h, hreadOnly, h]
  rfl

/-- Only an unsupported register reports its specifier. -/
theorem readCsrOf_specifier [SystemBus β] (config : Config)
    (specifier : CsrSpecifier) {csr : Csr} {p : Part} (h : p ∈ csr.reads) :
    (readCsrOf config specifier csr : CoreM β _ _)
      = readCsrOf config 0 csr := by
  cases csr <;> first
    | rfl
    | cases h

theorem writeCsrOf_specifier (specifier : CsrSpecifier)
    (value mask : BitVec 32) {csr : Csr} {p : Part} (h : csr ∈ p.writers) :
    (writeCsrOf specifier value mask csr : CoreM β _ _)
      = writeCsrOf 0 value mask csr := by
  cases csr <;> first
    | rfl
    | exact absurd h (by cases p <;> simp [Part.writers])

/-- A register notices a write exactly when it is an alias of the register
written: whatever the state, the other registers read as before, and for each
alias there is a state in which it does not. -/
theorem aliases_iff (specifier other : CsrSpecifier) :
    Aliases specifier other ↔
      ¬ ∀ (β : Type) [SystemBus β] (config : Config)
        (level level' : PrivilegeLevel) (value mask : BitVec 32)
        (s : State β),
        (readCsr config other level'
            (writeCsr specifier level value mask s).state).result
          = (readCsr config other level' s).result := by
  constructor
  · rintro ⟨csr, csr', hcsr, hcsr', p, hreads, hwriter⟩ hall
    have hnumbered := (Csr.ofSpecifier_sound hcsr').2.2
    apply probe_affects ⟨p, hreads, hwriter⟩ hnumbered
    have hsame := hall NoDevices NoDevices.config .machine .machine csr.probe
      0xFFFFFFFF probeState
    rw [writeCsr_machine hcsr hwriter, readCsr_machine _ hcsr',
      readCsrOf_specifier _ _ hreads, writeCsrOf_specifier _ _ _ hwriter]
      at hsame
    exact hsame
  · intro hnoticed
    by_contra hapart
    apply hnoticed
    intro β _ config level level' value mask s
    have hsingle : ∀ write ∈ [CsrWrite.mk specifier level value mask],
        ¬ Aliases write.specifier other := by simpa using hapart
    exact readCsr_writes config level' hsingle s

end RedPlanet.Core
