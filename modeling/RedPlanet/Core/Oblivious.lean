import RedPlanet.Core.Levels
import RedPlanet.Verified.Lockstep

/-!
# User code on two buses

What two runs of the same instruction in U-mode must agree on so that they go
in lockstep: their states may differ in the bus alone, and the accesses to
memory of the one must give what those of the other give.

The lemmas follow the text of `core/execute.rs` once more, as those on
disciplines do: first the CSRs that user code can read, then loads and
stores, the AMOs, jumps and branches, and the returns, which fail at user
level.  `executeInstruction` puts them together.
-/

namespace RedPlanet.Core

open RedPlanet.Verified

variable {β ε : Type} [SystemBus β]

/-- Accesses at user level go in lockstep, and nothing but the bus may be
different. -/
structure Oblivious [Build] (config : Config)
    (R : State β → State β → Prop) : Prop where
  same : ∀ {s t}, R s t → ∃ bus, t = { s with bus := bus }
  user : ∀ {s t}, R s t → s.privilegeMode = .user
  registers : ∀ {s t} (f : Registers → Registers), R s t →
    R (s.onRegisters f) (t.onRegisters f)
  readMtime : ∀ {ε : Type},
    Lockstep R (readMtime config : CoreM β ε _) (readMtime config)
  readByte : ∀ address,
    Lockstep R (readByte config address) (readByte config address)
  readUnit : ∀ {size : ℕ} address, size ≤ 4 →
    Lockstep R (readUnit config size address) (readUnit config size address)
  writeByte : ∀ address value,
    Lockstep R (writeByte config address value) (writeByte config address value)
  writeUnit : ∀ {size : ℕ} address (value : BitVec (8 * size)), size ≤ 4 →
    Lockstep R (writeUnit config size address value)
      (writeUnit config size address value)

namespace Oblivious

variable [Build] {config : Config} {R : State β → State β → Prop}
  (hR : Oblivious config R)

include hR

/-- Reading the state for something other than its bus. -/
theorem get_bind {α : Type} {f : State β → CoreM β ε α}
    (hbus : ∀ s bus, f { s with bus := bus } = f s)
    (h : ∀ s, s.privilegeMode = .user → Lockstep R (f s) (f s)) :
    Lockstep R (Exec.get >>= f) (Exec.get >>= f) := by
  apply Lockstep.get_bind
  intro s t hst
  obtain ⟨bus, rfl⟩ := hR.same hst
  rw [hbus s bus]
  exact h s (hR.user hst)

/-- A change of the registers does not look at the bus. -/
theorem updateRegisters (f : Registers → Registers) :
    Lockstep R (updateRegisters f : CoreM β ε Unit) (updateRegisters f) :=
  Lockstep.modify fun _ _ => hR.registers f

/-! ## Reads of CSRs -/

/-- A CSR that is a function of the state without its bus. -/
theorem view {f : State β → BitVec 32}
    (hbus : ∀ s bus, f { s with bus := bus } = f s) :
    Lockstep R (view f : CoreM β ε _) (view f) := by
  unfold Core.view
  apply hR.get_bind
  · intro s bus
    rw [hbus]
  · intro s _
    exact Lockstep.pure _

/-- Whether a counter may be read depends on the enable registers. -/
theorem checkAccess (check : Counteren → Bool) (specifier : CsrSpecifier)
    (name : String) :
    Lockstep R (checkAccess check specifier name : CoreM β _ _)
      (checkAccess check specifier name) := by
  unfold Core.checkAccess
  apply hR.get_bind
  · exact fun _ _ => rfl
  · intro s _
    apply Lockstep.ite
    · intro _
      exact Lockstep.throw _
    · intro _
      apply Lockstep.ite
      · intro _
        exact Lockstep.throw _
      · intro _
        exact Lockstep.pure ()

/-- A counter that may be read or not. -/
theorem checkedView (check : Counteren → Bool) (specifier : CsrSpecifier)
    (name : String) {f : State β → BitVec 32}
    (hbus : ∀ s bus, f { s with bus := bus } = f s) :
    Lockstep R (do Core.checkAccess check specifier name; Core.view f)
      (do Core.checkAccess check specifier name; Core.view f) :=
  Lockstep.bind (hR.checkAccess _ _ _) fun _ => hR.view hbus

/-- The counter that reads the time, which both runs read alike. -/
theorem checkedMtime (check : Counteren → Bool) (specifier : CsrSpecifier)
    (name : String) (f : BitVec 64 → BitVec 32) :
    Lockstep R
      (do Core.checkAccess check specifier name
          let mtime ← Core.readMtime config
          return f mtime : CoreM β _ _)
      (do Core.checkAccess check specifier name
          let mtime ← Core.readMtime config
          return f mtime) := by
  apply Lockstep.bind (hR.checkAccess _ _ _)
  intro _
  exact Lockstep.bind hR.readMtime fun _ => Lockstep.pure _

omit hR [SystemBus β] [Build] in
/-- The performance counters are zero. -/
theorem readMhpm (n : ℕ) :
    Lockstep R (readMhpm n : CoreM β ε _) (readMhpm n) := by
  unfold Core.readMhpm
  exact Lockstep.bind (Lockstep.assert _) fun _ => Lockstep.pure _

/-- So are their views at user level, where they can be read. -/
theorem readHpmcounter (n : ℕ) :
    Lockstep R (readHpmcounter n : CoreM β _ _) (readHpmcounter n) := by
  unfold Core.readHpmcounter
  apply Lockstep.bind (Lockstep.assert _)
  intro _
  exact Lockstep.bind (hR.checkAccess _ _ _) fun _ => readMhpm n

/-- A trap vector is its base and its mode. -/
theorem viewTvec (base : Trap → BitVec 32) (mode : Trap → VectorMode) :
    Lockstep R (viewTvec base mode : CoreM β ε _) (viewTvec base mode) := by
  unfold Core.viewTvec
  apply hR.get_bind
  · exact fun _ _ => rfl
  · exact fun _ _ => Lockstep.unwrap _

/-- satp can be read above U-mode only, and is no part of the bus. -/
theorem readSatp : Lockstep R (readSatp : CoreM β _ _) readSatp := by
  unfold Core.readSatp
  apply hR.get_bind
  · exact fun _ _ => rfl
  · intro s _
    apply Lockstep.ite
    · intro _
      exact Lockstep.throw _
    · intro _
      exact Lockstep.pure _

/-- Every arm of the dispatch. -/
theorem readCsrOf (specifier : CsrSpecifier) (csr : Csr) :
    Lockstep R (readCsrOf config specifier csr : CoreM β _ _)
      (readCsrOf config specifier csr) := by
  cases csr with
  | hpmcounter n => exact hR.readHpmcounter n
  | hpmcounterh n => exact hR.readHpmcounter n
  | mhpmcounter n => exact readMhpm n
  | mhpmcounterh n => exact readMhpm n
  | mhpmevent n => exact readMhpm n
  | cycle => exact hR.checkedView _ _ _ fun _ _ => rfl
  | cycleh => exact hR.checkedView _ _ _ fun _ _ => rfl
  | instret => exact hR.checkedView _ _ _ fun _ _ => rfl
  | instreth => exact hR.checkedView _ _ _ fun _ _ => rfl
  | time => exact hR.checkedMtime _ _ _ _
  | timeh => exact hR.checkedMtime _ _ _ _
  | mtvec => exact hR.viewTvec _ _
  | stvec => exact hR.viewTvec _ _
  | satp => exact hR.readSatp
  | _ =>
      unfold Core.readCsrOf
      first
        | exact Lockstep.throw _
        | exact Lockstep.pure _
        | exact hR.view fun _ _ => rfl

/-- A read with the checks in front of it. -/
theorem readCsr (specifier : CsrSpecifier) (level : PrivilegeLevel) :
    Lockstep R (readCsr config specifier level : CoreM β _ _)
      (readCsr config specifier level) := by
  obtain ⟨e, hthrow⟩ | ⟨csr, _, _, harm⟩ :=
    readCsr_cases config specifier level (β := β)
  · rw [hthrow]
    exact Lockstep.throw e
  · rw [harm]
    exact hR.readCsrOf specifier csr

/-- At user level there is nothing to write. -/
theorem csrOpAt (op : CsrOp) (dest : Specifier) (csr : CsrSpecifier)
    (srcValue : Option (BitVec 32)) :
    Lockstep R (csrOpAt config .user op dest csr srcValue)
      (csrOpAt config .user op dest csr srcValue) := by
  have hread : Lockstep R (csrRead config dest csr .user : CoreM β _ _)
      (csrRead config dest csr .user) := by
    unfold csrRead
    apply Lockstep.bind (Lockstep.mapError _ (hR.readCsr csr .user))
    intro oldValue
    exact hR.updateRegisters _
  have hend : Lockstep R
      (do csrWrite op csr .user srcValue
          Core.updateRegisters Registers.incrementPc : CoreM β _ _)
      (do csrWrite op csr .user srcValue
          Core.updateRegisters Registers.incrementPc) := by
    refine Lockstep.bind ?_ fun _ => hR.updateRegisters _
    cases srcValue with
    | none => exact Lockstep.pure ()
    | some src =>
        obtain ⟨e, he⟩ := writeCsr_user (β := β) csr (csrOperand op src).1
          (csrOperand op src).2
        unfold csrWrite
        dsimp only
        rw [he]
        exact Lockstep.mapError _ (Lockstep.throw e)
  unfold Core.csrOpAt
  apply Lockstep.ite
  · intro _
    exact Lockstep.bind hread fun _ => hend
  · intro _
    exact hend

/-! ## Loads, stores and atomics -/

/-- A load whose access goes in lockstep. -/
theorem loadOp {op : BitVec 32 → CoreM β MemoryError (BitVec 32)}
    (hop : ∀ address, Lockstep R (op address) (op address))
    (dest base : Specifier) (offset : BitVec 32) :
    Lockstep R (loadOp op dest base offset) (loadOp op dest base offset) := by
  unfold Core.loadOp
  apply hR.get_bind
  · exact fun _ _ => rfl
  · intro s _
    apply Lockstep.bind (Lockstep.mapError _ (hop _))
    intro value
    exact hR.updateRegisters _

/-- A store whose access goes in lockstep. -/
theorem storeOp {op : BitVec 32 → BitVec 32 → CoreM β MemoryError Unit}
    (hop : ∀ address value, Lockstep R (op address value) (op address value))
    (src base : Specifier) (offset : BitVec 32) :
    Lockstep R (storeOp op src base offset) (storeOp op src base offset) := by
  unfold Core.storeOp
  apply hR.get_bind
  · exact fun _ _ => rfl
  · intro s _
    apply Lockstep.bind (Lockstep.mapError _ (hop _ _))
    intro _
    exact hR.updateRegisters _

/-- The loads of each width, with their extension. -/
theorem loadWidth (width : LoadWidth) (address : BitVec 32) :
    Lockstep R (width.read config address : CoreM β _ _)
      (width.read config address) := by
  cases width with
  | lb => exact Lockstep.map _ (hR.readByte _)
  | lh => exact Lockstep.map _ (hR.readUnit _ (by decide))
  | lw => exact hR.readUnit _ (by decide)
  | lbu => exact Lockstep.map _ (hR.readByte _)
  | lhu => exact Lockstep.map _ (hR.readUnit _ (by decide))

/-- The stores of each width. -/
theorem storeWidth (width : StoreWidth) (address value : BitVec 32) :
    Lockstep R (width.write config address value : CoreM β _ _)
      (width.write config address value) := by
  cases width with
  | sb => exact hR.writeByte _ _
  | sh => exact hR.writeUnit _ _ (by decide)
  | sw => exact hR.writeUnit _ _ (by decide)

/-- A load and a store, and an operation on registers in between. -/
theorem amoOpWith (op : BitVec 32 → BitVec 32 → BitVec 32)
    (dest src addr : Specifier) :
    Lockstep R (amoOpWith config op dest src addr)
      (amoOpWith config op dest src addr) := by
  unfold Core.amoOpWith
  apply hR.get_bind
  · exact fun _ _ => rfl
  · intro s _
    apply Lockstep.ite
    · intro _
      exact Lockstep.throw _
    · intro _
      apply Lockstep.bind
        (Lockstep.mapError _ (hR.readUnit _ (Nat.le_refl 4)))
      intro memValue
      apply Lockstep.bind
        (Lockstep.mapError _ (hR.writeUnit _ _ (Nat.le_refl 4)))
      intro _
      exact hR.updateRegisters _

/-- LR and SC are a load and a store that test the alignment of their address
first. -/
theorem executeAmo (op : AmoOp) (dest src addr : Specifier) :
    Lockstep R (executeAmo config op dest src addr)
      (executeAmo config op dest src addr) := by
  cases op with
  | lr =>
      unfold Core.executeAmo lr
      apply hR.loadOp
      intro address
      apply Lockstep.ite
      · intro _
        exact Lockstep.throw _
      · intro _
        exact hR.readUnit _ (Nat.le_refl 4)
  | sc =>
      unfold Core.executeAmo sc
      apply hR.storeOp
      intro address value
      apply Lockstep.ite
      · intro _
        exact Lockstep.throw _
      · intro _
        apply Lockstep.bind (hR.updateRegisters _)
        intro _
        exact hR.writeUnit _ _ (Nat.le_refl 4)
  | _ =>
      unfold Core.executeAmo
      exact hR.amoOpWith _ dest src addr

/-! ## Every instruction -/

/-- The target depends on the registers. -/
theorem jumpOp (dest : Specifier) (computeTarget : Registers → BitVec 32) :
    Lockstep R (jumpOp dest computeTarget : CoreM β _ _)
      (jumpOp dest computeTarget) := by
  unfold Core.jumpOp
  apply hR.get_bind
  · exact fun _ _ => rfl
  · intro s _
    apply Lockstep.ite
    · intro _
      exact Lockstep.throw _
    · intro _
      exact hR.updateRegisters _

/-- Whether a branch is taken depends on the registers. -/
theorem condBranch (predicate : BitVec 32 → BitVec 32 → Bool)
    (src1 src2 : Specifier) (offset : BitVec 32) :
    Lockstep R (condBranch predicate src1 src2 offset : CoreM β _ _)
      (condBranch predicate src1 src2 offset) := by
  unfold Core.condBranch
  apply hR.get_bind
  · exact fun _ _ => rfl
  · intro s _
    apply Lockstep.ite
    · intro _
      apply Lockstep.ite
      · intro _
        exact Lockstep.throw _
      · intro _
        exact hR.updateRegisters _
    · intro _
      exact hR.updateRegisters _

/-- An instruction that does nothing but go on, unless the state forbids
it. -/
theorem guardedNop {forbidden : State β → Prop}
    [∀ s, Decidable (forbidden s)] {e : Exception}
    (hbus : ∀ s bus, forbidden { s with bus := bus } ↔ forbidden s) :
    Lockstep R
      (do let s ← Exec.get
          if forbidden s then Exec.throw e
          else Core.updateRegisters Registers.incrementPc : CoreM β _ Unit)
      (do let s ← Exec.get
          if forbidden s then Exec.throw e
          else Core.updateRegisters Registers.incrementPc) := by
  apply hR.get_bind
  · intro s bus
    by_cases h : forbidden s
    · rw [if_pos h, if_pos ((hbus s bus).2 h)]
    · rw [if_neg h, if_neg fun hbad => h ((hbus s bus).1 hbad)]
  · intro s _
    apply Lockstep.ite
    · intro _
      exact Lockstep.throw _
    · intro _
      exact hR.updateRegisters _

/-- An environment call fails at every level. -/
theorem ecall : Lockstep R (ecall : CoreM β _ _) ecall := by
  unfold Core.ecall
  apply hR.get_bind
  · exact fun _ _ => rfl
  · intro s hmode
    rw [hmode]
    exact Lockstep.throw _

/-- The privilege and the flags it tests are no part of the bus. -/
theorem sret : Lockstep R (sret : CoreM β _ _) sret := by
  intro s t hst
  have huser := hR.user hst
  obtain ⟨bus, rfl⟩ := hR.same hst
  have hrefuse : ∀ u : State β, u.privilegeMode = .user →
      (Core.sret : CoreM β _ _) u = .error (.illegalInstruction none) u := by
    intro u hu
    cases sret_cases u with
    | inl hthrow => exact hthrow
    | inr hreturn =>
        rw [hu] at hreturn
        exact absurd hreturn.1 (by decide)
  rw [hrefuse _ huser, hrefuse { s with bus := bus } huser]
  exact .error hst

theorem mret : Lockstep R (mret : CoreM β _ _) mret := by
  intro s t hst
  have huser := hR.user hst
  obtain ⟨bus, rfl⟩ := hR.same hst
  have hrefuse : ∀ u : State β, u.privilegeMode = .user →
      (Core.mret : CoreM β _ _) u = .error (.illegalInstruction none) u := by
    intro u hu
    cases mret_cases u with
    | inl hthrow => exact hthrow
    | inr hreturn =>
        rw [hu] at hreturn
        exact absurd hreturn.1 (by decide)
  rw [hrefuse _ huser, hrefuse { s with bus := bus } huser]
  exact .error hst

/-- Every instruction of user code goes in lockstep. -/
theorem executeInstruction (instruction : Instruction) :
    Lockstep R (executeInstruction config instruction)
      (executeInstruction config instruction) := by
  cases instruction with
  | opImm op dest src immediate =>
      unfold Core.executeInstruction
      cases op <;> exact hR.updateRegisters _
  | opShiftImm op dest src shiftAmountU5 =>
      unfold Core.executeInstruction
      cases op <;>
        exact Lockstep.bind (Lockstep.assert _) fun _ => hR.updateRegisters _
  | auipc dest immediate => exact hR.updateRegisters _
  | lui dest immediate => exact hR.updateRegisters _
  | amo op aq rl src addr dest => exact hR.executeAmo op dest src addr
  | op op dest src1 src2 => exact hR.updateRegisters _
  | jal dest offset =>
      unfold Core.executeInstruction jal
      exact hR.jumpOp dest _
  | jalr dest base offset =>
      unfold Core.executeInstruction jalr
      exact hR.jumpOp dest _
  | branch condition src1 src2 offset => exact hR.condBranch _ src1 src2 offset
  | load width dest base offset =>
      exact hR.loadOp (hR.loadWidth width) dest base offset
  | store width src base offset =>
      exact hR.storeOp (hR.storeWidth width) src base offset
  | fence predecessor successor => exact hR.updateRegisters _
  | ecall => exact hR.ecall
  | ebreak => exact Lockstep.throw _
  | sret => exact hR.sret
  | mret => exact hR.mret
  | wfi =>
      unfold Core.executeInstruction wfi
      exact hR.guardedNop fun _ _ => Iff.rfl
  | sfenceVma vaddr asid =>
      unfold Core.executeInstruction sfenceVma
      exact hR.guardedNop fun _ _ => Iff.rfl
  | csr op dest csr src =>
      unfold Core.executeInstruction csrRegOp csrOp
      apply hR.get_bind
      · exact fun _ _ => rfl
      · intro s _
        apply hR.get_bind
        · exact fun _ _ => rfl
        · intro u hmode
          rw [hmode]
          exact hR.csrOpAt op dest csr _
  | csri op dest csr immediate =>
      unfold Core.executeInstruction csrImmOp csrOp
      apply hR.get_bind
      · exact fun _ _ => rfl
      · intro s hmode
        rw [hmode]
        exact hR.csrOpAt op dest csr _

end Oblivious

end RedPlanet.Core
