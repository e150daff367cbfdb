import RedPlanet.Core.Levels

/-!
# Executing an instruction never raises the privilege

Two disciplines above the memory discipline.  `atLevel K level` is what the
CSR writes that pass the checks for `level` respect: they keep the mode, and
they set MPRV only if `level` is the machine level.  `core K` is what every
instruction respects: the mode does not rise, and MPRV stays confined to
M-mode.  Both also keep the invariant `Sound`, on which the absence of panics
rests.

The dispatch of CSR writes is looked at once (`tame_writeCsrOf`), the returns
by themselves (`returnTo_step`), and `tame_core` is the result for every
instruction.
-/

namespace RedPlanet.Core

open RedPlanet.Verified Discipline

variable {β ε : Type}

/-- MPRV is set in M-mode only. -/
def Confined (s : State β) : Prop :=
  s.privilegeMode ≠ .machine → s.status.mprv = false

/-- Below M-mode loads and stores are made at the mode of the core. -/
theorem Confined.effectivePrivilegeMode {s : State β} (h : Confined s)
    (hmode : s.privilegeMode ≠ .machine) :
    s.effectivePrivilegeMode = some s.privilegeMode := by
  unfold State.effectivePrivilegeMode
  rw [h hmode]
  rfl

variable [SystemBus β] {K : BusContract β}

/-- Memory instructions touch neither the mode nor MPRV. -/
theorem MemFrame.confined {s t : State β} (h : MemFrame K s t)
    (hs : Confined s) : Confined t := by
  unfold Confined
  rw [h.privilegeMode, h.status]
  exact hs

/-! ## Steps -/

/-- What a CSR write at `level` does. -/
structure WriteStep (K : BusContract β) (level : PrivilegeLevel)
    (s t : State β) : Prop where
  mode : t.privilegeMode = s.privilegeMode
  sound : Sound K s → Sound K t
  confined : s.privilegeMode = level → Confined s → Confined t

/-- What an instruction does. -/
structure InstructionStep (K : BusContract β) (s t : State β) : Prop where
  mode : t.privilegeMode ≤ s.privilegeMode
  sound : Sound K s → Sound K t
  confined : Confined s → Confined t

/-- What a CSR write does at the mode of the core an instruction may do. -/
theorem WriteStep.instructionStep {s t : State β}
    (h : WriteStep K s.privilegeMode s t) : InstructionStep K s t where
  mode := h.mode ▸ PrivilegeLevel.le_refl _
  sound := h.sound
  confined := h.confined rfl

/-- A return to a level that is not above the present one. -/
theorem returnTo_step {pp : PrivilegeLevel} {status : Status → Status}
    (epc : Trap → BitVec 32) {s : State β} (hpp : pp ≤ s.privilegeMode)
    (hlegal : s.status.Legal → (status s.status).Legal) :
    InstructionStep K s
      ((returnTo pp status epc : CoreM β ε Unit) s).state where
  mode := hpp
  sound := by
    intro hs
    exact { hs with status := legal_leaveStatus pp (hlegal hs.status) }
  confined := by
    intro _ hmode
    exact mprv_leaveStatus hmode status s.status

/-! ## CSR writes at a privilege level -/

variable [Build]

/-- The discipline of the writes that pass the checks for a level. -/
def atLevel (K : BusContract β) (level : PrivilegeLevel) :
    Discipline (State β) where
  step := WriteStep K level
  inv := Sound K
  clean := Unharmed K
  refl _ := ⟨rfl, id, fun _ h => h⟩
  trans hst htu :=
    { mode := htu.mode.trans hst.mode
      sound := fun h => htu.sound (hst.sound h)
      confined := fun hlevel h =>
        htu.confined (hst.mode.trans hlevel) (hst.confined hlevel h) }
  inv_step hst := hst.sound

/-- What keeps to the memory frame is allowed at every level. -/
theorem MemFrame.writeStep {s t : State β} (h : MemFrame K s t)
    (level : PrivilegeLevel) : WriteStep K level s t where
  mode := h.privilegeMode
  sound := (memory K).inv_step h
  confined := fun _ => h.confined

/-- The instructions that write no CSR keep to it. -/
theorem executes_atLevel (level : PrivilegeLevel) :
    Executes (atLevel K level) := by
  apply (executes_memory (K := K)).imp
  · intro s hs
    exact hs.status
  · intro s hs
    exact hs.trap
  · intro ε α m hm
    apply hm.mono
    · intro s t hframe
      exact MemFrame.writeStep hframe level
    · intro s hs
      exact hs
    · intro s
      exact Iff.rfl

variable {level : PrivilegeLevel}

/-- A write outside the status word and the trap registers. -/
theorem tame_writeElsewhere {f : State β → State β}
    (hmode : ∀ s, (f s).privilegeMode = s.privilegeMode)
    (hstatus : ∀ s, (f s).status = s.status)
    (htrap : ∀ s, (f s).trap = s.trap) (hbus : ∀ s, (f s).bus = s.bus)
    (hevents : ∀ s, (f s).events = s.events) :
    (atLevel K level).Tame (Exec.modify f : CoreM β ε Unit) := by
  apply Tame.modify
  · intro s
    have hconfined : Confined s → Confined (f s) := by
      unfold Confined
      rw [hmode, hstatus]
      exact id
    exact
      { mode := hmode s
        sound := fun hs =>
          { bus := (hbus s).symm ▸ hs.bus
            status := (hstatus s).symm ▸ hs.status
            trap := (htrap s).symm ▸ hs.trap }
        confined := fun _ => hconfined }
  · intro s hclean
    show Unharmed K (f s)
    unfold Unharmed
    rw [hevents]
    exact hclean

/-- A write of the trap registers that keeps their addresses aligned. -/
theorem tame_onTrap {f : Trap → Trap}
    (h : ∀ trap, trap.Aligned → (f trap).Aligned) :
    (atLevel K level).Tame (Exec.modify (State.onTrap f) : CoreM β ε Unit) := by
  apply Tame.modify
  · intro s
    exact
      { mode := rfl
        sound := fun hs => { hs with trap := h s.trap hs.trap }
        confined := fun _ hconfined => hconfined }
  · intro s hclean
    exact hclean

/-- A write of the status word, at a level other than M-mode only if it keeps
MPRV. -/
theorem tame_onStatus {f : Status → Status}
    (hlegal : ∀ status, status.Legal → (f status).Legal)
    (hmprv : level = .machine ∨ ∀ status, (f status).mprv = status.mprv) :
    (atLevel K level).Tame
      (Exec.modify (State.onStatus f) : CoreM β ε Unit) := by
  apply Tame.modify
  · intro s
    have hconfined : s.privilegeMode = level → Confined s →
        Confined (s.onStatus f) := by
      intro hlevel hs hmode
      cases hmprv with
      | inl hmachine => exact absurd (hlevel.trans hmachine) hmode
      | inr hkeep => exact (hkeep s.status).trans (hs hmode)
    exact
      { mode := rfl
        sound := fun hs => { hs with status := hlegal s.status hs.status }
        confined := hconfined }
  · intro s hclean
    exact hclean

/-- A write of a trap vector that goes through and keeps the vectors aligned.
-/
theorem tame_putTvec {write : Trap → Option Trap}
    (h : ∀ trap, trap.Aligned → ∃ trap', write trap = some trap' ∧
      trap'.Aligned) :
    (atLevel K level).Tame (putTvec write : CoreM β ε Unit) := by
  apply Tame.get_bind
  intro s
  cases hwrite : write s.trap with
  | some trap =>
      have haligned : s.trap.Aligned → trap.Aligned := by
        intro hs
        obtain ⟨trap', hsome, haligned⟩ := h s.trap hs
        rw [hwrite] at hsome
        exact Option.some.inj hsome ▸ haligned
      have hstep : WriteStep K level s (s.onTrap fun _ => trap) :=
        { mode := rfl
          sound := fun hs => { hs with trap := haligned hs.trap }
          confined := fun _ hconfined => hconfined }
      exact ⟨hstep, fun _ hclean =>
        iff_of_false Bool.false_ne_true fun hbad => hbad hclean⟩
  | none =>
      refine ⟨(atLevel K level).refl s, fun hinv _ => ?_⟩
      obtain ⟨trap', hsome, _⟩ := h s.trap hinv.trap
      rw [hwrite] at hsome
      exact nomatch hsome

/-- A write of satp fails, or it changes neither of the trap vectors. -/
theorem tame_writeSatp (value mask : BitVec 32) :
    (atLevel K level).Tame (writeSatp value mask : CoreM β _ _) := by
  unfold writeSatp
  apply Tame.bind Tame.get
  intro s
  apply Tame.ite
  · intro _
    exact Tame.throw _
  · intro _
    apply tame_onTrap
    intro trap h
    exact ⟨h.m, h.s⟩

/-- The performance counters ignore what is written. -/
theorem tame_writeMhpm {n : Nat} (h : 3 ≤ n ∧ n ≤ 31) :
    (atLevel K level).Tame (writeMhpm n : CoreM β ε Unit) := by
  unfold writeMhpm assertNumber
  exact Tame.assert (decide_eq_true h)

/-- The dispatch, for a register of at most the given level. -/
theorem tame_writeCsrOf {csr : Csr} (specifier : CsrSpecifier)
    (value mask : BitVec 32) (hlevel : csr.level.toNat ≤ level.toNat)
    (hwritable : csr.readOnly = false) (hnumbered : csr.Numbered) :
    (atLevel K level).Tame
      (writeCsrOf specifier value mask csr : CoreM β _ _) := by
  have hmachine : csr.level = .machine → level = .machine := by
    intro h
    rw [h] at hlevel
    cases level with
    | machine => rfl
    | supervisor => exact absurd hlevel (by decide)
    | user => exact absurd hlevel (by decide)
  have hmem : ∀ trap : Trap, trap.Aligned → ∀ f : Trap → Trap,
      (f trap).mVectorBaseAddress = trap.mVectorBaseAddress →
      (f trap).sVectorBaseAddress = trap.sVectorBaseAddress →
      (f trap).Aligned := by
    intro trap h f hm hs
    exact ⟨hm ▸ h.m, hs ▸ h.s⟩
  cases csr with
  | sstatus =>
      apply tame_onStatus
      · intro status h
        exact Status.legal_writeMstatus h
      · right
        intro status
        exact Status.bit_writeSstatus (by decide)
  | mstatus =>
      apply tame_onStatus
      · intro status h
        exact Status.legal_writeMstatus h
      · exact Or.inl (hmachine rfl)
  | mstatush =>
      apply tame_onStatus
      · intro status h
        exact Status.legal_writeMstatush h
      · exact Or.inl (hmachine rfl)
  | stvec =>
      exact tame_putTvec fun trap h => Trap.writeStvec_aligned value mask h
  | mtvec =>
      exact tame_putTvec fun trap h => Trap.writeMtvec_aligned value mask h
  | satp => exact tame_writeSatp value mask
  | mhpmcounter n => exact tame_writeMhpm hnumbered
  | mhpmcounterh n => exact tame_writeMhpm hnumbered
  | mhpmevent n => exact tame_writeMhpm hnumbered
  | _ =>
      first
        | exact absurd hwritable (show ¬ true = false by decide)
        | exact Tame.throw _
        | exact Tame.pure _
        | exact tame_onTrap fun trap h => hmem trap h _ rfl rfl
        | exact tame_writeElsewhere (fun _ => rfl) (fun _ => rfl)
            (fun _ => rfl) (fun _ => rfl) fun _ => rfl

/-- The checks let no register of a higher level through. -/
theorem tame_writeCsr (specifier : CsrSpecifier) (value mask : BitVec 32) :
    (atLevel K level).Tame
      (writeCsr specifier level value mask : CoreM β _ _) := by
  cases writeCsr_cases specifier level value mask (β := β) with
  | inl hthrow =>
      obtain ⟨e, he⟩ := hthrow
      rw [he]
      exact Tame.throw e
  | inr harm =>
      obtain ⟨csr, _, hlevel, hwritable, hnumbered, harm⟩ := harm
      rw [harm]
      exact tame_writeCsrOf specifier value mask hlevel hwritable hnumbered

/-! ## Instructions -/

/-- The discipline of whole instructions. -/
def core (K : BusContract β) : Discipline (State β) where
  step := InstructionStep K
  inv := Sound K
  clean := Unharmed K
  refl _ := ⟨PrivilegeLevel.le_refl _, id, id⟩
  trans hst htu :=
    { mode := PrivilegeLevel.le_trans htu.mode hst.mode
      sound := fun h => htu.sound (hst.sound h)
      confined := fun h => htu.confined (hst.confined h) }
  inv_step hst := hst.sound

/-- What keeps to the memory frame is allowed. -/
theorem MemFrame.instructionStep {s t : State β} (h : MemFrame K s t) :
    InstructionStep K s t where
  mode := h.privilegeMode ▸ PrivilegeLevel.le_refl _
  sound := (memory K).inv_step h
  confined := h.confined

/-- `sret` returns to S-mode at the most, and fails below it. -/
theorem step_sret (s : State β) :
    InstructionStep K s ((sret : CoreM β _ _) s).state := by
  cases sret_cases s with
  | inl hthrow =>
      rw [hthrow]
      exact (core K).refl s
  | inr hreturn =>
      rw [hreturn.2]
      apply returnTo_step
      · exact PrivilegeLevel.le_trans (spp_le _) hreturn.1
      · intro h
        exact h.of_touches touches_sretStatus (by decide) (by decide)

/-- `mret` fails below M-mode, which nothing is above. -/
theorem step_mret (s : State β) :
    InstructionStep K s ((mret : CoreM β _ _) s).state := by
  cases mret_cases s with
  | inl hthrow =>
      rw [hthrow]
      exact (core K).refl s
  | inr hreturn =>
      rw [hreturn.2]
      cases hmpp : s.status.mpp with
      | none => exact (core K).refl s
      | some pp =>
          apply returnTo_step
          · exact PrivilegeLevel.le_trans (PrivilegeLevel.le_machine pp)
              hreturn.1
          · exact legal_mretStatus

/-- A CSR instruction runs its write at the mode it started in. -/
theorem tame_csrOpAt_mode (config : Config) (op : CsrOp) (dest : Specifier)
    (csr : CsrSpecifier) (srcValue : Option (BitVec 32)) :
    (atLevel K level).Tame (csrOpAt config level op dest csr srcValue) := by
  apply ((executes_atLevel level).moves config).tame_csrOpAt
  intro src _
  exact tame_writeCsr csr _ _

/-- No instruction raises the privilege mode or lets MPRV out of M-mode. -/
theorem step_executeInstruction (config : Config) (instruction : Instruction)
    (s : State β) :
    InstructionStep K s (executeInstruction config instruction s).state := by
  cases instruction with
  | sret => exact step_sret s
  | mret => exact step_mret s
  | csr op dest csr src =>
      rw [executeInstruction_csr]
      exact ((tame_csrOpAt_mode config op dest csr _).step s).instructionStep
  | csri op dest csr immediate =>
      rw [executeInstruction_csri]
      exact ((tame_csrOpAt_mode config op dest csr _).step s).instructionStep
  | _ =>
      apply MemFrame.instructionStep
      apply frame_executeInstruction config
      exact not_false

/-- So `sret` keeps to the discipline. -/
theorem tame_sret : (core K).Tame (sret : CoreM β _ _) := by
  apply Tame.of_step
  · exact step_sret
  · intro s _
    exact panicked_sret s
  · intro s _ hclean
    cases sret_cases s with
    | inl hthrow =>
        rw [hthrow]
        exact hclean
    | inr hreturn =>
        rw [hreturn.2]
        exact hclean

/-- So does `mret`, which does not panic with a legal MPP. -/
theorem tame_mret : (core K).Tame (mret : CoreM β _ _) := by
  apply Tame.of_step
  · exact step_mret
  · intro s hs
    exact panicked_mret hs.status
  · intro s _ hclean
    cases mret_cases s with
    | inl hthrow =>
        rw [hthrow]
        exact hclean
    | inr hreturn =>
        rw [hreturn.2]
        cases s.status.mpp with
        | none => exact hclean
        | some pp => exact hclean

/-- Every instruction whose shift amount fits keeps to the core discipline. -/
theorem tame_core (config : Config) {instruction : Instruction}
    (hshift : instruction.ShiftFits) :
    (core K).Tame (executeInstruction config instruction : CoreM β _ _) := by
  intro s
  refine ⟨step_executeInstruction config instruction s, ?_⟩
  cases instruction with
  | sret => exact (tame_sret s).2
  | mret => exact (tame_mret s).2
  | csr op dest csr src =>
      rw [executeInstruction_csr]
      exact (tame_csrOpAt_mode config op dest csr _ s).2
  | csri op dest csr immediate =>
      rw [executeInstruction_csri]
      exact (tame_csrOpAt_mode config op dest csr _ s).2
  | _ =>
      have htame := (executes_memory.transfers config).tame_executeInstruction
        (D := memory K) hshift not_false
      exact (htame s).2

end RedPlanet.Core
