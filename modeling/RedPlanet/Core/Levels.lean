import RedPlanet.Core.Frame

/-!
# What user and supervisor code can change

At user level every instruction keeps to the memory discipline.  At
supervisor level the CSR writes and `sret` reach supervisor state, and the
machine-level state, `machineState`, is out of reach but for one register:
the dispatch sends SENVCFG to menvcfg.

The returns come first: `sret_cases` and `mret_cases` say when they succeed
and what they do then.  Then one lemma for each class of instructions, from
which `frame_executeInstruction` and `frame_of_user` are put together.
-/

namespace RedPlanet.Core

open RedPlanet.Verified Discipline

variable {β : Type}

/-! ## Trap returns -/

/-- `sret` fails, or it returns from S-mode or above. -/
theorem sret_cases (s : State β) :
    (sret : CoreM β _ _) s = .error (.illegalInstruction none) s ∨
      PrivilegeLevel.supervisor ≤ s.privilegeMode ∧
        (sret : CoreM β _ _) s
          = returnTo s.status.spp sretStatus Trap.sepc s := by
  unfold sret
  rw [Exec.get_bind]
  by_cases hmode : s.privilegeMode < .supervisor
  · rw [if_pos hmode]
    exact Or.inl rfl
  · rw [if_neg hmode]
    cases s.status.tsr with
    | true => exact Or.inl rfl
    | false => exact Or.inr ⟨Nat.le_of_not_lt hmode, rfl⟩

/-- `mret` fails, or it returns from M-mode to the level in MPP. -/
theorem mret_cases (s : State β) :
    (mret : CoreM β _ _) s = .error (.illegalInstruction none) s ∨
      PrivilegeLevel.machine ≤ s.privilegeMode ∧
        (mret : CoreM β _ _) s
          = (Exec.unwrap s.status.mpp >>= fun pp =>
              returnTo pp mretStatus Trap.mepc) s := by
  unfold mret
  rw [Exec.get_bind]
  by_cases hmode : s.privilegeMode < .machine
  · rw [if_pos hmode]
    exact Or.inl rfl
  · rw [if_neg hmode]
    exact Or.inr ⟨Nat.le_of_not_lt hmode, rfl⟩

/-- A trap return panics only if MPP is illegal. -/
theorem panicked_mret {s : State β} (h : s.status.Legal) :
    ((mret : CoreM β _ _) s).panicked = false := by
  cases mret_cases s with
  | inl hthrow =>
      rw [hthrow]
      rfl
  | inr hreturn =>
      rw [hreturn.2]
      cases hmpp : s.status.mpp with
      | none => exact absurd hmpp h
      | some pp => rfl

/-- SPP names U-mode or S-mode, so that an `sret` never panics. -/
theorem panicked_sret (s : State β) :
    ((sret : CoreM β _ _) s).panicked = false := by
  cases sret_cases s with
  | inl hthrow =>
      rw [hthrow]
      rfl
  | inr hreturn =>
      rw [hreturn.2]
      rfl

/-- An `mret` leaves U-mode in MPP, a level that exists. -/
theorem legal_mretStatus {status : Status} (h : status.Legal) :
    (mretStatus status).Legal := by
  unfold mretStatus
  apply Status.legal_setMpp
  apply Status.Legal.of_touches _ (Status.Touches.setField idx.MPIE true)
    (by decide) (by decide)
  exact h.of_touches (Status.Touches.setField idx.MIE _) (by decide)
    (by decide)

/-- SPP is one bit, and names S-mode at most. -/
theorem spp_le (status : Status) : status.spp ≤ .supervisor := by
  unfold Status.spp
  cases status.bit idx.SPP <;> decide

/-- Clearing MPRV does not touch MPP. -/
theorem legal_leaveStatus (pp : PrivilegeLevel) {f : Status → Status}
    {status : Status} (h : (f status).Legal) :
    (leaveStatus pp f status).Legal := by
  unfold leaveStatus
  by_cases hpp : pp ≠ .machine
  · rw [if_pos hpp]
    exact h.of_touches (Status.Touches.setField idx.MPRV false) (by decide)
      (by decide)
  · rw [if_neg hpp]
    exact h

/-- A return below M-mode clears MPRV. -/
theorem mprv_leaveStatus {pp : PrivilegeLevel} (h : pp ≠ .machine)
    (f : Status → Status) (status : Status) :
    (leaveStatus pp f status).mprv = false := by
  unfold leaveStatus
  rw [if_pos h]
  exact getLsbD_setBit_self _ false (by decide)

/-- An `sret` writes SIE, SPIE and SPP. -/
theorem touches_sretStatus :
    Status.Touches [idx.SIE, idx.SPIE, idx.SPP] sretStatus := by
  intro status
  exact ((Status.Touches.setField idx.SIE status.spie).comp
    (Status.Touches.setField idx.SPIE true) |>.comp
    (Status.touches_setSpp .user)) status

/-- A return that leaves M-mode writes MPRV besides. -/
theorem touches_leaveStatus (pp : PrivilegeLevel) {bits : List Nat}
    {f : Status → Status} (h : Status.Touches bits f) :
    Status.Touches (bits ++ [idx.MPRV]) (leaveStatus pp f) := by
  intro status
  unfold leaveStatus
  by_cases hpp : pp ≠ .machine
  · rw [if_pos hpp]
    exact h.comp (Status.Touches.setField idx.MPRV false) status
  · rw [if_neg hpp]
    exact h.mono (fun i hi => List.mem_append_left _ hi) status

/-! ## Ordinary instructions -/

variable [SystemBus β] [Build] {K : BusContract β}

/-- A shift by a constant changes only registers; if the amount does not fit
it panics at once. -/
theorem frame_regShamtOp (config : Config) (op : BitVec 32 → Nat → BitVec 32)
    (dest src : Specifier) (shiftAmountU5 : BitVec 32) (s : State β) :
    MemFrame K s (regShamtOp op dest src shiftAmountU5 s).state := by
  by_cases h : shiftAmountU5.toNat ≤ 31
  · exact ((executes_memory.moves config).tame_regShamtOp op dest src h).step s
  · unfold regShamtOp Exec.assert
    rw [if_neg fun hle => h (of_decide_eq_true hle)]
    exact MemFrame.refl s

/-- Ordinary instructions keep to the frame, also those whose shift amount
does not fit. -/
theorem frame_executeInstruction (config : Config) {instruction : Instruction}
    (h : ¬ instruction.Privileged) (s : State β) :
    MemFrame K s (executeInstruction config instruction s).state := by
  by_cases hshift : instruction.ShiftFits
  · exact ((executes_memory.transfers config).tame_executeInstruction hshift h).step s
  · cases instruction with
    | opShiftImm op dest src shiftAmountU5 =>
        unfold executeInstruction
        cases op <;> exact frame_regShamtOp config _ dest src shiftAmountU5 s
    | _ => exact absurd True.intro hshift

/-! ## CSR instructions -/

/-- The value a CSR instruction is to write, as `csr_reg_op` and `csr_imm_op`
compute it. -/
def csrSource (s : State β) : Instruction → Option (BitVec 32)
  | .csr op _ _ src =>
      if op = .readWrite ∨ src ≠ 0 then some (s.registers.x src) else none
  | .csri op _ _ immediate =>
      if op = .readWrite ∨ immediate ≠ 0 then some immediate else none
  | _ => none

/-- The CSR instructions with a register, as one operation on the CSR. -/
theorem executeInstruction_csr (config : Config) (op : CsrOp)
    (dest : Specifier) (csr : CsrSpecifier) (src : Specifier) (s : State β) :
    executeInstruction config (.csr op dest csr src) s
      = csrOpAt config s.privilegeMode op dest csr
          (csrSource s (.csr op dest csr src)) s := rfl

/-- The CSR instructions with an immediate. -/
theorem executeInstruction_csri (config : Config) (op : CsrOp)
    (dest : Specifier) (csr : CsrSpecifier) (immediate : BitVec 32)
    (s : State β) :
    executeInstruction config (.csri op dest csr immediate) s
      = csrOpAt config s.privilegeMode op dest csr
          (csrSource s (.csri op dest csr immediate)) s := rfl

/-- `sret` needs nothing of the configuration. -/
theorem executeInstruction_sret (config : Config) :
    (executeInstruction config .sret : CoreM β _ _) = sret := rfl

theorem executeInstruction_mret (config : Config) :
    (executeInstruction config .mret : CoreM β _ _) = mret := rfl

/-! ## User level -/

/-- The CSRs of U-mode are the counters, which are read-only. -/
theorem tame_csrOpAt_user (config : Config) (op : CsrOp) (dest : Specifier)
    (csr : CsrSpecifier) (srcValue : Option (BitVec 32)) :
    (memory K).Tame (csrOpAt config .user op dest csr srcValue) := by
  apply (executes_memory.moves config).tame_csrOpAt
  intro src _
  obtain ⟨e, he⟩ := writeCsr_user (β := β) csr (csrOperand op src).1
    (csrOperand op src).2
  rw [he]
  exact Tame.throw e

/-- In U-mode every instruction, privileged ones included, changes nothing
outside the memory frame. -/
theorem frame_of_user (config : Config) (instruction : Instruction)
    {s : State β} (h : s.privilegeMode = .user) :
    MemFrame K s (executeInstruction config instruction s).state := by
  cases instruction with
  | sret =>
      cases sret_cases s with
      | inl hthrow =>
          rw [executeInstruction_sret, hthrow]
          exact MemFrame.refl s
      | inr hreturn =>
          rw [h] at hreturn
          exact absurd hreturn.1 (by decide)
  | mret =>
      cases mret_cases s with
      | inl hthrow =>
          rw [executeInstruction_mret, hthrow]
          exact MemFrame.refl s
      | inr hreturn =>
          rw [h] at hreturn
          exact absurd hreturn.1 (by decide)
  | csr op dest csr src =>
      rw [executeInstruction_csr, h]
      exact (tame_csrOpAt_user config op dest csr _).step s
  | csri op dest csr immediate =>
      rw [executeInstruction_csri, h]
      exact (tame_csrOpAt_user config op dest csr _).step s
  | _ =>
      apply frame_executeInstruction config
      exact not_false

end RedPlanet.Core
