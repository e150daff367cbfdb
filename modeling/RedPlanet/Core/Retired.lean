import RedPlanet.Core.RawPath
import RedPlanet.Core.Faults

/-!
# Which instructions complete

`Fails` classifies, from the state before, the instructions that raise an
exception: those that are illegal, those whose memory access fails, and the
jumps to a misaligned address.  Together with ECALL and EBREAK, which always
raise one, these are all (`executeInstruction_fails_iff`).

The second half says what an instruction leaves alone.  `WrittenBy` is a part
of the state that only the writes of some CSRs change: it is the same after
every instruction that does not write one of them (`executed`), and after
every instruction that fails (`failed`).
-/

namespace RedPlanet.Core

open RedPlanet.Verified Exec Discipline

variable {β ε : Type}

/-! ## Failing -/

/-- Where a jump goes, or a branch that is taken. -/
def Instruction.target (registers : Registers) :
    Instruction → Option (BitVec 32)
  | .jal _ offset => some (registers.pc + offset)
  | .jalr _ base offset => some ((registers.x base + offset) &&& ~~~1#32)
  | .branch condition src1 src2 offset =>
      if condition.holds (registers.x src1) (registers.x src2) then
        some (registers.pc + offset)
      else none
  | _ => none

/-- The instruction jumps to an address that is not that of a word. -/
def MisalignedTarget (s : State β) (i : Instruction) : Prop :=
  ∃ newPc, i.target s.registers = some newPc ∧ isAligned WORD newPc = false

/-- A jump is judged by its target alone. -/
theorem misalignedTarget_iff {s : State β} {i : Instruction}
    {newPc : BitVec 32} (h : i.target s.registers = some newPc) :
    MisalignedTarget s i ↔ isAligned WORD newPc = false := by
  constructor
  · rintro ⟨newPc', hnew, hmisaligned⟩
    rw [h] at hnew
    cases hnew
    exact hmisaligned
  · intro hmisaligned
    exact ⟨newPc, h, hmisaligned⟩

/-- An instruction that does not jump has no target that could be misaligned.
-/
theorem not_misalignedTarget {s : State β} {i : Instruction}
    (h : i.target s.registers = none) : ¬ MisalignedTarget s i := by
  rintro ⟨newPc, hnew, _⟩
  rw [h] at hnew
  cases hnew

/-- The test of the target in front of a jump. -/
theorem jump_error_iff (newPc : BitVec 32) (f : Registers → Registers)
    (s : State β) :
    (∃ e t, (if !isAligned WORD newPc then
        Exec.throw (.instructionAddressMisaligned newPc)
      else updateRegisters f : CoreM β Exception Unit) s = .error e t) ↔
      isAligned WORD newPc = false := by
  cases isAligned WORD newPc with
  | true =>
      apply iff_of_false
      · rintro ⟨e, t, hrun⟩
        cases hrun
      · decide
  | false => exact iff_of_true ⟨_, _, rfl⟩ rfl

variable [SystemBus β] [Build]

/-- Only an instruction that accesses memory fails this way. -/
theorem AccessFails.address {config : Config} {s : State β} {i : Instruction}
    {err : MemoryError} (h : AccessFails config s i err) :
    i.address s.registers ≠ none := by
  cases h <;> exact Option.some_ne_none _

/-- The instruction raises an exception, if it is neither ECALL nor EBREAK. -/
def Fails (config : Config) (s : State β) (i : Instruction) : Prop :=
  Illegal config s i ∨ (∃ err, AccessFails config s i err) ∨
    MisalignedTarget s i

/-- An instruction that cannot be illegal and does not access memory. -/
theorem fails_iff_misalignedTarget {config : Config} {s : State β}
    {i : Instruction} (hlegal : ¬ Illegal config s i)
    (haddress : i.address s.registers = none) :
    Fails config s i ↔ MisalignedTarget s i := by
  constructor
  · rintro (hillegal | ⟨err, hfails⟩ | htarget)
    · exact absurd hillegal hlegal
    · exact absurd haddress hfails.address
    · exact htarget
  · intro htarget
    exact Or.inr (Or.inr htarget)

/-- An instruction that neither jumps nor accesses memory. -/
theorem fails_iff_illegal {config : Config} {s : State β} {i : Instruction}
    (haddress : i.address s.registers = none)
    (htarget : i.target s.registers = none) :
    Fails config s i ↔ Illegal config s i := by
  constructor
  · rintro (hillegal | ⟨err, hfails⟩ | hmisaligned)
    · exact hillegal
    · exact absurd haddress hfails.address
    · exact absurd hmisaligned (not_misalignedTarget htarget)
  · exact Or.inl

/-- A load, a store or an AMO that is not illegal. -/
theorem fails_iff_access {config : Config} {s : State β} {i : Instruction}
    (hlegal : ¬ Illegal config s i)
    (htarget : i.target s.registers = none) :
    Fails config s i ↔ ∃ err, AccessFails config s i err := by
  constructor
  · rintro (hillegal | hfails | hmisaligned)
    · exact absurd hillegal hlegal
    · exact hfails
    · exact absurd hmisaligned (not_misalignedTarget htarget)
  · intro hfails
    exact Or.inr (Or.inl hfails)

/-- `Fails` tells when an instruction other than ECALL and EBREAK raises an
exception. -/
theorem executeInstruction_fails_iff (config : Config) {i : Instruction}
    (hi : retires (.ok i) = true) (s : State β) :
    (∃ e t, executeInstruction config i s = .error e t) ↔
      Fails config s i := by
  have hillegal : ∀ i : Instruction, i.MayBeIllegal →
      i.address s.registers = none → i.target s.registers = none →
      ((∃ e t, executeInstruction config i s = .error e t) ↔
        Fails config s i) := by
    intro i hi haddress htarget
    rw [fails_iff_illegal haddress htarget, ← illegal_iff]
    constructor
    · rintro ⟨e, t, hrun⟩
      have he := raises_mayBeIllegal config hi s e t hrun
      subst he
      exact ⟨t, hrun⟩
    · rintro ⟨t, hrun⟩
      exact ⟨_, t, hrun⟩
  have hmemory : ∀ (i : Instruction) address, ¬ Illegal config s i →
      i.address s.registers = some address → i.target s.registers = none →
      ((∃ e t, executeInstruction config i s = .error e t) ↔
        Fails config s i) := by
    intro i address hlegal haddress htarget
    rw [fails_iff_access hlegal htarget]
    constructor
    · rintro ⟨e, t, hrun⟩
      obtain ⟨err, hfails, _⟩ :=
        (executeInstruction_raised_iff haddress).1 ⟨t, hrun⟩
      exact ⟨err, hfails⟩
    · rintro ⟨err, hfails⟩
      obtain ⟨t, hrun⟩ :=
        (executeInstruction_raised_iff haddress).2 ⟨err, hfails, rfl⟩
      exact ⟨_, t, hrun⟩
  have hjump : ∀ (i : Instruction) newPc f, ¬ Illegal config s i →
      i.address s.registers = none → i.target s.registers = some newPc →
      executeInstruction config i s =
        (if !isAligned WORD newPc then
          Exec.throw (.instructionAddressMisaligned newPc)
        else updateRegisters f : CoreM β Exception Unit) s →
      ((∃ e t, executeInstruction config i s = .error e t) ↔
        Fails config s i) := by
    intro i newPc f hlegal haddress htarget hrun
    rw [fails_iff_misalignedTarget hlegal haddress,
      misalignedTarget_iff htarget, hrun]
    exact jump_error_iff newPc f s
  have hsucceeds : ∀ i : Instruction, ¬ Illegal config s i →
      i.address s.registers = none → i.target s.registers = none →
      (∀ e t, executeInstruction config i s ≠ .error e t) →
      ((∃ e t, executeInstruction config i s = .error e t) ↔
        Fails config s i) := by
    intro i hlegal haddress htarget hrun
    rw [fails_iff_illegal haddress htarget]
    apply iff_of_false
    · rintro ⟨e, t, herror⟩
      exact hrun e t herror
    · exact hlegal
  cases i with
  | csr => exact hillegal _ True.intro rfl rfl
  | csri => exact hillegal _ True.intro rfl rfl
  | mret => exact hillegal _ True.intro rfl rfl
  | sret => exact hillegal _ True.intro rfl rfl
  | wfi => exact hillegal _ True.intro rfl rfl
  | sfenceVma => exact hillegal _ True.intro rfl rfl
  | load => exact hmemory _ _ not_false rfl rfl
  | store => exact hmemory _ _ not_false rfl rfl
  | amo => exact hmemory _ _ not_false rfl rfl
  | jal => exact hjump _ _ _ not_false rfl rfl rfl
  | jalr => exact hjump _ _ _ not_false rfl rfl rfl
  | branch condition src1 src2 offset =>
      by_cases htaken : condition.holds (s.registers.x src1)
          (s.registers.x src2) = true
      · have htarget : (Instruction.branch condition src1 src2
            offset).target s.registers = some (s.registers.pc + offset) :=
          if_pos htaken
        refine hjump _ _ (Registers.setPc (s.registers.pc + offset))
          not_false rfl htarget ?_
        show (condBranch condition.holds src1 src2 offset : CoreM β _ _) s = _
        unfold condBranch
        rw [get_bind, if_pos htaken]
      · have htarget : (Instruction.branch condition src1 src2
            offset).target s.registers = none := if_neg htaken
        apply hsucceeds _ (by exact not_false) rfl htarget
        intro e t hrun
        change (condBranch condition.holds src1 src2 offset :
          CoreM β _ _) s = _ at hrun
        unfold condBranch at hrun
        rw [get_bind, if_neg htaken] at hrun
        cases hrun
  | opShiftImm op dest src shiftAmountU5 =>
      apply hsucceeds _ (by exact not_false) rfl rfl
      have hshift : ∀ f, Infallible
          (regShamtOp f dest src shiftAmountU5 : CoreM β _ _) := by
        intro f
        exact infallible_bind (infallible_assert _)
          fun _ => infallible_updateRegisters _
      intro e t
      cases op <;> exact hshift _ s e t
  | opImm op =>
      apply hsucceeds _ (by exact not_false) rfl rfl
      intro e t hrun
      cases op <;> cases hrun
  | ecall => cases hi
  | ebreak => cases hi
  | _ =>
      apply hsucceeds _ (by exact not_false) rfl rfl
      intro e t hrun
      cases hrun

/-! ## What an instruction leaves alone -/

/-- The CSR that an instruction names. -/
def Instruction.specifier : Instruction → Option CsrSpecifier
  | .csr _ _ specifier _ | .csri _ _ specifier _ => some specifier
  | _ => none

omit [SystemBus β] [Build] in
/-- The instruction has something to write to the register. -/
def Instruction.Writes (s : State β) (i : Instruction) (csr : Csr) : Prop :=
  csrSource s i ≠ none ∧
    ∃ specifier, i.specifier = some specifier ∧
      Csr.ofSpecifier specifier = some csr

/-- A part of the state that is changed by the writes of some registers, and
otherwise by no instruction. -/
structure WrittenBy {τ : Type} (view : State β → τ) (registers : Csr → Prop) :
    Prop where
  frame : ∀ {s t : State β}, MemFrame BusContract.trivial s t →
    view t = view s
  status : ∀ f (s : State β), view (s.onStatus f) = view s
  mode : ∀ mode (s : State β), view (s.setPrivilegeMode mode) = view s
  write : ∀ {csr}, ¬ registers csr → ∀ specifier value mask (s : State β),
    view ((writeCsrOf specifier value mask csr : CoreM β _ _) s).state =
      view s

omit [Build] in
/-- A CSR operation that fails does so in its read, or without writing. -/
theorem failsTame_csrOpAt {D : Discipline (State β)} (hD : Executes D)
    (config : Config) (level : PrivilegeLevel) (op : CsrOp)
    (dest : Specifier) (specifier : CsrSpecifier)
    (srcValue : Option (BitVec 32)) :
    D.FailsTame (csrOpAt config level op dest specifier srcValue :
      CoreM β Exception Unit) := by
  have hend : D.FailsTame
      ((csrWrite op specifier level srcValue : CoreM β Exception Unit) >>=
        fun _ => updateRegisters Registers.incrementPc) :=
    failsTame_csrWrite op specifier level srcValue
  unfold csrOpAt
  apply FailsTame.ite
  · intro _
    exact FailsTame.bind ((hD.moves config).tame_csrRead dest specifier level)
      fun _ => hend
  · intro _
    exact hend

namespace WrittenBy

variable {τ : Type} {view : State β → τ} {registers : Csr → Prop}

/-- The discipline of leaving the view alone. -/
theorem executes (h : WrittenBy view registers) : Executes (keeping view) := by
  apply (executes_memory (K := BusContract.trivial)).imp
  · intro s hinv
    exact hinv.elim
  · intro s hinv
    exact hinv.elim
  · intro ε α m hm
    exact hm.keeping fun _ _ hframe => h.frame hframe

omit [Build] in
/-- A write of a register that is none of these leaves the view alone. -/
theorem tame_writeCsr (h : WrittenBy view registers)
    {specifier : CsrSpecifier}
    (hspecifier : ∀ csr, Csr.ofSpecifier specifier = some csr →
      ¬ registers csr) (level : PrivilegeLevel) (value mask : BitVec 32) :
    (keeping view).Tame
      (writeCsr specifier level value mask : CoreM β _ _) := by
  cases writeCsr_cases specifier level value mask (β := β) with
  | inl hthrow =>
      obtain ⟨e, he⟩ := hthrow
      rw [he]
      exact Tame.throw e
  | inr harm =>
      obtain ⟨csr, hcsr, _, _, _, harm⟩ := harm
      rw [harm]
      apply tame_keeping
      intro s
      exact h.write (hspecifier csr hcsr) specifier value mask s

omit [Build] in
/-- A return changes the status, the mode and the pc, none of which the view
looks at. -/
theorem returnTo (h : WrittenBy view registers) (pp : PrivilegeLevel)
    (status : Status → Status) (epc : Trap → BitVec 32) (s : State β) :
    view ((Core.returnTo pp status epc : CoreM β ε Unit) s).state =
      view s := by
  have hregisters := h.frame (MemFrame.onRegisters
    (Registers.setPc (epc s.trap))
    ((s.onStatus (leaveStatus pp status)).setPrivilegeMode pp))
  exact hregisters.trans ((h.mode _ _).trans (h.status _ _))

/-- An instruction that writes none of the registers. -/
theorem executed (h : WrittenBy view registers) (config : Config)
    (i : Instruction) (s : State β)
    (hwrites : ∀ csr, i.Writes s csr → ¬ registers csr) :
    view (executeInstruction config i s).state = view s := by
  have hcsr : ∀ op dest specifier srcValue,
      (srcValue ≠ none → ∀ csr, Csr.ofSpecifier specifier = some csr →
        ¬ registers csr) →
      view (csrOpAt config s.privilegeMode op dest specifier srcValue
        s).state = view s := by
    intro op dest specifier srcValue hnot
    apply Tame.step (D := keeping view)
    apply (h.executes.moves config).tame_csrOpAt
    intro src hsrc
    apply h.tame_writeCsr
    apply hnot
    rw [hsrc]
    exact Option.some_ne_none src
  cases i with
  | csr op dest specifier src =>
      exact hcsr _ _ _ _ fun hsrc csr hspecifier =>
        hwrites csr ⟨hsrc, specifier, rfl, hspecifier⟩
  | csri op dest specifier immediate =>
      exact hcsr _ _ _ _ fun hsrc csr hspecifier =>
        hwrites csr ⟨hsrc, specifier, rfl, hspecifier⟩
  | sret =>
      rw [executeInstruction_sret]
      rcases sret_cases s with hthrow | ⟨_, hreturn⟩
      · rw [hthrow]
        rfl
      · rw [hreturn]
        exact h.returnTo _ _ _ s
  | mret =>
      rw [executeInstruction_mret]
      rcases mret_cases s with hthrow | ⟨_, hreturn⟩
      · rw [hthrow]
        rfl
      · rw [hreturn]
        cases s.status.mpp with
        | none => rfl
        | some pp => exact h.returnTo _ _ _ s
  | _ =>
      exact h.frame
        (frame_executeInstruction config (by exact not_false) s)

/-- An instruction that fails has written none of them. -/
theorem failed (h : WrittenBy view registers) {config : Config}
    {i : Instruction} {s t : State β} {e : Exception}
    (hrun : executeInstruction config i s = .error e t) :
    view t = view s := by
  have hother : i.specifier = none → view t = view s := by
    intro hnone
    have hkept := h.executed config i s fun csr hwrites => by
      obtain ⟨_, specifier, hspecifier, _⟩ := hwrites
      rw [hnone] at hspecifier
      cases hspecifier
    rw [hrun] at hkept
    exact hkept
  cases i with
  | csr op dest specifier src =>
      exact failsTame_csrOpAt h.executes _ _ _ _ _ _ s e t hrun
  | csri op dest specifier immediate =>
      exact failsTame_csrOpAt h.executes _ _ _ _ _ _ s e t hrun
  | _ => exact hother rfl

end WrittenBy

end RedPlanet.Core
