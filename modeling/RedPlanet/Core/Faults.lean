import RedPlanet.Core.EntryUpdates
import RedPlanet.Core.Frame

/-!
# Instructions that trap

What an instruction that ends in an exception has changed by then.  Loads and
translation change nothing but the A and D bits of page table entries, and a
store comes last; the two instructions that write `dest` before the step that
may still fail are the CSR operations and SC.

`Untouched` is what a trap ought to find.  It is the step of a discipline, and
`FailsTame` says that a program keeps to it when it fails; for every
instruction that is not of `Instruction.WritesEarly` this follows from its text
(`Loads.failsTame_executeInstruction`).  For the other two `csrOp_error` and
`sc_error` say what was written, and `trapped_untouched_iff` puts the two
together.
-/

namespace RedPlanet.Core

open RedPlanet.Verified Discipline

variable {β : Type} [SystemBus β]

/-! ## States that differ in A and D bits -/

/-- One state has the memory of the other, but for the A and D bits of a leaf
that a translation there ends at. -/
def Marks (M : Memory β) (s t : State β) : Prop :=
  M.Kept (fun _ => False) s t ∨
    ∃ address accessType privilegeLevel level entryAddress entry u,
      LeafAt readPte address accessType privilegeLevel s level entryAddress
          entry u ∧
        M.Kept (InAccess entryAddress 4) s t ∧
        (M.Ram s.bus entryAddress 4 →
          M.pte s.bus entryAddress = entry ∧
            ∃ a d, M.pte t.bus entryAddress = entry.setAD a d)

/-- The registers, the mode and the CSRs are the same, but for the bits of mip
that devices drive, and the memory is but for A and D bits of page table
entries. -/
structure Untouched (K : BusContract β) (M : Memory β) (s t : State β) :
    Prop where
  registers : t.registers = s.registers
  frame : MemFrame K s t
  memory : Relation.ReflTransGen (Marks M) s t

namespace Untouched

variable {K : BusContract β} {M : Memory β} {s t u : State β}

theorem refl (s : State β) : Untouched K M s s where
  registers := rfl
  frame := MemFrame.refl s
  memory := Relation.ReflTransGen.refl

/-- Both parts of a program leave the state untouched. -/
theorem trans (hst : Untouched K M s t) (htu : Untouched K M t u) :
    Untouched K M s u where
  registers := htu.registers.trans hst.registers
  frame := hst.frame.trans htu.frame
  memory := hst.memory.trans htu.memory

end Untouched

/-- Leave a state untouched, with nothing said about panics. -/
def untouched (K : BusContract β) (M : Memory β) : Discipline (State β) where
  step := Untouched K M
  inv _ := False
  clean _ := True
  refl := Untouched.refl
  trans := Untouched.trans
  inv_step _ h := h

section Loads

variable [Build] {K : BusContract β} {M : Memory β}

omit [Build] in
/-- Accesses to the bus leave the registers alone. -/
theorem accesses_registers :
    Accesses (keeping (State.registers (β := β))) where
  legal h := h.elim
  aligned h := h.elim
  read address buf := by
    apply tame_keeping
    intro s
    unfold busRead
    dsimp only [State.record]
    cases SystemBus.read address buf s.bus <;> rfl
  write address buf _ := by
    apply tame_keeping
    intro s
    unfold busWrite
    dsimp only [State.record]
    cases SystemBus.write address buf s.bus <;> rfl

omit [SystemBus β] [Build] in
theorem Pte.stored_eq_setAD (entry : Pte) (accessType : AccessType) :
    ∃ a d, entry.stored accessType = entry.setAD a d := by
  unfold Pte.stored
  by_cases hupdate : entry.needsUpdate accessType = true
  · rw [if_pos hupdate]
    exact ⟨_, _, rfl⟩
  · rw [if_neg hupdate]
    exact ⟨_, _, (marked_of_not_needsUpdate (by simpa using hupdate)).symm⟩

/-- A translation marks the leaf it ends at. -/
theorem marks_translateAddress (address : BitVec 32) (accessType : AccessType)
    (privilegeLevel : PrivilegeLevel) (s : State β) :
    Marks M s (translateAddress address accessType privilegeLevel s).state := by
  cases translateAddress_kept M address accessType privilegeLevel s with
  | inl hkept => exact Or.inl hkept
  | inr hkept =>
      obtain ⟨hs, level, entryAddress, entry, u, hleaf, hkept⟩ := hkept
      refine Or.inr ⟨_, _, _, level, entryAddress, entry, u, hleaf, hkept, ?_⟩
      intro hram
      obtain ⟨hentry, hstored⟩ := pte_translateAddress hs hleaf hram
      refine ⟨hentry, ?_⟩
      rw [hstored]
      exact entry.stored_eq_setAD accessType

/-- Loads and translations leave the state untouched, whatever they end in. -/
theorem loads_untouched : Loads (untouched K M) where
  legal h := h.elim
  aligned h := h.elim
  read address buf := by
    intro s
    refine ⟨?_, fun h => h.elim⟩
    exact
      { registers := (accesses_registers.read address buf).step s
        frame := (executes_memory.read address buf).step s
        memory := Relation.ReflTransGen.single
          (Or.inl (Memory.kept_busRead address buf s)) }
  translate address accessType privilegeLevel := by
    intro s
    refine ⟨?_, fun h => h.elim⟩
    exact
      { registers := (accesses_registers.tame_translateAddress address accessType
          privilegeLevel).step s
        frame := (executes_memory.tame_translateAddress address accessType
          privilegeLevel).step s
        memory := Relation.ReflTransGen.single
          (marks_translateAddress address accessType privilegeLevel s) }

end Loads

/-! ## Instructions by their kind -/

section Kinds

variable {D : Discipline (State β)} {ε : Type}

omit [SystemBus β] in
theorem failsTame_updateRegisters (f : Registers → Registers) :
    D.FailsTame (updateRegisters f : CoreM β ε _) :=
  (infallible_modify _).failsTame

omit [SystemBus β] in
/-- A load writes its register last, when it can no longer fail. -/
theorem failsTame_loadOp {op : BitVec 32 → CoreM β MemoryError (BitVec 32)}
    (hop : ∀ address, D.Tame (op address)) (dest base : Specifier)
    (offset : BitVec 32) : D.FailsTame (loadOp op dest base offset) := by
  unfold loadOp
  apply FailsTame.bind Tame.get
  intro s
  apply FailsTame.bind (Tame.mapError _ (hop _))
  intro value
  exact failsTame_updateRegisters _

omit [SystemBus β] in
/-- A store does nothing after its memory operation. -/
theorem failsTame_storeOp
    {op : BitVec 32 → BitVec 32 → CoreM β MemoryError Unit}
    (hop : ∀ address value, D.FailsTame (op address value))
    (src base : Specifier) (offset : BitVec 32) :
    D.FailsTame (storeOp op src base offset) := by
  unfold storeOp
  apply FailsTame.bind Tame.get
  intro s
  apply FailsTame.bind_infallible (FailsTame.mapError _ (hop _ _))
  intro _
  exact infallible_modify _

omit [SystemBus β] in
/-- A jump checks its target before it changes the registers. -/
theorem failsTame_jumpOp (dest : Specifier)
    (computeTarget : Registers → BitVec 32) :
    D.FailsTame (jumpOp dest computeTarget : CoreM β _ _) := by
  unfold jumpOp
  apply FailsTame.bind Tame.get
  intro s
  apply FailsTame.ite
  · intro _
    exact (Tame.throw _).failsTame
  · intro _
    exact failsTame_updateRegisters _

omit [SystemBus β] in
theorem failsTame_condBranch (predicate : BitVec 32 → BitVec 32 → Bool)
    (src1 src2 : Specifier) (offset : BitVec 32) :
    D.FailsTame (condBranch predicate src1 src2 offset : CoreM β _ _) := by
  unfold condBranch
  apply FailsTame.bind Tame.get
  intro s
  apply FailsTame.ite
  · intro _
    apply FailsTame.ite
    · intro _
      exact (Tame.throw _).failsTame
    · intro _
      exact failsTame_updateRegisters _
  · intro _
    exact failsTame_updateRegisters _

/-- A write to the bus panics or succeeds. -/
theorem infallible_busWrite (address : BitVec 32) (buf : List (BitVec 8)) :
    Infallible (busWrite address buf : CoreM β ε _) := by
  intro s e t h
  unfold busWrite at h
  dsimp only [State.record] at h
  cases hwrite : SystemBus.write address buf s.bus with
  | none =>
      rw [hwrite] at h
      cases h
  | some reply =>
      rw [hwrite] at h
      cases h

namespace Loads

variable [Build] (hD : Loads D)

include hD

/-- A write fails before it reaches the bus. -/
theorem failsTame_mmuWrite (config : Config) (address : BitVec 32)
    (buf : List (BitVec 8)) (privilegeLevel : PrivilegeLevel) :
    D.FailsTame (mmuWrite config address buf privilegeLevel : CoreM β _ _) := by
  unfold mmuWrite
  apply FailsTame.bind (hD.tame_accessVirtual _ _ _ _ _)
  intro physicalAddress
  exact (infallible_busWrite _ _).failsTame

theorem failsTame_writeByte (config : Config) (address : BitVec 32)
    (value : BitVec 8) :
    D.FailsTame (writeByte config address value : CoreM β _ _) := by
  unfold writeByte
  apply FailsTame.bind (tame_effectivePrivilegeMode hD.legal)
  intro privilegeLevel
  exact hD.failsTame_mmuWrite _ _ _ _

theorem failsTame_writeUnit (config : Config) (size : Nat)
    (address : BitVec 32) (value : BitVec (8 * size)) :
    D.FailsTame (writeUnit config size address value : CoreM β _ _) := by
  unfold writeUnit
  apply FailsTame.bind (tame_effectivePrivilegeMode hD.legal)
  intro privilegeLevel
  apply FailsTame.bind Tame.get
  intro s
  exact hD.failsTame_mmuWrite _ _ _ _

theorem failsTame_storeWidth (config : Config) (width : StoreWidth)
    (address value : BitVec 32) :
    D.FailsTame (width.write config address value : CoreM β _ _) := by
  cases width with
  | sb => exact hD.failsTame_writeByte _ _ _
  | sh => exact hD.failsTame_writeUnit _ _ _ _
  | sw => exact hD.failsTame_writeUnit _ _ _ _

/-- A read-modify-write fails before it stores. -/
theorem failsTame_amoOpWith (config : Config)
    (op : BitVec 32 → BitVec 32 → BitVec 32) (dest src addr : Specifier) :
    D.FailsTame (amoOpWith config op dest src addr : CoreM β _ _) := by
  unfold amoOpWith
  apply FailsTame.bind Tame.get
  intro s
  apply FailsTame.ite
  · intro _
    exact (Tame.throw _).failsTame
  · intro _
    apply FailsTame.bind (Tame.mapError _ (hD.tame_readUnit _ _ _))
    intro memValue
    apply FailsTame.bind_infallible
      (FailsTame.mapError _ (hD.failsTame_writeUnit _ _ _ _))
    intro _
    exact infallible_modify _

/-- So do all atomic operations but SC. -/
theorem failsTame_executeAmo (config : Config) {op : AmoOp} (hop : op ≠ .sc)
    (dest src addr : Specifier) :
    D.FailsTame (executeAmo config op dest src addr : CoreM β _ _) := by
  cases op with
  | lr =>
      unfold executeAmo lr
      apply failsTame_loadOp
      intro address
      apply Tame.ite
      · intro _
        exact Tame.throw _
      · intro _
        exact hD.tame_readUnit _ _ _
  | sc => exact absurd rfl hop
  | _ =>
      unfold executeAmo
      exact hD.failsTame_amoOpWith config _ dest src addr

end Loads

end Kinds

/-! ## The instructions that write early -/

/-- The instructions that write `dest` before the last step that may fail. -/
def Instruction.WritesEarly : Instruction → Prop
  | csr _ _ _ _ | csri _ _ _ _ => True
  | amo amoOp _ _ _ _ _ => amoOp = .sc
  | _ => False

/-- All the others keep to the discipline when they fail. -/
theorem Loads.failsTame_executeInstruction [Build] {D : Discipline (State β)}
    (hD : Loads D) (config : Config) {instruction : Instruction}
    (h : ¬ instruction.WritesEarly) :
    D.FailsTame (executeInstruction config instruction : CoreM β _ _) := by
  cases instruction with
  | opImm op dest src immediate =>
      unfold executeInstruction
      cases op <;> exact failsTame_updateRegisters _
  | opShiftImm op dest src shiftAmountU5 =>
      have hshift : ∀ shift, D.FailsTame
          (regShamtOp shift dest src shiftAmountU5 : CoreM β _ _) := by
        intro shift
        unfold regShamtOp
        apply FailsTame.bind_infallible (infallible_assert _).failsTame
        intro _
        exact infallible_modify _
      unfold executeInstruction
      cases op <;> exact hshift _
  | auipc dest immediate => exact failsTame_updateRegisters _
  | lui dest immediate => exact failsTame_updateRegisters _
  | amo op aq rl src addr dest =>
      unfold executeInstruction
      exact hD.failsTame_executeAmo config h dest src addr
  | op op dest src1 src2 => exact failsTame_updateRegisters _
  | jal dest offset =>
      unfold executeInstruction jal
      exact failsTame_jumpOp _ _
  | jalr dest base offset =>
      unfold executeInstruction jalr
      exact failsTame_jumpOp _ _
  | branch condition src1 src2 offset =>
      unfold executeInstruction
      exact failsTame_condBranch _ _ _ _
  | load width dest base offset =>
      exact failsTame_loadOp (hD.tame_loadWidth config width) dest base offset
  | store width src base offset =>
      exact failsTame_storeOp (hD.failsTame_storeWidth config width) src base
        offset
  | fence predecessor successor => exact failsTame_updateRegisters _
  | ecall => exact tame_ecall.failsTame
  | ebreak => exact (Tame.throw _).failsTame
  | sret =>
      unfold executeInstruction sret
      apply FailsTame.bind Tame.get
      intro s
      apply FailsTame.ite
      · intro _
        exact (Tame.throw _).failsTame
      · intro _
        apply FailsTame.ite
        · intro _
          exact (Tame.throw _).failsTame
        · intro _
          exact (infallible_modify _).failsTame
  | mret =>
      unfold executeInstruction mret
      apply FailsTame.bind Tame.get
      intro s
      apply FailsTame.ite
      · intro _
        exact (Tame.throw _).failsTame
      · intro _
        apply FailsTame.bind_infallible (infallible_unwrap _).failsTame
        intro pp
        exact infallible_modify _
  | wfi =>
      unfold executeInstruction wfi
      apply FailsTame.bind Tame.get
      intro s
      apply FailsTame.ite
      · intro _
        exact (Tame.throw _).failsTame
      · intro _
        exact failsTame_updateRegisters _
  | sfenceVma vaddr asid =>
      unfold executeInstruction sfenceVma
      apply FailsTame.bind Tame.get
      intro s
      apply FailsTame.ite
      · intro _
        exact (Tame.throw _).failsTame
      · intro _
        exact failsTame_updateRegisters _
  | csr op dest csr src => exact (h True.intro).elim
  | csri op dest csr immediate => exact (h True.intro).elim

/-- Writing a register changes nothing just if it is `x0` or holds the value.
-/
theorem Registers.setX_eq_self_iff {registers : Registers} {dest : Specifier}
    {value : BitVec 32} :
    registers.setX dest value = registers ↔
      dest = 0 ∨ registers.x dest = value := by
  unfold setX x
  by_cases hdest : dest = 0
  · rw [if_pos hdest]
    exact iff_of_true rfl (Or.inl hdest)
  · rw [if_neg hdest]
    constructor
    · intro h
      have hx : (if dest = dest then value else registers.xRegisters dest)
          = registers.xRegisters dest := congrFun (congrArg xRegisters h) dest
      rw [if_pos rfl] at hx
      exact Or.inr hx.symm
    · rintro (hzero | hvalue)
      · exact absurd hzero hdest
      · rw [← hvalue]
        congr 1
        funext other
        by_cases hother : other = dest
        · rw [if_pos hother, hother]
        · rw [if_neg hother]

section WritesEarly

variable {D : Discipline (State β)} {K : BusContract β} {M : Memory β}
  {s t u : State β} {e : Exception}

omit [SystemBus β] in
/-- A CSR is written, or nothing is. -/
theorem failsTame_writeCsr (specifier : CsrSpecifier) (level : PrivilegeLevel)
    (value mask : BitVec 32) :
    D.FailsTame (writeCsr specifier level value mask : CoreM β _ _) := by
  cases writeCsr_cases specifier level value mask (β := β) with
  | inl hthrow =>
      obtain ⟨e, he⟩ := hthrow
      rw [he]
      exact (Tame.throw e).failsTame
  | inr harm =>
      obtain ⟨csr, _, _, _, _, harm⟩ := harm
      rw [harm]
      have hput : ∀ write, D.FailsTame
          (putTvec write : CoreM β CsrWriteError Unit) := by
        intro write
        unfold putTvec
        apply FailsTame.bind Tame.get
        intro s
        apply FailsTame.bind_infallible (infallible_unwrap _).failsTame
        intro trap
        exact infallible_modify _
      cases csr with
      | stvec => exact hput _
      | mtvec => exact hput _
      | satp =>
          unfold writeCsrOf writeSatp
          apply FailsTame.bind Tame.get
          intro s
          apply FailsTame.ite
          · intro _
            exact (Tame.throw _).failsTame
          · intro _
            exact (infallible_modify _).failsTame
      | mhpmcounter n => exact (infallible_assert _).failsTame
      | mhpmcounterh n => exact (infallible_assert _).failsTame
      | mhpmevent n => exact (infallible_assert _).failsTame
      | _ =>
          unfold writeCsrOf
          first
            | exact (infallible_modify _).failsTame
            | exact (Tame.throw _).failsTame
            | exact (Tame.pure _).failsTame
            | (intro s e t h; cases h)

omit [SystemBus β] in
/-- What follows the read of a CSR instruction does nothing if it fails. -/
theorem failsTame_csrWrite (op : CsrOp) (csr : CsrSpecifier)
    (level : PrivilegeLevel) (srcValue : Option (BitVec 32)) :
    D.FailsTame (csrWrite op csr level srcValue >>= fun _ =>
      updateRegisters Registers.incrementPc : CoreM β Exception Unit) := by
  apply FailsTame.bind_infallible
  · unfold csrWrite
    cases srcValue with
    | none => exact (Tame.pure ()).failsTame
    | some src => exact FailsTame.mapError _ (failsTame_writeCsr _ _ _ _)
  · intro _
    exact infallible_modify _

/-- Where only registers were written, what counts is whether they changed. -/
theorem Untouched.registers_iff {registers : Registers}
    (hu : Untouched K M s u) (ht : t = u.onRegisters fun _ => registers) :
    Untouched K M s t ↔ registers = s.registers := by
  subst ht
  constructor
  · intro h
    exact h.registers
  · intro h
    have hsame : (u.onRegisters fun _ => registers) = u := by
      rw [h, ← hu.registers]
      rfl
    rw [hsame]
    exact hu

variable [Build]

/-- What a CSR operation that fails has done: nothing, unless it got past its
read, and then the old value is in `dest`. -/
theorem csrOp_error (config : Config) (op : CsrOp) (dest : Specifier)
    (csr : CsrSpecifier) (srcValue : Option (BitVec 32))
    (h : csrOp config op dest csr srcValue s = .error e t) :
    Untouched K M s t ↔
      ¬ (dest ≠ 0 ∧ ∃ old u, readCsr config csr s.privilegeMode s = .ok old u ∧
        s.registers.x dest ≠ old) := by
  have hend : ∀ v, (csrWrite op csr s.privilegeMode srcValue >>= fun _ =>
      updateRegisters Registers.incrementPc : CoreM β Exception Unit) v
        = .error e t → t = v := by
    intro v hv
    have hfails : (keeping id).FailsTame
        (csrWrite op csr s.privilegeMode srcValue >>= fun _ =>
          updateRegisters Registers.incrementPc : CoreM β Exception Unit) :=
      failsTame_csrWrite op csr s.privilegeMode srcValue
    exact hfails v e t hv
  have hread := ((loads_untouched (K := K) (M := M)).views config |>.tame_readCsr csr
    s.privilegeMode).step s
  unfold csrOp at h
  rw [Exec.get_bind] at h
  unfold csrOpAt at h
  by_cases hreads : op ≠ .readWrite ∨ dest ≠ 0
  · rw [if_pos hreads] at h
    unfold csrRead at h
    rw [Exec.bind_apply, Exec.bind_apply] at h
    unfold Exec.mapError at h
    cases hcsr : readCsr config csr s.privilegeMode s with
    | ok old u =>
        rw [hcsr] at h hread
        have ht := hend _ h
        rw [hread.registers_iff ht]
        show u.registers.setX dest old = s.registers ↔ _
        have hregisters : u.registers = s.registers := hread.registers
        rw [hregisters, Registers.setX_eq_self_iff]
        constructor
        · rintro hsame ⟨hdest, old', u', hread', hne⟩
          cases hread'
          cases hsame with
          | inl hzero => exact hdest hzero
          | inr heq => exact hne heq
        · intro hnot
          by_contra hchanged
          rw [not_or] at hchanged
          exact hnot ⟨hchanged.1, old, u, rfl, hchanged.2⟩
    | error e' u =>
        rw [hcsr] at h hread
        cases h
        refine iff_of_true hread ?_
        rintro ⟨_, _, _, hok, _⟩
        cases hok
    | panic u =>
        rw [hcsr] at h
        cases h
  · rw [if_neg hreads] at h
    rw [not_or, not_not, not_not] at hreads
    have ht := hend _ h
    rw [ht]
    refine iff_of_true (Untouched.refl s) ?_
    rintro ⟨hdest, _⟩
    exact hdest hreads.2

omit [SystemBus β] [Build] in
/-- A store fails where its memory operation does. -/
theorem storeOp_error {op : BitVec 32 → BitVec 32 → CoreM β MemoryError Unit}
    {src base : Specifier} {offset : BitVec 32}
    (h : storeOp op src base offset s = .error e t) :
    ∃ e', op (s.registers.x base + offset) (s.registers.x src) s
      = .error e' t := by
  unfold storeOp at h
  rw [Exec.get_bind, Exec.bind_apply] at h
  unfold Exec.mapError at h
  cases hop : op (s.registers.x base + offset) (s.registers.x src) s with
  | ok value u =>
      rw [hop] at h
      cases h
  | error e' u =>
      rw [hop] at h
      cases h
      exact ⟨e', rfl⟩
  | panic u =>
      rw [hop] at h
      cases h

/-- What SC has done when it fails: nothing, if the address is not aligned, and
otherwise there is a zero in `dest`. -/
theorem sc_error (config : Config) (dest src addr : Specifier)
    (h : sc config dest src addr s = .error e t) :
    Untouched K M s t ↔
      ¬ (dest ≠ 0 ∧ isAligned WORD (s.registers.x addr) = true ∧
        s.registers.x dest ≠ 0) := by
  obtain ⟨e', herror⟩ := storeOp_error h
  have haddress : s.registers.x addr + 0 = s.registers.x addr :=
    BitVec.add_zero _
  rw [haddress] at herror
  by_cases haligned : isAligned WORD (s.registers.x addr) = true
  · rw [if_neg (by rw [haligned]; decide)] at herror
    have hwrite : Untouched K M (s.onRegisters (Registers.setX dest 0)) t :=
      loads_untouched.failsTame_writeUnit config 4 (s.registers.x addr)
        (s.registers.x src) _ e' t herror
    have hregisters : t.registers = s.registers.setX dest 0 :=
      hwrite.registers
    constructor
    · rintro hsame ⟨hdest, _, hne⟩
      have hkept := hsame.registers
      rw [hregisters, Registers.setX_eq_self_iff] at hkept
      cases hkept with
      | inl hzero => exact hdest hzero
      | inr hzero => exact hne hzero
    · intro hnot
      have hkept : s.registers.setX dest 0 = s.registers := by
        rw [Registers.setX_eq_self_iff]
        by_contra hchanged
        rw [not_or] at hchanged
        exact hnot ⟨hchanged.1, haligned, hchanged.2⟩
      have hsame : s.onRegisters (Registers.setX dest 0) = s := by
        unfold State.onRegisters
        rw [hkept]
      rw [hsame] at hwrite
      exact hwrite
  · rw [if_pos (by simpa using haligned)] at herror
    cases herror
    refine iff_of_true (Untouched.refl s) ?_
    rintro ⟨_, hbad, _⟩
    exact haligned hbad

/-- The instruction has written `dest` when it fails: a CSR operation whose CSR
can be read and holds something else than `dest`, or an SC to an aligned
address with something else than zero in `dest`. -/
def Clobbers (config : Config) (instruction : Instruction) (s : State β) :
    Prop :=
  match instruction with
  | .csr _ dest csr _ | .csri _ dest csr _ =>
      dest ≠ 0 ∧ ∃ old u, readCsr config csr s.privilegeMode s = .ok old u ∧
        s.registers.x dest ≠ old
  | .amo .sc _ _ _ addr dest =>
      dest ≠ 0 ∧ isAligned WORD (s.registers.x addr) = true ∧
        s.registers.x dest ≠ 0
  | _ => False

end WritesEarly

/-! ## On a bus that is memory -/

/-- A bus without devices drives no bit of mip. -/
def MemoryBus.contract : BusContract MemoryBus where
  healthy _ := True
  bad _ _ := False
  wired _ := False
  healthy_read _ _ := True.intro
  healthy_write _ _ := True.intro
  wired_read := by
    intro address buf buf' bus bus' calls h call hcall
    cases h
    cases hcall
  wired_write := by
    intro address buf bus bus' calls h call hcall
    cases h
    cases hcall
  read_panics _ := iff_of_false (Option.some_ne_none _) id
  write_panics _ := iff_of_false (Option.some_ne_none _) id

/-- M-mode, with a one in `x5`. -/
def oneInX5 : State MemoryBus :=
  (State.new NoDevices.config (MemoryBus.ofWords [])).onRegisters
    (Registers.setX 5 1)

end RedPlanet.Core
