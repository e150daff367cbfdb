import RedPlanet.Core.CsrAccess

/-!
# Disciplines of the core

What a discipline must allow so that the parts of the core keep to it.
`Accesses` is enough for everything that goes through the memory management
unit and for reads of CSRs, `Executes` for the instructions, with CSR
operations and trap returns as far as their writes keep to it, and `Steps`
for a whole step.

The lemmas follow the text of `core/mmu.rs`, `core/execute.rs` and
`Core::step` once, for every such discipline, so that an invariant of the
core, a frame or the absence of panics each is a matter of a few obligations
(`tame_walk`, `tame_executeInstruction`, `tame_instruction`, `tame_step`).
The disciplines that are used are in the modules that need them.
-/

namespace RedPlanet.Core

open RedPlanet.Verified Discipline

variable {β ε : Type}

/-! ## Address arithmetic -/

/-- Adding an offset into a page to the address of the page does not
overflow. -/
theorem page_add_lt (page offset : BitVec 32) (h : offset.toNat < 4096) :
    (page <<< PAGE_SIZE_SHF).toNat + offset.toNat < 2 ^ 32 := by
  rw [BitVec.toNat_shiftLeft, Nat.shiftLeft_eq]
  show page.toNat * 4096 % 4294967296 + offset.toNat < 4294967296
  omega

/-- An entry lies within the page of its table. -/
theorem entryOffset_lt (x : BitVec 32) :
    ((x &&& PTE_COUNT_MSK) <<< PTE_SIZE_SHF).toNat < 4096 := by
  have hle : (x &&& PTE_COUNT_MSK).toNat ≤ 1023 := by
    rw [BitVec.toNat_and]
    exact Nat.and_le_right
  rw [BitVec.toNat_shiftLeft, Nat.shiftLeft_eq]
  show (x &&& PTE_COUNT_MSK).toNat * 4 % 4294967296 < 4096
  omega

/-- An offset within a page. -/
theorem pageOffset_lt (x : BitVec 32) : (x &&& PAGE_SIZE_MSK).toNat < 4096 := by
  have hle : (x &&& PAGE_SIZE_MSK).toNat ≤ 4095 := by
    rw [BitVec.toNat_and]
    exact Nat.and_le_right
  omega

/-! ## Programs that touch neither bus nor registers -/

section Anywhere

variable {σ : Type} {D : Discipline σ}

/-- An addition that does not overflow neither fails nor panics. -/
theorem tame_addChecked [Build] {a b : BitVec 32} (h : a.toNat + b.toNat < 2 ^ 32) :
    D.Tame (addChecked a b : Exec ε σ _) := by
  unfold addChecked addU32
  rw [if_neg fun hc => by omega]
  exact Tame.pure _

end Anywhere

variable {D D' : Discipline (State β)}

/-- A CSR that is a view of the state. -/
theorem tame_view (f : State β → BitVec 32) :
    D.Tame (view f : CoreM β ε _) := by
  unfold view
  apply Tame.bind Tame.get
  intro s
  exact Tame.pure _

/-- satp is read or, under TVM, is not. -/
theorem tame_readSatp : D.Tame (readSatp : CoreM β _ _) := by
  unfold readSatp
  apply Tame.bind Tame.get
  intro s
  apply Tame.ite
  · intro _
    exact Tame.throw _
  · intro _
    exact Tame.pure _

/-- An environment call only fails. -/
theorem tame_ecall : D.Tame (ecall : CoreM β _ _) := by
  unfold ecall
  apply Tame.bind Tame.get
  intro s
  split
  · exact Tame.throw _
  · exact Tame.throw _
  · exact Tame.throw _

/-- The checks in front of an access only fail. -/
theorem tame_accessVirtualPreTranslateChecks (config : Config)
    (address : BitVec 32) (size : Nat) :
    D.Tame
      (accessVirtualPreTranslateChecks config address size : CoreM β _ _) := by
  unfold accessVirtualPreTranslateChecks
  apply Tame.ite
  · intro _
    exact Tame.throw _
  · intro _
    apply Tame.ite
    · intro _
      exact Tame.throw _
    · intro _
      exact Tame.pure _

/-- The checks in front of a counter only fail. -/
theorem tame_checkAccess (check : Counteren → Bool) (specifier : CsrSpecifier)
    (name : String) :
    D.Tame (checkAccess check specifier name : CoreM β _ _) := by
  unfold checkAccess
  apply Tame.bind Tame.get
  intro s
  apply Tame.ite
  · intro _
    exact Tame.throw _
  · intro _
    apply Tame.ite
    · intro _
      exact Tame.throw _
    · intro _
      exact Tame.pure _

/-- The numbers of the performance counters are in range, so that the code
does not panic. -/
theorem tame_readMhpm {n : Nat} (h : 3 ≤ n ∧ n ≤ 31) :
    D.Tame (readMhpm n : CoreM β ε _) := by
  unfold readMhpm assertNumber
  apply Tame.bind (Tame.assert (decide_eq_true h))
  intro _
  exact Tame.pure _

theorem tame_readHpmcounter {n : Nat} (h : 3 ≤ n ∧ n ≤ 31) :
    D.Tame (readHpmcounter n : CoreM β _ _) := by
  unfold readHpmcounter assertNumber
  apply Tame.bind (Tame.assert (decide_eq_true h))
  intro _
  apply Tame.bind (tame_checkAccess _ _ _)
  intro _
  exact tame_readMhpm h

/-- A counter that is a view behind the access check. -/
theorem tame_checkedView (check : Counteren → Bool)
    (specifier : CsrSpecifier) (name : String) (f : State β → BitVec 32) :
    D.Tame (do checkAccess check specifier name; view f) := by
  apply Tame.bind (tame_checkAccess _ _ _)
  intro _
  exact tame_view f

/-- The end of a walk writes the entry, if at all, and adds an offset within
the page. -/
theorem tame_leaf [Build]
    {writePte : BitVec 32 → Pte → CoreM β MemoryError Unit}
    (hwrite : ∀ address value, D.Tame (writePte address value))
    (address : BitVec 32) (accessType : AccessType) (userMode : Bool)
    (level : Nat) (vpn entryAddress : BitVec 32) (entry : Pte) :
    D.Tame (leaf writePte address accessType userMode level vpn
      entryAddress entry) := by
  unfold leaf
  apply Tame.bind Tame.get
  intro s
  apply Tame.ite
  · intro _
    exact Tame.throw _
  · intro _
    apply Tame.ite
    · intro _
      exact Tame.throw _
    · intro _
      have hend : ∀ ppn : BitVec 32, D.Tame
          (addChecked (ppn <<< PAGE_SIZE_SHF) (address &&& PAGE_SIZE_MSK)
            : CoreM β MemoryError _) :=
        fun ppn => tame_addChecked (page_add_lt ppn _ (pageOffset_lt address))
      apply Tame.ite
      · intro _
        apply Tame.bind (Tame.mapError _ (hwrite _ _))
        intro _
        exact hend _
      · intro _
        exact hend _

/-- One turn of the walk, when the levels below are tame. -/
theorem tame_walk_succ [Build]
    {readPte : BitVec 32 → CoreM β MemoryError Pte}
    {writePte : BitVec 32 → Pte → CoreM β MemoryError Unit}
    (hread : ∀ address, D.Tame (readPte address))
    (hwrite : ∀ address value, D.Tame (writePte address value))
    {address : BitVec 32} {accessType : AccessType} {userMode : Bool}
    {level : Nat} (ppn : BitVec 32)
    (hnext : level ≠ 0 → ∀ ppn : BitVec 32, D.Tame (walk readPte writePte
      address accessType userMode level (ppn <<< PAGE_SIZE_SHF))) :
    D.Tame (walk readPte writePte address accessType userMode
      (level + 1) (ppn <<< PAGE_SIZE_SHF)) := by
  unfold walk
  apply Tame.bind
    (tame_addChecked (page_add_lt ppn _ (entryOffset_lt _)))
  intro entryAddress
  apply Tame.bind (Tame.mapError _ (hread entryAddress))
  intro entry
  apply Tame.ite
  · intro _
    exact Tame.throw _
  · intro _
    apply Tame.ite
    · intro _
      apply Tame.ite
      · intro _
        exact Tame.throw _
      · intro hlevel
        exact hnext hlevel entry.ppn
    · intro _
      exact tame_leaf hwrite _ _ _ _ _ _ _

/-- The walk, by induction on the levels left: the `unreachable!` at the end
of the loop is not reached, because the last level does not go on. -/
theorem tame_walk [Build]
    {readPte : BitVec 32 → CoreM β MemoryError Pte}
    {writePte : BitVec 32 → Pte → CoreM β MemoryError Unit}
    (hread : ∀ address, D.Tame (readPte address))
    (hwrite : ∀ address value, D.Tame (writePte address value))
    (address : BitVec 32) (accessType : AccessType) (userMode : Bool)
    (level : Nat) (ppn : BitVec 32) :
    D.Tame (walk readPte writePte address accessType userMode
      (level + 1) (ppn <<< PAGE_SIZE_SHF)) := by
  induction level generalizing ppn with
  | zero =>
      apply tame_walk_succ hread hwrite ppn
      intro hlast
      exact absurd rfl hlast
  | succ level ih =>
      apply tame_walk_succ hread hwrite ppn
      intro _
      exact ih

variable [SystemBus β]

/-- The bus accepts the access or not. -/
theorem tame_accessPhysical (address : BitVec 32) (size : Nat)
    (accessType : AccessType) :
    D.Tame
      (accessPhysical address size accessType : CoreM β _ _) := by
  unfold accessPhysical
  apply Tame.ite
  · intro _
    exact Tame.pure _
  · intro _
    exact Tame.throw _

/-! ## What a discipline must allow -/

/-- Reads of the time keep to the discipline, and its invariant rules out the
panics of the accessors of MPP and of the trap vectors. -/
structure Views (config : Config) (D : Discipline (State β)) : Prop where
  legal : ∀ {s}, D.inv s → s.status.Legal
  aligned : ∀ {s}, D.inv s → s.trap.Aligned
  time : ∀ {ε : Type}, D.Tame (readMtime config : CoreM β ε _)

/-- So do any reads from the bus. -/
structure Reads (D : Discipline (State β)) : Prop where
  legal : ∀ {s}, D.inv s → s.status.Legal
  aligned : ∀ {s}, D.inv s → s.trap.Aligned
  read : ∀ {ε : Type} (address : BitVec 32) (buf : List (BitVec 8)),
    D.Tame (busRead address buf : CoreM β ε _)

/-- Translation keeps to the discipline too, with the updates it makes to page
table entries. -/
structure Loads [Build] (D : Discipline (State β)) : Prop extends Reads D where
  translate : ∀ (address : BitVec 32) (accessType : AccessType)
    (privilegeLevel : PrivilegeLevel),
    D.Tame (translateAddress address accessType privilegeLevel : CoreM β _ _)

/-- So does any write to the bus that the core makes: none has more than four
bytes. -/
structure Accesses (D : Discipline (State β)) : Prop extends Reads D where
  write : ∀ {ε : Type} (address : BitVec 32) {buf : List (BitVec 8)},
    buf.length ≤ 4 → D.Tame (busWrite address buf : CoreM β ε _)

/-- So do the ways in which instructions change the registers: `x` registers
are written through `setX`, and the pc moves to the next instruction or to an
aligned target. -/
structure Executes (D : Discipline (State β)) : Prop extends Accesses D where
  setX : ∀ {ε : Type} (dest : Specifier) (value : Registers → BitVec 32),
    D.Tame (updateRegisters fun registers =>
      registers.setX dest (value registers) : CoreM β ε Unit)
  incrementPc : ∀ {ε : Type},
    D.Tame (updateRegisters Registers.incrementPc : CoreM β ε Unit)
  setPc : ∀ {ε : Type} (pc : BitVec 32), isAligned WORD pc = true →
    D.Tame (updateRegisters (Registers.setPc pc) : CoreM β ε Unit)

/-- The same without the bus. -/
structure Moves (config : Config) (D : Discipline (State β)) : Prop
    extends Views config D where
  setX : ∀ {ε : Type} (dest : Specifier) (value : Registers → BitVec 32),
    D.Tame (updateRegisters fun registers =>
      registers.setX dest (value registers) : CoreM β ε Unit)
  incrementPc : ∀ {ε : Type},
    D.Tame (updateRegisters Registers.incrementPc : CoreM β ε Unit)
  setPc : ∀ {ε : Type} (pc : BitVec 32), isAligned WORD pc = true →
    D.Tame (updateRegisters (Registers.setPc pc) : CoreM β ε Unit)

/-- The reads and writes that instructions make keep to the discipline, though
not every access to the bus need do so. -/
structure Transfers [Build] (config : Config) (D : Discipline (State β)) : Prop
    extends Moves config D where
  readByte : ∀ address : BitVec 32,
    D.Tame (readByte config address : CoreM β _ _)
  readUnit : ∀ {size : Nat} (address : BitVec 32),
    size ≤ 4 → D.Tame (readUnit config size address : CoreM β _ _)
  writeByte : ∀ (address : BitVec 32) (value : BitVec 8),
    D.Tame (writeByte config address value : CoreM β _ _)
  writeUnit : ∀ {size : Nat} (address : BitVec 32) (value : BitVec (8 * size)),
    size ≤ 4 → D.Tame (writeUnit config size address value : CoreM β _ _)

/-- The discipline of a program that changes the registers alone allows all
of that. -/
theorem Accesses.executes (hD : Accesses D)
    (h : ∀ {ε : Type} (f : Registers → Registers),
      D.Tame (updateRegisters f : CoreM β ε Unit)) : Executes D :=
  { hD with
    setX := fun _ _ => h _
    incrementPc := h _
    setPc := fun _ _ => h _ }

/-- An invariant that the accesses to the bus keep, with the interrupts that
they deliver. -/
theorem accesses_preserving {P : State β → Prop}
    (hrecord : ∀ s event, P s → P (s.record event))
    (hread : ∀ (s : State β) (address : BitVec 32) (buf buf' : List (BitVec 8))
      (bus : β) (calls : List IrqCall),
      SystemBus.read address buf s.bus = some (buf', bus, calls) → P s →
        P ({ s with bus := bus }.onInterrupts (Interrupts.deliverAll calls)))
    (hwrite : ∀ (s : State β) (address : BitVec 32) (buf : List (BitVec 8))
      (bus : β) (calls : List IrqCall), buf.length ≤ 4 →
      SystemBus.write address buf s.bus = some (bus, calls) → P s →
        P ({ s with bus := bus }.onInterrupts (Interrupts.deliverAll calls))) :
    Accesses (preserving P) where
  legal := fun hinv => hinv.elim
  aligned := fun hinv => hinv.elim
  read address buf := by
    apply tame_preserving
    intro s hs
    have hrec := hrecord s (.access address buf.length) hs
    unfold busRead
    generalize s.record (.access address buf.length) = t at hrec ⊢
    cases h : SystemBus.read address buf t.bus with
    | none =>
        simp only [h]
        exact hrec
    | some reply =>
        simp only [h]
        exact hread _ address buf _ _ _ h hrec
  write address buf hbuf := by
    apply tame_preserving
    intro s hs
    have hrec := hrecord s (.access address buf.length) hs
    unfold busWrite
    generalize s.record (.access address buf.length) = t at hrec ⊢
    cases h : SystemBus.write address buf t.bus with
    | none =>
        simp only [h]
        exact hrec
    | some reply =>
        simp only [h]
        exact hwrite _ address buf _ _ hbuf h hrec

/-- What keeps to a discipline that allows all this can be used under any
discipline it implies. -/
theorem Executes.imp (hD : Executes D)
    (hlegal : ∀ {s}, D'.inv s → s.status.Legal)
    (haligned : ∀ {s}, D'.inv s → s.trap.Aligned)
    (h : ∀ {ε α : Type} {m : CoreM β ε α}, D.Tame m → D'.Tame m) :
    Executes D' where
  legal := hlegal
  aligned := haligned
  read address buf := h (hD.read address buf)
  write address _ hbuf := h (hD.write address hbuf)
  setX dest value := h (hD.setX dest value)
  incrementPc := h hD.incrementPc
  setPc pc hpc := h (hD.setPc pc hpc)

/-- The time is read from the bus. -/
theorem Reads.views (hD : Reads D) (config : Config) : Views config D where
  legal := hD.legal
  aligned := hD.aligned
  time := by
    intro ε
    unfold readMtime
    apply Tame.bind (hD.read _ _)
    intro buf
    exact Tame.pure _

namespace Views

variable {config : Config} (hD : Views config D)

include hD

/-! ## Reads of CSRs -/

/-- `time` and `timeh`: a view of mtime behind the access check. -/
theorem tame_checkedMtime (check : Counteren → Bool)
    (specifier : CsrSpecifier) (name : String)
    (f : BitVec 64 → BitVec 32) :
    D.Tame (do
      checkAccess check specifier name
      let mtime ← readMtime config
      return f mtime) := by
  apply Tame.bind (tame_checkAccess _ _ _)
  intro _
  apply Tame.bind hD.time
  intro mtime
  exact Tame.pure _

/-- The assertion in the accessor holds as long as the vectors are aligned. -/
theorem tame_viewTvec {base : Trap → BitVec 32} (mode : Trap → VectorMode)
    (h : ∀ trap : Trap, trap.Aligned → base trap &&& 0b11 = 0) :
    D.Tame (viewTvec base mode : CoreM β ε _) := by
  apply Tame.get_unwrap
  intro s hinv
  rw [readTvec_isSome _ (h _ (hD.aligned hinv))]
  simp

/-- Every arm of the dispatch, for a register whose number is in range. -/
theorem tame_readCsrOf (specifier : CsrSpecifier) {csr : Csr}
    (h : csr.Numbered) :
    D.Tame (readCsrOf config specifier csr : CoreM β _ _) := by
  cases csr with
  | hpmcounter n => exact tame_readHpmcounter h
  | hpmcounterh n => exact tame_readHpmcounter h
  | mhpmcounter n => exact tame_readMhpm h
  | mhpmcounterh n => exact tame_readMhpm h
  | mhpmevent n => exact tame_readMhpm h
  | cycle => exact tame_checkedView _ _ _ _
  | cycleh => exact tame_checkedView _ _ _ _
  | instret => exact tame_checkedView _ _ _ _
  | instreth => exact tame_checkedView _ _ _ _
  | time => exact hD.tame_checkedMtime _ _ _ _
  | timeh => exact hD.tame_checkedMtime _ _ _ _
  | mtvec => exact hD.tame_viewTvec _ fun _ haligned => haligned.m
  | stvec => exact hD.tame_viewTvec _ fun _ haligned => haligned.s
  | satp => exact tame_readSatp
  | _ =>
      unfold readCsrOf
      first
        | exact Tame.throw _
        | exact Tame.pure _
        | exact tame_view _

/-- A CSR read, at whatever level. -/
theorem tame_readCsr (specifier : CsrSpecifier) (level : PrivilegeLevel) :
    D.Tame (readCsr config specifier level : CoreM β _ _) := by
  cases readCsr_cases config specifier level (β := β) with
  | inl hthrow =>
      obtain ⟨e, he⟩ := hthrow
      rw [he]
      exact Tame.throw e
  | inr harm =>
      obtain ⟨csr, _, hnumbered, harm⟩ := harm
      rw [harm]
      exact hD.tame_readCsrOf specifier hnumbered

end Views

omit [SystemBus β] in
/-- The only place where the core reads MPP outside a trap return; the
invariant keeps it legal. -/
theorem tame_effectivePrivilegeMode
    (hlegal : ∀ {s}, D.inv s → s.status.Legal) :
    D.Tame (effectivePrivilegeMode : CoreM β ε _) := by
  apply Tame.get_unwrap
  intro s hinv
  unfold State.effectivePrivilegeMode
  by_cases h : s.status.mprv = true
  · rw [if_pos h]
    exact hlegal hinv
  · rw [if_neg h]
    simp

/-! ## The memory management unit -/

/-- A load reads a byte or a unit. -/
theorem LoadWidth.tame_read [Build] {config : Config} (width : LoadWidth)
    (hbyte : ∀ address, D.Tame (readByte config address : CoreM β _ _))
    (hunit : ∀ {size : Nat} (address : BitVec 32), size ≤ 4 →
      D.Tame (readUnit config size address : CoreM β _ _))
    (address : BitVec 32) :
    D.Tame (width.read config address : CoreM β _ _) := by
  cases width with
  | lb => exact Tame.map _ (hbyte _)
  | lh => exact Tame.map _ (hunit _ (by decide))
  | lw => exact hunit _ (by decide)
  | lbu => exact Tame.map _ (hbyte _)
  | lhu => exact Tame.map _ (hunit _ (by decide))

namespace Loads

variable [Build] (hD : Loads D)

include hD

/-- The address is checked, translated and checked again. -/
theorem tame_accessVirtual (config : Config) (address : BitVec 32)
    (size : Nat) (accessType : AccessType) (privilegeLevel : PrivilegeLevel) :
    D.Tame (accessVirtual config address size accessType
      privilegeLevel : CoreM β _ _) := by
  unfold accessVirtual
  apply Tame.bind (tame_accessVirtualPreTranslateChecks _ _ _)
  intro _
  apply Tame.bind (hD.translate _ _ _)
  intro physicalAddress
  apply Tame.bind (tame_accessPhysical _ _ _)
  intro _
  exact Tame.pure _

/-- A read at some level. -/
theorem tame_mmuRead (config : Config) (size : Nat) (address : BitVec 32)
    (privilegeLevel : PrivilegeLevel) (execute : Bool) :
    D.Tame
      (mmuRead config size address privilegeLevel execute : CoreM β _ _) := by
  unfold mmuRead
  apply Tame.bind (hD.tame_accessVirtual _ _ _ _ _)
  intro physicalAddress
  exact hD.read _ _

/-- A load of a byte. -/
theorem tame_readByte (config : Config) (address : BitVec 32) :
    D.Tame (readByte config address : CoreM β _ _) := by
  unfold readByte
  apply Tame.bind (tame_effectivePrivilegeMode hD.legal)
  intro privilegeLevel
  apply Tame.bind (hD.tame_mmuRead _ _ _ _ _)
  intro buf
  exact Tame.pure _

/-- A load of some more bytes. -/
theorem tame_readUnit (config : Config) (size : Nat) (address : BitVec 32) :
    D.Tame (readUnit config size address : CoreM β _ _) := by
  unfold readUnit
  apply Tame.bind (tame_effectivePrivilegeMode hD.legal)
  intro privilegeLevel
  apply Tame.bind (hD.tame_mmuRead _ _ _ _ _)
  intro buf
  apply Tame.bind Tame.get
  intro s
  exact Tame.pure _

/-- A fetch, at the level of the core itself. -/
theorem tame_fetchInstruction (config : Config) (address : BitVec 32) :
    D.Tame (fetchInstruction config address : CoreM β _ _) := by
  unfold fetchInstruction
  apply Tame.ite
  · intro _
    exact Tame.throw _
  · intro _
    apply Tame.bind Tame.get
    intro s
    apply Tame.bind (hD.tame_mmuRead _ _ _ _ _)
    intro buf
    exact Tame.pure _

theorem tame_loadWidth (config : Config) (width : LoadWidth)
    (address : BitVec 32) :
    D.Tame (width.read config address : CoreM β _ _) :=
  width.tame_read (hD.tame_readByte config)
    (fun address _ => hD.tame_readUnit config _ address) address

end Loads

namespace Accesses

variable (hD : Accesses D)

include hD

/-- An entry is read from the bus. -/
theorem tame_readPte (address : BitVec 32) :
    D.Tame (readPte address : CoreM β _ _) := by
  unfold readPte
  apply Tame.bind (tame_accessPhysical _ _ _)
  intro _
  apply Tame.bind (hD.read _ _)
  intro buf
  exact Tame.pure _

/-- An entry has four bytes. -/
theorem tame_writePte (address : BitVec 32) (value : Pte) :
    D.Tame (writePte address value : CoreM β _ _) := by
  unfold writePte
  apply Tame.bind (tame_accessPhysical _ _ _)
  intro _
  exact hD.write _ (Nat.le_refl 4)

variable [Build]

/-- The walk, or no translation at all. -/
theorem tame_translateAddress (address : BitVec 32) (accessType : AccessType)
    (privilegeLevel : PrivilegeLevel) :
    D.Tame
      (translateAddress address accessType privilegeLevel : CoreM β _ _) := by
  unfold translateAddress translateAddressCommon
  apply Tame.bind Tame.get
  intro s
  split
  · exact Tame.pure _
  · exact Tame.pure _
  · exact tame_walk hD.tame_readPte hD.tame_writePte _ _ _ _ _

/-- What is allowed for every access is allowed for loads. -/
theorem loads : Loads D :=
  { hD with translate := hD.tame_translateAddress }

/-- A write of up to four bytes at some level. -/
theorem tame_mmuWrite (config : Config) (address : BitVec 32)
    {buf : List (BitVec 8)} (hbuf : buf.length ≤ 4)
    (privilegeLevel : PrivilegeLevel) :
    D.Tame
      (mmuWrite config address buf privilegeLevel : CoreM β _ _) := by
  unfold mmuWrite
  apply Tame.bind (hD.loads.tame_accessVirtual _ _ _ _ _)
  intro physicalAddress
  exact hD.write _ hbuf

/-- A store of a byte. -/
theorem tame_writeByte (config : Config) (address : BitVec 32)
    (value : BitVec 8) :
    D.Tame (writeByte config address value : CoreM β _ _) := by
  unfold writeByte
  apply Tame.bind (tame_effectivePrivilegeMode hD.legal)
  intro privilegeLevel
  apply hD.tame_mmuWrite
  show 1 ≤ 4
  decide

/-- A store of some more bytes. -/
theorem tame_writeUnit (config : Config) {size : Nat} (address : BitVec 32)
    (value : BitVec (8 * size)) (hsize : size ≤ 4) :
    D.Tame (writeUnit config size address value : CoreM β _ _) := by
  unfold writeUnit
  apply Tame.bind (tame_effectivePrivilegeMode hD.legal)
  intro privilegeLevel
  apply Tame.bind Tame.get
  intro s
  apply hD.tame_mmuWrite
  split <;> simp [hsize]

end Accesses

/-- The instructions that can change more than registers and memory: CSR
operations and trap returns. -/
def Instruction.Privileged : Instruction → Prop
  | sret | mret | csr _ _ _ _ | csri _ _ _ _ => True
  | _ => False

namespace Moves

variable {config : Config} (hD : Moves config D)

include hD

/-! ## Instructions -/

/-- Write an `x` register and go on to the next instruction. -/
theorem tame_setX_incrementPc (dest : Specifier)
    (value : Registers → BitVec 32) :
    D.Tame (updateRegisters fun registers =>
      (registers.setX dest (value registers)).incrementPc : CoreM β ε Unit) :=
  Tame.bind (hD.setX dest value) fun _ => hD.incrementPc

/-- Write an `x` register and jump. -/
theorem tame_setPc_setX (dest : Specifier) (value : Registers → BitVec 32)
    {pc : BitVec 32} (h : isAligned WORD pc = true) :
    D.Tame (updateRegisters fun registers =>
      (registers.setPc pc).setX dest (value registers) : CoreM β ε Unit) := by
  have hcomm : ∀ registers : Registers,
      (registers.setPc pc).setX dest (value registers)
        = (registers.setX dest (value registers)).setPc pc := by
    intro registers
    unfold Registers.setX Registers.setPc
    by_cases hdest : dest = 0
    · rw [if_pos hdest, if_pos hdest]
    · rw [if_neg hdest, if_neg hdest]
  simp only [hcomm]
  exact Tame.bind (hD.setX dest value) fun _ => hD.setPc pc h

/-- An operation with an immediate. -/
theorem tame_regImmOp (op : BitVec 32 → BitVec 32 → BitVec 32)
    (dest src : Specifier) (immediate : BitVec 32) :
    D.Tame (regImmOp op dest src immediate : CoreM β _ _) :=
  hD.tame_setX_incrementPc dest _

/-- A shift by an amount that fits. -/
theorem tame_regShamtOp (op : BitVec 32 → Nat → BitVec 32)
    (dest src : Specifier) {shiftAmountU5 : BitVec 32}
    (h : shiftAmountU5.toNat ≤ 31) :
    D.Tame (regShamtOp op dest src shiftAmountU5 : CoreM β _ _) := by
  unfold regShamtOp
  apply Tame.bind (Tame.assert (decide_eq_true h))
  intro _
  exact hD.tame_setX_incrementPc dest _

/-- A jump, unless its target is misaligned. -/
theorem tame_jumpOp (dest : Specifier)
    (computeTarget : Registers → BitVec 32) :
    D.Tame (jumpOp dest computeTarget : CoreM β _ _) := by
  unfold jumpOp
  apply Tame.bind Tame.get
  intro s
  apply Tame.ite
  · intro _
    exact Tame.throw _
  · intro haligned
    exact hD.tame_setPc_setX dest _ (by simpa using haligned)

/-- A branch that is taken is a jump. -/
theorem tame_condBranch (predicate : BitVec 32 → BitVec 32 → Bool)
    (src1 src2 : Specifier) (offset : BitVec 32) :
    D.Tame (condBranch predicate src1 src2 offset : CoreM β _ _) := by
  unfold condBranch
  apply Tame.bind Tame.get
  intro s
  apply Tame.ite
  · intro _
    apply Tame.ite
    · intro _
      exact Tame.throw _
    · intro haligned
      exact hD.setPc _ (by simpa using haligned)
  · intro _
    exact hD.incrementPc

/-- A load writes a register. -/
theorem tame_loadOp {op : BitVec 32 → CoreM β MemoryError (BitVec 32)}
    (hop : ∀ address, D.Tame (op address)) (dest base : Specifier)
    (offset : BitVec 32) : D.Tame (loadOp op dest base offset) := by
  unfold loadOp
  apply Tame.bind Tame.get
  intro s
  apply Tame.bind (Tame.mapError _ (hop _))
  intro value
  exact hD.tame_setX_incrementPc dest _

/-- A store writes none. -/
theorem tame_storeOp {op : BitVec 32 → BitVec 32 → CoreM β MemoryError Unit}
    (hop : ∀ address value, D.Tame (op address value))
    (src base : Specifier) (offset : BitVec 32) :
    D.Tame (storeOp op src base offset) := by
  unfold storeOp
  apply Tame.bind Tame.get
  intro s
  apply Tame.bind (Tame.mapError _ (hop _ _))
  intro _
  exact hD.incrementPc

/-- WFI does nothing, or is illegal. -/
theorem tame_wfi : D.Tame (wfi : CoreM β _ _) := by
  unfold wfi
  apply Tame.bind Tame.get
  intro s
  apply Tame.ite
  · intro _
    exact Tame.throw _
  · intro _
    exact hD.incrementPc

/-- So does SFENCE.VMA. -/
theorem tame_sfenceVma (vaddr asid : Specifier) :
    D.Tame (sfenceVma vaddr asid : CoreM β _ _) := by
  unfold sfenceVma
  apply Tame.bind Tame.get
  intro s
  apply Tame.ite
  · intro _
    exact Tame.throw _
  · intro _
    exact hD.incrementPc

/-! ## CSR instructions -/

/-- The read of a CSR instruction, into its register. -/
theorem tame_csrRead (dest : Specifier) (csr : CsrSpecifier)
    (level : PrivilegeLevel) :
    D.Tame (csrRead config dest csr level : CoreM β _ _) := by
  unfold csrRead
  apply Tame.bind (Tame.mapError _ (hD.tame_readCsr csr level))
  intro oldValue
  exact hD.setX dest _

/-- A CSR instruction keeps to the discipline if the write it makes does. -/
theorem tame_csrOpAt (level : PrivilegeLevel) (op : CsrOp)
    (dest : Specifier) (csr : CsrSpecifier) (srcValue : Option (BitVec 32))
    (hwrite : ∀ src, srcValue = some src →
      D.Tame (writeCsr csr level (csrOperand op src).1 (csrOperand op src).2)) :
    D.Tame (csrOpAt config level op dest csr srcValue) := by
  have hend : D.Tame (do
      csrWrite op csr level srcValue
      updateRegisters Registers.incrementPc) := by
    cases hsrc : srcValue with
    | none => exact hD.incrementPc
    | some src =>
        apply Tame.bind (Tame.mapError _ (hwrite src hsrc))
        intro _
        exact hD.incrementPc
  unfold csrOpAt
  apply Tame.ite
  · intro _
    apply Tame.bind (hD.tame_csrRead dest csr level)
    intro _
    exact hend
  · intro _
    exact hend

end Moves

namespace Transfers

variable [Build] {config : Config} (hD : Transfers config D)

include hD

/-! ## Loads, stores and atomics -/

theorem tame_loadWidth (width : LoadWidth)
    (address : BitVec 32) :
    D.Tame (width.read config address : CoreM β _ _) :=
  width.tame_read hD.readByte hD.readUnit address

/-- A store, by its width. -/
theorem tame_storeWidth (width : StoreWidth)
    (address value : BitVec 32) :
    D.Tame (width.write config address value : CoreM β _ _) := by
  cases width with
  | sb => exact hD.writeByte _ _
  | sh => exact hD.writeUnit _ _ (by decide)
  | sw => exact hD.writeUnit _ _ (by decide)

/-- An AMO is a load and a store. -/
theorem tame_amoOpWith (op : BitVec 32 → BitVec 32 → BitVec 32) (dest src addr : Specifier) :
    D.Tame (amoOpWith config op dest src addr : CoreM β _ _) := by
  unfold amoOpWith
  apply Tame.bind Tame.get
  intro s
  apply Tame.ite
  · intro _
    exact Tame.throw _
  · intro _
    apply Tame.bind (Tame.mapError _ (hD.readUnit _ (Nat.le_refl 4)))
    intro memValue
    apply Tame.bind (Tame.mapError _ (hD.writeUnit _ _ (Nat.le_refl 4)))
    intro _
    exact hD.tame_setX_incrementPc dest _

/-- Every AMO, LR and SC among them. -/
theorem tame_executeAmo (op : AmoOp)
    (dest src addr : Specifier) :
    D.Tame (executeAmo config op dest src addr : CoreM β _ _) := by
  cases op with
  | lr =>
      unfold executeAmo lr
      apply hD.tame_loadOp
      intro address
      apply Tame.ite
      · intro _
        exact Tame.throw _
      · intro _
        exact hD.readUnit _ (Nat.le_refl 4)
  | sc =>
      unfold executeAmo sc
      apply hD.tame_storeOp
      intro address value
      apply Tame.ite
      · intro _
        exact Tame.throw _
      · intro _
        apply Tame.bind (hD.setX dest _)
        intro _
        exact hD.writeUnit _ _ (Nat.le_refl 4)
  | _ =>
      unfold executeAmo
      exact hD.tame_amoOpWith _ dest src addr

/-! ## Every instruction -/

/-- An instruction that is neither a CSR operation nor a trap return. -/
theorem tame_executeInstruction {instruction : Instruction}
    (hshift : instruction.ShiftFits) (h : ¬ instruction.Privileged) :
    D.Tame (executeInstruction config instruction : CoreM β _ _) := by
  cases instruction with
  | opImm op dest src immediate =>
      unfold executeInstruction
      cases op <;> exact hD.tame_regImmOp _ dest src immediate
  | opShiftImm op dest src shiftAmountU5 =>
      unfold executeInstruction
      cases op <;> exact hD.tame_regShamtOp _ dest src hshift
  | auipc dest immediate =>
      unfold executeInstruction auipc
      exact hD.tame_setX_incrementPc dest _
  | lui dest immediate =>
      unfold executeInstruction lui
      exact hD.tame_setX_incrementPc dest _
  | amo op aq rl src addr dest =>
      unfold executeInstruction
      exact hD.tame_executeAmo op dest src addr
  | op op dest src1 src2 =>
      unfold executeInstruction regRegOp
      exact hD.tame_setX_incrementPc dest _
  | jal dest offset =>
      unfold executeInstruction jal
      exact hD.tame_jumpOp dest _
  | jalr dest base offset =>
      unfold executeInstruction jalr
      exact hD.tame_jumpOp dest _
  | branch condition src1 src2 offset =>
      unfold executeInstruction
      exact hD.tame_condBranch _ src1 src2 offset
  | load width dest base offset =>
      unfold executeInstruction
      exact hD.tame_loadOp (hD.tame_loadWidth width) dest base offset
  | store width src base offset =>
      unfold executeInstruction
      exact hD.tame_storeOp (hD.tame_storeWidth width) src base offset
  | fence predecessor successor =>
      unfold executeInstruction fence
      exact hD.incrementPc
  | ecall =>
      unfold executeInstruction
      exact tame_ecall
  | ebreak =>
      unfold executeInstruction ebreak
      exact Tame.throw _
  | wfi =>
      unfold executeInstruction
      exact hD.tame_wfi
  | sfenceVma vaddr asid =>
      unfold executeInstruction
      exact hD.tame_sfenceVma vaddr asid
  | sret => exact absurd True.intro h
  | mret => exact absurd True.intro h
  | csr op dest csr src => exact absurd True.intro h
  | csri op dest csr immediate => exact absurd True.intro h

end Transfers

namespace Executes

variable (hD : Executes D)

include hD

/-- What allows the accesses allows the rest. -/
theorem moves (config : Config) : Moves config D :=
  { hD.views config, hD with }

variable [Build]

/-- It allows the loads and stores of instructions. -/
theorem transfers (config : Config) : Transfers config D :=
  { hD.moves config with
    readByte := hD.loads.tame_readByte config
    readUnit := fun address _ => hD.loads.tame_readUnit config _ address
    writeByte := hD.tame_writeByte config
    writeUnit := hD.tame_writeUnit config }

/-- Every instruction, if the writes of CSRs and the trap returns keep to the
discipline. -/
theorem tame_instruction
    (hwrite : ∀ {csr : Csr} (specifier : CsrSpecifier) (value mask : BitVec 32),
      csr.readOnly = false → csr.Numbered →
        D.Tame (writeCsrOf specifier value mask csr : CoreM β _ _))
    (hsret : D.Tame (sret : CoreM β _ _)) (hmret : D.Tame (mret : CoreM β _ _))
    (config : Config) {instruction : Instruction}
    (hshift : instruction.ShiftFits) :
    D.Tame (executeInstruction config instruction : CoreM β _ _) := by
  have hcsr : ∀ specifier level value mask,
      D.Tame (writeCsr specifier level value mask : CoreM β _ _) := by
    intro specifier level value mask
    cases writeCsr_cases specifier level value mask (β := β) with
    | inl hthrow =>
        obtain ⟨e, he⟩ := hthrow
        rw [he]
        exact Tame.throw e
    | inr harm =>
        obtain ⟨csr, _, _, hwritable, hnumbered, harm⟩ := harm
        rw [harm]
        exact hwrite specifier value mask hwritable hnumbered
  have hop : ∀ op dest csr srcValue,
      D.Tame (csrOp config op dest csr srcValue : CoreM β _ _) := by
    intro op dest csr srcValue
    unfold csrOp
    apply Tame.bind Tame.get
    intro s
    apply (hD.moves config).tame_csrOpAt
    intro src _
    exact hcsr csr _ _ _
  cases instruction with
  | sret => exact hsret
  | mret => exact hmret
  | csr op dest csr src =>
      unfold executeInstruction csrRegOp
      apply Tame.bind Tame.get
      intro s
      exact hop op dest csr _
  | csri op dest csr immediate =>
      unfold executeInstruction csrImmOp
      exact hop op dest csr _
  | _ => exact (hD.transfers config).tame_executeInstruction hshift not_false

end Executes

/-! ## Steps -/

/-- What a discipline must allow for a whole step: instructions, whatever they
do, traps, and the counters. -/
structure Steps [Build] (D : Discipline (State β)) : Prop
    extends Accesses D where
  execute : ∀ (config : Config) {instruction : Instruction},
    instruction.ShiftFits →
      D.Tame (executeInstruction config instruction : CoreM β _ _)
  trap : ∀ {ε : Type} (cause : Cause), D.Tame (trap cause : CoreM β ε Unit)
  counters : ∀ {ε : Type} (f : State β → Counters → Counters),
    D.Tame (Exec.modify fun s => s.onCounters (f s) : CoreM β ε Unit)

namespace Steps

variable [Build] (hD : Steps D)

include hD

/-- An interrupt is taken, or none. -/
theorem tame_checkForInterrupts :
    D.Tame (checkForInterrupts : CoreM β ε Bool) := by
  unfold checkForInterrupts
  apply Tame.bind Tame.get
  intro s
  cases highestPriorityReadyInterrupt s with
  | none => exact Tame.pure false
  | some interrupt =>
      apply Tame.bind (hD.trap _)
      intro _
      exact Tame.pure true

/-- A step with an instruction, or with the exception that came instead of it.
-/
theorem tame_stepWith (config : Config)
    {instruction : Except Exception Instruction}
    (hshift : ∀ i, instruction = .ok i → i.ShiftFits) :
    D.Tame (stepWith config instruction : CoreM β ε Unit) := by
  have hresult : ∀ result : Except Exception Unit,
      D.Tame (trapOnError result : CoreM β ε Unit) := by
    intro result
    cases result with
    | ok _ => exact Tame.pure ()
    | error e => exact hD.trap _
  have hrest : ∀ (retired : Bool) (result : Except Exception Unit),
      D.Tame (do
        incrementCycleCounter
        if retired then incrementInstretCounter
        trapOnError result : CoreM β ε Unit) := by
    intro retired result
    apply Tame.bind (hD.counters _)
    intro _
    apply Tame.ite
    · intro _
      apply Tame.bind (hD.counters _)
      intro _
      exact hresult result
    · intro _
      exact hresult result
  unfold stepWith
  cases instruction with
  | ok i =>
      apply Tame.bind
      · apply Tame.attempt
        exact hD.execute config (hshift i rfl)
      · intro result
        exact hrest _ result
  | error e =>
      apply Tame.bind (Tame.pure _)
      intro result
      exact hrest _ result

/-- The same with a word that is to be decoded, which always fits its shifts.
-/
theorem tame_stepWithRaw (config : Config)
    (raw : Except Exception (BitVec 32)) :
    D.Tame (stepWithRaw config raw : CoreM β ε Unit) := by
  unfold stepWithRaw
  apply hD.tame_stepWith
  intro i hi
  cases raw with
  | error e => exact nomatch hi
  | ok raw =>
      cases hdecode : decode raw with
      | error e =>
          simp only [hdecode] at hi
          exact nomatch hi
      | ok instruction =>
          simp only [hdecode] at hi
          cases hi
          exact shiftFits_of_decode hdecode

/-- The whole step: interrupts, the fetch, and the rest. -/
theorem tame_step (config : Config) :
    D.Tame (step config : CoreM β ε Unit) := by
  unfold step
  apply Tame.bind Tame.get
  intro s
  apply Tame.bind hD.tame_checkForInterrupts
  intro interrupted
  apply Tame.ite
  · intro _
    exact Tame.pure ()
  · intro _
    apply Tame.bind
    · apply Tame.attempt
      apply Tame.mapError
      exact hD.loads.tame_fetchInstruction config _
    · intro raw
      apply Tame.bind (hD.tame_stepWithRaw config raw)
      intro _
      apply Tame.bind hD.tame_checkForInterrupts
      intro _
      exact Tame.pure ()

end Steps

end RedPlanet.Core
