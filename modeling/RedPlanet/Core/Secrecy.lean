import RedPlanet.Core.Isolation
import RedPlanet.Core.Oblivious
import RedPlanet.Verified.Related

/-!
# Secrecy from user code

What a program in U-mode can find out under Sv32.  Two states that differ only
in bytes of memory outside its pages and outside the page tables stay so: the
program goes through the same steps in both, traps included, and the bytes that
differ are never looked at.

`Hiding` is what is used of two buses, `Twins` are two states on them, and
`Shared` adds that the same user code runs in both.  The argument is a
lockstep one: the accesses of user code go in lockstep (`oblivious_shared`),
so that `Core.Oblivious` gives the instructions, and `agree_step` is the whole
step.  Where the time is read, it must not be hidden.
-/

namespace RedPlanet.Core

open RedPlanet.Verified Discipline Sv32

variable {β ε : Type} [SystemBus β] {M : Memory β}

/-! ## States that differ in hidden bytes -/

/-- What a proof may use of two buses that are the same but for hidden bytes of
memory: an access that touches none of these does the same on both, and a write
does so in any case. -/
structure Hiding (M : Memory β) where
  Same : (BitVec 32 → Prop) → β → β → Prop
  byte : ∀ {hidden bus bus'}, Same hidden bus bus' → ∀ {x}, ¬ hidden x →
    M.byte bus' x = M.byte bus x
  ram : ∀ {hidden bus bus'}, Same hidden bus bus' → M.Ram bus' = M.Ram bus
  read : ∀ {hidden bus bus' address} {buf : List (BitVec 8)},
    Same hidden bus bus' →
    (∀ x, InAccess address buf.length x → ¬ hidden x) →
      Option.Rel
        (fun r r' => r'.1 = r.1 ∧ Same hidden r.2.1 r'.2.1 ∧ r'.2.2 = r.2.2)
        (SystemBus.read address buf bus) (SystemBus.read address buf bus')
  write : ∀ {hidden bus bus'} (address : BitVec 32) (buf : List (BitVec 8)),
    Same hidden bus bus' →
      Option.Rel (fun r r' => Same hidden r.1 r'.1 ∧ r'.2 = r.2)
        (SystemBus.write address buf bus) (SystemBus.write address buf bus')

variable {V : Hiding M} {hidden : BitVec 32 → Prop} {s t u v : State β}

/-- The states are the same but for hidden bytes. -/
def Twins (V : Hiding M) (hidden : BitVec 32 → Prop) (s t : State β) : Prop :=
  ∃ bus, t = { s with bus := bus } ∧ V.Same hidden s.bus bus

/-- A change that does not look at the bus. -/
theorem Twins.map {f : State β → State β}
    (hbus : ∀ s bus, f { s with bus := bus } = { f s with bus := bus })
    (hkeep : ∀ s, (f s).bus = s.bus) (h : Twins V hidden s t) :
    Twins V hidden (f s) (f t) := by
  obtain ⟨bus, rfl, hsame⟩ := h
  refine ⟨bus, hbus s bus, ?_⟩
  rw [hkeep]
  exact hsame

/-- What is not hidden is the same. -/
theorem Twins.byte (h : Twins V hidden s t) {x : BitVec 32}
    (hx : ¬ hidden x) : M.byte t.bus x = M.byte s.bus x := by
  obtain ⟨bus, rfl, hsame⟩ := h
  exact V.byte hsame hx

/-- The callbacks that an access makes are the same on both buses. -/
theorem Twins.accessed {address : BitVec 32} {size : ℕ} {bus bus' : β}
    {calls : List IrqCall} (h : Twins V hidden s t)
    (hsame : V.Same hidden bus bus') :
    Twins V hidden (s.accessed address size bus calls)
      (t.accessed address size bus' calls) := by
  obtain ⟨_, rfl, _⟩ := h
  exact ⟨bus', rfl, hsame⟩

/-! ## Accesses to the bus -/

/-- A device that panics in a read. -/
theorem busRead_none {address : BitVec 32}
    {buf : List (BitVec 8)} (h : SystemBus.read address buf s.bus = none) :
    (busRead address buf : CoreM β ε _) s
      = .panic (s.record (.access address buf.length)) := by
  unfold busRead
  dsimp only [State.record]
  rw [h]

/-- A device that panics in a write. -/
theorem busWrite_none {address : BitVec 32}
    {buf : List (BitVec 8)} (h : SystemBus.write address buf s.bus = none) :
    (busWrite address buf : CoreM β ε _) s
      = .panic (s.record (.access address buf.length)) := by
  unfold busWrite
  dsimp only [State.record]
  rw [h]

/-- A read of bytes that are not hidden. -/
theorem agree_busRead {address : BitVec 32} {buf : List (BitVec 8)}
    (h : Twins V hidden s t)
    (hvisible : ∀ x, InAccess address buf.length x → ¬ hidden x) :
    (busRead address buf s : Outcome ε _ _).Agree (Twins V hidden)
      (busRead address buf t) := by
  have htwins := h
  obtain ⟨bus, rfl, hsame⟩ := h
  have hrel := V.read hsame hvisible
  cases hread : SystemBus.read address buf s.bus with
  | none =>
      rw [hread] at hrel
      have hnone : SystemBus.read address buf ({ s with bus := bus } :
        State β).bus = none := rel_none_left hrel
      rw [busRead_none hread, busRead_none hnone]
      exact .panic ⟨bus, rfl, hsame⟩
  | some reply =>
      obtain ⟨buf', bus', calls⟩ := reply
      rw [hread] at hrel
      obtain ⟨⟨buf'', bus'', calls''⟩, hsome, hbuf, hsame', hcalls⟩ :=
        rel_some_left hrel
      dsimp only at hbuf hsame' hcalls
      subst hbuf hcalls
      have hsome' : SystemBus.read address buf ({ s with bus := bus } :
        State β).bus = some (buf'', bus'', calls'') := hsome
      rw [busRead_ok hread, busRead_ok hsome']
      exact .ok (htwins.accessed hsame')

/-- A write, which may go to hidden bytes as well. -/
theorem lockstep_busWrite (address : BitVec 32) (buf : List (BitVec 8)) :
    Lockstep (Twins V hidden) (busWrite address buf : CoreM β ε _)
      (busWrite address buf) := by
  intro s t h
  have htwins := h
  obtain ⟨bus, rfl, hsame⟩ := h
  have hrel := V.write address buf hsame
  cases hwrite : SystemBus.write address buf s.bus with
  | none =>
      rw [hwrite] at hrel
      have hnone : SystemBus.write address buf ({ s with bus := bus } :
        State β).bus = none := rel_none_left hrel
      rw [busWrite_none hwrite, busWrite_none hnone]
      exact .panic ⟨bus, rfl, hsame⟩
  | some reply =>
      obtain ⟨bus', calls⟩ := reply
      rw [hwrite] at hrel
      obtain ⟨⟨bus'', calls''⟩, hsome, hsame', hcalls⟩ := rel_some_left hrel
      dsimp only at hsame' hcalls
      subst hcalls
      have hsome' : SystemBus.write address buf ({ s with bus := bus } :
        State β).bus = some (bus'', calls'') := hsome
      rw [busWrite_ok hwrite, busWrite_ok hsome']
      exact .ok (htwins.accessed hsame')

/-- Whether the bus accepts an access does not depend on what it stores. -/
theorem lockstep_accessPhysical (address : BitVec 32) (size : ℕ)
    (accessType : AccessType) :
    Lockstep (Twins V hidden)
      (accessPhysical address size accessType : CoreM β _ _)
      (accessPhysical address size accessType) := by
  unfold accessPhysical
  apply Lockstep.ite
  · intro _
    exact Lockstep.pure ()
  · intro _
    exact Lockstep.throw _

/-- An entry may be written even where it is hidden. -/
theorem lockstep_writePte (slot : BitVec 32) (entry : Pte) :
    Lockstep (Twins V hidden) (writePte slot entry : CoreM β _ _)
      (writePte slot entry) := by
  unfold writePte
  apply Lockstep.bind (lockstep_accessPhysical _ _ _)
  intro _
  exact lockstep_busWrite _ _

/-! ## What user code is kept from -/

/-- None of the bytes is one of the page tables or of a page of user code. -/
structure Unseen (M : Memory β) (hidden : BitVec 32 → Prop) (s : State β) :
    Prop where
  table : ∀ {x}, hidden x → ¬ TableByte M s x
  user : ∀ {x accessType}, hidden x → ¬ UserByte M s accessType x

/-- User code that keeps to its pages does not uncover any other byte. -/
theorem Unseen.of_contained (hs : Unseen M hidden s) (h : Contained M s t)
    (hcontrol : SameControl s t) : Unseen M hidden t where
  table := by
    intro x hx
    rw [(h.sameTables hcontrol).tableByte]
    exact hs.table hx
  user := by
    intro x accessType hx
    rw [(h.sameTables hcontrol).userByte hcontrol.status]
    exact hs.user hx

/-- Two states in which the same user code runs, with memory that it does not
see. -/
structure Shared (V : Hiding M) (hidden : BitVec 32 → Prop) (s t : State β) :
    Prop where
  twins : Twins V hidden s t
  guarded : Guarded M s
  unseen : Unseen M hidden s

/-- So the two states are shared after it as well. -/
theorem Shared.of_contained (h : Shared V hidden s t)
    (htwins : Twins V hidden u v) (hmemory : Contained M s u)
    (hcontrol : SameControl s u) : Shared V hidden u v where
  twins := htwins
  guarded := h.guarded.of_contained hmemory hcontrol
  unseen := h.unseen.of_contained hmemory hcontrol

/-- The page tables are not hidden, so they are the same. -/
theorem Shared.sameTables (h : Shared V hidden s t) : SameTables M s t where
  ppn := by
    obtain ⟨bus, rfl, _⟩ := h.twins
    rfl
  entry := by
    intro address level slot hentry
    have hsame : M.pte t.bus slot = M.pte s.bus slot := by
      apply congrArg Pte.mk
      apply Memory.word_congr
      intro i hi
      apply h.twins.byte
      intro hx
      exact h.unseen.table hx ⟨address, level, slot, hentry, i, hi, rfl⟩
    exact Or.inl hsame

/-- The user code of the other state is guarded too. -/
theorem Shared.guarded_right (h : Shared V hidden s t) : Guarded M t := by
  have htables := h.sameTables
  have hs := h.guarded
  obtain ⟨bus, rfl, hsame⟩ := h.twins
  refine ⟨hs.mode, hs.mprv, hs.sv32, ?_, ?_⟩
  · intro address level slot hentry
    have hslot := hs.ram (htables.entryAt_iff.1 hentry)
    rw [← V.ram hsame] at hslot
    exact hslot
  · intro x
    rw [htables.userByte rfl, htables.tableByte]
    exact hs.apart

/-- Programs that keep to the pages of user code. -/
theorem lockstep_shared {config : Config} {α : Type} {m : CoreM β ε α}
    (htame : (containing config M).Tame m)
    (h : ∀ s t, Shared V hidden s t →
      (m s).Agree (Twins V hidden) (m t)) :
    Lockstep (Shared V hidden) m m := by
  intro s t hst
  have hbehaves := htame.step s hst.guarded
  have hagree := h s t hst
  exact ⟨hagree.result,
    hst.of_contained hagree.state hbehaves.memory hbehaves.control⟩

/-! ## The table walk -/

/-- Both states hold the entry, and reading it changes nothing else. -/
theorem readPte_twins {address slot : BitVec 32} {level : ℕ}
    (hs : Guarded M s) (hunseen : Unseen M hidden s)
    (hentry : EntryAt M s address level slot) (hbus : u.bus = s.bus)
    (h : Twins V hidden u v) :
    ∃ entry, M.pte s.bus slot = entry ∧
      readPte slot u = .ok entry (u.accessed slot 4 u.bus []) ∧
      readPte slot v = .ok entry (v.accessed slot 4 v.bus []) := by
  have hslot := hs.ram hentry
  rw [← hbus] at hslot
  have hslot' : M.Ram v.bus slot 4 := by
    obtain ⟨bus, rfl, hsame⟩ := h
    rw [V.ram hsame]
    exact hslot
  have hpte : M.pte v.bus slot = M.pte s.bus slot := by
    rw [← hbus]
    apply congrArg Pte.mk
    apply Memory.word_congr
    intro i hi
    apply h.byte
    intro hx
    exact hunseen.table hx ⟨address, level, slot, hentry, i, hi, rfl⟩
  refine ⟨_, rfl, ?_, ?_⟩
  · rw [← hbus]
    exact Memory.readPte_ram hslot
  · rw [← hpte]
    exact Memory.readPte_ram hslot'

section Walk

variable [Build]

/-- The end of the walk: it does what the entry says, which is the same. -/
theorem agree_turn {address : BitVec 32} {accessType : AccessType}
    {userMode : Bool} {level : ℕ} {slot : BitVec 32} {entry : Pte}
    (hlevel : level ≤ 1) (h : Twins V hidden u v)
    (hnext : entry.isPointer = true → level ≠ 0 →
      (walk readPte writePte address accessType userMode level
          (entry.ppn <<< PAGE_SIZE_SHF) u).Agree (Twins V hidden)
        (walk readPte writePte address accessType userMode level
          (entry.ppn <<< PAGE_SIZE_SHF) v)) :
    (turn readPte writePte address accessType userMode level slot entry
        u).Agree (Twins V hidden)
      (turn readPte writePte address accessType userMode level slot entry
        v) := by
  unfold turn
  by_cases hvalid : entry.isValid = false
  · rw [if_pos hvalid]
    exact .error h
  · rw [if_neg hvalid]
    by_cases hleaf : entry.isLeaf = false
    · rw [if_pos hleaf]
      by_cases hlast : level = 0
      · rw [if_pos hlast]
        exact .error h
      · rw [if_neg hlast]
        apply hnext _ hlast
        unfold Pte.isPointer
        rw [hleaf, Bool.eq_true_of_not_eq_false hvalid]
        rfl
    · have htwins := h
      obtain ⟨bus, rfl, _⟩ := h
      rw [if_neg hleaf, leaf_apply hlevel, leaf_apply hlevel]
      dsimp only
      by_cases hfault : entry.allows accessType userMode u.status.mxr
          u.status.sum = false ∨ entry.Misaligned level
      · rw [if_pos hfault, if_pos hfault]
        exact .error htwins
      · rw [if_neg hfault, if_neg hfault]
        by_cases hupdate : entry.needsUpdate accessType = true
        · rw [if_pos hupdate, if_pos hupdate]
          apply Lockstep.bind _ (fun _ => Lockstep.pure _) _ _ htwins
          exact Lockstep.mapError _ (lockstep_writePte _ _)
        · rw [if_neg hupdate, if_neg hupdate]
          exact .ok htwins

/-- The walk, by induction on the levels left: it reads entries of the tables
only, and these are the same in both states. -/
theorem agree_walk {address : BitVec 32} (accessType : AccessType)
    (userMode : Bool) {level : ℕ} {ppn : BitVec 32} (hs : Guarded M s)
    (hunseen : Unseen M hidden s)
    (hentry : EntryAt M s address level (entryAddress ppn address level))
    (hbus : u.bus = s.bus) (h : Twins V hidden u v) :
    (walk readPte writePte address accessType userMode (level + 1)
        (ppn <<< PAGE_SIZE_SHF) u).Agree (Twins V hidden)
      (walk readPte writePte address accessType userMode (level + 1)
        (ppn <<< PAGE_SIZE_SHF) v) := by
  induction level generalizing ppn u v with
  | zero =>
      obtain ⟨entry, _, hu, hv⟩ := readPte_twins hs hunseen hentry hbus h
      rw [walk_read_ok hu, walk_read_ok hv]
      apply agree_turn hentry.level_le
      · obtain ⟨bus, rfl, hsame⟩ := h
        exact ⟨bus, rfl, hsame⟩
      · exact fun _ hlast => absurd rfl hlast
  | succ level ih =>
      obtain ⟨entry, rfl, hu, hv⟩ := readPte_twins hs hunseen hentry hbus h
      have hread : Twins V hidden
          (u.accessed (entryAddress ppn address (level + 1)) 4 u.bus [])
          (v.accessed (entryAddress ppn address (level + 1)) 4 v.bus []) := by
        obtain ⟨bus, rfl, hsame⟩ := h
        exact ⟨bus, rfl, hsame⟩
      rw [walk_read_ok hu, walk_read_ok hv]
      apply agree_turn hentry.level_le hread
      intro hpointer _
      exact ih (.next hentry hpointer) hbus hread

/-- The address is translated to the same place, or fails alike. -/
theorem agree_translateAddress (address : BitVec 32) (accessType : AccessType)
    (h : Shared V hidden s t) :
    (translateAddress address accessType .user s).Agree (Twins V hidden)
      (translateAddress address accessType .user t) := by
  have htwins := h.twins
  have hs : s.Translates .user := ⟨by decide, h.guarded.sv32⟩
  obtain ⟨bus, rfl, _⟩ := h.twins
  have ht : ({ s with bus := bus } : State β).Translates .user :=
    ⟨by decide, h.guarded.sv32⟩
  unfold translateAddress
  rw [translateAddressCommon_active hs, translateAddressCommon_active ht]
  exact agree_walk accessType _ h.guarded h.unseen .root rfl htwins

/-! ## Reads and writes -/

/-- The checks in front depend on the address alone. -/
theorem agree_accessVirtual (config : Config) (address : BitVec 32) (size : ℕ)
    (accessType : AccessType) (h : Shared V hidden s t) :
    (accessVirtual config address size accessType .user s).Agree
      (Twins V hidden)
      (accessVirtual config address size accessType .user t) := by
  have hchecks : Lockstep (Shared V hidden)
      (accessVirtualPreTranslateChecks config address size : CoreM β _ _)
      (accessVirtualPreTranslateChecks config address size) := by
    unfold accessVirtualPreTranslateChecks
    apply Lockstep.ite
    · intro _
      exact Lockstep.throw _
    · intro _
      apply Lockstep.ite
      · intro _
        exact Lockstep.throw _
      · intro _
        exact Lockstep.pure ()
  unfold accessVirtual
  apply (hchecks s t h).bind (fun _ _ hshared => hshared.twins)
  intro _ u v _ hshared
  apply (agree_translateAddress address accessType hshared).bind
    (fun _ _ htwins => htwins)
  intro pa u' v' _ htwins
  exact Lockstep.bind (lockstep_accessPhysical pa size accessType)
    (fun _ => Lockstep.pure pa) u' v' htwins

/-- A load or a fetch of up to four bytes sees none that are hidden. -/
theorem lockstep_mmuRead (config : Config) {size : ℕ} (hsize : size ≤ 4)
    (address : BitVec 32) (execute : Bool) :
    Lockstep (Shared V hidden)
      (mmuRead config size address .user execute : CoreM β _ _)
      (mmuRead config size address .user execute) := by
  apply lockstep_shared (tame_containing fun s hs =>
    behaves_mmuRead address hsize execute hs : (containing config M).Tame _)
  intro s t h
  unfold mmuRead
  apply (agree_accessVirtual config address size _ h).bind
    (fun _ _ htwins => htwins)
  intro pa u v hpa htwins
  apply agree_busRead htwins
  rintro x ⟨i, hi, rfl⟩ hx
  rw [List.length_replicate] at hi
  have hgrants := grants_of_translateAddress h.guarded
    (accessVirtual_eq_ok hpa).1
  exact h.unseen.user hx
    ⟨address, pa, hgrants, i, Nat.lt_of_lt_of_le hi hsize, rfl⟩

/-- A store writes the same bytes to both buses. -/
theorem agree_mmuWrite (config : Config) (address : BitVec 32)
    (buf : List (BitVec 8)) (h : Shared V hidden s t) :
    (mmuWrite config address buf .user s).Agree (Twins V hidden)
      (mmuWrite config address buf .user t) := by
  unfold mmuWrite
  apply (agree_accessVirtual config address buf.length .write h).bind
    (fun _ _ htwins => htwins)
  intro pa u v _ htwins
  exact lockstep_busWrite pa buf u v htwins

omit [Build] in
/-- At the effective privilege level, which is that of user code. -/
theorem effectivePrivilegeMode_bind {α : Type}
    (f : PrivilegeLevel → CoreM β ε α) (hs : Guarded M s) :
    (effectivePrivilegeMode >>= f) s = f .user s := by
  apply Exec.bind_ok
  unfold Core.effectivePrivilegeMode
  rw [Exec.get_bind, hs.effectivePrivilegeMode]
  rfl

omit [Build] in
/-- The level at which memory is accessed is that of user code in both. -/
theorem agree_effective {α : Type} {f : PrivilegeLevel → CoreM β ε α}
    {R : State β → State β → Prop} (h : Shared V hidden s t)
    (hf : (f .user s).Agree R (f .user t)) :
    ((effectivePrivilegeMode >>= f) s).Agree R
      ((effectivePrivilegeMode >>= f) t) := by
  rw [effectivePrivilegeMode_bind f h.guarded,
    effectivePrivilegeMode_bind f h.guarded_right]
  exact hf

omit [Build] in
/-- The endianness, like everything but the bus, is the same. -/
theorem lockstep_read_end {size : ℕ} (level : PrivilegeLevel)
    (buf : List (BitVec 8)) :
    Lockstep (Shared V hidden)
      (do let s ← Exec.get
          return ofLeBytes (8 * size)
            (if s.endianness level = .LE then buf else buf.reverse) :
        CoreM β MemoryError _)
      (do let s ← Exec.get
          return ofLeBytes (8 * size)
            (if s.endianness level = .LE then buf else buf.reverse)) := by
  apply Lockstep.get_bind
  intro s t h
  obtain ⟨bus, rfl, _⟩ := h.twins
  exact Lockstep.pure _

/-- Accesses of user code go in lockstep where the time is not hidden. -/
theorem oblivious_shared {config : Config}
    (htime : ∀ x, InAccess config.mtimeAddress 8 x → ¬ hidden x) :
    Oblivious config (Shared V hidden) where
  same := by
    intro s t h
    obtain ⟨bus, heq, _⟩ := h.twins
    exact ⟨bus, heq⟩
  user h := h.guarded.mode
  registers := by
    intro s t f h
    have htwins : Twins V hidden (s.onRegisters f) (t.onRegisters f) :=
      h.twins.map (fun _ _ => rfl) fun _ => rfl
    have hmemory : Contained M s (s.onRegisters f) :=
      .of_bus (t := s) rfl (.refl s)
    exact h.of_contained htwins hmemory ⟨rfl, rfl, rfl, rfl, rfl⟩
  readMtime := by
    intro ε
    apply Lockstep.bind _ fun _ => Lockstep.pure _
    apply lockstep_shared (tame_containing fun s hs =>
      behaves_busRead hs fun hx => Or.inr (Or.inr hx) :
      (containing config M).Tame _)
    intro s t h
    exact agree_busRead h.twins htime
  readByte := by
    intro address s t h
    apply agree_effective h
    exact Lockstep.bind (lockstep_mmuRead config (by decide) address false)
      (fun _ => Lockstep.pure _) s t h
  readUnit := by
    intro size address hsize s t h
    apply agree_effective h
    exact Lockstep.bind (lockstep_mmuRead config hsize address false)
      (fun buf => lockstep_read_end .user buf) s t h
  writeByte := by
    intro address value
    apply lockstep_shared (transfers_containing.writeByte address value)
    intro s t h
    exact agree_effective h (agree_mmuWrite config address _ h)
  writeUnit := by
    intro size address value hsize
    apply lockstep_shared
      (transfers_containing.writeUnit address value hsize)
    intro s t h
    apply agree_effective h
    rw [Exec.get_bind, Exec.get_bind]
    have hwrite := fun buf => agree_mmuWrite config address buf h
    obtain ⟨bus, rfl, _⟩ := h.twins
    exact hwrite _

end Walk

/-! ## Steps -/

section Steps

variable [Build]

omit [SystemBus β] [Build] in
/-- The records of a trap do not look at the bus. -/
theorem trapRecorded_bus (cause : Cause) (s : State β) (bus : β) :
    trapRecorded { s with bus := bus } cause
      = { trapRecorded s cause with bus := bus } := by
  have hrecord : ∀ (base : BitVec 32) (mode : VectorMode) (u : State β),
      State.recordVector base mode cause { u with bus := bus }
        = { State.recordVector base mode cause u with bus := bus } := by
    intro base mode u
    cases mode with
    | direct => rfl
    | vectored => cases cause <;> rfl
  exact hrecord (trapVector s cause).1 (trapVector s cause).2
    (s.onTrap (recordTrap (trapToSMode s cause) cause s.registers.pc))

omit [SystemBus β] [Build] in
theorem trapEntry_bus (cause : Cause) (s : State β) (bus : β) :
    trapEntry { s with bus := bus } cause
      = { trapEntry s cause with bus := bus } := by
  unfold trapEntry
  rw [trapRecorded_bus]
  rfl

/-- A trap does not look at memory. -/
theorem lockstep_trap (cause : Cause) :
    Lockstep (Twins V hidden) (trap cause : CoreM β ε Unit) (trap cause) := by
  intro s t h
  obtain ⟨bus, rfl, hsame⟩ := h
  rcases trap_cases (ε := ε) cause s with ⟨hfits, hs⟩ | ⟨hover, hs⟩
  · rcases trap_cases (ε := ε) cause { s with bus := bus } with
      ⟨_, ht⟩ | ⟨hover, _⟩
    · rw [hs, ht]
      refine .ok ⟨bus, trapEntry_bus cause s bus, ?_⟩
      rw [bus_trapEntry]
      exact hsame
    · exact absurd hover hfits
  · rcases trap_cases (ε := ε) cause { s with bus := bus } with
      ⟨hfits, _⟩ | ⟨_, ht⟩
    · exact absurd hover hfits
    · rw [hs, ht]
      obtain ⟨events, hevents⟩ := trapRecorded_eq s cause
      refine .panic ⟨bus, trapRecorded_bus cause s bus, ?_⟩
      rw [hevents]
      exact hsame

/-- What is pending is no part of memory. -/
theorem lockstep_checkForInterrupts :
    Lockstep (Twins V hidden) (checkForInterrupts : CoreM β ε Bool)
      checkForInterrupts := by
  unfold checkForInterrupts
  apply Lockstep.get_bind
  intro s t h
  obtain ⟨bus, rfl, _⟩ := h
  have hready : highestPriorityReadyInterrupt { s with bus := bus }
      = highestPriorityReadyInterrupt s := rfl
  rw [hready]
  cases highestPriorityReadyInterrupt s with
  | none => exact Lockstep.pure false
  | some interrupt =>
      exact Lockstep.bind (lockstep_trap _) fun _ => Lockstep.pure true

/-- Both instructions failed with the same exception, or neither did. -/
theorem lockstep_trapOnError (result : Except Exception Unit) :
    Lockstep (Twins V hidden) (trapOnError result : CoreM β ε Unit)
      (trapOnError result) := by
  cases result with
  | ok _ => exact Lockstep.pure ()
  | error e => exact lockstep_trap _

omit [Build] in
/-- The counters are advanced alike. -/
theorem lockstep_counters (f : State β → Counters → Counters)
    (hbus : ∀ s bus, f { s with bus := bus } = f s) :
    Lockstep (Twins V hidden)
      (Exec.modify fun s => s.onCounters (f s) : CoreM β ε Unit)
      (Exec.modify fun s => s.onCounters (f s)) := by
  apply Lockstep.modify
  intro s t h
  obtain ⟨bus, rfl, hsame⟩ := h
  rw [hbus s bus]
  exact ⟨bus, rfl, hsame⟩

/-- One step, when its instruction was fetched. -/
theorem agree_stepWith {config : Config}
    (htime : ∀ x, InAccess config.mtimeAddress 8 x → ¬ hidden x)
    (instruction : Except Exception Instruction)
    (h : Shared V hidden s t) :
    ((stepWith config instruction : CoreM β ε Unit) s).Agree (Twins V hidden)
      ((stepWith config instruction : CoreM β ε Unit) t) := by
  have hrest : ∀ result : Except Exception Unit, Lockstep (Twins V hidden)
      (do incrementCycleCounter
          if retires instruction then incrementInstretCounter
          trapOnError result : CoreM β ε Unit)
      (do incrementCycleCounter
          if retires instruction then incrementInstretCounter
          trapOnError result) := by
    intro result
    apply Lockstep.bind (lockstep_counters _ fun _ _ => rfl)
    intro _
    apply Lockstep.ite
    · intro _
      exact Lockstep.bind (lockstep_counters _ fun _ _ => rfl)
        fun _ => lockstep_trapOnError result
    · intro _
      exact lockstep_trapOnError result
  unfold stepWith
  cases instruction with
  | ok instruction =>
      have hexecute : Lockstep (Shared V hidden)
          (Exec.attempt (executeInstruction config instruction) : CoreM β ε _)
          (Exec.attempt (executeInstruction config instruction)) :=
        Lockstep.attempt
          ((oblivious_shared htime).executeInstruction instruction)
      exact (hexecute s t h).bind (fun _ _ hshared => hshared.twins)
        fun result u v _ hshared => hrest result u v hshared.twins
  | error e => exact hrest (.error e) s t h.twins

/-- Instructions are fetched from the pages of user code, which are not
hidden. -/
theorem lockstep_fetchInstruction (config : Config) (pc : BitVec 32) :
    Lockstep (Shared V hidden) (fetchInstruction config pc : CoreM β _ _)
      (fetchInstruction config pc) := by
  unfold fetchInstruction
  apply Lockstep.ite
  · intro _
    exact Lockstep.throw _
  · intro _
    apply Lockstep.get_bind
    intro s t h
    rw [h.guarded.mode, h.guarded_right.mode]
    exact Lockstep.bind (lockstep_mmuRead config (Nat.le_refl 4) pc true)
      fun _ => Lockstep.pure _

/-- One step of user code does not tell the two states apart. -/
theorem agree_step {config : Config}
    (htime : ∀ x, InAccess config.mtimeAddress 8 x → ¬ hidden x)
    (h : Shared V hidden s t) :
    ((step config : CoreM β ε Unit) s).Agree (Twins V hidden)
      ((step config : CoreM β ε Unit) t) := by
  have hpc : t.registers.pc = s.registers.pc := by
    obtain ⟨bus, rfl, _⟩ := h.twins
    rfl
  unfold step
  rw [Exec.get_bind, Exec.get_bind, hpc]
  apply (lockstep_checkForInterrupts s t h.twins).bind (fun _ _ htwins => htwins)
  intro interrupted u v hcheck htwins
  cases interrupted with
  | true => exact .ok htwins
  | false =>
      obtain rfl := (checkForInterrupts_ok hcheck).2 rfl
      have hfetch : Lockstep (Shared V hidden)
          (fetchInstruction config u.registers.pc : CoreM β _ _)
          (fetchInstruction config u.registers.pc) :=
        lockstep_fetchInstruction config _
      have hraw :=
        Lockstep.mapError (fetchException u.registers.pc) hfetch
      apply (hraw.attempt u v ⟨htwins, h.guarded, h.unseen⟩).bind
        (fun _ _ hshared => hshared.twins)
      intro raw u' v' _ hshared
      apply (agree_stepWith htime _ hshared).bind (fun _ _ htwins => htwins)
      intro _ u'' v'' _ htwins
      exact Lockstep.bind lockstep_checkForInterrupts
        (fun _ => Lockstep.pure ()) u'' v'' htwins

end Steps

end RedPlanet.Core
