import RedPlanet.Core.Memory
import RedPlanet.Core.Translation

/-!
# Updates of page table entries

What a translation does to memory: it may set the A and D bits of the leaf it
ends at.  `Monotone` is what it ought to do there, and `Loses` is where the
code clears a D bit instead.

The leaf that a walk reads is the one in memory (`VisitsEntry.entry_eq`), and
the end of the walk stores `Pte.stored` there and touches nothing else
(`translateAddress_kept`, `pte_translateAddress`).  So what becomes of the D
bit is a matter of one entry, and over a run of translations and stores
(`DirtyRun`) it is kept if no translation loses it.
-/

namespace RedPlanet.Core

open RedPlanet.Verified Sv32

/-! ## The bits of an updated entry -/

/-- The entry with the A bit set, and for a write the D bit too. -/
def Pte.marked (entry : Pte) (accessType : AccessType) : Pte :=
  entry.setAD true (entry.d || accessType == .write)

/-- Marking an entry clears no bit and changes no other. -/
theorem Pte.getLsbD_marked (entry : Pte) (accessType : AccessType) (i : Nat) :
    (entry.marked accessType).bits.getLsbD i
      = (entry.bits.getLsbD i || decide (i = 6) ||
          decide (i = 7 ∧ accessType = .write)) := by
  show (setBit (setBit entry.bits 6 true) 7 (entry.d || _)).getLsbD i = _
  by_cases h7 : i = 7
  · rw [h7, getLsbD_setBit_self _ _ (by decide)]
    unfold d
    cases accessType <;> simp
  · rw [getLsbD_setBit_ne _ _ h7]
    by_cases h6 : i = 6
    · rw [h6, getLsbD_setBit_self _ _ (by decide)]
      simp
    · rw [getLsbD_setBit_ne _ _ h6]
      simp [h6, h7]

/-- What the code leaves in the entry. -/
def Pte.stored (entry : Pte) (accessType : AccessType) : Pte :=
  if entry.needsUpdate accessType then entry.updated accessType else entry

/-- Marking keeps a D bit that is set. -/
theorem Pte.d_marked (entry : Pte) (accessType : AccessType) :
    (entry.marked accessType).d = (entry.d || accessType == .write) :=
  getLsbD_setBit_self _ _ (by decide)

/-- The code stores whether this access is a write. -/
theorem Pte.d_updated (entry : Pte) (accessType : AccessType) :
    (entry.updated accessType).d = (accessType == .write) :=
  getLsbD_setBit_self _ _ (by decide)

/-- An entry that needs no update is marked already. -/
theorem Pte.marked_of_not_needsUpdate {entry : Pte} {accessType : AccessType}
    (h : entry.needsUpdate accessType = false) :
    entry.marked accessType = entry := by
  unfold needsUpdate at h
  rw [Bool.or_eq_false_iff, Bool.not_eq_false', Bool.and_eq_false_iff,
    Bool.not_eq_false'] at h
  obtain ⟨ha, hd⟩ := h
  have hbits : (entry.marked accessType).bits = entry.bits := by
    apply BitVec.eq_of_getLsbD_eq
    intro i _
    rw [getLsbD_marked]
    unfold a at ha
    unfold d at hd
    by_cases h6 : i = 6
    · simp [h6, ha]
    · by_cases h7 : i = 7 ∧ accessType = .write
      · obtain ⟨rfl, rfl⟩ := h7
        cases hd with
        | inl hwrite => simp at hwrite
        | inr hd => simp [hd]
      · simp [h6, h7]
  exact congrArg Pte.mk hbits

/-- The entry ends up marked, unless its D bit was set before its A bit and
the access is not a write. -/
theorem Pte.stored_eq_marked_iff {entry : Pte} {accessType : AccessType} :
    entry.stored accessType = entry.marked accessType ↔
      ¬ (entry.a = false ∧ entry.d = true ∧ accessType ≠ .write) := by
  unfold stored
  cases hupdate : entry.needsUpdate accessType with
  | false =>
      rw [if_neg (by decide), marked_of_not_needsUpdate hupdate]
      refine iff_of_true rfl ?_
      rintro ⟨ha, _⟩
      unfold needsUpdate at hupdate
      rw [ha] at hupdate
      simp at hupdate
  | true =>
      rw [if_pos rfl]
      constructor
      · rintro h ⟨_, hd, hwrite⟩
        have hbit := congrArg d h
        rw [d_updated, d_marked, hd] at hbit
        simp at hbit
        exact hwrite hbit
      · intro h
        unfold updated marked
        congr 1
        cases accessType with
        | write => simp
        | _ =>
            unfold needsUpdate at hupdate
            cases ha : entry.a with
            | true =>
                rw [ha] at hupdate
                simp at hupdate
            | false =>
                cases hd : entry.d with
                | true => exact absurd ⟨ha, hd, by decide⟩ h
                | false => rfl

/-! ## The memory after a translation -/

variable {β : Type} [SystemBus β] {M : Memory β} {address : BitVec 32}
  {accessType : AccessType} {privilegeLevel : PrivilegeLevel} {s t u : State β}
  {level : Nat} {ppn entryAddress : BitVec 32} {entry : Pte}

/-- Reading an entry changes no memory, however it ends. -/
theorem Memory.kept_of_readPte {out : Outcome MemoryError (State β) Pte}
    (h : readPte address s = out) : M.Kept (fun _ => False) s out.state := by
  rw [← h]
  exact kept_readPte address s

/-- So the walk reaches a table with memory as it was. -/
theorem Reaches.kept {level' : Nat} {ppn' : BitVec 32}
    (h : Reaches readPte address level ppn s level' ppn' u) :
    M.Kept (fun _ => False) s u := by
  induction h with
  | here => exact Memory.Kept.refl _
  | next hread _ _ ih => exact (Memory.kept_of_readPte hread).trans ih

theorem VisitsEntry.kept
    (h : VisitsEntry readPte address s level entryAddress entry t) :
    M.Kept (fun _ => False) s t := by
  obtain ⟨ppn, u, hreach, _, hread⟩ := h
  exact hreach.kept.trans (Memory.kept_of_readPte hread)

/-- An entry is the same where all memory is. -/
theorem Memory.Kept.pte (h : M.Kept (fun _ => False) s t)
    (address : BitVec 32) : M.pte t.bus address = M.pte s.bus address :=
  congrArg Pte.mk (word_congr fun _ _ => h.byte _ id)

/-- An entry in RAM is read from memory. -/
theorem VisitsEntry.entry_eq
    (h : VisitsEntry readPte address s level entryAddress entry t)
    (hram : M.Ram s.bus entryAddress 4) :
    M.pte s.bus entryAddress = entry ∧ M.Ram t.bus entryAddress 4 := by
  have hkept := h.kept (M := M)
  obtain ⟨ppn, u, hreach, _, hread⟩ := h
  have hreached := hreach.kept (M := M)
  rw [Memory.readPte_ram (M := M) (by rw [hreached.ram]; exact hram)] at hread
  refine ⟨?_, by rw [hkept.ram]; exact hram⟩
  rw [← hreached.pte]
  cases hread
  rfl

/-- The end of a translation touches no memory but the leaf. -/
theorem kept_finish (address : BitVec 32) (accessType : AccessType)
    (level : Nat) (entryAddress : BitVec 32) (entry : Pte) (s : State β) :
    M.Kept (InAccess entryAddress 4) s
      (finish writePte address accessType level entryAddress entry s).state := by
  have hkept := Memory.kept_writePte (M := M) entryAddress
    (entry.updated accessType) s
  unfold finish
  by_cases hupdate : entry.needsUpdate accessType = true
  · rw [if_pos hupdate, Exec.bind_apply]
    unfold Exec.mapError
    cases hwrite : writePte entryAddress (entry.updated accessType) s with
    | ok value t =>
        rw [hwrite] at hkept
        exact hkept
    | error e t =>
        rw [hwrite] at hkept
        exact hkept
    | panic t =>
        rw [hwrite] at hkept
        exact hkept
  · rw [if_neg hupdate]
    exact Memory.Kept.refl s

/-- With the leaf in RAM its update is stored. -/
theorem pte_finish (hentry : M.pte s.bus entryAddress = entry)
    (hram : M.Ram s.bus entryAddress 4) :
    M.pte (finish writePte address accessType level entryAddress entry
        s).state.bus entryAddress = entry.stored accessType := by
  unfold finish Pte.stored
  by_cases hupdate : entry.needsUpdate accessType = true
  · obtain ⟨bus, hwrite, hpte⟩ :
        ∃ bus, writePte entryAddress (entry.updated accessType) s
            = .ok () (s.accessed entryAddress 4 bus []) ∧
          M.pte bus entryAddress = entry.updated accessType :=
      Memory.writePte_ram hram
    have hmapped : Exec.mapError (fun _ => MemoryError.accessFault)
        (writePte entryAddress (entry.updated accessType)) s
        = .ok () (s.accessed entryAddress 4 bus []) := by
      unfold Exec.mapError
      rw [hwrite]
    rw [if_pos hupdate, if_pos hupdate, Exec.bind_ok hmapped]
    exact hpte
  · rw [if_neg hupdate, if_neg hupdate]
    exact hentry

variable [Build]

/-- What the translation of an address ought to do to memory: nothing, unless
it is permitted, and then it marks the leaf. -/
structure Monotone (M : Memory β) (address : BitVec 32)
    (accessType : AccessType) (privilegeLevel : PrivilegeLevel)
    (s t : State β) : Prop where
  only_leaf : (∀ x, M.byte t.bus x = M.byte s.bus x) ∨
    (s.Translates privilegeLevel ∧ ∃ level entryAddress entry u,
      LeafAt readPte address accessType privilegeLevel s level entryAddress
          entry u ∧
        ∀ x, ¬ InAccess entryAddress 4 x → M.byte t.bus x = M.byte s.bus x)
  leaf : s.Translates privilegeLevel → ∀ level entryAddress entry u,
    LeafAt readPte address accessType privilegeLevel s level entryAddress entry
        u →
      M.Ram s.bus entryAddress 4 →
        M.pte s.bus entryAddress = entry ∧
          M.pte t.bus entryAddress = entry.marked accessType

/-- The access is permitted through a leaf in RAM whose D bit is set and whose
A bit is not, and it is not a write. -/
def Loses (M : Memory β) (address : BitVec 32) (accessType : AccessType)
    (privilegeLevel : PrivilegeLevel) (s : State β) : Prop :=
  s.Translates privilegeLevel ∧ accessType ≠ .write ∧
    ∃ level entryAddress entry u,
      LeafAt readPte address accessType privilegeLevel s level entryAddress
          entry u ∧
        M.Ram s.bus entryAddress 4 ∧ entry.a = false ∧ entry.d = true

/-- Whatever a translation ends in, it kept all memory but its leaf. -/
theorem translateAddress_kept (M : Memory β) (address : BitVec 32)
    (accessType : AccessType) (privilegeLevel : PrivilegeLevel) (s : State β) :
    M.Kept (fun _ => False) s
        (translateAddress address accessType privilegeLevel s).state ∨
      (s.Translates privilegeLevel ∧ ∃ level entryAddress entry u,
        LeafAt readPte address accessType privilegeLevel s level entryAddress
            entry u ∧
          M.Kept (InAccess entryAddress 4) s
            (translateAddress address accessType privilegeLevel s).state) := by
  unfold translateAddress
  by_cases hs : s.Translates privilegeLevel
  · have hends : Ends readPte writePte address accessType privilegeLevel s _ :=
      translateAddressCommon_ends hs
    generalize translateAddressCommon readPte writePte address accessType
      privilegeLevel s = out at hends
    cases hends with
    | unread hreach hread =>
        exact Or.inl (hreach.kept.trans (Memory.kept_of_readPte hread))
    | panics hreach hread =>
        exact Or.inl (hreach.kept.trans (Memory.kept_of_readPte hread))
    | faults hfault => exact Or.inl hfault.visits.kept
    | leaf hleaf =>
        refine Or.inr ⟨hs, _, _, _, _, hleaf, ?_⟩
        exact (hleaf.visits.kept.mono fun _ => False.elim).trans
          (kept_finish _ _ _ _ _ _)
  · rw [translateAddressCommon_direct (not_translates_iff.1 hs)]
    exact Or.inl (Memory.Kept.refl s)

/-- The entry of a leaf in RAM after the translation. -/
theorem pte_translateAddress (hs : s.Translates privilegeLevel)
    (hleaf : LeafAt readPte address accessType privilegeLevel s level
      entryAddress entry u)
    (hram : M.Ram s.bus entryAddress 4) :
    M.pte s.bus entryAddress = entry ∧
      M.pte (translateAddress address accessType privilegeLevel s).state.bus
        entryAddress = entry.stored accessType := by
  obtain ⟨hentry, hram'⟩ := hleaf.visits.entry_eq hram
  have hkept := hleaf.visits.kept (M := M)
  refine ⟨hentry, ?_⟩
  unfold translateAddress
  rw [translateAddressCommon_of_leafAt hs hleaf]
  apply pte_finish _ hram'
  rw [hkept.pte]
  exact hentry

/-- The translation stores an entry with D clear, though it was set. -/
theorem not_monotone_of_loses (h : Loses M address accessType privilegeLevel s) :
    ¬ Monotone M address accessType privilegeLevel s
      (translateAddress address accessType privilegeLevel s).state := by
  obtain ⟨hs, hwrite, level, entryAddress, entry, u, hleaf, hram, ha, hd⟩ := h
  intro hmonotone
  have hmarked := (hmonotone.leaf hs _ _ _ _ hleaf hram).2
  rw [(pte_translateAddress hs hleaf hram).2] at hmarked
  exact Pte.stored_eq_marked_iff.1 hmarked ⟨ha, hd, hwrite⟩

/-- In every other case it stores a marked entry, or nothing. -/
theorem monotone_of_not_loses
    (h : ¬ Loses M address accessType privilegeLevel s) :
    Monotone M address accessType privilegeLevel s
      (translateAddress address accessType privilegeLevel s).state where
  only_leaf := by
    cases translateAddress_kept M address accessType privilegeLevel s with
    | inl hkept => exact Or.inl fun x => hkept.byte x id
    | inr hkept =>
        obtain ⟨hs, level, entryAddress, entry, u, hleaf, hkept⟩ := hkept
        exact Or.inr ⟨hs, _, _, _, _, hleaf, hkept.byte⟩
  leaf := by
    intro hs level entryAddress entry u hleaf hram
    obtain ⟨hentry, hstored⟩ := pte_translateAddress hs hleaf hram
    refine ⟨hentry, ?_⟩
    rw [hstored, Pte.stored_eq_marked_iff]
    rintro ⟨ha, hd, hwrite⟩
    exact h ⟨hs, hwrite, _, _, _, _, hleaf, hram, ha, hd⟩

/-! ## Runs -/

omit [Build] in
/-- Entries lie at multiples of four, so an update of one does not touch
another. -/
theorem VisitsEntry.aligned
    (h : VisitsEntry readPte address s level entryAddress entry t) :
    entryAddress.toNat % 4 = 0 := by
  obtain ⟨ppn, u, _, rfl, _⟩ := h
  unfold Sv32.entryAddress Sv32.entryAt
  rw [BitVec.toNat_ofNat]
  omega

omit [Build] [SystemBus β] in
/-- Two entries do not share a byte. -/
theorem not_inAccess_of_aligned {a b : BitVec 32} (ha : a.toNat % 4 = 0)
    (hb : b.toNat % 4 = 0) (hne : a ≠ b) {i : Nat} (hi : i < 4) :
    ¬ InAccess b 4 (a + BitVec.ofNat 32 i) := by
  rintro ⟨k, hk, heq⟩
  have hnat := congrArg BitVec.toNat heq
  rw [BitVec.toNat_add, BitVec.toNat_add, BitVec.toNat_ofNat,
    BitVec.toNat_ofNat] at hnat
  have hlt_a := a.isLt
  have hlt_b := b.isLt
  exact hne (BitVec.eq_of_toNat_eq (by omega))

/-- A run as the entry at an address sees it: translations that lose no D bit,
and other steps that leave that entry in memory with its D bit set, if it
was. -/
inductive DirtyRun (M : Memory β) (entryAddress : BitVec 32) (s : State β) :
    State β → Prop
  | start : DirtyRun M entryAddress s s
  | translate {t : State β} (address : BitVec 32) (accessType : AccessType)
      (privilegeLevel : PrivilegeLevel) :
      DirtyRun M entryAddress s t →
      ¬ Loses M address accessType privilegeLevel t →
      DirtyRun M entryAddress s
        (translateAddress address accessType privilegeLevel t).state
  | other {t u : State β} :
      DirtyRun M entryAddress s t →
      (M.Ram t.bus entryAddress 4 → M.Ram u.bus entryAddress 4) →
      ((M.pte t.bus entryAddress).d = true →
        (M.pte u.bus entryAddress).d = true) →
      DirtyRun M entryAddress s u

/-- The entry is in memory and its D bit is set. -/
structure Dirty (M : Memory β) (entryAddress : BitVec 32) (s : State β) :
    Prop where
  ram : M.Ram s.bus entryAddress 4
  d : (M.pte s.bus entryAddress).d = true

/-- A translation that loses no D bit keeps this one. -/
theorem Dirty.translate (h : Dirty M entryAddress s)
    (haligned : entryAddress.toNat % 4 = 0)
    (hloses : ¬ Loses M address accessType privilegeLevel s) :
    Dirty M entryAddress
      (translateAddress address accessType privilegeLevel s).state := by
  cases translateAddress_kept M address accessType privilegeLevel s with
  | inl hkept =>
      refine ⟨by rw [hkept.ram]; exact h.ram, ?_⟩
      rw [hkept.pte]
      exact h.d
  | inr hkept =>
      obtain ⟨hs, level, leafAddress, entry, u, hleaf, hkept⟩ := hkept
      refine ⟨by rw [hkept.ram]; exact h.ram, ?_⟩
      by_cases heq : entryAddress = leafAddress
      · subst heq
        obtain ⟨hentry, hmarked⟩ := (monotone_of_not_loses hloses).leaf hs _ _ _
          _ hleaf h.ram
        rw [hmarked, Pte.d_marked, ← hentry, h.d]
        rfl
      · have hword : M.word (translateAddress address accessType privilegeLevel
            s).state.bus entryAddress = M.word s.bus entryAddress := by
          apply Memory.word_congr
          intro i hi
          exact hkept.byte _
            (not_inAccess_of_aligned haligned hleaf.visits.aligned heq hi)
        show Pte.d ⟨M.word _ entryAddress⟩ = true
        rw [hword]
        exact h.d

/-- So does a run of them, by induction along the run. -/
theorem DirtyRun.dirty (h : DirtyRun M entryAddress s t)
    (haligned : entryAddress.toNat % 4 = 0) (hs : Dirty M entryAddress s) :
    Dirty M entryAddress t := by
  induction h with
  | start => exact hs
  | translate address accessType privilegeLevel _ hloses ih =>
      exact ih.translate haligned hloses
  | other _ hram hd ih => exact ⟨hram ih.ram, hd ih.d⟩

/-! ## Accesses as runs -/

/-- The checks around a translation do nothing to the state. -/
theorem state_accessVirtual (config : Config) (address : BitVec 32)
    (size : Nat) (accessType : AccessType) (privilegeLevel : PrivilegeLevel)
    (s : State β) :
    (accessVirtual config address size accessType privilegeLevel s).state = s ∨
      (accessVirtual config address size accessType privilegeLevel s).state
        = (translateAddress address accessType privilegeLevel s).state := by
  unfold accessVirtual
  rw [Exec.bind_apply]
  have hchecks : (accessVirtualPreTranslateChecks config address size
      : CoreM β _ _) s = .ok () s ∨
      ∃ e, (accessVirtualPreTranslateChecks config address size
        : CoreM β _ _) s = .error e s := by
    unfold accessVirtualPreTranslateChecks
    split
    · exact Or.inr ⟨_, rfl⟩
    · split
      · exact Or.inr ⟨_, rfl⟩
      · exact Or.inl rfl
  rcases hchecks with hok | ⟨e, herror⟩
  · right
    rw [hok]
    dsimp only
    rw [Exec.bind_apply]
    cases translateAddress address accessType privilegeLevel s with
    | ok pa t =>
        dsimp only
        rw [Exec.bind_apply]
        unfold accessPhysical
        by_cases haccepts : accepts β pa size accessType = true
        · rw [if_pos haccepts]
          rfl
        · rw [if_neg haccepts]
          rfl
    | error e t => rfl
    | panic t => rfl
  · left
    rw [herror]
    rfl

theorem dirtyRun_accessVirtual (config : Config) (size : Nat)
    (hloses : ¬ Loses M address accessType privilegeLevel s) :
    DirtyRun M entryAddress s
      (accessVirtual config address size accessType privilegeLevel s).state := by
  cases state_accessVirtual config address size accessType privilegeLevel s with
  | inl hsame =>
      rw [hsame]
      exact DirtyRun.start
  | inr htranslate =>
      rw [htranslate]
      exact DirtyRun.translate _ _ _ DirtyRun.start hloses

/-- A fetch or a load that loses no D bit. -/
theorem dirtyRun_mmuRead (config : Config) (size : Nat) (execute : Bool)
    (hloses : ¬ Loses M address (if execute then .execute else .read)
      privilegeLevel s) :
    DirtyRun M entryAddress s
      (mmuRead config size address privilegeLevel execute s).state := by
  have hrun : DirtyRun M entryAddress s _ :=
    dirtyRun_accessVirtual config size hloses
  unfold mmuRead
  rw [Exec.bind_apply]
  cases haccess : accessVirtual config address size
      (if execute then .execute else .read) privilegeLevel s with
  | ok pa t =>
      rw [haccess] at hrun
      have hkept := Memory.kept_busRead (M := M) (ε := MemoryError) pa
        (List.replicate size 0) t
      refine DirtyRun.other hrun ?_ ?_
      · intro hram
        rw [hkept.ram]
        exact hram
      · intro hd
        rw [hkept.pte]
        exact hd
  | error e t =>
      rw [haccess] at hrun
      exact hrun
  | panic t =>
      rw [haccess] at hrun
      exact hrun

/-- A store, unless what it stores clears the D bit itself. -/
theorem dirtyRun_mmuWrite (config : Config) (buf : List (BitVec 8))
    (hstore : ∀ pa t, accessVirtual config address buf.length .write
        privilegeLevel s = .ok pa t →
      (M.pte t.bus entryAddress).d = true →
        (M.pte (busWrite pa buf t : Outcome MemoryError _ _).state.bus
          entryAddress).d = true) :
    DirtyRun M entryAddress s
      (mmuWrite config address buf privilegeLevel s).state := by
  have hloses : ¬ Loses M address .write privilegeLevel s := fun h => h.2.1 rfl
  have hrun : DirtyRun M entryAddress s _ :=
    dirtyRun_accessVirtual config buf.length hloses
  unfold mmuWrite
  rw [Exec.bind_apply]
  cases haccess : accessVirtual config address buf.length .write
      privilegeLevel s with
  | ok pa t =>
      rw [haccess] at hrun
      have hkept := Memory.kept_busWrite (M := M) (ε := MemoryError) pa buf t
      refine DirtyRun.other hrun ?_ (hstore pa t haccess)
      intro hram
      rw [hkept.ram]
      exact hram
  | error e t =>
      rw [haccess] at hrun
      exact hrun
  | panic t =>
      rw [haccess] at hrun
      exact hrun

/-! ## The runs in which no D bit is lost -/

/-- A translation treats memory as it ought to iff it does not go, without
writing, through an entry with D set and A clear.  Along runs in which no
translation does, an entry that is dirty stays so. -/
theorem entry_updates_monotone_iff (M : Memory β) :
    (∀ (address : BitVec 32) (accessType : AccessType)
        (privilegeLevel : PrivilegeLevel) (s : State β),
      Monotone M address accessType privilegeLevel s
          (translateAddress address accessType privilegeLevel s).state ↔
        ¬ Loses M address accessType privilegeLevel s) ∧
    ∀ (entryAddress : BitVec 32) (s t : State β),
      entryAddress.toNat % 4 = 0 → M.Ram s.bus entryAddress 4 →
        (M.pte s.bus entryAddress).d = true → DirtyRun M entryAddress s t →
          (M.pte t.bus entryAddress).d = true := by
  constructor
  · intro address accessType privilegeLevel s
    constructor
    · intro hmonotone hloses
      exact not_monotone_of_loses hloses hmonotone
    · exact monotone_of_not_loses
  · intro entryAddress s t haligned hram hd hrun
    exact (hrun.dirty haligned ⟨hram, hd⟩).d

/-! ## An aged page -/

/-- The root table maps the first 4 MiB to a superpage, with D set and A
clear. -/
def aged : State MemoryBus :=
  MemoryBus.paging 0x80000 [(0x80000000, 0x2000008F)]

omit [SystemBus β] [Build] in
/-- A load through this entry clears its D bit. -/
theorem aged_loses : Loses MemoryBus.memory 0 .read .supervisor aged := by
  refine ⟨⟨by decide, rfl⟩, by decide, 1, 0x80000000, { bits := 0x2000008F },
    aged.accessed 0x80000000 4 aged.bus [], ⟨?_, ?_⟩, ?_, by decide, by decide⟩
  · refine ⟨0x80000, aged, Reaches.here, by decide, ?_⟩
    rw [MemoryBus.readPte_eq]
    congr 1
  · exact
      { valid := by decide
        leaf := by decide
        allows := by decide
        aligned := by decide }
  · show 4 ≤ 2 ^ 32
    decide

omit [SystemBus β] [Build] in
/-- A load through the entry clears its D bit. -/
theorem not_monotone_aged :
    ¬ @Monotone MemoryBus _ MemoryBus.memory 0 .read .supervisor aged
      (@translateAddress MemoryBus _ Build.debug 0 .read .supervisor
        aged).state :=
  @not_monotone_of_loses MemoryBus _ MemoryBus.memory 0 .read .supervisor aged
    Build.debug aged_loses

omit [SystemBus β] [Build] in
/-- A store through the entry keeps its D bit. -/
theorem entry_updates_monotone_store :
    (MemoryBus.memory.pte (@translateAddress MemoryBus _ Build.debug 0 .write
      .supervisor aged).state.bus 0x80000000).d = true :=
  (@entry_updates_monotone_iff MemoryBus _ Build.debug MemoryBus.memory).2
    0x80000000 aged _ (by decide) (show 4 ≤ 2 ^ 32 by decide) (by decide)
    (@DirtyRun.translate MemoryBus _ Build.debug MemoryBus.memory 0x80000000
      aged aged 0 .write .supervisor
      (@DirtyRun.start MemoryBus _ Build.debug MemoryBus.memory 0x80000000 aged)
      fun h => h.2.1 rfl)

end RedPlanet.Core
