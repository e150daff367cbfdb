import RedPlanet.Core.Memory
import RedPlanet.Core.Translation

/-!
# Physical addresses

What `translate_address` returns, against the mapping of the leaf it found,
and what happens to addresses that do not fit in 32 bits.
-/

namespace RedPlanet.Core

open RedPlanet.Verified Discipline Sv32

/-! ## The address that a leaf maps to -/

/-- The physical address of `address` in the page of a leaf of this level: a
page of 4 KiB, or a superpage of 4 MiB. -/
def Pte.mappedAt (entry : Pte) (level : Nat) (address : BitVec 32) : Nat :=
  if level = 0 then entry.ppn.toNat * 2 ^ 12 + address.toNat % 2 ^ 12
  else entry.ppn.toNat / 2 ^ 10 * 2 ^ 22 + address.toNat % 2 ^ 22

/-- The superpage case takes the low part of the page number from VPN[1],
where VPN[0] belongs. -/
theorem Pte.physicalAt_eq_mappedAt_iff {entry : Pte} {level : Nat}
    (hlevel : level ≤ 1) (haligned : ¬ entry.Misaligned level)
    (address : BitVec 32) :
    entry.physicalAt level address = entry.mappedAt level address ↔
      level = 0 ∨ vpn address 1 = vpn address 0 := by
  have hlevels : level = 0 ∨ level = 1 := by omega
  unfold Pte.physicalAt Pte.page Pte.mappedAt vpn pageOffset
  rcases hlevels with rfl | rfl
  · simp
  · have hlow : entry.ppn.toNat % 1024 = 0 := by
      by_contra h
      exact haligned ⟨by decide, h⟩
    simp only [Nat.one_ne_zero, if_false, false_or]
    show (entry.ppn.toNat + address.toNat / 4194304 % 1024) * 4096
        + address.toNat % 4096
      = entry.ppn.toNat / 1024 * 4194304 + address.toNat % 4194304 ↔
      address.toNat / 4194304 % 1024 = address.toNat / 4096 % 1024
    omega

theorem Pte.physicalAt_lt {entry : Pte} {level : Nat} (hlevel : level ≤ 1)
    (haligned : ¬ entry.Misaligned level) (hppn : entry.ppn.toNat < 2 ^ 20)
    (address : BitVec 32) : entry.physicalAt level address < 2 ^ 32 := by
  have hlevels : level = 0 ∨ level = 1 := by omega
  have hvpn := vpn_lt address 1
  have hoffset := Sv32.pageOffset_lt address
  unfold Pte.physicalAt Pte.page
  rcases hlevels with rfl | rfl
  · rw [if_pos rfl]
    omega
  · have hlow : entry.ppn.toNat % 1024 = 0 := by
      by_contra h
      exact haligned ⟨by decide, h⟩
    rw [if_neg Nat.one_ne_zero]
    omega

variable {β : Type} [SystemBus β] [Build] {address pa : BitVec 32}
  {accessType : AccessType} {privilegeLevel : PrivilegeLevel} {s t : State β}

/-- A successful translation found a leaf, and it returns the address that the
leaf maps to iff the leaf is not a superpage or VPN[1] equals VPN[0]. -/
theorem translated_right_iff (hs : s.Translates privilegeLevel)
    (hok : translateAddress address accessType privilegeLevel s = .ok pa t) :
    (∃ level entryAddress entry u,
      LeafAt readPte address accessType privilegeLevel s level entryAddress
        entry u) ∧
    ∀ level entryAddress entry u,
      LeafAt readPte address accessType privilegeLevel s level entryAddress
          entry u →
        entry.ppn.toNat < 2 ^ 20 →
        (pa.toNat = entry.mappedAt level address ↔
          level = 0 ∨ vpn address 1 = vpn address 0) := by
  constructor
  · obtain ⟨level, entryAddress, entry, u, hleaf, _⟩ :=
      (translateAddressCommon_eq_ok_iff hs).1 hok
    exact ⟨level, entryAddress, entry, u, hleaf⟩
  · intro level entryAddress entry u hleaf hppn
    have hlevel := hleaf.visits.level_le
    have haligned := hleaf.permits.aligned
    have hrun : finish writePte address accessType level entryAddress entry u
        = .ok pa t := (translateAddressCommon_of_leafAt hs hleaf).symm.trans hok
    have hpa : pa.toNat = entry.physicalAt level address := by
      rw [(finish_eq_ok_iff.1 hrun).1, BitVec.toNat_ofNat]
      exact Nat.mod_eq_of_lt (Pte.physicalAt_lt hlevel haligned hppn address)
    rw [hpa]
    exact Pte.physicalAt_eq_mappedAt_iff hlevel haligned address

/-- The root table maps the first 4 MiB to the superpage at `0x80000000`. -/
def superpage : State MemoryBus :=
  MemoryBus.paging 0x80000 [(0x80000000, 0x200000CF)]

omit [Build] in
theorem superpage_translates : superpage.Translates .supervisor where
  level := by decide
  mode := rfl

omit [Build] in
/-- For addresses in the first 4 MiB the walk ends at its first entry. -/
theorem superpage_leafAt (haddress : vpn address 1 = 0) :
    LeafAt readPte address .read .supervisor superpage 1 0x80000000
      { bits := 0x200000CF } (superpage.accessed 0x80000000 4 superpage.bus [])
    where
  visits := by
    refine ⟨0x80000, superpage, Reaches.here, ?_, ?_⟩
    · unfold entryAddress entryAt
      rw [haddress]
      decide
    · rw [MemoryBus.readPte_eq]
      congr 1
  permits :=
    { valid := by decide
      leaf := by decide
      allows := by decide
      aligned := by decide }

theorem superpage_translate (haddress : vpn address 1 = 0) :
    translateAddress address .read .supervisor superpage
      = .ok (BitVec.ofNat 32 (0x80000 * 4096 + pageOffset address))
          (superpage.accessed 0x80000000 4 superpage.bus []) := by
  have hphysical : Pte.physicalAt { bits := 0x200000CF } 1 address
      = 0x80000 * 4096 + pageOffset address := by
    unfold Pte.physicalAt Pte.page
    rw [haddress]
    rfl
  refine (translateAddressCommon_of_leafAt superpage_translates
    (superpage_leafAt haddress)).trans ?_
  rw [finish_eq_ok_iff, hphysical]
  exact ⟨rfl, rfl⟩

omit [Build] in
/-- Where VPN[1] and VPN[0] are equal, the superpage is mapped right. -/
theorem superpage_right :
    (BitVec.ofNat 32 (0x80000 * 4096 + pageOffset 4)).toNat
      = Pte.mappedAt { bits := 0x200000CF } 1 4 :=
  ((@translated_right_iff MemoryBus _ Build.debug _ _ _ _ _ _
    superpage_translates (@superpage_translate Build.debug 4 (by decide))).2
      _ _ _ _ (superpage_leafAt (by decide)) (by decide)).2 (Or.inr (by decide))

omit [Build] in
/-- The second page of the superpage is translated to its first one. -/
theorem superpage_wrong :
    ∃ t level entryAddress entry u,
      @translateAddress MemoryBus _ Build.debug 0x1000 .read .supervisor
          superpage = .ok 0x80000000 t ∧
        LeafAt readPte 0x1000 .read .supervisor superpage level entryAddress
          entry u ∧
        entry.ppn.toNat < 2 ^ 20 ∧
        (0x80000000#32).toNat ≠ entry.mappedAt level 0x1000 :=
  ⟨_, _, _, _, _, @superpage_translate Build.debug 0x1000 (by decide),
    superpage_leafAt (by decide), by decide, by decide⟩

/-! ## Addresses past 32 bits -/

variable {level : Nat} {ppn : BitVec 32} {u : State β}

/-- The addresses that a walk forms: what the code computes, the exact value,
and the state in which it does so. -/
inductive Forms (address : BitVec 32) (accessType : AccessType)
    (privilegeLevel : PrivilegeLevel) (s : State β) :
    BitVec 32 → Nat → State β → Prop
  | table {level : Nat} {ppn : BitVec 32} {u : State β} :
      ReachesTable readPte address s level ppn u →
      Forms address accessType privilegeLevel s (ppn <<< PAGE_SIZE_SHF)
        (ppn.toNat * 4096) u
  | entry {level : Nat} {ppn : BitVec 32} {u : State β} :
      ReachesTable readPte address s level ppn u →
      Forms address accessType privilegeLevel s
        (ppn <<< PAGE_SIZE_SHF
          + (address >>> (PAGE_SIZE_SHF + level * PTE_COUNT_SHF)
            &&& PTE_COUNT_MSK) <<< PTE_SIZE_SHF)
        (ppn.toNat * 4096 + vpn address level * 4) u
  | final {level : Nat} {entryAddress pa : BitVec 32} {entry : Pte}
      {u t : State β} :
      LeafAt readPte address accessType privilegeLevel s level entryAddress
        entry u →
      finish writePte address accessType level entryAddress entry u
        = .ok pa t →
      Forms address accessType privilegeLevel s pa
        (entry.page level address * 4096 + pageOffset address) t

/-- Every address is formed exactly, or the translation returns an error as
soon as one does not fit, without going on from the state in which it was
formed. -/
def NeverWraps (address : BitVec 32) (accessType : AccessType)
    (privilegeLevel : PrivilegeLevel) (s : State β) : Prop :=
  ∀ formed exact u, Forms address accessType privilegeLevel s formed exact u →
    (exact < 2 ^ 32 → formed.toNat = exact) ∧
      (2 ^ 32 ≤ exact →
        ∃ e, translateAddress address accessType privilegeLevel s
          = .error e u)

/-- A table or a page past the end of the 32-bit space is used only if the bus
refuses to read its entry, or to write back the leaf that led to it. -/
structure Fits (address : BitVec 32) (accessType : AccessType)
    (privilegeLevel : PrivilegeLevel) (s : State β) : Prop where
  table : ∀ level ppn u, ReachesTable readPte address s level ppn u →
    2 ^ 20 ≤ ppn.toNat →
      accepts β (entryAddress ppn address level) 4 .read = false
  leaf : ∀ level entryAddress entry u,
    LeafAt readPte address accessType privilegeLevel s level entryAddress
        entry u →
      2 ^ 20 ≤ entry.ppn.toNat →
      entry.needsUpdate accessType = true ∧
        (accepts β entryAddress 4 .write = false ∨
          SystemBus.write entryAddress
            (toLeBytes 4 (entry.updated accessType).bits) u.bus = none)

omit [Build] in
/-- Entries and pages beyond the 32-bit space are those of page numbers past
`2 ^ 20`. -/
theorem le_physicalAt_iff {entry : Pte} (hlevel : level ≤ 1)
    (haligned : ¬ entry.Misaligned level) (address : BitVec 32) :
    2 ^ 32 ≤ entry.page level address * 4096 + pageOffset address ↔
      2 ^ 20 ≤ entry.ppn.toNat := by
  have hlevels : level = 0 ∨ level = 1 := by omega
  have hvpn := vpn_lt address 1
  have hoffset := Sv32.pageOffset_lt address
  unfold Pte.page
  rcases hlevels with rfl | rfl
  · rw [if_pos rfl]
    omega
  · have hlow : entry.ppn.toNat % 1024 = 0 := by
      by_contra h
      exact haligned ⟨by decide, h⟩
    rw [if_neg Nat.one_ne_zero]
    omega

/-! An access to the bus shows in the events, and they only grow. -/

omit [Build] in
theorem accesses_events (n : Nat) :
    Accesses (preserving fun s : State β => n ≤ s.events.length) := by
  apply accesses_preserving
  · intro s event h
    exact Nat.le_succ_of_le h
  · intro s address buf buf' bus calls _ h
    exact h
  · intro s address buf bus calls _ _ h
    exact h

/-- A walk that gets to read an entry does not stop in the state before. -/
theorem ne_error_of_accepts (hs : s.Translates privilegeLevel)
    (hreach : ReachesTable readPte address s level ppn u)
    (haccepts : accepts β (entryAddress ppn address level) 4 .read = true)
    (e : MemoryError) :
    translateAddress address accessType privilegeLevel s ≠ .error e u := by
  intro herror
  have hwalk : walk readPte writePte address accessType
      (privilegeLevel == .user) (level + 1) (ppn <<< PAGE_SIZE_SHF) u
      = .error e u :=
    (translateAddressCommon_of_reaches hs hreach).symm.trans herror
  rcases readPte_cases (entryAddress ppn address level) u with
    ⟨hrefused, _⟩ | ⟨_, ⟨_, hpanic⟩ | ⟨buf, bus, calls, _, hread⟩⟩
  · rw [haccepts] at hrefused
    cases hrefused
  · rw [walk_read_panic hpanic] at hwalk
    cases hwalk
  · rw [walk_read_ok hread] at hwalk
    have hD := accesses_events (β := β) (u.events.length + 1)
    have hturn : (preserving _).Tame (turn readPte writePte address accessType
        (privilegeLevel == .user) level (entryAddress ppn address level)
        { bits := ofLeBytes 32 buf }) :=
      tame_turn hD.tame_readPte hD.tame_writePte _ _
    have hread : u.events.length + 1 ≤ (u.accessed
        (entryAddress ppn address level) 4 bus calls).events.length :=
      Nat.le_refl _
    have hevents := hturn.preserves hread
    rw [hwalk] at hevents
    exact absurd hevents (Nat.not_succ_le_self _)

omit [Build] in
/-- An update fails iff the bus refuses it or panics on it. -/
theorem finish_ok_iff_writable {entryAddress : BitVec 32} {entry : Pte} :
    (∃ pa t, finish writePte address accessType level entryAddress entry u
        = .ok pa t) ↔
      ¬ (entry.needsUpdate accessType = true ∧
        (accepts β entryAddress 4 .write = false ∨
          SystemBus.write entryAddress
            (toLeBytes 4 (entry.updated accessType).bits) u.bus = none)) := by
  simp only [finish_eq_ok_iff, Updated]
  by_cases hupdate : entry.needsUpdate accessType = true
  · simp only [hupdate, if_true, exists_and_left, exists_eq_left, true_and]
    rw [writePte_eq_ok_iff, not_or, Bool.not_eq_false]
  · simp [hupdate]

/-- A table whose entry the bus refuses ends the walk there. -/
theorem translate_of_refused (hs : s.Translates privilegeLevel)
    (hreach : ReachesTable readPte address s level ppn u)
    (h : accepts β (entryAddress ppn address level) 4 .read = false) :
    translateAddress address accessType privilegeLevel s
      = .error .accessFault u :=
  (translateAddressCommon_of_reaches hs hreach).trans
    (walk_read_error (readPte_refused h))

/-- No address of a walk wraps around iff the page numbers that are used are
below `2 ^ 20`. -/
theorem neverWraps_iff (hs : s.Translates privilegeLevel) :
    NeverWraps address accessType privilegeLevel s ↔
      Fits address accessType privilegeLevel s := by
  constructor
  · intro h
    refine { table := ?_, leaf := ?_ }
    · intro level ppn u hreach hppn
      obtain ⟨e, he⟩ := (h _ _ _ (Forms.table hreach)).2 (by omega)
      by_contra haccepts
      exact ne_error_of_accepts hs hreach (by simpa using haccepts) e he
    · intro level entryAddress entry u hleaf hppn
      by_contra hwritable
      obtain ⟨pa, t, hfinish⟩ := finish_ok_iff_writable.2 hwritable
      have hexact := (le_physicalAt_iff hleaf.visits.level_le
        hleaf.permits.aligned address).2 hppn
      obtain ⟨e, he⟩ := (h _ _ _ (Forms.final hleaf hfinish)).2 hexact
      have hrun : translateAddress address accessType privilegeLevel s = _ :=
        translateAddressCommon_of_leafAt hs hleaf
      rw [hfinish, he] at hrun
      cases hrun
  · intro h formed exact u hforms
    cases hforms with
    | table hreach =>
        refine ⟨?_, fun hexact => ⟨.accessFault, ?_⟩⟩
        · intro hexact
          rw [BitVec.toNat_shiftLeft, Nat.shiftLeft_eq]
          exact Nat.mod_eq_of_lt hexact
        · exact translate_of_refused hs hreach
            (h.table _ _ _ hreach (by omega))
    | entry hreach =>
        rename_i level ppn
        have hvpn := vpn_lt address level
        refine ⟨?_, fun hexact => ⟨.accessFault, ?_⟩⟩
        · intro hexact
          rw [entryAddress_eq, entryAddress, BitVec.toNat_ofNat]
          exact Nat.mod_eq_of_lt hexact
        · exact translate_of_refused hs hreach
            (h.table _ _ _ hreach (by omega))
    | final hleaf hfinish =>
        refine ⟨?_, fun hexact => ?_⟩
        · intro hexact
          rw [(finish_eq_ok_iff.1 hfinish).1, BitVec.toNat_ofNat]
          exact Nat.mod_eq_of_lt hexact
        · have hppn := (le_physicalAt_iff hleaf.visits.level_le
            hleaf.permits.aligned address).1 hexact
          exact absurd (h.leaf _ _ _ _ hleaf hppn)
            (finish_ok_iff_writable.1 ⟨_, _, hfinish⟩)

/-- A root table at page number `2 ^ 20`, past the end of the 32-bit space,
with zeros everywhere in memory. -/
def wrappingRoot : State MemoryBus := MemoryBus.paging 0x100000 []

omit [Build] in
/-- The walk reads the root entry at address zero. -/
theorem not_neverWraps_wrappingRoot :
    ¬ @NeverWraps MemoryBus _ Build.debug 0 .read .supervisor wrappingRoot := by
  rw [@neverWraps_iff MemoryBus _ Build.debug _ _ _ _ ⟨by decide, rfl⟩]
  intro h
  exact absurd (h.table 1 0x100000 wrappingRoot Reaches.here (by decide))
    (by decide)

/-- Memory that takes no writes. -/
structure ReadOnlyBus where
  memory : MemoryBus

instance : SystemBus ReadOnlyBus where
  accepts _ size accessType := accessType != .write && decide (size ≤ 2 ^ 32)
  read address buf bus := some
    ((List.range buf.length).map fun i =>
      bus.memory.byte (address + BitVec.ofNat 32 i), bus, [])
  readDebug address buf bus := some
    ((List.range buf.length).map fun i =>
      bus.memory.byte (address + BitVec.ofNat 32 i))
  write _ _ _ := none

/-- The root table, in read-only memory, maps the first 4 MiB to a superpage
at page number `2 ^ 20`, with A clear. -/
def readOnlyRoot : State ReadOnlyBus :=
  { State.new NoDevices.config ⟨MemoryBus.ofWords [(0x80000000, 0x4000000F)]⟩ with
    privilegeMode := .supervisor
    trap := { Trap.new with satpMode := .sv32, satpPpn := 0x80000 } }

omit [Build] in
theorem readOnlyRoot_readPte {entry : Pte} {t : State ReadOnlyBus}
    (h : readPte (Sv32.entryAddress 0x80000 0 1) readOnlyRoot = .ok entry t) :
    entry = { bits := 0x4000000F } := by
  have haddress : Sv32.entryAddress 0x80000 0 1 = 0x80000000 := by decide
  rw [haddress, readPte_ok (s := readOnlyRoot) rfl rfl] at h
  cases h
  decide

omit [Build] in
/-- The leaf is past the end of the 32-bit space, and the walk stops there
because its A bit cannot be set. -/
theorem neverWraps_readOnlyRoot :
    @NeverWraps ReadOnlyBus _ Build.debug 0 .read .supervisor
      readOnlyRoot := by
  refine (@neverWraps_iff ReadOnlyBus _ Build.debug _ _ _ _
    ⟨by decide, rfl⟩).2 ?_
  refine { table := ?_, leaf := ?_ }
  · intro level ppn u hreach hppn
    cases hreach with
    | here => exact absurd hppn (by decide)
    | next hread hpointer _ =>
        rw [readOnlyRoot_readPte hread] at hpointer
        exact absurd hpointer (by decide)
  · rintro level entryAddress entry u ⟨⟨ppn, v, hreach, haddr, hread⟩, -⟩ hppn
    cases hreach with
    | here =>
        rw [haddr] at hread
        rw [readOnlyRoot_readPte hread]
        exact ⟨by decide, Or.inl rfl⟩
    | next hread hpointer _ =>
        rw [readOnlyRoot_readPte hread] at hpointer
        exact absurd hpointer (by decide)

end RedPlanet.Core
