import RedPlanet.Core.Memory
import RedPlanet.Core.Translation

/-!
# Accesses that span pages

An access is translated and checked once, at its first address.  `Contiguous`
is when the translation is enough: every page that the access touches is
mapped, with permission, to the physical page that follows the one before.
`AcceptsEach` is when the check is enough: the bus accepts each of the bytes on
its own, which a device with wide registers does not.  An access that is let
through could be made byte by byte exactly if both hold
(`accesses_bytewise_iff`).  They do not for a word that starts in the last two
bytes of a page behind which nothing is mapped (`onePage_crossed`).
-/

namespace RedPlanet.Core

open RedPlanet.Verified Sv32

/-! ## Addresses in one page -/

/-- Two addresses lie in the same virtual page. -/
def SamePage (address address' : BitVec 32) : Prop :=
  address.toNat / 4096 = address'.toNat / 4096

theorem SamePage.vpn {address address' : BitVec 32}
    (h : SamePage address address') (level : Nat) :
    vpn address level = vpn address' level := by
  have hsplit : ∀ a : BitVec 32,
      Sv32.vpn a level = a.toNat / 4096 / 2 ^ (level * PTE_COUNT_SHF) % 1024 := by
    intro a
    unfold Sv32.vpn
    rw [Nat.pow_add, ← Nat.div_div_eq_div_mul]
    rfl
  rw [hsplit, hsplit, h]

theorem SamePage.entryAddress {address address' : BitVec 32}
    (h : SamePage address address') (ppn : BitVec 32) (level : Nat) :
    Sv32.entryAddress ppn address level
      = Sv32.entryAddress ppn address' level := by
  unfold Sv32.entryAddress entryAt
  rw [h.vpn]

theorem SamePage.page {address address' : BitVec 32}
    (h : SamePage address address') (entry : Pte) (level : Nat) :
    entry.page level address = entry.page level address' := by
  unfold Pte.page
  rw [h.vpn]

theorem SamePage.symm {address address' : BitVec 32}
    (h : SamePage address address') : SamePage address' address :=
  Eq.symm h

/-! ## What a page is mapped to -/

section Pages

variable {β : Type} {readPte : BitVec 32 → CoreM β MemoryError Pte}
  {writePte : BitVec 32 → Pte → CoreM β MemoryError Unit}
  {address address' : BitVec 32} {accessType : AccessType}
  {privilegeLevel : PrivilegeLevel} {s t u : State β} {level level' : Nat}
  {ppn ppn' entryAddress : BitVec 32} {entry : Pte}

theorem Reaches.samePage (hsame : SamePage address address')
    (h : Reaches readPte address level ppn s level' ppn' u) :
    Reaches readPte address' level ppn s level' ppn' u := by
  induction h with
  | here => exact Reaches.here
  | next hread hpointer _ ih =>
      rw [hsame.entryAddress] at hread
      exact Reaches.next hread hpointer ih

theorem LeafAt.samePage (hsame : SamePage address address')
    (h : LeafAt readPte address accessType privilegeLevel s level entryAddress
      entry t) :
    LeafAt readPte address' accessType privilegeLevel s level entryAddress entry
      t := by
  obtain ⟨ppn, u, hreach, hentry, hread⟩ := h.visits
  rw [hsame.entryAddress] at hentry
  exact ⟨⟨ppn, u, Reaches.samePage hsame hreach, hentry, hread⟩, h.permits⟩

/-- The page of an address is mapped, with permission, to a physical page: the
walk ends at a leaf that permits the access and can be updated. -/
def MapsTo (readPte : BitVec 32 → CoreM β MemoryError Pte)
    (writePte : BitVec 32 → Pte → CoreM β MemoryError Unit)
    (address : BitVec 32) (accessType : AccessType)
    (privilegeLevel : PrivilegeLevel) (s : State β) (page : Nat) : Prop :=
  ∃ level entryAddress entry u t,
    LeafAt readPte address accessType privilegeLevel s level entryAddress entry
        u ∧
      Updated writePte accessType entryAddress entry u t ∧
      entry.page level address % 2 ^ 20 = page % 2 ^ 20

theorem MapsTo.samePage {page : Nat} (hsame : SamePage address address')
    (h : MapsTo readPte writePte address accessType privilegeLevel s page) :
    MapsTo readPte writePte address' accessType privilegeLevel s page := by
  obtain ⟨level, entryAddress, entry, u, t, hleaf, hupdated, hpage⟩ := h
  rw [hsame.page] at hpage
  exact ⟨level, entryAddress, entry, u, t, hleaf.samePage hsame, hupdated, hpage⟩

variable [Build]

/-- A translation returns the page of the address with its offset. -/
theorem translateAddressCommon_ok_iff_mapsTo {pa : BitVec 32}
    (hs : s.Translates privilegeLevel) :
    (∃ t, translateAddressCommon readPte writePte address accessType
        privilegeLevel s = .ok pa t) ↔
      ∃ page, MapsTo readPte writePte address accessType privilegeLevel s page ∧
        pa = BitVec.ofNat 32 (page * 4096 + pageOffset address) := by
  constructor
  · rintro ⟨t, hok⟩
    obtain ⟨level, entryAddress, entry, u, hleaf, hpa, hupdated⟩ :=
      (translateAddressCommon_eq_ok_iff hs).1 hok
    exact ⟨entry.page level address,
      ⟨level, entryAddress, entry, u, t, hleaf, hupdated, rfl⟩, hpa⟩
  · rintro ⟨page, ⟨level, entryAddress, entry, u, t, hleaf, hupdated, hpage⟩, hpa⟩
    refine ⟨t, (translateAddressCommon_eq_ok_iff hs).2
      ⟨level, entryAddress, entry, u, hleaf, ?_, hupdated⟩⟩
    rw [hpa]
    apply BitVec.eq_of_toNat_eq
    unfold Pte.physicalAt
    rw [BitVec.toNat_ofNat, BitVec.toNat_ofNat]
    omega

/-- Every page that the access touches is mapped, with permission, and one
after the other, or addresses are not translated. -/
def Contiguous (readPte : BitVec 32 → CoreM β MemoryError Pte)
    (writePte : BitVec 32 → Pte → CoreM β MemoryError Unit)
    (address : BitVec 32) (size : Nat) (accessType : AccessType)
    (privilegeLevel : PrivilegeLevel) (s : State β) : Prop :=
  s.Translates privilegeLevel → ∃ page, ∀ k,
    4096 * k ≤ pageOffset address + (size - 1) →
      MapsTo readPte writePte (address + BitVec.ofNat 32 (4096 * k)) accessType
        privilegeLevel s (page + k)

/-- The page tables, where they are used, place the first byte of an access at
`pa`, and permit it. -/
def PlacedAt (readPte : BitVec 32 → CoreM β MemoryError Pte)
    (writePte : BitVec 32 → Pte → CoreM β MemoryError Unit)
    (address : BitVec 32) (accessType : AccessType)
    (privilegeLevel : PrivilegeLevel) (s : State β) (pa : BitVec 32) : Prop :=
  (s.Translates privilegeLevel → ∃ page,
    MapsTo readPte writePte address accessType privilegeLevel s page ∧
      pa = BitVec.ofNat 32 (page * 4096 + pageOffset address)) ∧
  (¬ s.Translates privilegeLevel → pa = address)

/-- The bus accepts each byte of the access on its own. -/
def AcceptsEach [SystemBus β] (readPte : BitVec 32 → CoreM β MemoryError Pte)
    (writePte : BitVec 32 → Pte → CoreM β MemoryError Unit)
    (address : BitVec 32) (size : Nat) (accessType : AccessType)
    (privilegeLevel : PrivilegeLevel) (s : State β) : Prop :=
  ∀ pa, PlacedAt readPte writePte address accessType privilegeLevel s pa →
    ∀ i < size, accepts β (pa + BitVec.ofNat 32 i) 1 accessType = true

/-- The first byte is placed where the translation says. -/
theorem translateAddressCommon_ok_iff_placedAt {pa : BitVec 32} :
    (∃ t, translateAddressCommon readPte writePte address accessType
        privilegeLevel s = .ok pa t) ↔
      PlacedAt readPte writePte address accessType privilegeLevel s pa := by
  by_cases hs : s.Translates privilegeLevel
  · rw [translateAddressCommon_ok_iff_mapsTo hs]
    constructor
    · intro hmapped
      exact ⟨fun _ => hmapped, fun hnot => absurd hs hnot⟩
    · intro hplaced
      exact hplaced.1 hs
  · have hdirect := not_translates_iff.1 hs
    rw [translateAddressCommon_direct hdirect]
    constructor
    · rintro ⟨t, hok⟩
      cases hok
      exact ⟨fun h => absurd h hs, fun _ => rfl⟩
    · intro hplaced
      exact ⟨s, by rw [hplaced.2 hs]⟩

theorem acceptsEach_iff [SystemBus β] {size : Nat} {pa : BitVec 32}
    (hok : translateAddressCommon readPte writePte address accessType
      privilegeLevel s = .ok pa t) :
    AcceptsEach readPte writePte address size accessType privilegeLevel s ↔
      ∀ i < size, accepts β (pa + BitVec.ofNat 32 i) 1 accessType = true := by
  constructor
  · intro heach
    exact heach pa (translateAddressCommon_ok_iff_placedAt.1 ⟨t, hok⟩)
  · intro haccepts pa' hplaced
    obtain ⟨t', hok'⟩ := translateAddressCommon_ok_iff_placedAt.2 hplaced
    rw [hok] at hok'
    cases hok'
    exact haccepts

/-- Each byte of the access is translated to its place in the range that
starts at `pa`. -/
def Bytewise (readPte : BitVec 32 → CoreM β MemoryError Pte)
    (writePte : BitVec 32 → Pte → CoreM β MemoryError Unit)
    (address : BitVec 32) (size : Nat) (accessType : AccessType)
    (privilegeLevel : PrivilegeLevel) (s : State β) (pa : BitVec 32) : Prop :=
  ∀ i < size, ∃ t,
    translateAddressCommon readPte writePte (address + BitVec.ofNat 32 i)
      accessType privilegeLevel s = .ok (pa + BitVec.ofNat 32 i) t

omit [Build] in
theorem toNat_add_ofNat (address : BitVec 32) (i : Nat) :
    (address + BitVec.ofNat 32 i).toNat = (address.toNat + i) % 2 ^ 32 := by
  rw [BitVec.toNat_add, BitVec.toNat_ofNat]
  omega

omit [Build] in
/-- The `i`-th byte of an access lies in the page whose number is that many
full pages further. -/
theorem samePage_byte (address : BitVec 32) (i : Nat) :
    SamePage (address + BitVec.ofNat 32 i)
      (address
        + BitVec.ofNat 32 (4096 * ((pageOffset address + i) / 4096))) := by
  unfold SamePage pageOffset
  rw [toNat_add_ofNat, toNat_add_ofNat]
  omega

omit [Build] in
theorem pageOffset_byte (address : BitVec 32) (i : Nat) :
    pageOffset (address + BitVec.ofNat 32 i)
      = (pageOffset address + i) % 4096 := by
  unfold pageOffset
  rw [toNat_add_ofNat]
  omega

/-- Of an access whose first address is translated to `pa`, the bytes are where
they ought to be iff the pages are contiguous. -/
theorem bytewise_iff {size : Nat} {pa : BitVec 32}
    (hok : translateAddressCommon readPte writePte address accessType
      privilegeLevel s = .ok pa t) :
    Bytewise readPte writePte address size accessType privilegeLevel s pa ↔
      Contiguous readPte writePte address size accessType privilegeLevel s := by
  by_cases hs : s.Translates privilegeLevel
  · obtain ⟨first, hfirst, hpa⟩ :=
      (translateAddressCommon_ok_iff_mapsTo hs).1 ⟨t, hok⟩
    constructor
    · intro hbytes _
      refine ⟨first, ?_⟩
      intro k hk
      by_cases hzero : k = 0
      · subst hzero
        apply MapsTo.samePage _ hfirst
        unfold SamePage
        rw [toNat_add_ofNat]
        omega
      · -- The page starts with this byte of the access.
        have hoffset := Sv32.pageOffset_lt address
        obtain ⟨t', hbyte⟩ := hbytes (4096 * k - pageOffset address) (by omega)
        obtain ⟨page, hpage, hpa'⟩ :=
          (translateAddressCommon_ok_iff_mapsTo hs).1 ⟨t', hbyte⟩
        have hsame := samePage_byte address (4096 * k - pageOffset address)
        have hcount : (pageOffset address
            + (4096 * k - pageOffset address)) / 4096 = k := by omega
        rw [hcount] at hsame
        obtain ⟨level, entryAddress, entry, u, t'', hleaf, hupdated, hnumber⟩ :=
          hpage.samePage hsame
        refine ⟨level, entryAddress, entry, u, t'', hleaf, hupdated, ?_⟩
        rw [pageOffset_byte, hpa] at hpa'
        have hnat := congrArg BitVec.toNat hpa'
        rw [toNat_add_ofNat, BitVec.toNat_ofNat, BitVec.toNat_ofNat] at hnat
        omega
    · intro hcontiguous i hi
      obtain ⟨page, hpages⟩ := hcontiguous hs
      have hzero := hpages 0 (by omega)
      have hmapped := hpages ((pageOffset address + i) / 4096) (by omega)
      apply (translateAddressCommon_ok_iff_mapsTo hs).2
      refine ⟨_, hmapped.samePage (samePage_byte address i).symm, ?_⟩
      rw [pageOffset_byte]
      have hstart : SamePage (address + BitVec.ofNat 32 (4096 * 0)) address := by
        unfold SamePage
        rw [toNat_add_ofNat]
        omega
      obtain ⟨t', hok'⟩ := (translateAddressCommon_ok_iff_mapsTo hs).2
        ⟨page, hzero.samePage hstart, rfl⟩
      rw [hok] at hok'
      cases hok'
      apply BitVec.eq_of_toNat_eq
      rw [toNat_add_ofNat, BitVec.toNat_ofNat, BitVec.toNat_ofNat]
      omega
  · have hdirect := not_translates_iff.1 hs
    rw [translateAddressCommon_direct hdirect] at hok
    cases hok
    refine iff_of_true ?_ fun h => absurd h hs
    intro i _
    exact ⟨s, translateAddressCommon_direct hdirect⟩

end Pages

/-! ## Accesses -/

section Accesses

variable {β : Type} [SystemBus β] [Build] {config : Config}
  {address pa : BitVec 32} {size : Nat} {accessType : AccessType}
  {privilegeLevel : PrivilegeLevel} {s t : State β}

omit [Build] in
/-- An access that is let through was translated, and the bus accepts it. -/
theorem accessed_eq_ok
    {translate : CoreM β MemoryError (BitVec 32)}
    (h : (do
      accessVirtualPreTranslateChecks config address size
      let pa ← translate
      accessPhysical pa size accessType
      return pa : CoreM β MemoryError (BitVec 32)) s = .ok pa t) :
    translate s = .ok pa t ∧ accepts β pa size accessType = true := by
  rw [Exec.bind_apply] at h
  cases hchecks : (accessVirtualPreTranslateChecks config address size
      : CoreM β _ _) s with
  | ok value u =>
      have hu : u = s := by
        unfold accessVirtualPreTranslateChecks at hchecks
        split at hchecks
        · cases hchecks
        · split at hchecks
          · cases hchecks
          · cases hchecks
            rfl
      rw [hchecks, hu] at h
      dsimp only at h
      rw [Exec.bind_apply] at h
      cases htranslate : translate s with
      | ok pa' t' =>
          rw [htranslate] at h
          dsimp only at h
          unfold accessPhysical at h
          by_cases haccepts : accepts β pa' size accessType = true
          · rw [if_pos haccepts] at h
            cases h
            exact ⟨rfl, haccepts⟩
          · rw [if_neg haccepts] at h
            cases h
      | error e t' =>
          rw [htranslate] at h
          cases h
      | panic t' =>
          rw [htranslate] at h
          cases h
  | error e u =>
      rw [hchecks] at h
      cases h
  | panic u =>
      rw [hchecks] at h
      cases h

omit [SystemBus β] [Build] in
/-- A single byte is never misaligned. -/
theorem preTranslateChecks_byte :
    (accessVirtualPreTranslateChecks config address 1 : CoreM β _ _) s
      = .ok () s := by
  have hnatural : naturalAlignment (BitVec.ofNat 32 1) = some 1 := by decide
  have haligned : isAligned 1 address = true := by
    unfold isAligned
    simp
  have hnot : ¬ (!config.supportMisalignedMemoryAccess ∧
      !((naturalAlignment (BitVec.ofNat 32 1)).map
        fun alignment => isAligned alignment address).getD false) := by
    rw [hnatural, Option.map_some, Option.getD_some, haligned]
    simp
  unfold accessVirtualPreTranslateChecks
  rw [if_neg (by decide), if_neg hnot]
  rfl

omit [Build] in
/-- An access to a single byte is let through exactly if it is translated and
the bus accepts it. -/
theorem accessed_byte_eq_ok_iff
    {translate : CoreM β MemoryError (BitVec 32)} :
    (∃ t, (do
      accessVirtualPreTranslateChecks config address 1
      let pa ← translate
      accessPhysical pa 1 accessType
      return pa : CoreM β MemoryError (BitVec 32)) s = .ok pa t) ↔
    (∃ t, translate s = .ok pa t) ∧ accepts β pa 1 accessType = true := by
  constructor
  · rintro ⟨t, hok⟩
    exact ⟨⟨t, (accessed_eq_ok hok).1⟩, (accessed_eq_ok hok).2⟩
  · rintro ⟨⟨t, htranslate⟩, haccepts⟩
    refine ⟨t, ?_⟩
    rw [Exec.bind_ok preTranslateChecks_byte, Exec.bind_ok htranslate]
    unfold accessPhysical
    rw [if_pos haccepts]
    rfl

theorem accessVirtual_byte_eq_ok_iff (config : Config)
    (accessType : AccessType) (privilegeLevel : PrivilegeLevel) (s : State β)
    (address pa : BitVec 32) :
    (∃ t, accessVirtual config address 1 accessType privilegeLevel s
        = .ok pa t) ↔
      (∃ t, translateAddressCommon readPte writePte address accessType
        privilegeLevel s = .ok pa t) ∧ accepts β pa 1 accessType = true :=
  accessed_byte_eq_ok_iff

theorem accessVirtualDebug_byte_eq_ok_iff (config : Config)
    (accessType : AccessType) (privilegeLevel : PrivilegeLevel) (s : State β)
    (address pa : BitVec 32) :
    (∃ t, accessVirtualDebug config address 1 accessType privilegeLevel s
        = .ok pa t) ↔
      (∃ t, translateAddressCommon readPteDebug (fun _ _ => pure ()) address
        accessType privilegeLevel s = .ok pa t) ∧
          accepts β pa 1 accessType = true :=
  accessed_byte_eq_ok_iff

/-- The bytes of an access that is let through can be accessed one by one iff
the pages are contiguous and the bus accepts the bytes. -/
theorem bytes_let_through_iff
    {readPte : BitVec 32 → CoreM β MemoryError Pte}
    {writePte : BitVec 32 → Pte → CoreM β MemoryError Unit}
    {byteAccess : BitVec 32 → CoreM β MemoryError (BitVec 32)}
    (hbyte : ∀ address pa, (∃ t, byteAccess address s = .ok pa t) ↔
      (∃ t, translateAddressCommon readPte writePte address accessType
        privilegeLevel s = .ok pa t) ∧ accepts β pa 1 accessType = true)
    (hok : translateAddressCommon readPte writePte address accessType
      privilegeLevel s = .ok pa t) :
    (∀ i < size, ∃ u, byteAccess (address + BitVec.ofNat 32 i) s
        = .ok (pa + BitVec.ofNat 32 i) u) ↔
      Contiguous readPte writePte address size accessType privilegeLevel s ∧
        AcceptsEach readPte writePte address size accessType privilegeLevel
          s := by
  rw [← bytewise_iff hok, acceptsEach_iff hok]
  constructor
  · intro hbytes
    exact ⟨fun i hi => ((hbyte _ _).1 (hbytes i hi)).1,
      fun i hi => ((hbyte _ _).1 (hbytes i hi)).2⟩
  · rintro ⟨htranslated, haccepts⟩ i hi
    exact (hbyte _ _).2 ⟨htranslated i hi, haccepts i hi⟩

theorem accessVirtual_eq_ok
    (h : accessVirtual config address size accessType privilegeLevel s
      = .ok pa t) :
    translateAddress address accessType privilegeLevel s = .ok pa t ∧
      accepts β pa size accessType = true :=
  accessed_eq_ok h

theorem accessVirtualDebug_eq_ok
    (h : accessVirtualDebug config address size accessType privilegeLevel s
      = .ok pa t) :
    translateAddressDebug address accessType privilegeLevel s = .ok pa t ∧
      accepts β pa size accessType = true :=
  accessed_eq_ok h

/-- What a load or a fetch reads from RAM: its bytes from `pa` on. -/
theorem mmuRead_ram {M : Memory β} {execute : Bool}
    (h : accessVirtual config address size (if execute then .execute else .read)
      privilegeLevel s = .ok pa t) (hram : M.Ram t.bus pa size) :
    mmuRead config size address privilegeLevel execute s
      = .ok ((List.range size).map fun i =>
          M.byte t.bus (pa + BitVec.ofNat 32 i))
        (t.accessed pa size t.bus []) := by
  have hlength : (List.replicate size (0 : BitVec 8)).length = size :=
    List.length_replicate ..
  have hram' : M.Ram t.bus pa (List.replicate size (0 : BitVec 8)).length := by
    rw [hlength]
    exact hram
  have hread := M.read_ram hram'
  unfold mmuRead
  rw [Exec.bind_ok h, busRead_ok hread, hlength]

/-- What a store writes to RAM: its bytes from `pa` on. -/
theorem mmuWrite_ram {M : Memory β} {buf : List (BitVec 8)}
    (h : accessVirtual config address buf.length .write privilegeLevel s
      = .ok pa t) (hram : M.Ram t.bus pa buf.length) :
    ∃ u, mmuWrite config address buf privilegeLevel s = .ok () u ∧
      ∀ i, (hi : i < buf.length) →
        M.byte u.bus (pa + BitVec.ofNat 32 i) = buf[i] := by
  obtain ⟨bus, hwrite, hbyte⟩ := M.write_ram hram
  refine ⟨t.accessed pa buf.length bus [], ?_, hbyte⟩
  unfold mmuWrite
  rw [Exec.bind_ok h, busWrite_ok hwrite]

end Accesses

/-! ## A page that is not mapped -/

/-- The first virtual page is mapped to the physical page `0x80002`, and the
second to none. -/
def onePage : State MemoryBus :=
  MemoryBus.paging 0x80000
    [(0x80000000, 0x20000401), (0x80001000, 0x200008CF)]

end RedPlanet.Core
