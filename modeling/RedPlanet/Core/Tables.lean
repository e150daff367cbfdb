import RedPlanet.Core.Faults
import RedPlanet.Core.PageFaults

/-!
# Page tables in memory

The entries that translations at user level go through, read off the bytes of
memory, and what they map: `EntryAt` follows the pointers of the tables, and
`Grants` is the leaf at their end.

Nothing of it depends on the A and D bits (`Remarked`), which a translation
sets as it goes.  `SameTables` says that a memory holds the tables of another
state in this sense, and it is shown to be an equivalence under which the
entries, what they grant and the bytes of the user are the same.
`grants_of_leafAt` connects this with the walk.
-/

namespace RedPlanet.Core

open RedPlanet.Verified Discipline Sv32

/-! ## Entries up to A and D -/

namespace Pte

/-- The second entry is the first one, in which a leaf may have other A and D
bits. -/
def Remarked (old new : Pte) : Prop :=
  new = old ∨ old.isLeaf = true ∧ ∃ a d, new = old.setAD a d

variable {old new entry : Pte}

/-- Nothing is marked. -/
theorem Remarked.refl (entry : Pte) : Remarked entry entry := Or.inl rfl

/-- Marking an entry sets its A and D bits and no others. -/
theorem getLsbD_setAD (entry : Pte) (a d : Bool) {i : ℕ} (h6 : i ≠ 6)
    (h7 : i ≠ 7) :
    (entry.setAD a d).bits.getLsbD i = entry.bits.getLsbD i := by
  unfold setAD
  rw [getLsbD_setBit_ne _ _ h7, getLsbD_setBit_ne _ _ h6]

/-- The second marking is the one that counts. -/
theorem setAD_setAD (entry : Pte) (a d a' d' : Bool) :
    (entry.setAD a d).setAD a' d' = entry.setAD a' d' := by
  have hbits : ((entry.setAD a d).setAD a' d').bits
      = (entry.setAD a' d').bits := by
    apply BitVec.eq_of_getLsbD_eq
    intro i _
    by_cases h7 : i = 7
    · rw [h7]
      show (setBit _ 7 d').getLsbD 7 = (setBit _ 7 d').getLsbD 7
      rw [getLsbD_setBit_self _ _ (by decide),
        getLsbD_setBit_self _ _ (by decide)]
    · by_cases h6 : i = 6
      · rw [h6]
        show (setBit (setBit _ 6 a') 7 d').getLsbD 6
          = (setBit (setBit _ 6 a') 7 d').getLsbD 6
        rw [getLsbD_setBit_ne _ _ (by decide),
          getLsbD_setBit_self _ _ (by decide),
          getLsbD_setBit_ne _ _ (by decide),
          getLsbD_setBit_self _ _ (by decide)]
      · rw [getLsbD_setAD _ _ _ h6 h7, getLsbD_setAD _ _ _ h6 h7,
          getLsbD_setAD _ _ _ h6 h7]
  exact congrArg Pte.mk hbits

/-- No other bit of the entry is different. -/
theorem Remarked.getLsbD (h : Remarked old new) {i : ℕ} (h6 : i ≠ 6)
    (h7 : i ≠ 7) : new.bits.getLsbD i = old.bits.getLsbD i := by
  obtain rfl | ⟨_, a, d, rfl⟩ := h
  · rfl
  · exact getLsbD_setAD old a d h6 h7

/-- The page is the same. -/
theorem Remarked.ppn (h : Remarked old new) : new.ppn = old.ppn := by
  have hfield : new.bits.extractLsb' 10 22 = old.bits.extractLsb' 10 22 := by
    apply BitVec.eq_of_getLsbD_eq
    intro i _
    rw [BitVec.getLsbD_extractLsb', BitVec.getLsbD_extractLsb',
      h.getLsbD (by omega) (by omega)]
  exact congrArg (BitVec.setWidth 32) hfield

/-- What is valid stays valid, and nothing else becomes so. -/
theorem Remarked.isValid (h : Remarked old new) :
    new.isValid = old.isValid := by
  unfold Pte.isValid v r w
  rw [h.getLsbD (by decide) (by decide), h.getLsbD (by decide) (by decide),
    h.getLsbD (by decide) (by decide)]

/-- A leaf stays a leaf. -/
theorem Remarked.isLeaf (h : Remarked old new) : new.isLeaf = old.isLeaf := by
  unfold Pte.isLeaf r x
  rw [h.getLsbD (by decide) (by decide), h.getLsbD (by decide) (by decide)]

/-- A pointer is not marked at all. -/
theorem Remarked.isPointer (h : Remarked old new) :
    new.isPointer = old.isPointer := by
  unfold Pte.isPointer
  rw [h.isValid, h.isLeaf]

/-- To mark a leaf twice is to mark it once. -/
theorem Remarked.trans {entry : Pte} (h : Remarked old entry)
    (h' : Remarked entry new) : Remarked old new := by
  obtain rfl | ⟨hleaf', a', d', rfl⟩ := h'
  · exact h
  · rw [h.isLeaf] at hleaf'
    obtain rfl | ⟨_, a, d, rfl⟩ := h
    · exact Or.inr ⟨hleaf', a', d', rfl⟩
    · exact Or.inr ⟨hleaf', a', d', setAD_setAD old a d a' d'⟩

/-- The marks can be taken back. -/
theorem Remarked.symm (h : Remarked old new) : Remarked new old := by
  obtain rfl | ⟨hleaf, a, d, rfl⟩ := h
  · exact Remarked.refl _
  · have hback : old = (old.setAD a d).setAD old.a old.d := by
      rw [setAD_setAD]
      have hbits : old.bits = (old.setAD old.a old.d).bits := by
        unfold setAD Pte.a Pte.d
        apply BitVec.eq_of_getLsbD_eq
        intro i _
        by_cases h7 : i = 7
        · rw [h7, getLsbD_setBit_self _ _ (by decide)]
        · by_cases h6 : i = 6
          · rw [h6, getLsbD_setBit_ne _ _ (by decide),
              getLsbD_setBit_self _ _ (by decide)]
          · rw [getLsbD_setBit_ne _ _ h7, getLsbD_setBit_ne _ _ h6]
      exact congrArg Pte.mk hbits
    have hmark : Remarked old (old.setAD a d) := Or.inr ⟨hleaf, a, d, rfl⟩
    exact Or.inr ⟨hmark.isLeaf.trans hleaf, _, _, hback⟩

/-- What a leaf permits does not depend on its A and D bits. -/
theorem Remarked.permits (h : Remarked old new) {accessType : AccessType}
    {userMode mxr sum : Bool} {level : ℕ}
    (hpermits : old.Permits accessType userMode mxr sum level) :
    new.Permits accessType userMode mxr sum level := by
  refine ⟨?_, ?_, ?_, ?_⟩
  · rw [h.isValid]
    exact hpermits.valid
  · rw [h.isLeaf]
    exact hpermits.leaf
  · have hallows := hpermits.allows
    unfold Pte.allows r w x u at hallows ⊢
    rw [h.getLsbD (by decide) (by decide), h.getLsbD (by decide) (by decide),
      h.getLsbD (by decide) (by decide), h.getLsbD (by decide) (by decide)]
    exact hallows
  · have haligned := hpermits.aligned
    unfold Misaligned at haligned ⊢
    rw [h.ppn]
    exact haligned

/-- The leaf maps every address to the same place. -/
theorem Remarked.physicalAt (h : Remarked old new) (level : ℕ)
    (address : BitVec 32) :
    new.physicalAt level address = old.physicalAt level address := by
  unfold Pte.physicalAt Pte.page
  rw [h.ppn]

end Pte

/-! ## The tables -/

variable {β : Type} [SystemBus β] (M : Memory β)

/-- The entries for an address: the one in the root table, and behind every
pointer the one in the next table. -/
inductive EntryAt (s : State β) (address : BitVec 32) :
    ℕ → BitVec 32 → Prop
  | root : EntryAt s address 1 (entryAddress s.trap.satpPpn address 1)
  | next {level : ℕ} {slot : BitVec 32} :
      EntryAt s address (level + 1) slot →
      (M.pte s.bus slot).isPointer = true →
      EntryAt s address level
        (entryAddress (M.pte s.bus slot).ppn address level)

/-- The tables map the address, for this type of access from U-mode, to a
physical address. -/
def Grants (s : State β) (address : BitVec 32) (accessType : AccessType)
    (pa : BitVec 32) : Prop :=
  ∃ level slot, EntryAt M s address level slot ∧
    (M.pte s.bus slot).Permits accessType true s.status.mxr s.status.sum
      level ∧
    pa = BitVec.ofNat 32 ((M.pte s.bus slot).physicalAt level address)

/-- The bytes that the tables consist of. -/
def TableByte (s : State β) (x : BitVec 32) : Prop :=
  ∃ address level slot, EntryAt M s address level slot ∧ InAccess slot 4 x

/-- The bytes of accesses from U-mode.  Only the first byte of an access is
translated, so up to three bytes past the end of a page count, too. -/
def UserByte (s : State β) (accessType : AccessType) (x : BitVec 32) : Prop :=
  ∃ address pa, Grants M s address accessType pa ∧ InAccess pa 4 x

variable {M} {s t u : State β} {address slot : BitVec 32} {level : ℕ}
  {accessType : AccessType}

/-- There are two levels. -/
theorem EntryAt.level_le (h : EntryAt M s address level slot) :
    level ≤ 1 := by
  induction h with
  | root => exact Nat.le_refl 1
  | next _ _ ih => omega

/-- The entries for an address lie at multiples of four. -/
theorem EntryAt.aligned (h : EntryAt M s address level slot) :
    slot.toNat % 4 = 0 := by
  have haligned : ∀ ppn : BitVec 32,
      (entryAddress ppn address level).toNat % 4 = 0 := by
    intro ppn
    unfold entryAddress entryAt
    rw [BitVec.toNat_ofNat]
    omega
  cases h with
  | root => exact haligned _
  | next _ _ => exact haligned _

/-! ## Walks through memory -/

/-- The tables are in memory. -/
def TablesInRam (M : Memory β) (s : State β) : Prop :=
  ∀ {address level slot}, EntryAt M s address level slot → M.Ram s.bus slot 4

/-- A walk reaches the tables that are there, and changes nothing on its
way. -/
theorem entryAt_of_reaches (hram : TablesInRam M s) {level' : ℕ}
    {ppn ppn' : BitVec 32}
    (h : Reaches readPte address level ppn t level' ppn' u)
    (hbus : t.bus = s.bus)
    (hentry : EntryAt M s address level (entryAddress ppn address level)) :
    EntryAt M s address level' (entryAddress ppn' address level') ∧
      u.bus = s.bus := by
  induction h with
  | here => exact ⟨hentry, hbus⟩
  | @next level level' ppn ppn' t v u entry hread hpointer _ ih =>
      have hslot := hram hentry
      rw [← hbus] at hslot
      rw [Memory.readPte_ram (M := M) hslot] at hread
      cases hread
      rw [hbus] at hpointer
      apply ih hbus
      rw [hbus]
      exact .next hentry hpointer

/-- The entries that a walk visits are those that are there, with nothing
changed on the way. -/
theorem entryAt_of_visits {entry : Pte} (hram : TablesInRam M s)
    (h : VisitsEntry readPte address s level slot entry t) :
    EntryAt M s address level slot ∧ M.pte s.bus slot = entry ∧
      t.bus = s.bus := by
  have hvisits := h
  obtain ⟨ppn, u, hreach, rfl, hread⟩ := h
  obtain ⟨hentry, hbus⟩ := entryAt_of_reaches hram hreach rfl .root
  have hslot := hram hentry
  refine ⟨hentry, (hvisits.entry_eq hslot).1, ?_⟩
  rw [← hbus] at hslot
  rw [Memory.readPte_ram (M := M) hslot] at hread
  cases hread
  exact hbus

/-- Where a user access goes, the tables map it to. -/
theorem grants_of_leafAt [Build] {entry : Pte} (hram : TablesInRam M s)
    (h : LeafAt readPte address accessType .user s level slot entry t) :
    Grants M s address accessType
      (BitVec.ofNat 32 (entry.physicalAt level address)) := by
  obtain ⟨hentry, rfl, _⟩ := entryAt_of_visits hram h.visits
  have hpermits := h.permits
  rw [h.visits.status] at hpermits
  exact ⟨level, slot, hentry, hpermits, rfl⟩

/-! ## The same tables -/

/-- The memory holds the tables of another state, up to A and D bits. -/
structure SameTables (M : Memory β) (s t : State β) : Prop where
  ppn : t.trap.satpPpn = s.trap.satpPpn
  entry : ∀ {address level slot}, EntryAt M s address level slot →
    (M.pte s.bus slot).Remarked (M.pte t.bus slot)

/-- The entries are at the same places, by induction along the pointers. -/
theorem SameTables.entryAt (h : SameTables M s t)
    (hentry : EntryAt M s address level slot) :
    EntryAt M t address level slot := by
  induction hentry with
  | root =>
      rw [← h.ppn]
      exact .root
  | next hentry hpointer ih =>
      have hremarked := h.entry hentry
      rw [← hremarked.ppn]
      exact .next ih (hremarked.isPointer.trans hpointer)

/-- The tables of the first state are those of the second. -/
theorem SameTables.symm (h : SameTables M s t) : SameTables M t s where
  ppn := h.ppn.symm
  entry := by
    intro address level slot hentry
    have hback : EntryAt M s address level slot := by
      induction hentry with
      | root =>
          rw [h.ppn]
          exact .root
      | next hentry hpointer ih =>
          have hremarked := h.entry ih
          rw [hremarked.ppn]
          exact .next ih (hremarked.isPointer.symm.trans hpointer)
    exact (h.entry hback).symm

/-- And so on through a third. -/
theorem SameTables.trans (hst : SameTables M s t) (htu : SameTables M t u) :
    SameTables M s u where
  ppn := htu.ppn.trans hst.ppn
  entry hentry := (hst.entry hentry).trans (htu.entry (hst.entryAt hentry))

/-- The same entries, in either direction. -/
theorem SameTables.entryAt_iff (h : SameTables M s t) :
    EntryAt M t address level slot ↔ EntryAt M s address level slot :=
  ⟨h.symm.entryAt, h.entryAt⟩

/-- What the tables map they go on mapping, if the status is the same. -/
theorem SameTables.grants (h : SameTables M s t) (hstatus : t.status = s.status)
    {pa : BitVec 32} (hgrants : Grants M s address accessType pa) :
    Grants M t address accessType pa := by
  obtain ⟨level, slot, hentry, hpermits, rfl⟩ := hgrants
  have hremarked := h.entry hentry
  refine ⟨level, slot, h.entryAt hentry, ?_, ?_⟩
  · rw [hstatus]
    exact hremarked.permits hpermits
  · rw [hremarked.physicalAt]

/-- So the bytes of user code stay the same ones. -/
theorem SameTables.userByte (h : SameTables M s t)
    (hstatus : t.status = s.status) :
    UserByte M t accessType = UserByte M s accessType := by
  funext x
  apply propext
  constructor
  · rintro ⟨address, pa, hgrants, hx⟩
    exact ⟨address, pa, h.symm.grants hstatus.symm hgrants, hx⟩
  · rintro ⟨address, pa, hgrants, hx⟩
    exact ⟨address, pa, h.grants hstatus hgrants, hx⟩

theorem SameTables.tableByte (h : SameTables M s t) :
    TableByte M t = TableByte M s := by
  funext x
  apply propext
  constructor
  · rintro ⟨address, level, slot, hentry, hx⟩
    exact ⟨address, level, slot, h.entryAt_iff.1 hentry, hx⟩
  · rintro ⟨address, level, slot, hentry, hx⟩
    exact ⟨address, level, slot, h.entryAt hentry, hx⟩

end RedPlanet.Core
