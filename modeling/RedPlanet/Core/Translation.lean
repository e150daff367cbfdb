import RedPlanet.Core.Frame
import RedPlanet.Core.Walk

/-!
# Translation of virtual addresses

`translate_address` through the table walk: the leaf it finds, the page faults
it raises, and the physical address it returns.

`ReachesTable` and `VisitsEntry` say where the walk of an access gets to,
`FaultAt` and `LeafAt` how it ends: they are read off the page tables, one
entry at a time.  Every translation ends in one of the ways of `Ends`
(`translateAddressCommon_ends`), and it succeeds iff its walk ends at a leaf
that permits the access and can be updated.
-/

namespace RedPlanet.Core

open RedPlanet.Verified Discipline Sv32

variable {β : Type} [Build]
  {readPte : BitVec 32 → CoreM β MemoryError Pte}
  {writePte : BitVec 32 → Pte → CoreM β MemoryError Unit}
  {address : BitVec 32} {accessType : AccessType}
  {privilegeLevel : PrivilegeLevel} {s t : State β}

/-! ## With and without translation -/

/-- Addresses are translated at this level: below M-mode with Sv32 in satp. -/
structure State.Translates (s : State β) (privilegeLevel : PrivilegeLevel) :
    Prop where
  level : privilegeLevel ≠ .machine
  mode : s.trap.satpMode = .sv32

/-- In M-mode, or with satp bare, an address is its own translation. -/
theorem translateAddressCommon_direct
    (h : privilegeLevel = .machine ∨ s.trap.satpMode = .bare) :
    translateAddressCommon readPte writePte address accessType privilegeLevel s
      = .ok address s := by
  unfold translateAddressCommon
  rw [Exec.get_bind]
  cases h with
  | inl hlevel => rw [hlevel]; rfl
  | inr hmode => rw [hmode]; cases privilegeLevel <;> rfl

/-- Otherwise the walk starts at the root table, at level 1. -/
theorem translateAddressCommon_active (h : s.Translates privilegeLevel) :
    translateAddressCommon readPte writePte address accessType privilegeLevel s
      = walk readPte writePte address accessType (privilegeLevel == .user) 2
          (s.trap.satpPpn <<< PAGE_SIZE_SHF) s := by
  unfold translateAddressCommon
  rw [Exec.get_bind, h.mode]
  have hlevel := h.level
  cases privilegeLevel with
  | machine => exact absurd rfl hlevel
  | user => rfl
  | supervisor => rfl

omit [Build] in
/-- The two cases are all there is. -/
theorem not_translates_iff :
    ¬ s.Translates privilegeLevel ↔
      privilegeLevel = .machine ∨ s.trap.satpMode = .bare := by
  constructor
  · intro h
    by_contra hnot
    rw [not_or] at hnot
    refine h ⟨hnot.1, ?_⟩
    cases hmode : s.trap.satpMode with
    | bare => exact absurd hmode hnot.2
    | sv32 => rfl
  · rintro (hlevel | hmode) h
    · exact h.level hlevel
    · rw [h.mode] at hmode
      cases hmode

/-! ## Where a translation ends -/

/-- The walk for this access gets to this table. -/
def ReachesTable (readPte : BitVec 32 → CoreM β MemoryError Pte)
    (address : BitVec 32) (s : State β) :
    Nat → BitVec 32 → State β → Prop :=
  Reaches readPte address 1 s.trap.satpPpn s

/-- The walk reads this entry, which lies at this address. -/
def VisitsEntry (readPte : BitVec 32 → CoreM β MemoryError Pte)
    (address : BitVec 32) (s : State β) :
    Nat → BitVec 32 → Pte → State β → Prop :=
  Visits readPte address 1 s.trap.satpPpn s

/-- The walk ends at a leaf that permits the access. -/
structure LeafAt (readPte : BitVec 32 → CoreM β MemoryError Pte)
    (address : BitVec 32) (accessType : AccessType)
    (privilegeLevel : PrivilegeLevel) (s : State β) (level : Nat)
    (entryAddress : BitVec 32) (entry : Pte) (t : State β) : Prop where
  visits : VisitsEntry readPte address s level entryAddress entry t
  permits : entry.Permits accessType (privilegeLevel == .user) t.status.mxr
    t.status.sum level

/-- The walk ends at an entry that faults. -/
structure FaultAt (readPte : BitVec 32 → CoreM β MemoryError Pte)
    (address : BitVec 32) (accessType : AccessType)
    (privilegeLevel : PrivilegeLevel) (s : State β) (level : Nat)
    (entryAddress : BitVec 32) (entry : Pte) (t : State β) : Prop where
  visits : VisitsEntry readPte address s level entryAddress entry t
  faults : entry.Faults accessType (privilegeLevel == .user) t.status.mxr
    t.status.sum level

variable {level : Nat} {entryAddress ppn : BitVec 32} {entry : Pte}
  {u : State β}

omit [Build] in
/-- There are two levels. -/
theorem VisitsEntry.level_le
    (h : VisitsEntry readPte address s level entryAddress entry t) :
    level ≤ 1 := by
  obtain ⟨ppn, u, hreach, _⟩ := h
  exact hreach.level_le

/-- The translation goes on from the table that it reaches. -/
theorem translateAddressCommon_of_reaches (hs : s.Translates privilegeLevel)
    (h : ReachesTable readPte address s level ppn u) :
    translateAddressCommon readPte writePte address accessType privilegeLevel s
      = walk readPte writePte address accessType (privilegeLevel == .user)
          (level + 1) (ppn <<< PAGE_SIZE_SHF) u := by
  rw [translateAddressCommon_active hs]
  exact walk_of_reaches h

/-- It goes on with the entry that it visits. -/
theorem translateAddressCommon_of_visits (hs : s.Translates privilegeLevel)
    (h : VisitsEntry readPte address s level entryAddress entry t) :
    translateAddressCommon readPte writePte address accessType privilegeLevel s
      = turn readPte writePte address accessType (privilegeLevel == .user) level
          entryAddress entry t := by
  obtain ⟨ppn, u, hreach, hentry, hread⟩ := h
  rw [hentry] at hread
  rw [translateAddressCommon_of_reaches hs hreach, walk_read_ok hread, hentry]

/-- A permitted translation goes on with the A and D bits and ends in the
physical address. -/
theorem translateAddressCommon_of_leafAt (hs : s.Translates privilegeLevel)
    (h : LeafAt readPte address accessType privilegeLevel s level entryAddress
      entry t) :
    translateAddressCommon readPte writePte address accessType privilegeLevel s
      = finish writePte address accessType level entryAddress entry t := by
  rw [translateAddressCommon_of_visits hs h.visits]
  exact turn_of_permits h.visits.level_le entryAddress h.permits

/-- It ends with a page fault at an entry that faults. -/
theorem translateAddressCommon_of_faultAt (hs : s.Translates privilegeLevel)
    (h : FaultAt readPte address accessType privilegeLevel s level entryAddress
      entry t) :
    translateAddressCommon readPte writePte address accessType privilegeLevel s
      = .error .pageFault t := by
  rw [translateAddressCommon_of_visits hs h.visits]
  exact turn_of_faults h.visits.level_le entryAddress h.faults

/-- Every translation ends at a table without an entry to read, at an entry
that faults, or at a leaf that permits the access. -/
inductive Ends (readPte : BitVec 32 → CoreM β MemoryError Pte)
    (writePte : BitVec 32 → Pte → CoreM β MemoryError Unit)
    (address : BitVec 32) (accessType : AccessType)
    (privilegeLevel : PrivilegeLevel) (s : State β) :
    Outcome MemoryError (State β) (BitVec 32) → Prop
  | unread {level : Nat} {ppn : BitVec 32} {u t : State β} {e : MemoryError} :
      ReachesTable readPte address s level ppn u →
      readPte (Sv32.entryAddress ppn address level) u = .error e t →
      Ends readPte writePte address accessType privilegeLevel s
        (.error .accessFault t)
  | panics {level : Nat} {ppn : BitVec 32} {u t : State β} :
      ReachesTable readPte address s level ppn u →
      readPte (Sv32.entryAddress ppn address level) u = .panic t →
      Ends readPte writePte address accessType privilegeLevel s (.panic t)
  | faults {level : Nat} {entryAddress : BitVec 32} {entry : Pte}
      {t : State β} :
      FaultAt readPte address accessType privilegeLevel s level entryAddress
        entry t →
      Ends readPte writePte address accessType privilegeLevel s
        (.error .pageFault t)
  | leaf {level : Nat} {entryAddress : BitVec 32} {entry : Pte} {t : State β} :
      LeafAt readPte address accessType privilegeLevel s level entryAddress
        entry t →
      Ends readPte writePte address accessType privilegeLevel s
        (finish writePte address accessType level entryAddress entry t)

/-- There is no other way for a walk to end, by induction on the levels left.
-/
theorem translateAddressCommon_ends (hs : s.Translates privilegeLevel) :
    Ends readPte writePte address accessType privilegeLevel s
      (translateAddressCommon readPte writePte address accessType privilegeLevel
        s) := by
  obtain ⟨level, ppn, u, hreach, hlast⟩ :=
    exists_last readPte address 1 s.trap.satpPpn s
  cases hread : readPte (Sv32.entryAddress ppn address level) u with
  | error e t =>
      rw [translateAddressCommon_of_reaches hs hreach, walk_read_error hread]
      exact Ends.unread hreach hread
  | panic t =>
      rw [translateAddressCommon_of_reaches hs hreach, walk_read_panic hread]
      exact Ends.panics hreach hread
  | ok entry t =>
      have hvisits : VisitsEntry readPte address s level
          (Sv32.entryAddress ppn address level) entry t :=
        ⟨ppn, u, hreach, rfl, hread⟩
      cases Pte.faults_or_permits (hlast entry t hread) accessType
          (privilegeLevel == .user) t.status.mxr t.status.sum with
      | inl hfaults =>
          have hfault : FaultAt readPte address accessType privilegeLevel s
            level _ entry t := ⟨hvisits, hfaults⟩
          rw [translateAddressCommon_of_faultAt hs hfault]
          exact Ends.faults hfault
      | inr hpermits =>
          have hleaf : LeafAt readPte address accessType privilegeLevel s level
            _ entry t := ⟨hvisits, hpermits⟩
          rw [translateAddressCommon_of_leafAt hs hleaf]
          exact Ends.leaf hleaf

/-! ## The end of a permitted translation -/

/-- What became of the update of a leaf: it was not needed, or it was stored. -/
def Updated (writePte : BitVec 32 → Pte → CoreM β MemoryError Unit)
    (accessType : AccessType) (entryAddress : BitVec 32) (entry : Pte)
    (s t : State β) : Prop :=
  if entry.needsUpdate accessType then
    writePte entryAddress (entry.updated accessType) s = .ok () t
  else t = s

omit [Build] in
/-- The end of a walk yields the address if the update, where one is needed,
is stored. -/
theorem finish_eq_ok_iff {pa : BitVec 32} :
    finish writePte address accessType level entryAddress entry s = .ok pa t ↔
      pa = BitVec.ofNat 32 (entry.physicalAt level address) ∧
        Updated writePte accessType entryAddress entry s t := by
  unfold finish Updated
  by_cases hupdate : entry.needsUpdate accessType = true
  · rw [if_pos hupdate, if_pos hupdate, Exec.bind_apply]
    unfold Exec.mapError
    cases hwrite : writePte entryAddress (entry.updated accessType) s with
    | ok value t' =>
        cases value
        constructor
        · intro h
          cases h
          exact ⟨rfl, rfl⟩
        · rintro ⟨rfl, h⟩
          cases h
          rfl
    | error e t' => simp
    | panic t' => simp
  · rw [if_neg hupdate, if_neg hupdate]
    constructor
    · intro h
      cases h
      exact ⟨rfl, rfl⟩
    · rintro ⟨rfl, rfl⟩
      rfl

/-- A translation succeeds iff its walk ends at a leaf that permits the access
and can be updated. -/
theorem translateAddressCommon_eq_ok_iff {pa : BitVec 32}
    (hs : s.Translates privilegeLevel) :
    translateAddressCommon readPte writePte address accessType privilegeLevel s
        = .ok pa t ↔
      ∃ level entryAddress entry u,
        LeafAt readPte address accessType privilegeLevel s level entryAddress
            entry u ∧
          pa = BitVec.ofNat 32 (entry.physicalAt level address) ∧
          Updated writePte accessType entryAddress entry u t := by
  constructor
  · intro h
    have hends : Ends readPte writePte address accessType privilegeLevel s _ :=
      translateAddressCommon_ends hs
    rw [h] at hends
    generalize hout : Outcome.ok pa t = out at hends
    cases hends with
    | unread _ _ => cases hout
    | panics _ _ => cases hout
    | faults _ => cases hout
    | leaf hleaf =>
        obtain ⟨hpa, hupdated⟩ := finish_eq_ok_iff.1 hout.symm
        exact ⟨_, _, _, _, hleaf, hpa, hupdated⟩
  · rintro ⟨level, entryAddress, entry, u, hleaf, hpa, hupdated⟩
    rw [translateAddressCommon_of_leafAt hs hleaf]
    exact finish_eq_ok_iff.2 ⟨hpa, hupdated⟩

end RedPlanet.Core
