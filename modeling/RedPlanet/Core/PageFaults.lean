import RedPlanet.Core.Memory
import RedPlanet.Core.Translation

/-!
# Page faults, and translation for the debugger

When `translate_address` returns a page fault, read off the entries of the
walk (`page_faults_exact`), and how `translate_address_debug` differs from it
(`debug_translation_agrees`).  The entries lie at addresses where the bus
behaves like memory: `Backed` says so for reads and writes, `Quiet` for reads
and debug reads.

`Pte.MustFault` is the rule of the manual for one entry, in terms of the bits
of the entry, and `Pte.faults_iff_mustFault` connects it to the test of the
walk.  The two walks visit the same entries, by induction (`Reaches.debug`),
and part only at an update of an entry that the bus refuses.
-/

namespace RedPlanet.Core

open RedPlanet.Verified Discipline Sv32

variable {β : Type} [SystemBus β]

/-! ## Page faults -/

/-- The bus accepts reads and writes of four bytes at an address, and carries
them out. -/
structure Backed (β : Type) [SystemBus β] (address : BitVec 32) : Prop where
  readable : accepts β address 4 .read = true
  writable : accepts β address 4 .write = true
  read : ∀ (buf : List (BitVec 8)) (bus : β), buf.length = 4 →
    SystemBus.read address buf bus ≠ none
  write : ∀ (buf : List (BitVec 8)) (bus : β), buf.length = 4 →
    SystemBus.write address buf bus ≠ none

/-- The R, W and X bits of a leaf permit the access, with X counting as R for
loads when MXR is set. -/
def Pte.permitsType (entry : Pte) (accessType : AccessType) (mxr : Bool) :
    Bool :=
  match accessType with
  | .read => entry.r || (entry.x && mxr)
  | .write => entry.w
  | .execute => entry.x

/-- The U bit is that of the mode, or this is a load or store in S-mode with
SUM set. -/
def Pte.permitsMode (entry : Pte) (accessType : AccessType)
    (privilegeLevel : PrivilegeLevel) (sum : Bool) : Prop :=
  entry.u = (privilegeLevel == .user) ∨
    (privilegeLevel = .supervisor ∧ accessType ≠ .execute ∧ sum = true)

/-- The entry is one at which the access must fault. -/
def Pte.MustFault (entry : Pte) (accessType : AccessType)
    (privilegeLevel : PrivilegeLevel) (mxr sum : Bool) (level : Nat) : Prop :=
  entry.v = false ∨ (entry.r = false ∧ entry.w = true) ∨
    (level = 0 ∧ entry.r = false ∧ entry.x = false) ∨
    ((entry.r = true ∨ entry.x = true) ∧
      (entry.permitsType accessType mxr = false ∨
        ¬ entry.permitsMode accessType privilegeLevel sum ∨
        (level = 1 ∧ entry.ppn.toNat % 1024 ≠ 0)))

/-- The test of the walk is that of the R, W and X bits and that of the U bit.
-/
theorem Pte.allows_eq_false_iff {entry : Pte} {accessType : AccessType}
    {privilegeLevel : PrivilegeLevel} {mxr sum : Bool}
    (hlevel : privilegeLevel ≠ .machine) :
    entry.allows accessType (privilegeLevel == .user) mxr sum = false ↔
      entry.permitsType accessType mxr = false ∨
        ¬ entry.permitsMode accessType privilegeLevel sum := by
  unfold allows permitsType permitsMode
  cases privilegeLevel with
  | machine => exact absurd rfl hlevel
  | user => cases accessType <;> cases entry.u <;> simp
  | supervisor =>
      cases accessType <;> cases entry.u <;> cases sum <;> simp

/-- At the two levels of Sv32 the walk faults where the manual says. -/
theorem Pte.faults_iff_mustFault {entry : Pte} {accessType : AccessType}
    {privilegeLevel : PrivilegeLevel} {mxr sum : Bool} {level : Nat}
    (hlevel : level ≤ 1) (hprivilege : privilegeLevel ≠ .machine) :
    entry.Faults accessType (privilegeLevel == .user) mxr sum level ↔
      entry.MustFault accessType privilegeLevel mxr sum level := by
  have hlevels : level ≠ 0 ↔ level = 1 := by omega
  unfold Faults MustFault Misaligned
  rw [allows_eq_false_iff hprivilege, hlevels]
  unfold isValid isLeaf
  cases entry.v <;> cases entry.r <;> cases entry.w <;> cases entry.x <;>
    simp [or_assoc]

variable [Build] {address : BitVec 32} {accessType : AccessType}
  {privilegeLevel : PrivilegeLevel} {s : State β}

/-- Some entry of the walk must fault. -/
def PageFaults (address : BitVec 32) (accessType : AccessType)
    (privilegeLevel : PrivilegeLevel) (s : State β) : Prop :=
  ∃ level entryAddress entry t,
    VisitsEntry readPte address s level entryAddress entry t ∧
      entry.MustFault accessType privilegeLevel s.status.mxr s.status.sum level

/-- Reading entries leaves the status register alone. -/
theorem VisitsEntry.status {level : Nat} {entryAddress : BitVec 32}
    {entry : Pte} {t : State β}
    (h : VisitsEntry readPte address s level entryAddress entry t) :
    t.status = s.status := by
  have hread : ∀ address (s : State β) entry t,
      readPte address s = .ok entry t → t.status = s.status := by
    intro address s entry t h
    have hframe := ((executes_memory
      (K := BusContract.trivial)).toAccesses.tame_readPte address).step s
    rw [h] at hframe
    exact hframe.status
  obtain ⟨ppn, u, hreach, _, hentry⟩ := h
  rw [hread _ _ _ _ hentry]
  exact hreach.keeps hread

/-- Some entry must fault iff the walk faults at one. -/
theorem pageFaults_iff (hs : s.Translates privilegeLevel) :
    PageFaults address accessType privilegeLevel s ↔
      ∃ level entryAddress entry t, FaultAt readPte address accessType
        privilegeLevel s level entryAddress entry t := by
  constructor
  · rintro ⟨level, entryAddress, entry, t, hvisits, hfault⟩
    refine ⟨level, entryAddress, entry, t, hvisits, ?_⟩
    rw [hvisits.status]
    exact (Pte.faults_iff_mustFault hvisits.level_le hs.level).2 hfault
  · rintro ⟨level, entryAddress, entry, t, hvisits, hfault⟩
    refine ⟨level, entryAddress, entry, t, hvisits, ?_⟩
    rw [hvisits.status] at hfault
    exact (Pte.faults_iff_mustFault hvisits.level_le hs.level).1 hfault

omit [Build] in
/-- In memory an entry can always be read. -/
theorem readPte_of_backed {entryAddress : BitVec 32}
    (h : Backed β entryAddress) (s : State β) :
    ∃ entry t, readPte entryAddress s = .ok entry t := by
  rcases readPte_cases entryAddress s with
    ⟨hrefused, _⟩ | ⟨_, ⟨hnone, _⟩ | ⟨buf, bus, calls, _, hread⟩⟩
  · rw [h.readable] at hrefused
    cases hrefused
  · exact absurd hnone (h.read _ _ (List.length_replicate ..))
  · exact ⟨_, _, hread⟩

/-- A translation through entries in memory ends at an entry that faults, or
it succeeds. -/
theorem faultAt_or_ok (hs : s.Translates privilegeLevel)
    (hbacked : ∀ level ppn u, ReachesTable readPte address s level ppn u →
      Backed β (entryAddress ppn address level)) :
    (∃ level entryAddress entry t, FaultAt readPte address accessType
        privilegeLevel s level entryAddress entry t) ∨
      ∃ pa t, translateAddress address accessType privilegeLevel s
        = .ok pa t := by
  have hends : Ends readPte writePte address accessType privilegeLevel s
      (translateAddress address accessType privilegeLevel s) :=
    translateAddressCommon_ends hs
  generalize translateAddress address accessType privilegeLevel s = out at hends
  cases hends with
  | unread hreach hread =>
      obtain ⟨entry, t, hok⟩ := readPte_of_backed (hbacked _ _ _ hreach) _
      rw [hok] at hread
      cases hread
  | panics hreach hread =>
      obtain ⟨entry, t, hok⟩ := readPte_of_backed (hbacked _ _ _ hreach) _
      rw [hok] at hread
      cases hread
  | faults hfault => exact Or.inl ⟨_, _, _, _, hfault⟩
  | @leaf level entryAddress entry t hleaf =>
      right
      obtain ⟨ppn, u, hreach, hentry, _⟩ := hleaf.visits
      have hword := hbacked _ _ _ hreach
      rw [← hentry] at hword
      obtain ⟨t', hwrite⟩ := writePte_eq_ok_iff.2
        ⟨hword.writable, hword.write (toLeBytes 4 (entry.updated accessType).bits)
          t.bus (length_toLeBytes ..)⟩
      by_cases hupdate : entry.needsUpdate accessType = true
      · refine ⟨_, t', finish_eq_ok_iff.2 ⟨rfl, ?_⟩⟩
        unfold Updated
        rw [if_pos hupdate]
        exact hwrite
      · refine ⟨_, t, finish_eq_ok_iff.2 ⟨rfl, ?_⟩⟩
        unfold Updated
        rw [if_neg hupdate]

/-- Without translation the address is returned as it is.  With translation,
through entries in memory, there is a page fault iff some entry of the walk
must fault, and otherwise the translation succeeds. -/
theorem page_faults_exact :
    (privilegeLevel = .machine ∨ s.trap.satpMode = .bare →
      translateAddress address accessType privilegeLevel s = .ok address s) ∧
    (s.Translates privilegeLevel →
      (∀ level ppn u, ReachesTable readPte address s level ppn u →
        Backed β (entryAddress ppn address level)) →
      ((∃ t, translateAddress address accessType privilegeLevel s
          = .error .pageFault t) ↔
        PageFaults address accessType privilegeLevel s) ∧
      (¬ PageFaults address accessType privilegeLevel s →
        ∃ pa t, translateAddress address accessType privilegeLevel s
          = .ok pa t)) := by
  refine ⟨translateAddressCommon_direct, ?_⟩
  intro hs hbacked
  rw [pageFaults_iff hs]
  have hcases : _ ∨ ∃ pa t, translateAddress address accessType privilegeLevel s
      = .ok pa t := faultAt_or_ok hs hbacked
  cases hcases with
  | inl hfault =>
      obtain ⟨level, entryAddress, entry, t, hfault⟩ := hfault
      have hrun : translateAddress address accessType privilegeLevel s
          = .error .pageFault t := translateAddressCommon_of_faultAt hs hfault
      exact ⟨iff_of_true ⟨t, hrun⟩ ⟨_, _, _, _, hfault⟩,
        fun hnot => absurd ⟨_, _, _, _, hfault⟩ hnot⟩
  | inr hok =>
      refine ⟨?_, fun _ => hok⟩
      obtain ⟨pa, t, hrun⟩ := hok
      rw [hrun]
      apply iff_of_false
      · rintro ⟨t', ht'⟩
        cases ht'
      · rintro ⟨level, entryAddress, entry, t', hfault⟩
        have hfaults : translateAddress address accessType privilegeLevel s = _ :=
          translateAddressCommon_of_faultAt hs hfault
        rw [hrun] at hfaults
        cases hfaults

omit [SystemBus β] [Build] in
/-- Memory that is nothing else backs every address. -/
theorem backed_memoryBus (address : BitVec 32) : Backed MemoryBus address where
  readable := rfl
  writable := rfl
  read _ _ _ := Option.some_ne_none _
  write _ _ _ := Option.some_ne_none _

/-- The root table points to a table that maps the first page, for loads and
stores, with A and D clear. -/
def twoLevels : State MemoryBus :=
  MemoryBus.paging 0x80000
    [(0x80000000, 0x20000401), (0x80001000, 0x20000807)]

omit [SystemBus β] [Build] in
/-- The walk goes through the pointer to the leaf. -/
theorem twoLevels_visits : ∃ t, VisitsEntry readPte 0x123 twoLevels 0
    0x80001000 { bits := 0x20000807 } t := by
  have hroot : readPte (Sv32.entryAddress 0x80000 0x123 1) twoLevels
      = .ok { bits := 0x20000401 }
          (twoLevels.accessed 0x80000000 4 twoLevels.bus []) := rfl
  exact ⟨_, 0x80001, _, Reaches.next hroot (by decide) Reaches.here,
    by decide, rfl⟩

omit [SystemBus β] [Build] in
/-- The leaf does not permit a fetch; a store goes through it. -/
theorem page_faults_two_levels :
    (∃ t, @translateAddress MemoryBus _ Build.debug 0x123 .execute .supervisor
      twoLevels = .error .pageFault t) ∧
    ¬ PageFaults 0x123 .write .supervisor twoLevels := by
  have hexact := fun accessType =>
    (@page_faults_exact MemoryBus _ Build.debug 0x123 accessType .supervisor
      twoLevels).2 ⟨by decide, rfl⟩ fun _ _ _ _ => backed_memoryBus _
  constructor
  · obtain ⟨t, hvisits⟩ := twoLevels_visits
    have hfetch : Pte.MustFault { bits := 0x20000807 } .execute .supervisor
        twoLevels.status.mxr twoLevels.status.sum 0 :=
      Or.inr (Or.inr (Or.inr ⟨Or.inl rfl, Or.inl rfl⟩))
    exact (hexact .execute).1.2 ⟨0, _, _, t, hvisits, hfetch⟩
  · intro hfaults
    obtain ⟨t, ht⟩ := (hexact .write).1.2 hfaults
    have hok : ∃ t, @translateAddress MemoryBus _ Build.debug 0x123 .write
        .supervisor twoLevels = .ok 0x80002123 t := ⟨_, rfl⟩
    obtain ⟨t', ht'⟩ := hok
    rw [ht] at ht'
    cases ht'

/-! ## Translation for the debugger -/

/-- Reads of the entry at an address have no side effects, read the same as
debug reads, and writes that the bus accepts are carried out. -/
structure Quiet (β : Type) [SystemBus β] (address : BitVec 32) : Prop where
  read : accepts β address 4 .read = true → ∀ bus : β, ∃ buf,
    SystemBus.read address (List.replicate 4 0) bus = some (buf, bus, []) ∧
      SystemBus.readDebug address (List.replicate 4 0) bus = some buf
  write : accepts β address 4 .write = true →
    ∀ (buf : List (BitVec 8)) (bus : β), buf.length = 4 →
      SystemBus.write address buf bus ≠ none

/-- The two states have the same bus and the same status register. -/
structure Unmoved (s u : State β) : Prop where
  bus : u.bus = s.bus
  status : u.status = s.status

omit [Build] in
/-- The entry is read in both ways, or refused in both. -/
theorem Quiet.readPte {u : State β} (h : Quiet β address) (hu : Unmoved s u) :
    (∃ entry t, Core.readPte address u = .ok entry t ∧ Unmoved s t ∧
        readPteDebug address s = .ok entry s) ∨
      (Core.readPte address u = .error .accessFault u ∧
        readPteDebug address s = .error .accessFault s) := by
  cases haccepts : accepts β address 4 .read with
  | false =>
      right
      refine ⟨readPte_refused haccepts, ?_⟩
      unfold readPteDebug accessPhysical
      rw [if_neg (by simp [haccepts])]
      rfl
  | true =>
      left
      obtain ⟨buf, hread, hdebug⟩ := h.read haccepts s.bus
      rw [← hu.bus] at hread
      refine ⟨_, _, readPte_ok haccepts hread, ⟨hu.bus, hu.status⟩, ?_⟩
      unfold readPteDebug accessPhysical
      rw [if_pos haccepts, Exec.pure_bind', Exec.get_bind, hdebug]
      rfl

omit [Build] in
/-- The debugger gets to the same tables, without leaving its state.  By
induction along the walk. -/
theorem Reaches.debug {level level' : Nat} {ppn ppn' : BitVec 32}
    {u u' : State β} (h : Reaches readPte address level ppn u level' ppn' u')
    (hquiet : ∀ level' ppn' u',
      Reaches readPte address level ppn u level' ppn' u' →
        Quiet β (entryAddress ppn' address level'))
    (hu : Unmoved s u) :
    Unmoved s u' ∧
      Reaches readPteDebug address level ppn s level' ppn' s := by
  induction h with
  | here => exact ⟨hu, Reaches.here⟩
  | next hread hpointer _ ih =>
      cases (hquiet _ _ _ Reaches.here).readPte hu with
      | inl hok =>
          obtain ⟨entry', t', hread', ht, hdebug⟩ := hok
          rw [hread] at hread'
          cases hread'
          obtain ⟨hu', hreach⟩ := ih
            (fun _ _ _ htail => hquiet _ _ _ (Reaches.next hread hpointer htail))
            ht
          exact ⟨hu', Reaches.next hdebug hpointer hreach⟩
      | inr hrefused =>
          rw [hrefused.1] at hread
          cases hread

section Debug

variable (hquiet : ∀ level ppn u, ReachesTable readPte address s level ppn u →
  Quiet β (entryAddress ppn address level))

include hquiet

omit [Build] in
theorem ReachesTable.debug {level : Nat} {ppn : BitVec 32} {u : State β}
    (h : ReachesTable readPte address s level ppn u) :
    Unmoved s u ∧ ReachesTable readPteDebug address s level ppn s :=
  Reaches.debug h hquiet ⟨rfl, rfl⟩

omit [Build] in
/-- The debugger visits the same entries. -/
theorem VisitsEntry.debug {level : Nat} {entryAddress : BitVec 32}
    {entry : Pte} {t : State β}
    (h : VisitsEntry readPte address s level entryAddress entry t) :
    Unmoved s t ∧
      VisitsEntry readPteDebug address s level entryAddress entry s := by
  obtain ⟨ppn, u, hreach, rfl, hread⟩ := h
  obtain ⟨hu, hdebug⟩ := ReachesTable.debug hquiet hreach
  cases (hquiet _ _ _ hreach).readPte hu with
  | inl hok =>
      obtain ⟨entry', t', hread', ht, hread_debug⟩ := hok
      rw [hread] at hread'
      cases hread'
      exact ⟨ht, ppn, s, hdebug, rfl, hread_debug⟩
  | inr hrefused =>
      rw [hrefused.1] at hread
      cases hread

omit [Build] in
/-- Its walk ends at the same leaf. -/
theorem LeafAt.debug {level : Nat} {entryAddress : BitVec 32} {entry : Pte}
    {t : State β} (h : LeafAt readPte address accessType privilegeLevel s level
      entryAddress entry t) :
    LeafAt readPteDebug address accessType privilegeLevel s level entryAddress
      entry s := by
  obtain ⟨ht, hvisits⟩ := VisitsEntry.debug hquiet h.visits
  refine ⟨hvisits, ?_⟩
  rw [← ht.status]
  exact h.permits

omit [Build] in
/-- It faults at the same entry. -/
theorem FaultAt.debug {level : Nat} {entryAddress : BitVec 32} {entry : Pte}
    {t : State β} (h : FaultAt readPte address accessType privilegeLevel s level
      entryAddress entry t) :
    FaultAt readPteDebug address accessType privilegeLevel s level entryAddress
      entry s := by
  obtain ⟨ht, hvisits⟩ := VisitsEntry.debug hquiet h.visits
  refine ⟨hvisits, ?_⟩
  rw [← ht.status]
  exact h.faults

end Debug

/-- The walk ends at a leaf that permits the access, needs an update of its A
or D bit, and lies where the bus accepts no write. -/
def UpdateRefused (address : BitVec 32) (accessType : AccessType)
    (privilegeLevel : PrivilegeLevel) (s : State β) : Prop :=
  ∃ level entryAddress entry t,
    LeafAt readPte address accessType privilegeLevel s level entryAddress entry
        t ∧
      entry.needsUpdate accessType = true ∧
      accepts β entryAddress 4 .write = false

omit [SystemBus β] [Build] in
/-- The debugger updates no entry. -/
theorem finish_debug (level : Nat) (entryAddress : BitVec 32) (entry : Pte) :
    finish (fun _ _ => pure ()) address accessType level entryAddress entry s
      = .ok (BitVec.ofNat 32 (entry.physicalAt level address)) s := by
  unfold finish
  by_cases hupdate : entry.needsUpdate accessType = true
  · rw [if_pos hupdate]
    rfl
  · rw [if_neg hupdate]
    rfl

/-- How the two translations end: alike, or apart because of an update. -/
inductive Agree (address : BitVec 32) (accessType : AccessType)
    (privilegeLevel : PrivilegeLevel) (s : State β) :
    Outcome MemoryError (State β) (BitVec 32) →
      Outcome MemoryError (State β) (BitVec 32) → Prop
  | ok {pa : BitVec 32} {t : State β} :
      Agree address accessType privilegeLevel s (.ok pa t) (.ok pa s)
  | error {e : MemoryError} {t : State β} :
      Agree address accessType privilegeLevel s (.error e t) (.error e s)
  | refused {pa : BitVec 32} {t : State β} :
      UpdateRefused address accessType privilegeLevel s →
      Agree address accessType privilegeLevel s (.error .accessFault t)
        (.ok pa s)

/-- With a quiet bus under the entries the two translations end alike, up to
an update that is refused. -/
theorem translateAddress_agree (address : BitVec 32) (accessType : AccessType)
    (privilegeLevel : PrivilegeLevel) (s : State β)
    (hquiet : s.Translates privilegeLevel → ∀ level ppn u,
      ReachesTable readPte address s level ppn u →
        Quiet β (entryAddress ppn address level)) :
    Agree address accessType privilegeLevel s
      (translateAddress address accessType privilegeLevel s)
      (translateAddressDebug address accessType privilegeLevel s) := by
  unfold translateAddress translateAddressDebug
  by_cases hs : s.Translates privilegeLevel
  · have hquiet := hquiet hs
    have hends : Ends readPte writePte address accessType privilegeLevel s _ :=
      translateAddressCommon_ends hs
    generalize translateAddressCommon readPte writePte address accessType
      privilegeLevel s = out at hends
    cases hends with
    | unread hreach hread =>
        obtain ⟨hu, hdebug⟩ := ReachesTable.debug hquiet hreach
        cases (hquiet _ _ _ hreach).readPte hu with
        | inl hok =>
            obtain ⟨_, _, hok, _⟩ := hok
            rw [hok] at hread
            cases hread
        | inr hrefused =>
            rw [translateAddressCommon_of_reaches hs hdebug,
              walk_read_error hrefused.2]
            exact Agree.error
    | panics hreach hread =>
        obtain ⟨hu, _⟩ := ReachesTable.debug hquiet hreach
        rcases (hquiet _ _ _ hreach).readPte hu with ⟨_, _, hok, _⟩ | ⟨hok, _⟩
        · rw [hok] at hread
          cases hread
        · rw [hok] at hread
          cases hread
    | faults hfault =>
        rw [translateAddressCommon_of_faultAt hs
          (FaultAt.debug hquiet hfault)]
        exact Agree.error
    | @leaf level entryAddress entry t hleaf =>
        rw [translateAddressCommon_of_leafAt hs (LeafAt.debug hquiet hleaf),
          finish_debug]
        unfold finish
        by_cases hupdate : entry.needsUpdate accessType = true
        · rw [if_pos hupdate]
          cases haccepts : accepts β entryAddress 4 .write with
          | false =>
              have hwrite : Exec.mapError (fun _ => MemoryError.accessFault)
                  (writePte entryAddress (entry.updated accessType)) t
                  = .error .accessFault t := by
                unfold Exec.mapError
                rw [writePte_refused haccepts]
              rw [Exec.bind_error hwrite]
              exact Agree.refused ⟨_, _, _, _, hleaf, hupdate, haccepts⟩
          | true =>
              obtain ⟨ppn, u, hreach, hentry, _⟩ := hleaf.visits
              have hword := (hquiet _ _ _ hreach).write
              rw [← hentry] at hword
              obtain ⟨t', hwrite⟩ := writePte_eq_ok_iff.2
                ⟨haccepts, hword haccepts
                  (toLeBytes 4 (entry.updated accessType).bits) t.bus
                  (length_toLeBytes ..)⟩
              have hmapped : Exec.mapError (fun _ => MemoryError.accessFault)
                  (writePte entryAddress (entry.updated accessType)) t
                  = .ok () t' := by
                unfold Exec.mapError
                rw [hwrite]
              rw [Exec.bind_ok hmapped]
              exact Agree.ok
        · rw [if_neg hupdate]
          exact Agree.ok
  · rw [translateAddressCommon_direct (not_translates_iff.1 hs),
      translateAddressCommon_direct (not_translates_iff.1 hs)]
    exact Agree.ok

/-- What `translate_address` maps, `translate_address_debug` maps to the same
address; its errors are those of `translate_address`; and where one of them
succeeds and the other does not, it is because an update was refused. -/
theorem debug_translation_agrees
    (hquiet : s.Translates privilegeLevel → ∀ level ppn u,
      ReachesTable readPte address s level ppn u →
        Quiet β (entryAddress ppn address level)) :
    (∀ pa t, translateAddress address accessType privilegeLevel s = .ok pa t →
      translateAddressDebug address accessType privilegeLevel s = .ok pa s) ∧
    (∀ e t, translateAddressDebug address accessType privilegeLevel s
        = .error e t →
      ∃ t', translateAddress address accessType privilegeLevel s
        = .error e t') ∧
    ((∃ pa t t', translateAddress address accessType privilegeLevel s
          = .ok pa t ∧
        translateAddressDebug address accessType privilegeLevel s
          = .ok pa t') ∨
      (∃ e t t', translateAddress address accessType privilegeLevel s
          = .error e t ∧
        translateAddressDebug address accessType privilegeLevel s
          = .error e t') ∨
      (UpdateRefused address accessType privilegeLevel s ∧
        ∃ t, translateAddress address accessType privilegeLevel s
          = .error .accessFault t)) := by
  have hagree := translateAddress_agree address accessType privilegeLevel s
    hquiet
  generalize translateAddress address accessType privilegeLevel s = real
    at hagree
  generalize translateAddressDebug address accessType privilegeLevel s = debug
    at hagree
  cases hagree with
  | ok =>
      refine ⟨?_, ?_, Or.inl ⟨_, _, _, rfl, rfl⟩⟩
      · intro pa t h
        cases h
        rfl
      · intro e t h
        cases h
  | error =>
      refine ⟨?_, ?_, Or.inr (Or.inl ⟨_, _, _, rfl, rfl⟩)⟩
      · intro pa t h
        cases h
      · intro e t h
        cases h
        exact ⟨_, rfl⟩
  | refused hrefused =>
      refine ⟨?_, ?_, Or.inr (Or.inr ⟨hrefused, _, rfl⟩)⟩
      · intro pa t h
        cases h
      · intro e t h
        cases h

omit [SystemBus β] [Build] in
/-- Reads of memory have no side effects. -/
theorem quiet_memoryBus (address : BitVec 32) : Quiet MemoryBus address where
  read _ _ := ⟨_, rfl, rfl⟩
  write _ _ _ _ := Option.some_ne_none _

omit [SystemBus β] [Build] in
/-- A store goes through both tables and sets A and D; for the debugger the
address is the same, and the entry stays as it is. -/
theorem debug_translation_two_levels :
    ∃ t, @translateAddress MemoryBus _ Build.debug 0x123 .write .supervisor
        twoLevels = .ok 0x80002123 t ∧
      MemoryBus.memory.pte t.bus 0x80001000 = { bits := 0x200008C7 } ∧
      @translateAddressDebug MemoryBus _ Build.debug 0x123 .write .supervisor
        twoLevels = .ok 0x80002123 twoLevels := by
  have hagrees := @debug_translation_agrees MemoryBus _ Build.debug 0x123
    .write .supervisor twoLevels fun _ _ _ _ _ => quiet_memoryBus _
  exact ⟨_, rfl, rfl, hagrees.1 0x80002123 _ rfl⟩
end RedPlanet.Core
