import RedPlanet.Core.Levels
import RedPlanet.Core.PageCrossing
import RedPlanet.Core.Pending
import RedPlanet.Core.RawPath
import RedPlanet.Core.Tables
import RedPlanet.Core.TrapState

/-!
# Isolation of user code

What a program in U-mode can do to memory under Sv32.  `Contained` is the
memory after some of its steps: the bytes that it may not write are as they
were, and so are the page tables, up to the A and D bits of leaves.  It may
write its writable pages and, since only the first byte of an access is
translated, up to three bytes past the physical end of each (`UserByte`).  The
tables must not lie where the program can write.

`Behaves` is the step lemma (`behaves_step`): what a step in U-mode that does
not trap does to the memory, to what controls the accesses and to the devices.
It is shown of each part of a step with the rules of `Core.Rules`, for which
`containing` is the discipline.  A run of such steps composes them
(`contained_run`), and the trap that ends it reads no memory at all.
-/

namespace RedPlanet.Core

open RedPlanet.Verified Discipline Sv32

variable {β ε : Type} [SystemBus β] {M : Memory β} {s t u : State β}

/-! ## Memory that user code is kept out of -/

/-- The core runs user code, whose addresses are translated, and the page
tables are in memory that this code cannot write. -/
structure Guarded (M : Memory β) (s : State β) : Prop where
  mode : s.privilegeMode = .user
  mprv : s.status.mprv = false
  sv32 : s.trap.satpMode = .sv32
  ram : TablesInRam M s
  apart : ∀ {x}, UserByte M s .write x → ¬ TableByte M s x

/-- Memory is the same but for the bytes that user code may write and the A
and D bits in the page tables. -/
structure Contained (M : Memory β) (s t : State β) : Prop where
  ram : M.Ram t.bus = M.Ram s.bus
  byte : ∀ {x}, ¬ UserByte M s .write x → ¬ TableByte M s x →
    M.byte t.bus x = M.byte s.bus x
  entry : ∀ {address level slot}, EntryAt M s address level slot →
    (M.pte s.bus slot).Remarked (M.pte t.bus slot)

/-- Nothing has changed that decides how user code accesses memory, or by which
interrupts it is interrupted. -/
structure SameControl (s t : State β) : Prop where
  mode : t.privilegeMode = s.privilegeMode
  status : t.status = s.status
  trap : t.trap = s.trap
  mie : t.interrupts.mie = s.interrupts.mie
  mideleg : t.interrupts.delegate = s.interrupts.delegate

omit [SystemBus β] in
theorem SameControl.refl (s : State β) : SameControl s s :=
  ⟨rfl, rfl, rfl, rfl, rfl⟩

omit [SystemBus β] in
/-- Both steps leave the control alone. -/
theorem SameControl.trans (hst : SameControl s t) (htu : SameControl t u) :
    SameControl s u :=
  ⟨htu.mode.trans hst.mode, htu.status.trans hst.status,
    htu.trap.trans hst.trap, htu.mie.trans hst.mie,
    htu.mideleg.trans hst.mideleg⟩

/-- The frame of the memory instructions leaves all of it alone. -/
theorem SameControl.of_frame {K : BusContract β} (h : MemFrame K s t) :
    SameControl s t :=
  ⟨h.privilegeMode, h.status, h.trap, h.interrupts.mie, h.interrupts.delegate⟩

omit [SystemBus β] in
/-- Neither does anything of it change when a device calls the core back. -/
theorem sameControl_deliverAll (calls : List IrqCall) (bus : β) (s : State β) :
    SameControl s
      ({ s with bus := bus }.onInterrupts (Interrupts.deliverAll calls)) := by
  have hagrees := Interrupts.agreesOutside_deliverAll (P := fun _ => True) calls
    s.interrupts fun _ _ => True.intro
  exact ⟨rfl, rfl, rfl, hagrees.mie, hagrees.delegate⟩

/-- The walk finds the same tables: satp is unchanged and the entries differ
in their A and D bits at the most. -/
theorem Contained.sameTables (h : Contained M s t) (hcontrol : SameControl s t) :
    SameTables M s t where
  ppn := congrArg Trap.satpPpn hcontrol.trap
  entry := h.entry

/-- Only the bus matters. -/
theorem Contained.of_bus (h : u.bus = t.bus) (hst : Contained M s t) :
    Contained M s u where
  ram := by rw [h]; exact hst.ram
  byte := by rw [h]; exact hst.byte
  entry := by rw [h]; exact hst.entry

theorem Contained.refl (s : State β) : Contained M s s where
  ram := rfl
  byte _ _ := rfl
  entry _ := Pte.Remarked.refl _

/-- The writable pages of the second run are those of the first, since the
tables and the control are the same. -/
theorem Contained.trans (hst : Contained M s t) (hcontrol : SameControl s t)
    (htu : Contained M t u) : Contained M s u where
  ram := htu.ram.trans hst.ram
  byte := by
    intro x hwritable htable
    have htables := hst.sameTables hcontrol
    refine (htu.byte ?_ ?_).trans (hst.byte hwritable htable)
    · rw [htables.userByte hcontrol.status]
      exact hwritable
    · rw [htables.tableByte]
      exact htable
  entry := by
    intro address level slot hentry
    have htables := hst.sameTables hcontrol
    exact (hst.entry hentry).trans (htu.entry (htables.entryAt hentry))

/-- The tables stay where user code cannot write them. -/
theorem Guarded.of_contained (hs : Guarded M s) (h : Contained M s t)
    (hcontrol : SameControl s t) : Guarded M t := by
  have htables := h.sameTables hcontrol
  refine ⟨?_, ?_, ?_, ?_, ?_⟩
  · rw [hcontrol.mode]
    exact hs.mode
  · rw [hcontrol.status]
    exact hs.mprv
  · rw [hcontrol.trap]
    exact hs.sv32
  · intro address level slot hentry
    rw [h.ram]
    exact hs.ram (htables.entryAt_iff.1 hentry)
  · intro x
    rw [htables.userByte hcontrol.status, htables.tableByte]
    exact hs.apart

/-- Writes that stay within the writable pages. -/
theorem Contained.of_kept {except : BitVec 32 → Prop} (hs : Guarded M s)
    (h : M.Kept except s t) (hexcept : ∀ x, except x → UserByte M s .write x) :
    Contained M s t where
  ram := h.ram
  byte hwritable _ := h.byte _ fun hx => hwritable (hexcept _ hx)
  entry := by
    intro address level slot hentry
    have hsame : M.pte t.bus slot = M.pte s.bus slot := by
      apply congrArg Pte.mk
      apply Memory.word_congr
      intro i hi
      apply h.byte
      intro hx
      exact hs.apart (hexcept _ hx) ⟨address, level, slot, hentry, i, hi, rfl⟩
    exact Or.inl hsame

/-- One entry is written, with other A and D bits at the most. -/
theorem Contained.of_marked {address slot : BitVec 32} {level : ℕ}
    (h : M.Kept (InAccess slot 4) s t) (hentry : EntryAt M s address level slot)
    (hmarked : (M.pte s.bus slot).Remarked (M.pte t.bus slot)) :
    Contained M s t where
  ram := h.ram
  byte _ htable := h.byte _ fun hx =>
    htable ⟨address, level, slot, hentry, hx⟩
  entry := by
    intro address' level' slot' hentry'
    by_cases heq : slot' = slot
    · rw [heq]
      exact hmarked
    · have hsame : M.pte t.bus slot' = M.pte s.bus slot' := by
        apply congrArg Pte.mk
        apply Memory.word_congr
        intro i hi
        exact h.byte _ (not_inAccess_of_aligned hentry'.aligned hentry.aligned
          heq hi)
      exact Or.inl hsame

/-! ## The bus -/

/-- The bus after reads of these bytes, and writes of those. -/
inductive Accessed (readable writable : BitVec 32 → Prop) (bus : β) : β → Prop
  | same : Accessed readable writable bus bus
  | read {bus' bus'' : β} {address : BitVec 32} {buf buf' : List (BitVec 8)}
      {calls : List IrqCall} (h : Accessed readable writable bus bus')
      (hreadable : ∀ {x}, InAccess address buf.length x → readable x)
      (hread : SystemBus.read address buf bus' = some (buf', bus'', calls)) :
      Accessed readable writable bus bus''
  | write {bus' bus'' : β} {address : BitVec 32} {buf : List (BitVec 8)}
      {calls : List IrqCall} (h : Accessed readable writable bus bus')
      (hwritable : ∀ {x}, InAccess address buf.length x → writable x)
      (hwrite : SystemBus.write address buf bus' = some (bus'', calls)) :
      Accessed readable writable bus bus''

section Bus

variable {readable writable : BitVec 32 → Prop} {bus bus' bus'' : β}

/-- One list of accesses after another. -/
theorem Accessed.trans (h : Accessed readable writable bus bus')
    (h' : Accessed readable writable bus' bus'') :
    Accessed readable writable bus bus'' := by
  induction h' with
  | same => exact h
  | read _ hreadable hread ih => exact .read ih hreadable hread
  | write _ hwritable hwrite ih => exact .write ih hwritable hwrite

/-- No access at all. -/
theorem Accessed.of_eq (h : bus' = bus) : Accessed readable writable bus bus' :=
  h ▸ .same

/-- A read of the bus, if all of its bytes may be read. -/
theorem accessed_busRead {address : BitVec 32} {buf : List (BitVec 8)}
    (s : State β)
    (hreadable : ∀ {x}, InAccess address buf.length x → readable x) :
    Accessed readable writable s.bus
      (busRead address buf s : Outcome ε _ _).state.bus := by
  cases hread : SystemBus.read address buf s.bus with
  | none =>
      unfold busRead
      dsimp only [State.record]
      rw [hread]
      exact .same
  | some reply =>
      obtain ⟨buf', bus, calls⟩ := reply
      rw [busRead_ok hread]
      exact .read .same hreadable hread

/-- A write to the bus, if all of its bytes may be written. -/
theorem accessed_busWrite {address : BitVec 32} {buf : List (BitVec 8)}
    (s : State β)
    (hwritable : ∀ {x}, InAccess address buf.length x → writable x) :
    Accessed readable writable s.bus
      (busWrite address buf s : Outcome ε _ _).state.bus := by
  cases hwrite : SystemBus.write address buf s.bus with
  | none =>
      unfold busWrite
      dsimp only [State.record]
      rw [hwrite]
      exact .same
  | some reply =>
      obtain ⟨bus, calls⟩ := reply
      rw [busWrite_ok hwrite]
      exact .write .same hwritable hwrite

/-- An entry is written as the four bytes of its slot. -/
theorem accessed_writePte {slot : BitVec 32} (entry : Pte) (s : State β)
    (hwritable : ∀ {x}, InAccess slot 4 x → writable x) :
    Accessed readable writable s.bus (writePte slot entry s).state.bus := by
  unfold writePte accessPhysical
  by_cases haccepts : accepts β slot 4 .write = true
  · rw [if_pos haccepts, Exec.pure_bind']
    exact accessed_busWrite s hwritable
  · rw [if_neg haccepts]
    exact .same

/-- The update of a leaf is a write of its four bytes. -/
theorem accessed_finish {address slot : BitVec 32} {accessType : AccessType}
    {level : ℕ} {entry : Pte} (s : State β)
    (hwritable : ∀ {x}, InAccess slot 4 x → writable x) :
    Accessed readable writable s.bus
      (finish writePte address accessType level slot entry s).state.bus := by
  have haccessed : Accessed readable writable s.bus
      (writePte slot (entry.updated accessType) s).state.bus :=
    accessed_writePte (entry.updated accessType) s hwritable
  unfold finish
  by_cases hupdate : entry.needsUpdate accessType = true
  · rw [if_pos hupdate, Exec.bind_apply]
    unfold Exec.mapError
    cases hwrite : writePte slot (entry.updated accessType) s with
    | ok value t =>
        rw [hwrite] at haccessed
        exact haccessed
    | error e t =>
        rw [hwrite] at haccessed
        exact haccessed
    | panic t =>
        rw [hwrite] at haccessed
        exact haccessed
  · rw [if_neg hupdate]
    exact .same

end Bus

/-- The bytes that a step of user code may read: its pages, what it needs to
translate their addresses, and the time. -/
def Readable (config : Config) (M : Memory β) (s : State β) (x : BitVec 32) :
    Prop :=
  (∃ accessType, UserByte M s accessType x) ∨ TableByte M s x ∨
    InAccess config.mtimeAddress 8 x

/-- The bytes that it may write. -/
def Writable (M : Memory β) (s : State β) (x : BitVec 32) : Prop :=
  UserByte M s .write x ∨ TableByte M s x

/-- What user code does to a core that does not trap. -/
structure Behaves (config : Config) (M : Memory β) (s t : State β) : Prop where
  memory : Contained M s t
  control : SameControl s t
  accessed : Accessed (Readable config M s) (Writable M s) s.bus t.bus

section Behaviour

variable {config : Config}

/-- Without an access to the bus there is only the control to look at. -/
theorem Behaves.of_bus (h : t.bus = s.bus) (hcontrol : SameControl s t) :
    Behaves config M s t where
  memory := .of_bus h (.refl s)
  control := hcontrol
  accessed := .of_eq h

theorem Behaves.refl (s : State β) : Behaves config M s s :=
  .of_bus rfl (SameControl.refl s)

/-- The pages stay those of the user code. -/
theorem Behaves.userByte (h : Behaves config M s t) (accessType : AccessType) :
    UserByte M t accessType = UserByte M s accessType :=
  (h.memory.sameTables h.control).userByte h.control.status

/-- The tables stay where they were. -/
theorem Behaves.tableByte (h : Behaves config M s t) :
    TableByte M t = TableByte M s :=
  (h.memory.sameTables h.control).tableByte

/-- What is readable and writable stays the same, so two steps compose. -/
theorem Behaves.trans (hst : Behaves config M s t) (htu : Behaves config M t u) :
    Behaves config M s u where
  memory := hst.memory.trans hst.control htu.memory
  control := hst.control.trans htu.control
  accessed := by
    have haccessed := htu.accessed
    unfold Readable Writable at haccessed
    simp only [hst.userByte, hst.tableByte] at haccessed
    exact hst.accessed.trans haccessed

/-- The code stays guarded, so that the next step can be looked at in turn. -/
theorem Behaves.guarded (h : Behaves config M s t) (hs : Guarded M s) :
    Guarded M t :=
  hs.of_contained h.memory h.control

/-! ## Accesses -/

/-- Access nothing outside the pages of user code, with nothing said about
panics. -/
def containing (config : Config) (M : Memory β) : Discipline (State β) where
  step s t := Guarded M s → Behaves config M s t
  inv _ := False
  clean _ := True
  refl s _ := Behaves.refl s
  trans hst htu hs := (hst hs).trans (htu ((hst hs).guarded hs))
  inv_step _ h := h

/-- For a program that is shown to behave in every guarded state. -/
theorem tame_containing {α : Type} {m : CoreM β ε α}
    (h : ∀ s, Guarded M s → Behaves config M s (m s).state) :
    (containing config M).Tame m := by
  intro s
  exact ⟨h s, fun hinv _ => hinv.elim⟩

/-- What follows a program need only be tame. -/
theorem behaves_bind {α γ : Type} {m : CoreM β ε α} {f : α → CoreM β ε γ}
    (hs : Guarded M s) (hm : Behaves config M s (m s).state)
    (hf : ∀ a, (containing config M).Tame (f a)) :
    Behaves config M s ((m >>= f) s).state := by
  rw [Exec.bind_apply]
  cases hrun : m s with
  | ok a t =>
      rw [hrun] at hm
      exact hm.trans ((hf a).step t (Behaves.guarded hm hs))
  | error e t =>
      rw [hrun] at hm
      exact hm
  | panic t =>
      rw [hrun] at hm
      exact hm

end Behaviour

section Accesses

variable [Build] {config : Config}

/-- The devices may call the core back, which only raises and lowers
interrupts. -/
theorem sameControl_busRead (address : BitVec 32) (buf : List (BitVec 8))
    (s : State β) :
    SameControl s (busRead address buf s : Outcome ε _ _).state := by
  have hframe := (executes_memory
    (K := BusContract.trivial (β := β))).read (ε := ε) address buf
  exact .of_frame (hframe.step s)

theorem sameControl_busWrite (address : BitVec 32) {buf : List (BitVec 8)}
    (hbuf : buf.length ≤ 4) (s : State β) :
    SameControl s (busWrite address buf s : Outcome ε _ _).state := by
  have hframe := (executes_memory
    (K := BusContract.trivial (β := β))).write (ε := ε) address hbuf
  exact .of_frame (hframe.step s)

/-- A translation reads and updates entries, all of them over the bus. -/
theorem sameControl_translateAddress (address : BitVec 32)
    (accessType : AccessType) (level : PrivilegeLevel) (s : State β) :
    SameControl s (translateAddress address accessType level s).state := by
  have hframe := (executes_memory
    (K := BusContract.trivial (β := β))).toAccesses.tame_translateAddress address
    accessType level
  exact .of_frame (hframe.step s)

/-- A read that stays where user code may read. -/
theorem behaves_busRead {address : BitVec 32} {buf : List (BitVec 8)}
    (hs : Guarded M s)
    (hreadable : ∀ {x}, InAccess address buf.length x → Readable config M s x) :
    Behaves config M s (busRead address buf s : Outcome ε _ _).state where
  memory := .of_kept hs (Memory.kept_busRead address buf s) fun _ hx => hx.elim
  control := sameControl_busRead address buf s
  accessed := accessed_busRead s hreadable

/-- A translation reads entries of the tables, and updates one. -/
theorem accessed_translateAddress {readable : BitVec 32 → Prop}
    (address : BitVec 32) (accessType : AccessType) (level : PrivilegeLevel)
    (hs : Guarded M s) :
    Accessed readable (Writable M s) s.bus
      (translateAddress address accessType level s).state.bus := by
  unfold translateAddress
  by_cases hactive : s.Translates level
  · have hends : Ends readPte writePte address accessType level s _ :=
      translateAddressCommon_ends hactive
    have hread : ∀ {n : ℕ} {ppn : BitVec 32} {u : State β},
        ReachesTable readPte address s n ppn u →
          ∃ entry v, readPte (entryAddress ppn address n) u = .ok entry v := by
      intro n ppn u hreach
      obtain ⟨hentry, hbus⟩ := entryAt_of_reaches hs.ram hreach rfl .root
      have hslot := hs.ram hentry
      rw [← hbus] at hslot
      exact ⟨_, _, Memory.readPte_ram hslot⟩
    generalize translateAddressCommon readPte writePte address accessType level
      s = out at hends
    cases hends with
    | unread hreach hfail =>
        obtain ⟨entry, v, hok⟩ := hread hreach
        rw [hok] at hfail
        cases hfail
    | panics hreach hfail =>
        obtain ⟨entry, v, hok⟩ := hread hreach
        rw [hok] at hfail
        cases hfail
    | faults hfault => exact .of_eq (entryAt_of_visits hs.ram hfault.visits).2.2
    | leaf hleaf =>
        obtain ⟨hentry, _, hbus⟩ := entryAt_of_visits hs.ram hleaf.visits
        rw [← hbus]
        apply accessed_finish
        intro x hx
        exact Or.inr ⟨_, _, _, hentry, hx⟩
  · rw [translateAddressCommon_direct (not_translates_iff.1 hactive)]
    exact .same

/-- A translation, at whatever level, marks a leaf of the tables. -/
theorem behaves_translateAddress (address : BitVec 32)
    (accessType : AccessType) (level : PrivilegeLevel) (hs : Guarded M s) :
    Behaves config M s (translateAddress address accessType level s).state where
  memory := by
    cases translateAddress_kept M address accessType level s with
    | inl hkept => exact .of_kept hs hkept fun _ hx => hx.elim
    | inr hkept =>
        obtain ⟨hs', n, slot, entry, u, hleaf, hkept⟩ := hkept
        obtain ⟨hentry, rfl, _⟩ := entryAt_of_visits hs.ram hleaf.visits
        have hstored := (pte_translateAddress hs' hleaf (hs.ram hentry)).2
        obtain ⟨a, d, hmark⟩ := (M.pte s.bus slot).stored_eq_setAD accessType
        apply Contained.of_marked hkept hentry
        rw [hstored, hmark]
        exact Or.inr ⟨hleaf.permits.leaf, a, d, rfl⟩
  control := sameControl_translateAddress address accessType level s
  accessed := accessed_translateAddress address accessType level hs

/-- Where a user access goes is where the tables map it. -/
theorem grants_of_translateAddress {address pa : BitVec 32}
    {accessType : AccessType} (hs : Guarded M s)
    (h : translateAddress address accessType .user s = .ok pa t) :
    Grants M s address accessType pa := by
  have hactive : s.Translates .user := ⟨by decide, hs.sv32⟩
  obtain ⟨level, slot, entry, u, hleaf, rfl, _⟩ :=
    (translateAddressCommon_eq_ok_iff hactive).1 h
  exact grants_of_leafAt hs.ram hleaf

/-- The address of an access of up to four bytes is checked and translated. -/
theorem behaves_accessVirtual (config' : Config) (address : BitVec 32)
    (size : ℕ) (accessType : AccessType) (hs : Guarded M s) :
    Behaves config M s
      (accessVirtual config' address size accessType .user s).state := by
  cases state_accessVirtual config' address size accessType .user s with
  | inl hsame =>
      rw [hsame]
      exact Behaves.refl s
  | inr htranslated =>
      rw [htranslated]
      exact behaves_translateAddress _ _ _ hs

/-- All of the access is to bytes of user code then. -/
theorem userByte_of_accessVirtual {config' : Config} {address pa : BitVec 32}
    {size : ℕ} {accessType : AccessType} (hs : Guarded M s) (hsize : size ≤ 4)
    (hpa : accessVirtual config' address size accessType .user s = .ok pa t)
    {x : BitVec 32} (hx : InAccess pa size x) : UserByte M t accessType x := by
  have hbehaves : Behaves config' M s t := by
    have haccess : Behaves config' M s
        (accessVirtual config' address size accessType .user s).state :=
      behaves_accessVirtual config' address size accessType hs
    rw [hpa] at haccess
    exact haccess
  have hgrants := grants_of_translateAddress hs (accessVirtual_eq_ok hpa).1
  obtain ⟨i, hi, rfl⟩ := hx
  rw [hbehaves.userByte]
  exact ⟨address, pa, hgrants, i, Nat.lt_of_lt_of_le hi hsize, rfl⟩

/-- A load of up to four bytes reads from the pages of user code. -/
theorem behaves_mmuRead (address : BitVec 32) {size : ℕ} (hsize : size ≤ 4)
    (execute : Bool) (hs : Guarded M s) :
    Behaves config M s (mmuRead config size address .user execute s).state := by
  unfold mmuRead
  generalize (if execute = true then AccessType.execute else .read)
    = accessType
  have haccess : Behaves config M s
      (accessVirtual config address size accessType .user s).state :=
    behaves_accessVirtual config address size accessType hs
  rw [Exec.bind_apply]
  cases hpa : accessVirtual config address size accessType .user s with
  | ok pa t =>
      rw [hpa] at haccess
      have haccess : Behaves config M s t := haccess
      apply haccess.trans
      apply behaves_busRead (haccess.guarded hs)
      intro x hx
      rw [List.length_replicate] at hx
      exact Or.inl ⟨accessType, userByte_of_accessVirtual hs hsize hpa hx⟩
  | error e t =>
      rw [hpa] at haccess
      exact haccess
  | panic t =>
      rw [hpa] at haccess
      exact haccess

/-- A store of up to four bytes stays where it may write. -/
theorem behaves_mmuWrite (address : BitVec 32) {buf : List (BitVec 8)}
    (hbuf : buf.length ≤ 4) (hs : Guarded M s) :
    Behaves config M s (mmuWrite config address buf .user s).state := by
  unfold mmuWrite
  have haccess : Behaves config M s
      (accessVirtual config address buf.length .write .user s).state :=
    behaves_accessVirtual config address buf.length .write hs
  rw [Exec.bind_apply]
  cases hpa : accessVirtual config address buf.length .write .user s with
  | ok pa t =>
      rw [hpa] at haccess
      have haccess : Behaves config M s t := haccess
      have ht := haccess.guarded hs
      have hbyte : ∀ x, InAccess pa buf.length x → UserByte M t .write x :=
        fun _ hx => userByte_of_accessVirtual hs hbuf hpa hx
      apply haccess.trans
      exact
        { memory := .of_kept ht (Memory.kept_busWrite pa buf t) hbyte
          control := sameControl_busWrite pa hbuf t
          accessed := accessed_busWrite t fun hx => Or.inl (hbyte _ hx) }
  | error e t =>
      rw [hpa] at haccess
      exact haccess
  | panic t =>
      rw [hpa] at haccess
      exact haccess

omit [SystemBus β] [Build] in
/-- MPRV is clear, so user code accesses memory as user code. -/
theorem effectivePrivilegeMode_user (hmode : s.privilegeMode = .user)
    (hmprv : s.status.mprv = false) : s.effectivePrivilegeMode = some .user := by
  unfold State.effectivePrivilegeMode
  rw [hmprv, ← hmode]
  rfl

omit [Build] in
/-- The same of the level that decides about loads and stores. -/
theorem Guarded.effectivePrivilegeMode (hs : Guarded M s) :
    s.effectivePrivilegeMode = some .user :=
  effectivePrivilegeMode_user hs.mode hs.mprv

/-- A load of one unit, at the level that MPRV leaves. -/
theorem tame_readUnit_containing {size : ℕ} (address : BitVec 32)
    (hsize : size ≤ 4) :
    (containing config M).Tame
      (Core.readUnit config size address : CoreM β _ _) := by
  apply tame_containing
  intro s hs
  unfold Core.readUnit Core.effectivePrivilegeMode
  rw [Exec.bind_apply, Exec.get_bind, hs.effectivePrivilegeMode]
  apply behaves_bind hs (behaves_mmuRead address hsize false hs)
  intro buf
  apply Tame.bind Tame.get
  intro t
  exact Tame.pure _

/-- The loads and stores of a guarded core, of up to four bytes each. -/
theorem transfers_containing : Transfers config (containing config M) where
  legal h := h.elim
  aligned h := h.elim
  time := by
    intro ε
    apply tame_containing
    intro s hs
    unfold readMtime
    apply behaves_bind hs
    · apply behaves_busRead hs
      exact fun hx => Or.inr (Or.inr hx)
    · exact fun _ => Tame.pure _
  setX := by
    intro ε dest value
    apply tame_containing
    intro s _
    exact .of_bus rfl ⟨rfl, rfl, rfl, rfl, rfl⟩
  incrementPc := by
    intro ε
    apply tame_containing
    intro s _
    exact .of_bus rfl ⟨rfl, rfl, rfl, rfl, rfl⟩
  setPc := by
    intro ε pc _
    apply tame_containing
    intro s _
    exact .of_bus rfl ⟨rfl, rfl, rfl, rfl, rfl⟩
  readByte := by
    intro address
    apply tame_containing
    intro s hs
    unfold Core.readByte Core.effectivePrivilegeMode
    rw [Exec.bind_apply, Exec.get_bind, hs.effectivePrivilegeMode]
    apply behaves_bind hs (behaves_mmuRead address (by decide : 1 ≤ 4) false hs)
    exact fun _ => Tame.pure _
  readUnit := fun address hsize => tame_readUnit_containing address hsize
  writeByte := by
    intro address value
    apply tame_containing
    intro s hs
    unfold Core.writeByte Core.effectivePrivilegeMode
    rw [Exec.bind_apply, Exec.get_bind, hs.effectivePrivilegeMode]
    exact behaves_mmuWrite address (by decide : 1 ≤ 4) hs
  writeUnit := by
    intro size address value hsize
    apply tame_containing
    intro s hs
    unfold Core.writeUnit Core.effectivePrivilegeMode
    rw [Exec.bind_apply, Exec.get_bind, hs.effectivePrivilegeMode]
    apply behaves_mmuWrite address ?_ hs
    split <;> simp [hsize]

/-- Instructions are fetched from the pages of user code. -/
theorem tame_fetchInstruction_containing (address : BitVec 32) :
    (containing config M).Tame
      (fetchInstruction config address : CoreM β _ _) := by
  unfold fetchInstruction
  apply Tame.ite
  · intro _
    exact Tame.throw _
  · intro _
    apply tame_containing
    intro s hs
    rw [Exec.get_bind, hs.mode]
    apply behaves_bind hs (behaves_mmuRead address (Nat.le_refl 4) true hs)
    exact fun _ => Tame.pure _

/-! ## Instructions -/

/-- Instructions that user code cannot execute fail at once, and reads of CSRs
touch the bus only to read the time. -/
theorem behaves_executeInstruction {instruction : Instruction}
    (hshift : instruction.ShiftFits)
    (hs : Guarded M s) :
    Behaves config M s (executeInstruction config instruction s).state := by
  have hcsr : ∀ op dest csr srcValue, (containing config M).Tame
      (csrOpAt config .user op dest csr srcValue : CoreM β _ _) := by
    intro op dest csr srcValue
    apply transfers_containing.toMoves.tame_csrOpAt
    intro src _
    obtain ⟨e, he⟩ := writeCsr_user (β := β) csr (csrOperand op src).1
      (csrOperand op src).2
    rw [he]
    exact Tame.throw e
  cases instruction with
  | sret =>
      cases sret_cases s with
      | inl hthrow =>
          rw [executeInstruction_sret, hthrow]
          exact Behaves.refl s
      | inr hreturn =>
          rw [hs.mode] at hreturn
          exact absurd hreturn.1 (by decide)
  | mret =>
      cases mret_cases s with
      | inl hthrow =>
          rw [executeInstruction_mret, hthrow]
          exact Behaves.refl s
      | inr hreturn =>
          rw [hs.mode] at hreturn
          exact absurd hreturn.1 (by decide)
  | csr op dest csr src =>
      rw [executeInstruction_csr, hs.mode]
      exact (hcsr op dest csr _).step s hs
  | csri op dest csr immediate =>
      rw [executeInstruction_csri, hs.mode]
      exact (hcsr op dest csr _).step s hs
  | _ =>
      exact (transfers_containing.tame_executeInstruction hshift
        not_false).step s hs

end Accesses

/-! ## The rest of a step -/

/-- The bus is not accessed any more, and what decides about accesses only
changes in a trap, which leaves U-mode. -/
def Concludes (s t : State β) : Prop :=
  t.bus = s.bus ∧ (t.privilegeMode = .user → SameControl s t)

omit [SystemBus β] in
theorem Concludes.refl (s : State β) : Concludes s s :=
  ⟨rfl, fun _ => SameControl.refl s⟩

omit [SystemBus β] in
/-- Two conclusions, each of which leaves U-mode or leaves the control alone.
-/
theorem Concludes.trans (hst : Concludes s t) (htu : Concludes t u) :
    Concludes s u := by
  refine ⟨htu.1.trans hst.1, ?_⟩
  intro hmode
  have hcontrol := htu.2 hmode
  exact (hst.2 (hcontrol.mode.symm.trans hmode)).trans hcontrol

omit [SystemBus β] in
/-- A trap writes the trap registers, the status and the mode. -/
theorem concludes_trapEntry (s : State β) (cause : Cause) :
    Concludes s (trapEntry s cause) := by
  refine ⟨bus_trapEntry s cause, ?_⟩
  intro hmode
  have htarget : (if trapToSMode s cause then PrivilegeLevel.supervisor
      else .machine) = .user := hmode
  cases hS : trapToSMode s cause with
  | true =>
      rw [hS] at htarget
      cases htarget
  | false =>
      rw [hS] at htarget
      cases htarget

omit [SystemBus β] in
/-- The counters are advanced, and an exception is turned into a trap. -/
theorem concludes_tick (instruction : Except Exception Instruction)
    (s : State β) : Concludes s (tick instruction s) := by
  obtain ⟨f, hf⟩ := tick_eq instruction s
  rw [hf]
  exact ⟨rfl, fun _ => ⟨rfl, rfl, rfl, rfl, rfl⟩⟩

section Steps

variable [Build]

omit [SystemBus β] in
/-- Without an interrupt nothing happens. -/
theorem checkForInterrupts_ok {interrupted : Bool}
    (h : (checkForInterrupts : CoreM β ε Bool) s = .ok interrupted t) :
    Concludes s t ∧ (interrupted = false → t = s) := by
  rw [checkForInterrupts_eq] at h
  cases hready : highestPriorityReadyInterrupt s with
  | none =>
      rw [hready] at h
      cases h
      exact ⟨Concludes.refl s, fun _ => rfl⟩
  | some interrupt =>
      rw [hready] at h
      unfold takeInterrupt at h
      cases trap_cases (ε := ε) (.interrupt (some interrupt)) s with
      | inl hok =>
          dsimp only at h
          rw [Exec.bind_ok hok.2] at h
          cases h
          exact ⟨concludes_trapEntry _ _, fun hfalse => nomatch hfalse⟩
      | inr hpanic =>
          dsimp only at h
          rw [Exec.bind_panic hpanic.2] at h
          cases h

/-- A step executes its instruction, if it has one, and concludes. -/
theorem stepWith_ok {config : Config}
    {instruction : Except Exception Instruction}
    (h : (stepWith config instruction : CoreM β ε Unit) s = .ok () t) :
    ∃ u, Concludes u t ∧
      (u = s ∨ ∃ i, instruction = .ok i ∧
        u = (executeInstruction config i s).state) := by
  cases instruction with
  | error e =>
      rw [stepWith_undecoded] at h
      cases h
      exact ⟨s, (concludes_tick _ s).trans (concludes_trapEntry _ _),
        Or.inl rfl⟩
  | ok i =>
      cases hexec : executeInstruction config i s with
      | ok value u =>
          rw [stepWith_completed hexec] at h
          cases h
          exact ⟨u, concludes_tick _ u, Or.inr ⟨i, rfl, by rw [hexec]; rfl⟩⟩
      | error e u =>
          rw [stepWith_raised hexec] at h
          cases h
          exact ⟨u, (concludes_tick _ u).trans (concludes_trapEntry _ _),
            Or.inr ⟨i, rfl, by rw [hexec]; rfl⟩⟩
      | panic u =>
          have hattempt : (Exec.attempt (executeInstruction config i) :
              CoreM β ε _) s = .panic u := by
            unfold Exec.attempt
            rw [hexec]
          have hpanic : (stepWith config (.ok i) : CoreM β ε Unit) s
              = .panic u := Exec.bind_panic hattempt
          rw [hpanic] at h
          cases h

/-- One step of user code. -/
theorem behaves_step {config : Config} (hs : Guarded M s)
    (h : (step config : CoreM β ε Unit) s = .ok () t) :
    ∃ u, Behaves config M s u ∧ Concludes u t := by
  unfold step at h
  rw [Exec.get_bind] at h
  obtain ⟨interrupted, u, hcheck, h⟩ := Exec.bind_ok_iff.1 h
  obtain ⟨hbefore, hquiet⟩ := checkForInterrupts_ok hcheck
  cases interrupted with
  | true =>
      cases h
      exact ⟨s, Behaves.refl s, hbefore⟩
  | false =>
      obtain rfl := hquiet rfl
      obtain ⟨raw, v, hfetch, h⟩ := Exec.bind_ok_iff.1 h
      obtain ⟨_, w, hstep, h⟩ := Exec.bind_ok_iff.1 h
      obtain ⟨_, x, hcheck', h⟩ := Exec.bind_ok_iff.1 h
      cases h
      have hfetched : Behaves config M u v := by
        have htame : (containing config M).Tame
            (fetchInstruction config u.registers.pc : CoreM β _ _) :=
          tame_fetchInstruction_containing u.registers.pc
        have hattempt : (containing config M).Tame
            (Exec.attempt (Exec.mapError (fetchException u.registers.pc)
              (fetchInstruction config u.registers.pc)) :
              CoreM β ε (Except Exception (BitVec 32))) :=
          (Tame.mapError (fetchException u.registers.pc) htame).attempt
        have hrun := hattempt.step u hs
        rw [hfetch] at hrun
        exact hrun
      obtain ⟨y, hconcludes, hy⟩ := stepWith_ok hstep
      refine ⟨y, ?_, hconcludes.trans (checkForInterrupts_ok hcheck').1⟩
      apply hfetched.trans
      rcases hy with rfl | ⟨i, hi, rfl⟩
      · exact Behaves.refl _
      · apply behaves_executeInstruction _ (hfetched.guarded hs)
        cases raw with
        | error e => cases hi
        | ok raw =>
            cases hdecode : decode raw with
            | error e =>
                simp only [hdecode] at hi
                cases hi
            | ok instruction =>
                simp only [hdecode] at hi
                cases hi
                exact shiftFits_of_decode hdecode

/-! ## Runs -/

/-- Any number of steps, each of them taken in U-mode.  Between them memory
may not change, nor what decides how it is accessed. -/
inductive UserRun (M : Memory β) (config : Config) (s : State β) :
    State β → Prop
  | start : UserRun M config s s
  | step {t u : State β} (h : UserRun M config s t)
      (hmode : t.privilegeMode = .user)
      (hstep : (step config : CoreM β Empty Unit) t = .ok () u) :
      UserRun M config s u
  | other {t u : State β} (h : UserRun M config s t)
      (hkept : M.Kept (fun _ => False) t u) (hcontrol : SameControl t u) :
      UserRun M config s u

/-- All the writes of a program are to its own pages, and as long as it has
not trapped everything that controls them is as it was. -/
theorem contained_run {config : Config} (hs : Guarded M s)
    (h : UserRun M config s t) :
    Contained M s t ∧ (t.privilegeMode = .user → SameControl s t) := by
  induction h with
  | start => exact ⟨Contained.refl s, fun _ => SameControl.refl s⟩
  | step _ hmode hstep ih =>
      obtain ⟨hmemory, hcontrol⟩ := ih
      have hall := hcontrol hmode
      obtain ⟨v, hbehaves, hconcludes⟩ :=
        behaves_step (hs.of_contained hmemory hall) hstep
      have hmemory' := Contained.of_bus hconcludes.1 hbehaves.memory
      exact ⟨hmemory.trans hall hmemory', fun hmode' =>
        hall.trans (hbehaves.control.trans (hconcludes.2 hmode'))⟩
  | @other t u _ hkept hcontrol' ih =>
      obtain ⟨hmemory, hcontrol⟩ := ih
      have hbyte : M.byte u.bus = M.byte t.bus :=
        funext fun x => hkept.byte x id
      refine ⟨?_, ?_⟩
      · exact
          { ram := hkept.ram.trans hmemory.ram
            byte := by
              rw [hbyte]
              exact hmemory.byte
            entry := by
              intro address level slot hentry
              have hsame : M.pte u.bus slot = M.pte t.bus slot := by
                apply congrArg Pte.mk
                apply Memory.word_congr
                exact fun _ _ => hkept.byte _ id
              rw [hsame]
              exact hmemory.entry hentry }
      · intro hmode
        rw [hcontrol'.mode] at hmode
        exact (hcontrol hmode).trans hcontrol'

end Steps

end RedPlanet.Core
