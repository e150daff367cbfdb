import RedPlanet.Core.Mmu

/-!
# Memory behind a bus

A `Memory` is what a proof may use of the part of a system bus that stores
bytes: which bytes there are, that reads do not change them and writes change
no others, and that the accesses to RAM transfer exactly the bytes of their
range, without side effects.

`Kept` is the frame that follows: the memory after an access, with the same
bytes but for those of the access.  The lemmas on the entries of the page
tables come in two groups, what a successful access gives (`readPte_ram`,
`writePte_ram`) and what any access does at most (`kept_readPte`,
`kept_writePte`).  `MemoryBus` is the bus that is nothing else but memory.
-/

namespace RedPlanet.Core

open RedPlanet.Verified

/-- The byte addresses of an access. -/
def InAccess (address : BitVec 32) (size : Nat) (x : BitVec 32) : Prop :=
  ∃ i < size, x = address + BitVec.ofNat 32 i

/-- The bytes behind a bus, and what reads and writes do to them. -/
structure Memory (β : Type) [SystemBus β] where
  byte : β → BitVec 32 → BitVec 8
  /-- An access of this size lies in RAM. -/
  Ram : β → BitVec 32 → Nat → Prop
  accepts_ram : ∀ {bus : β} {address : BitVec 32} {size : Nat},
    Ram bus address size → ∀ accessType,
      accepts β address size accessType = true
  read_ram : ∀ {bus : β} {address : BitVec 32} {buf : List (BitVec 8)},
    Ram bus address buf.length →
      SystemBus.read address buf bus = some
        ((List.range buf.length).map fun i =>
          byte bus (address + BitVec.ofNat 32 i), bus, [])
  write_ram : ∀ {bus : β} {address : BitVec 32} {buf : List (BitVec 8)},
    Ram bus address buf.length →
      ∃ bus', SystemBus.write address buf bus = some (bus', []) ∧
        ∀ i, (h : i < buf.length) →
          byte bus' (address + BitVec.ofNat 32 i) = buf[i]
  read_keeps : ∀ {bus bus' : β} {address : BitVec 32}
    {buf buf' : List (BitVec 8)} {calls : List IrqCall},
    SystemBus.read address buf bus = some (buf', bus', calls) →
      byte bus' = byte bus ∧ Ram bus' = Ram bus
  write_keeps : ∀ {bus bus' : β} {address : BitVec 32}
    {buf : List (BitVec 8)} {calls : List IrqCall},
    SystemBus.write address buf bus = some (bus', calls) →
      (∀ x, ¬ InAccess address buf.length x → byte bus' x = byte bus x) ∧
        Ram bus' = Ram bus

namespace Memory

variable {β ε : Type} [SystemBus β] (M : Memory β)

/-- The word at an address. -/
def word (bus : β) (address : BitVec 32) : BitVec 32 :=
  ofLeBytes 32 ((List.range 4).map fun i =>
    M.byte bus (address + BitVec.ofNat 32 i))

/-- The page table entry at an address. -/
def pte (bus : β) (address : BitVec 32) : Pte where
  bits := M.word bus address

variable {M}

/-- A word depends on its four bytes only. -/
theorem word_congr {bus bus' : β} {address : BitVec 32}
    (h : ∀ i < 4, M.byte bus' (address + BitVec.ofNat 32 i)
      = M.byte bus (address + BitVec.ofNat 32 i)) :
    M.word bus' address = M.word bus address := by
  unfold word
  congr 1
  apply List.map_congr_left
  intro i hi
  exact h i (List.mem_range.1 hi)

end Memory

/-! ## Accesses that succeed -/

section Accesses

variable {β ε : Type} [SystemBus β] {address : BitVec 32}
  {buf buf' : List (BitVec 8)} {bus : β} {calls : List IrqCall} {s : State β}

/-- The state after an access that left this bus and made these calls. -/
def State.accessed (address : BitVec 32) (size : Nat) (bus : β)
    (calls : List IrqCall) (s : State β) : State β :=
  { s.record (.access address size) with bus := bus }.onInterrupts
    (Interrupts.deliverAll calls)

/-- A read of the bus that does not panic, with the calls it made delivered.
-/
theorem busRead_ok (h : SystemBus.read address buf s.bus = some (buf', bus, calls)) :
    (busRead address buf : CoreM β ε _) s
      = .ok buf' (s.accessed address buf.length bus calls) := by
  unfold busRead
  dsimp only [State.record]
  rw [h]
  rfl

theorem busWrite_ok (h : SystemBus.write address buf s.bus = some (bus, calls)) :
    (busWrite address buf : CoreM β ε _) s
      = .ok () (s.accessed address buf.length bus calls) := by
  unfold busWrite
  dsimp only [State.record]
  rw [h]
  rfl

/-- An entry is the four bytes of its slot, in little-endian order. -/
theorem readPte_ok (haccepts : accepts β address 4 .read = true)
    (h : SystemBus.read address (List.replicate 4 0) s.bus
      = some (buf', bus, calls)) :
    readPte address s
      = .ok { bits := ofLeBytes 32 buf' } (s.accessed address 4 bus calls) := by
  unfold readPte accessPhysical
  rw [if_pos haccepts, Exec.pure_bind', Exec.bind_ok (busRead_ok h)]
  rfl

/-- An entry is written as these four bytes. -/
theorem writePte_ok {entry : Pte} (haccepts : accepts β address 4 .write = true)
    (h : SystemBus.write address (toLeBytes 4 entry.bits) s.bus
      = some (bus, calls)) :
    writePte address entry s = .ok () (s.accessed address 4 bus calls) := by
  unfold writePte accessPhysical
  rw [if_pos haccepts, Exec.pure_bind', busWrite_ok h, length_toLeBytes]

/-- The bus is not accessed if it does not accept the access. -/
theorem readPte_refused (h : accepts β address 4 .read = false) :
    readPte address s = .error .accessFault s := by
  unfold readPte accessPhysical
  rw [if_neg (by simp [h])]
  rfl

theorem writePte_refused {entry : Pte}
    (h : accepts β address 4 .write = false) :
    writePte address entry s = .error .accessFault s := by
  unfold writePte accessPhysical
  rw [if_neg (by simp [h])]
  rfl

/-- A device that panics takes the walk with it. -/
theorem readPte_panic (haccepts : accepts β address 4 .read = true)
    (h : SystemBus.read address (List.replicate 4 0) s.bus = none) :
    readPte address s = .panic (s.record (.access address 4)) := by
  unfold readPte accessPhysical
  rw [if_pos haccepts, Exec.pure_bind']
  apply Exec.bind_panic
  unfold busRead
  dsimp only [State.record]
  rw [h]
  rfl

theorem writePte_panic {entry : Pte}
    (haccepts : accepts β address 4 .write = true)
    (h : SystemBus.write address (toLeBytes 4 entry.bits) s.bus = none) :
    writePte address entry s = .panic (s.record (.access address 4)) := by
  unfold writePte accessPhysical
  rw [if_pos haccepts, Exec.pure_bind']
  unfold busWrite
  dsimp only [State.record]
  rw [h, length_toLeBytes]

/-- An entry is read, or the bus refuses the read, or it panics. -/
theorem readPte_cases (address : BitVec 32) (s : State β) :
    (accepts β address 4 .read = false ∧
      readPte address s = .error .accessFault s) ∨
    (accepts β address 4 .read = true ∧
      ((SystemBus.read address (List.replicate 4 0) s.bus = none ∧
          readPte address s = .panic (s.record (.access address 4))) ∨
        ∃ buf bus calls,
          SystemBus.read address (List.replicate 4 0) s.bus
              = some (buf, bus, calls) ∧
            readPte address s = .ok { bits := ofLeBytes 32 buf }
              (s.accessed address 4 bus calls))) := by
  cases haccepts : accepts β address 4 .read with
  | false => exact Or.inl ⟨rfl, readPte_refused haccepts⟩
  | true =>
      right
      refine ⟨rfl, ?_⟩
      cases hread : SystemBus.read address (List.replicate 4 0) s.bus with
      | none => exact Or.inl ⟨rfl, readPte_panic haccepts hread⟩
      | some reply =>
          obtain ⟨buf, bus, calls⟩ := reply
          exact Or.inr ⟨buf, bus, calls, rfl, readPte_ok haccepts hread⟩

/-- An entry is written iff the bus accepts the write and does not panic. -/
theorem writePte_eq_ok_iff {entry : Pte} :
    (∃ t, writePte address entry s = .ok () t) ↔
      accepts β address 4 .write = true ∧
        SystemBus.write address (toLeBytes 4 entry.bits) s.bus ≠ none := by
  cases haccepts : accepts β address 4 .write with
  | false =>
      rw [writePte_refused haccepts]
      simp
  | true =>
      cases hwrite : SystemBus.write address (toLeBytes 4 entry.bits) s.bus with
      | none =>
          rw [writePte_panic haccepts hwrite]
          simp
      | some reply =>
          obtain ⟨bus, calls⟩ := reply
          rw [writePte_ok haccepts hwrite]
          simp

end Accesses

namespace Memory

variable {β ε : Type} [SystemBus β] {M : Memory β}

/-! ## Entries in RAM -/

/-- In RAM an entry is read without side effects. -/
theorem readPte_ram {address : BitVec 32} {s : State β}
    (h : M.Ram s.bus address 4) :
    readPte address s
      = .ok (M.pte s.bus address) (s.accessed address 4 s.bus []) :=
  readPte_ok (M.accepts_ram h .read) (M.read_ram h)

/-- In RAM the entry that was written is the one that is there afterwards. -/
theorem writePte_ram {address : BitVec 32} {entry : Pte} {s : State β}
    (h : M.Ram s.bus address 4) :
    ∃ bus, writePte address entry s = .ok () (s.accessed address 4 bus []) ∧
      M.pte bus address = entry := by
  obtain ⟨bus, hwrite, hbyte⟩ := @Memory.write_ram β _ M s.bus address
    (toLeBytes 4 entry.bits) (by rw [length_toLeBytes]; exact h)
  refine ⟨bus, writePte_ok (M.accepts_ram h .write) hwrite, ?_⟩
  have hbytes : (List.range 4).map (fun i =>
      M.byte bus (address + BitVec.ofNat 32 i)) = toLeBytes 4 entry.bits := by
    apply List.ext_getElem
    · rw [List.length_map, List.length_range, length_toLeBytes]
    · intro i hi hi'
      rw [List.getElem_map, List.getElem_range]
      exact hbyte i hi'
  show Pte.mk (ofLeBytes 32 _) = entry
  rw [hbytes]
  exact congrArg Pte.mk (ofLeBytes_toLeBytes entry.bits (by decide))

/-! ## What accesses to entries leave alone -/

/-- The memory of a state with respect to another: the same bytes but for
those of one access, and the same RAM. -/
structure Kept (M : Memory β) (except : BitVec 32 → Prop) (s t : State β) :
    Prop where
  byte : ∀ x, ¬ except x → M.byte t.bus x = M.byte s.bus x
  ram : M.Ram t.bus = M.Ram s.bus

theorem Kept.refl {except : BitVec 32 → Prop} (s : State β) :
    Kept M except s s where
  byte := fun _ _ => rfl
  ram := rfl

/-- Two accesses to the same bytes. -/
theorem Kept.trans {except : BitVec 32 → Prop} {s t u : State β}
    (hst : Kept M except s t) (htu : Kept M except t u) : Kept M except s u where
  byte := fun x hx => (htu.byte x hx).trans (hst.byte x hx)
  ram := htu.ram.trans hst.ram

/-- More bytes may be different. -/
theorem Kept.mono {except except' : BitVec 32 → Prop} {s t : State β}
    (h : Kept M except s t) (himp : ∀ x, except x → except' x) :
    Kept M except' s t where
  byte := fun x hx => h.byte x fun hbad => hx (himp x hbad)
  ram := h.ram

/-- A read changes no byte. -/
theorem kept_busRead (address : BitVec 32) (buf : List (BitVec 8))
    (s : State β) :
    Kept M (fun _ => False) s (busRead address buf s : Outcome ε _ _).state := by
  cases h : SystemBus.read address buf s.bus with
  | none =>
      unfold busRead
      dsimp only [State.record]
      rw [h]
      exact ⟨fun _ _ => rfl, rfl⟩
  | some reply =>
      obtain ⟨buf', bus, calls⟩ := reply
      rw [busRead_ok h]
      have hkeeps := M.read_keeps h
      exact ⟨fun x _ => congrFun hkeeps.1 x, hkeeps.2⟩

/-- A write changes its own bytes at the most. -/
theorem kept_busWrite (address : BitVec 32) (buf : List (BitVec 8))
    (s : State β) :
    Kept M (InAccess address buf.length) s
      (busWrite address buf s : Outcome ε _ _).state := by
  cases h : SystemBus.write address buf s.bus with
  | none =>
      unfold busWrite
      dsimp only [State.record]
      rw [h]
      exact ⟨fun _ _ => rfl, rfl⟩
  | some reply =>
      obtain ⟨bus, calls⟩ := reply
      rw [busWrite_ok h]
      have hkeeps := M.write_keeps h
      exact ⟨fun x hx => hkeeps.1 x hx, hkeeps.2⟩

/-- Reading an entry changes nothing. -/
theorem kept_readPte (address : BitVec 32) (s : State β) :
    Kept M (fun _ => False) s (readPte address s).state := by
  have hbus : Kept M (fun _ => False) s _ :=
    kept_busRead (ε := MemoryError) address (List.replicate 4 0) s
  unfold readPte accessPhysical
  by_cases haccepts : accepts β address 4 .read = true
  · rw [if_pos haccepts, Exec.pure_bind', Exec.bind_apply]
    cases hread : busRead address (List.replicate 4 0) s with
    | ok buf t =>
        rw [hread] at hbus
        exact hbus
    | error e t =>
        rw [hread] at hbus
        exact hbus
    | panic t =>
        rw [hread] at hbus
        exact hbus
  · rw [if_neg haccepts]
    exact Kept.refl s

/-- Writing an entry changes its slot at the most. -/
theorem kept_writePte (address : BitVec 32) (entry : Pte) (s : State β) :
    Kept M (InAccess address 4) s (writePte address entry s).state := by
  unfold writePte accessPhysical
  by_cases haccepts : accepts β address 4 .write = true
  · rw [if_pos haccepts, Exec.pure_bind']
    exact kept_busWrite address (toLeBytes 4 entry.bits) s
  · rw [if_neg haccepts]
    exact Kept.refl s

end Memory

/-! ## A bus that is memory -/

/-- Memory at every address, and no devices. -/
structure MemoryBus where
  byte : BitVec 32 → BitVec 8

namespace MemoryBus

/-- Every access is to memory: it is accepted and calls nobody back. -/
instance : SystemBus MemoryBus where
  accepts _ size _ := size ≤ 2 ^ 32
  read address buf bus := some
    ((List.range buf.length).map fun i =>
      bus.byte (address + BitVec.ofNat 32 i), bus, [])
  readDebug address buf bus := some
    ((List.range buf.length).map fun i =>
      bus.byte (address + BitVec.ofNat 32 i))
  write address buf bus := some
    ({ byte := fun x => (buf[(x - address).toNat]?).getD (bus.byte x) }, [])

/-- All of the bytes are RAM. -/
def memory : Memory MemoryBus where
  byte := byte
  Ram _ _ size := size ≤ 2 ^ 32
  accepts_ram h accessType := decide_eq_true h
  read_ram _ := rfl
  write_ram := by
    intro bus address buf hsize
    refine ⟨_, rfl, ?_⟩
    intro i hi
    show (buf[(address + BitVec.ofNat 32 i - address).toNat]?).getD _ = _
    have hindex : (address + BitVec.ofNat 32 i - address).toNat = i := by
      rw [BitVec.add_comm, BitVec.add_sub_cancel, BitVec.toNat_ofNat]
      exact Nat.mod_eq_of_lt (Nat.lt_of_lt_of_le hi hsize)
    rw [hindex, List.getElem?_eq_getElem hi, Option.getD_some]
  read_keeps := by
    intro bus bus' address buf buf' calls h
    cases h
    exact ⟨rfl, rfl⟩
  write_keeps := by
    intro bus bus' address buf calls h
    cases h
    refine ⟨?_, rfl⟩
    intro x hx
    have hout : buf.length ≤ (x - address).toNat := by
      by_contra hin
      refine hx ⟨(x - address).toNat, by omega, ?_⟩
      rw [BitVec.ofNat_toNat, BitVec.setWidth_eq, BitVec.add_comm,
        BitVec.sub_add_cancel]
    show (buf[(x - address).toNat]?).getD _ = _
    rw [List.getElem?_eq_none hout, Option.getD_none]

/-- On this bus entries are always read. -/
theorem readPte_eq (address : BitVec 32) (s : State MemoryBus) :
    readPte address s
      = .ok (memory.pte s.bus address) (s.accessed address 4 s.bus []) :=
  Memory.readPte_ram (M := memory) (show 4 ≤ 2 ^ 32 by decide)

/-- Memory that holds these words, each given with its address, and zeros
elsewhere. -/
def ofWords (words : List (BitVec 32 × BitVec 32)) : MemoryBus where
  byte x :=
    match words.find? fun entry => decide ((x - entry.1).toNat < 4) with
    | some entry => (toLeBytes 4 entry.2).getD (x - entry.1).toNat 0
    | none => 0

/-- A core in S-mode that translates through the root table with this page
number. -/
def paging (satpPpn : BitVec 32) (words : List (BitVec 32 × BitVec 32)) :
    State MemoryBus :=
  { State.new NoDevices.config (ofWords words) with
    privilegeMode := .supervisor
    trap := { Trap.new with satpMode := .sv32, satpPpn := satpPpn } }

end MemoryBus

end RedPlanet.Core
