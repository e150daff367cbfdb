import RedPlanet.Board.Board
import RedPlanet.Core.PageFaults

/-!
# The memory of the board

What the core's results about memory become on the bus of the board: DRAM is
a `Memory`, and page table entries in DRAM, in the ROMs or in the CLINT are
read without side effects.  Debug reads fill buffers like reads do on every
device.

`memory` is the instance that the results about pages and isolation are used
with; its bytes are those of DRAM, and an access within DRAM is one of RAM
(`InDram`).  `quiet` and `backed` say which entries the translations of the
core and of the debugger agree on.
-/

namespace RedPlanet.Board

open RedPlanet.Core RedPlanet.Resources RedPlanet.Verified

namespace SystemBus

/-! ## Debug reads -/

section DebugReads

variable [Build] {address : BitVec 32} {buf buf' : List (BitVec 8)}
  {bus bus' : SystemBus} {calls : List IrqCall}

/-- A debug read of any address leaves in a buffer of any length what a read
leaves there. -/
theorem debug_read_agrees
    (h : bus.read address buf = some (buf', bus', calls)) :
    bus.readDebug address buf = some buf' := by
  rw [readDebug_eq, h]
  rfl

end DebugReads

/-- Source 3 is enabled and pending, with priority 1. -/
def armedPlic : Plic where
  priorities := (Vector.replicate 53 0).set 3 1
  pending := { words := #v[0x10000000, 0] }
  enabled := { words := #v[0x10000000, 0] }
  priorityThreshold := 0

/-- Both reads of the claim register find source 3. -/
theorem debug_read_agrees_claim :
    @readDebug Build.debug 0x0C200004 [0, 0, 0, 0]
      { guestBoard.bus with plic := armedPlic } = some [3, 0, 0, 0] :=
  @debug_read_agrees Build.debug 0x0C200004 [0, 0, 0, 0] [3, 0, 0, 0]
    { guestBoard.bus with plic := armedPlic }
    { guestBoard.bus with
      plic := { armedPlic with pending := { words := #v[0, 0] } } }
    [.lower .machineExternalInterrupt] rfl

/-! ## Accesses to DRAM -/

/-- The access lies within DRAM. -/
structure InDram (bus : SystemBus) (address : BitVec 32) (size : ℕ) : Prop where
  pos : size ≠ 0
  start_le : dramRange.start ≤ address
  le : address.toNat - dramRange.start.toNat + size ≤ bus.dram.data.size
  le_last : address.toNat + size ≤ 2 ^ 32

/-- The access is one to DRAM, at its offset. -/
theorem InDram.checkAccess {bus : SystemBus} {address : BitVec 32} {size : ℕ}
    (h : bus.InDram address size) :
    SystemBus.checkAccess address size
      = some (.dram, address - dramRange.start) := by
  have hpos := h.pos
  have hle := h.le_last
  have hlast : address ≤ dramRange.last := by
    show address.toNat ≤ 4294967295
    omega
  have hrest : (dramRange.last - address).toNat = 4294967295 - address.toNat :=
    BitVec.toNat_sub_of_le hlast
  rw [checkAccess_eq_some_iff]
  refine ⟨dramRange, by decide, ⟨h.start_le, hlast⟩, hpos, ?_, ?_, rfl⟩
  · omega
  · rw [hrest]
    omega

/-- The UART and DRAM accept every access. -/
theorem accepts_any [Build] {address mapped : BitVec 32} {size : ℕ}
    {resource : Resource}
    (h : SystemBus.checkAccess address size = some (resource, mapped))
    (hresource : resource = .uart0 ∨ resource = .dram)
    (accessType : AccessType) :
    Core.accepts SystemBus address size accessType = true := by
  show SystemBus.accepts address size accessType = true
  unfold SystemBus.accepts
  rw [h]
  rcases hresource with huart | hdram
  · rw [huart]
  · rw [hdram]

/-- DRAM accepts all accesses. -/
theorem accepts_dram [Build] {address mapped : BitVec 32} {size : ℕ}
    (h : SystemBus.checkAccess address size = some (.dram, mapped))
    (accessType : AccessType) :
    Core.accepts SystemBus address size accessType = true :=
  accepts_any h (Or.inr rfl) accessType

/-- DRAM keeps its size. -/
theorem inDram_congr {bus bus' : SystemBus}
    (h : bus'.dram.data.size = bus.dram.data.size) :
    bus'.InDram = bus.InDram := by
  funext address size
  apply propext
  constructor
  · intro hin
    exact ⟨hin.pos, hin.start_le, h ▸ hin.le, hin.le_last⟩
  · intro hin
    exact ⟨hin.pos, hin.start_le, h ▸ hin.le, hin.le_last⟩

/-- DRAM has one range in the memory map. -/
theorem range_of_dram {range : AddressRange}
    (h : (range, Resource.dram) ∈ memoryMap.orderedRanges) :
    range = dramRange := by
  unfold memoryMap at h
  simpa using h

/-- The byte of DRAM at an address. -/
def dramByte (bus : SystemBus) (x : BitVec 32) : BitVec 8 :=
  if dramRange.start ≤ x then bus.dram.data.elem (x - dramRange.start).toNat
  else 0

/-- The `i`-th byte of an access, as an index into DRAM. -/
theorem InDram.dramByte {bus : SystemBus} {address : BitVec 32} {size i : ℕ}
    (h : bus.InDram address size) (hi : i < size) (bus' : SystemBus) :
    bus'.dramByte (address + BitVec.ofNat 32 i)
      = bus'.dram.data.elem ((address - dramRange.start).toNat + i) := by
  have hstart := h.start_le
  have hle := h.le_last
  have hmapped : (address - dramRange.start).toNat
      = address.toNat - dramRange.start.toNat := BitVec.toNat_sub_of_le hstart
  have hsum : (address + BitVec.ofNat 32 i).toNat = address.toNat + i := by
    rw [BitVec.toNat_add, BitVec.toNat_ofNat]
    omega
  have hge : dramRange.start.toNat ≤ address.toNat := hstart
  have hsum_ge : dramRange.start ≤ address + BitVec.ofNat 32 i := by
    show dramRange.start.toNat ≤ (address + BitVec.ofNat 32 i).toNat
    omega
  have hindex : (address + BitVec.ofNat 32 i - dramRange.start).toNat
      = (address - dramRange.start).toNat + i := by
    rw [BitVec.toNat_sub_of_le hsum_ge, hsum, hmapped]
    omega
  unfold SystemBus.dramByte
  rw [if_pos hsum_ge, hindex]

/-- The access lies within the bytes of DRAM. -/
theorem InDram.fits {bus : SystemBus} {address : BitVec 32} {size : ℕ}
    (h : bus.InDram address size) :
    (address - dramRange.start).toNat + size ≤ bus.dram.data.size := by
  have hle := h.le
  rw [BitVec.toNat_sub_of_le h.start_le]
  exact hle

/-- The UART and its interrupts leave DRAM alone. -/
theorem dram_withUart {uart0 : Uart} {callbacks : List Callback}
    {bus bus' : SystemBus} {calls : List IrqCall}
    (h : bus.withUart uart0 callbacks = some (bus', calls)) :
    bus'.dram = bus.dram := by
  unfold withUart at h
  rw [Option.map_eq_some_iff] at h
  obtain ⟨_, _, hresult⟩ := h
  cases hresult
  rfl

/-- No read changes DRAM. -/
theorem dram_read [Build] {address : BitVec 32} {buf buf' : List (BitVec 8)}
    {bus bus' : SystemBus} {calls : List IrqCall}
    (h : bus.read address buf = some (buf', bus', calls)) :
    bus'.dram = bus.dram := by
  cases read_cases h with
  | unchanged => rfl
  | plic _ _ => rfl
  | uart0 _ _ hforward => exact dram_withUart hforward

/-- Where a write ended in DRAM it went through `Ram::write`, and otherwise it
left DRAM alone. -/
theorem dram_write {address : BitVec 32} {buf : List (BitVec 8)}
    {bus bus' : SystemBus} {calls : List IrqCall}
    (h : bus.write address buf = some (bus', calls)) :
    bus'.dram = bus.dram ∨
      (dramRange.start ≤ address ∧
        bus.dram.write (address - dramRange.start) buf = some bus'.dram) := by
  cases write_cases h with
  | unchanged => exact Or.inl rfl
  | clint _ => exact Or.inl rfl
  | plic _ _ => exact Or.inl rfl
  | uart0 _ _ hforward => exact Or.inl (dram_withUart hforward)
  | dram hcheck hwrite =>
      obtain ⟨range, hmem, hcontains, _, _, _, hmapped⟩ :=
        checkAccess_eq_some_iff.1 hcheck
      have hrange := range_of_dram hmem
      subst hrange
      rw [hmapped] at hwrite
      exact Or.inr ⟨hcontains.1, hwrite⟩
  | powerDown _ =>
      left
      unfold writePowerDown
      split <;> rfl

/-- A write changes no byte outside of its access. -/
theorem dramByte_write {address : BitVec 32} {buf : List (BitVec 8)}
    {bus bus' : SystemBus} {calls : List IrqCall}
    (h : bus.write address buf = some (bus', calls)) :
    (∀ x, ¬ InAccess address buf.length x → bus'.dramByte x = bus.dramByte x) ∧
      bus'.dram.data.size = bus.dram.data.size := by
  cases dram_write h with
  | inl hsame =>
      unfold dramByte
      rw [hsame]
      exact ⟨fun _ _ => rfl, rfl⟩
  | inr hwrite =>
      obtain ⟨hstart, hwrite⟩ := hwrite
      obtain ⟨hkeeps, hsize⟩ := Ram.write_keeps hwrite
      refine ⟨?_, hsize⟩
      intro x hx
      unfold dramByte
      by_cases hle : dramRange.start ≤ x
      · rw [if_pos hle, if_pos hle]
        apply hkeeps
        intro k hk hindex
        refine hx ⟨k, hk, ?_⟩
        rw [BitVec.toNat_sub_of_le hle, BitVec.toNat_sub_of_le hstart] at hindex
        have hlt := x.isLt
        have hx_ge : dramRange.start.toNat ≤ x.toNat := hle
        have ha_ge : dramRange.start.toNat ≤ address.toNat := hstart
        apply BitVec.eq_of_toNat_eq
        rw [BitVec.toNat_add, BitVec.toNat_ofNat]
        omega
      · rw [if_neg hle, if_neg hle]

end SystemBus

open SystemBus

/-! ## Memory for the core -/

/-- The memory of the board is its DRAM. -/
def memory [Build] : Memory SystemBus where
  byte := dramByte
  Ram := InDram
  accepts_ram := fun h => accepts_dram h.checkAccess
  read_ram := by
    intro bus address buf h
    have hpos : buf ≠ [] := fun hnil => h.pos (by rw [hnil]; rfl)
    show bus.read address buf = _
    unfold SystemBus.read
    rw [h.checkAccess]
    dsimp only
    rw [Ram.read_eq hpos h.fits, Option.map_some]
    refine congrArg some (Prod.ext ?_ rfl)
    apply List.map_congr_left
    intro i hi
    exact (h.dramByte (List.mem_range.1 hi) bus).symm
  write_ram := by
    intro bus address buf h
    have hpos : buf ≠ [] := fun hnil => h.pos (by rw [hnil]; rfl)
    obtain ⟨dram, hwrite⟩ := Option.ne_none_iff_exists'.1
      (Ram.write_ne_none (address - dramRange.start) buf bus.dram)
    refine ⟨{ bus with dram := dram }, ?_, ?_⟩
    · show bus.write address buf = _
      unfold SystemBus.write
      rw [h.checkAccess]
      dsimp only
      rw [hwrite]
      rfl
    · intro i hi
      rw [h.dramByte hi]
      exact Ram.write_eq hpos h.fits hwrite hi
  read_keeps := by
    intro bus bus' address buf buf' calls h
    have hdram := dram_read h
    refine ⟨?_, inDram_congr (by rw [hdram])⟩
    unfold dramByte
    rw [hdram]
  write_keeps := by
    intro bus bus' address buf calls h
    obtain ⟨hbyte, hsize⟩ := dramByte_write h
    exact ⟨hbyte, inDram_congr hsize⟩

/-! ## Page table entries of the board -/

section Entries

variable [Build] {address mapped : BitVec 32} {resource : Resource}

/-- A word of DRAM, of a ROM, of the CLINT or of the power switch is read
without side effects. -/
theorem quiet (hcheck : checkAccess address 4 = some (resource, mapped))
    (hplic : resource ≠ .plic) (huart : resource ≠ .uart0) :
    Quiet SystemBus address where
  read := by
    intro _ bus
    have hread : bus.read address (List.replicate 4 0) ≠ none := by
      rw [ne_eq, read_eq_none_iff]
      exact not_badAccess_of_checkAccess hcheck hplic
    obtain ⟨⟨buf, bus', calls⟩, hread⟩ := Option.ne_none_iff_exists'.1 hread
    have hdebug : bus.readDebug address (List.replicate 4 0) = some buf := by
      rw [readDebug_eq, hread]
      rfl
    refine ⟨buf, ?_, hdebug⟩
    show bus.read address (List.replicate 4 0) = _
    have hquiet : bus' = bus ∧ calls = [] := by
      have hlength := List.length_replicate (n := 4) (a := (0 : BitVec 8))
      cases SystemBus.read_cases hread with
      | unchanged => exact ⟨rfl, rfl⟩
      | plic hother _ =>
          rw [hlength, hcheck] at hother
          cases hother
          exact absurd rfl hplic
      | uart0 hother _ _ =>
          rw [hlength, hcheck] at hother
          cases hother
          exact absurd rfl huart
    rw [hread, hquiet.1, hquiet.2]
  write := by
    intro _ buf bus hlength
    show bus.write address buf ≠ none
    rw [ne_eq, write_eq_none_iff, hlength]
    exact not_badAccess_of_checkAccess hcheck hplic

/-- A word of DRAM is read and written. -/
theorem backed (hcheck : checkAccess address 4 = some (.dram, mapped)) :
    Backed SystemBus address where
  readable := accepts_dram hcheck .read
  writable := accepts_dram hcheck .write
  read := by
    intro buf bus hlength
    show bus.read address buf ≠ none
    rw [ne_eq, read_eq_none_iff, hlength]
    exact not_badAccess_of_checkAccess hcheck (by decide)
  write := by
    intro buf bus hlength
    show bus.write address buf ≠ none
    rw [ne_eq, write_eq_none_iff, hlength]
    exact not_badAccess_of_checkAccess hcheck (by decide)

end Entries

end RedPlanet.Board
