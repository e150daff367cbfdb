import RedPlanet.Board.Memory
import RedPlanet.Core.Atomics

/-!
# Loads, stores and atomics in DRAM

On the board every access within DRAM that is not translated succeeds,
however it is aligned.  What loads return is always what the bytes of DRAM
spell in the byte order of the level that accesses them.

The effects of the core's instructions on memory, as `Core.StoreLoad` and
`Core.Atomics` state them, are put together here: `LoadsSpelled` is about
every load, also one after a store that overlaps its bytes only in part, and
`loadsBack_of_stores` about the load that gives back what was stored.
-/

namespace RedPlanet.Board

open RedPlanet.Core RedPlanet.Verified

/-! ## The bytes of DRAM -/

/-- The bytes of DRAM from an address on. -/
def dramBytes (board : Board) (address : BitVec 32) (i : ℕ) : BitVec 8 :=
  board.bus.dramByte (address + BitVec.ofNat 32 i)

/-- In a DRAM of full size an access lies within DRAM iff its addresses are
those of DRAM. -/
theorem inDram_iff {bus : SystemBus} {address : BitVec 32} {size : ℕ}
    (hfull : bus.dram.data.size = dramRange.size) :
    bus.InDram address size ↔
      size ≠ 0 ∧ dramRange.start ≤ address ∧
        address.toNat + size ≤ 2 ^ 32 := by
  have hstart : dramRange.start.toNat = 2 ^ 31 := rfl
  have hsize : bus.dram.data.size = 2 ^ 31 := hfull.trans (by decide)
  constructor
  · intro h
    exact ⟨h.pos, h.start_le, h.le_last⟩
  · rintro ⟨hpos, hle, hlast⟩
    have hle' : 2 ^ 31 ≤ address.toNat := hle
    refine ⟨hpos, hle, ?_, hlast⟩
    omega

/-- The board supports misaligned accesses. -/
theorem permitted_coreConfig {address : BitVec 32} {size : ℕ}
    (h : size < 2 ^ 32) : Permitted coreConfig address size :=
  ⟨h, Or.inl rfl⟩

section Accesses

variable [Build]

/-! ## Loads and stores -/

/-- Every load within DRAM executes.  It leaves the number that the bytes of
its access spell, extended to 32 bits, and nothing else changes behind the
bus. -/
def LoadsSpelled (bigEndian : Bool) (board : Board) : Prop :=
  ∀ (width : LoadWidth) (dest base : Specifier) (offset : BitVec 32),
    board.bus.InDram (board.registers.x base + offset) width.size →
      ∃ (t : Board) (number : BitVec (8 * width.size)),
        executeInstruction coreConfig (.load width dest base offset) board =
            .ok () t ∧
          Spells bigEndian
            (board.dramBytes (board.registers.x base + offset)) number ∧
          t.registers =
            (board.registers.setX dest (width.extend number)).incrementPc ∧
          t.bus = board.bus

/-- The low bytes of a register were stored, in DRAM and nowhere else. -/
structure StoredLow (bigEndian : Bool) (width : StoreWidth) (src : Specifier)
    (address : BitVec 32) (board t : Board) : Prop where
  bytes : Spells bigEndian (t.dramBytes address)
    ((board.registers.x src).setWidth (8 * width.size))
  others : ∀ x, ¬ InAccess address width.size x →
    t.bus.dramByte x = board.bus.dramByte x
  dram : t.bus.InDram = board.bus.InDram
  registers : t.registers = board.registers.incrementPc

/-- A load of the same width at the same address returns what was stored. -/
def LoadsBack (width : StoreWidth) (value address : BitVec 32) (t : Board) :
    Prop :=
  ∀ (load : LoadWidth) (dest base : Specifier) (offset : BitVec 32),
    load.size = width.size → t.registers.x base + offset = address →
      ∃ u, executeInstruction coreConfig (.load load dest base offset) t =
          .ok () u ∧
        u.registers = (t.registers.setX dest
          (load.extend (value.setWidth (8 * width.size)))).incrementPc

variable {board : Board} {level : PrivilegeLevel}

/-- Every load within DRAM, of every width and alignment. -/
theorem loadsSpelled (h : Untranslated board level) :
    LoadsSpelled (board.bigEndian level) board := by
  intro width dest base offset hdram
  exact ⟨_, _, load_ram (M := memory) h width dest base offset
      (permitted_coreConfig width.size_lt) hdram,
    spells_spelled _ _, rfl, rfl⟩

theorem loadsBack_of_stores {width : StoreWidth} {value address : BitVec 32}
    {s t : Board} (h : Untranslated t level)
    (hdram : t.bus.InDram address width.size)
    (hstores : Stores memory s t (t.bigEndian level) address
      (value.setWidth (8 * width.size))) :
    LoadsBack width value address t := by
  intro load dest base offset hsize haddress
  have hnumber : ∀ n, n = width.size →
      load.extend (memory.number t.bus (t.bigEndian level) address n) =
        load.extend (value.setWidth (8 * width.size)) := by
    rintro n rfl
    rw [hstores.number]
  rw [← hsize, ← haddress] at hdram
  have hrun := load_ram (M := memory) h load dest base offset
    (permitted_coreConfig load.size_lt) hdram
  refine ⟨_, hrun, ?_⟩
  rw [← hnumber load.size hsize, ← haddress]
  rfl

/-- Stores and loads in DRAM agree. -/
theorem stores_and_loads_agree (board : Board) (level : PrivilegeLevel)
    (h : Untranslated board level) :
    LoadsSpelled (board.bigEndian level) board ∧
    ∀ (width : StoreWidth) (src base : Specifier) (offset : BitVec 32),
      board.bus.InDram (board.registers.x base + offset) width.size →
        ∃ t, executeInstruction coreConfig (.store width src base offset)
              board = .ok () t ∧
          StoredLow (board.bigEndian level) width src
            (board.registers.x base + offset) board t ∧
          LoadsBack width (board.registers.x src)
            (board.registers.x base + offset) t ∧
          LoadsSpelled (board.bigEndian level) t := by
  refine ⟨loadsSpelled h, ?_⟩
  intro width src base offset hdram
  obtain ⟨t, hrun, hmode, hregisters, hstores⟩ := store_ram (M := memory) h
    width src base offset (permitted_coreConfig width.size_lt)
    hdram
  have ht : Untranslated t level := h.sameMode hmode
  have hram : t.bus.InDram = board.bus.InDram := hstores.ram
  have hdram' : t.bus.InDram (board.registers.x base + offset) width.size := by
    rw [hram]
    exact hdram
  have horder := hmode.bigEndian level
  refine ⟨t, hrun,
    ⟨hstores.bytes, hstores.others, hstores.ram, hregisters⟩, ?_, ?_⟩
  · rw [← horder] at hstores
    exact loadsBack_of_stores ht hdram' hstores
  · rw [← horder]
    exact loadsSpelled ht

omit [Build] in
/-- A big-endian guest with an address in x5 that leaves two bytes to the end
of a page of its array, a value in x6 and an aligned address in x7. -/
def bigEndianBoard : Board :=
  (guestBoard.onStatus (Status.writeMstatush 0x20 0x20)).onRegisters
    fun registers =>
      ((registers.setX 5 0x8000003E).setX 6 0x12345678).setX 7 0x80000040

omit [Build] in
/-- In M-mode nothing is translated. -/
theorem untranslated_bigEndianBoard : Untranslated bigEndianBoard .machine :=
  ⟨by decide +kernel, Or.inl rfl⟩

omit [Build] in
theorem inDram_bigEndianBoard {address : BitVec 32} {size : ℕ}
    (hpos : size ≠ 0) (hstart : dramRange.start ≤ address)
    (hlast : address.toNat + size ≤ 2 ^ 32) :
    bigEndianBoard.bus.InDram address size :=
  (inDram_iff (by decide +kernel)).2 ⟨hpos, hstart, hlast⟩

omit [Build] in
/-- A store that straddles two pages of the array. -/
theorem stores_and_loads_agree_straddling :
    ∃ t, @executeInstruction SystemBus (@SystemBus.coreBus Build.debug)
        Build.debug coreConfig (.store .sw 6 5 0) bigEndianBoard =
          .ok () t ∧
      StoredLow true .sw 6 0x8000003E bigEndianBoard t ∧
      @LoadsBack Build.debug .sw 0x12345678 0x8000003E t := by
  have hbase : bigEndianBoard.registers.x 5 + 0 = 0x8000003E := by
    decide +kernel
  have hsrc : bigEndianBoard.registers.x 6 = 0x12345678 := by decide +kernel
  have horder : bigEndianBoard.bigEndian .machine = true := by decide +kernel
  have hdram : bigEndianBoard.bus.InDram (bigEndianBoard.registers.x 5 + 0)
      StoreWidth.sw.size := by
    rw [hbase]
    exact inDram_bigEndianBoard (by decide) (by decide) (by decide)
  obtain ⟨t, hrun, hstored, hback, _⟩ :=
    (@stores_and_loads_agree Build.debug bigEndianBoard .machine
      untranslated_bigEndianBoard).2 .sw 6 5 0 hdram
  rw [hbase, horder] at hstored
  rw [hbase, hsrc] at hback
  exact ⟨t, hrun, hstored, hback⟩

/-! ## Atomic operations -/

/-- The atomic operation took the word at `address` from `old` to its result,
with one access for each of its halves, and left `old` in the destination, or
zero for SC. -/
structure Modified (bigEndian : Bool) (op : AmoOp) (dest src addr : Specifier)
    (old : BitVec 32) (board t : Board) : Prop where
  before : @Spells 4 bigEndian (board.dramBytes (board.registers.x addr)) old
  after : @Spells 4 bigEndian (t.dramBytes (board.registers.x addr))
    (op.apply old (board.registers.x src))
  registers : t.registers =
    (board.registers.setX dest (if op = .sc then 0 else old)).incrementPc
  others : ∀ x, ¬ InAccess (board.registers.x addr) 4 x →
    t.bus.dramByte x = board.bus.dramByte x
  accesses : t.events =
    op.accesses (board.registers.x addr) ++ board.events

/-- Atomic operations modify the word at an aligned address of DRAM, whatever
their registers are. -/
theorem atomics_modify_once (board : Board) (level : PrivilegeLevel)
    (h : Untranslated board level) (op : AmoOp) (aq rl : Bool)
    (src addr dest : Specifier)
    (haligned : (board.registers.x addr).toNat % 4 = 0)
    (hdram : board.bus.InDram (board.registers.x addr) 4) :
    ∃ t old, executeInstruction coreConfig (.amo op aq rl src addr dest)
          board = .ok () t ∧
      Modified (board.bigEndian level) op dest src addr old board t := by
  obtain ⟨t, hrun, hamo⟩ := @amo_ram SystemBus _ _ memory coreConfig level
    board dest src addr h op aq rl (isAligned_WORD.2 haligned) hdram
  exact ⟨t, _, hrun, spells_spelled _ _, hamo.word.bytes, hamo.registers,
    hamo.word.others, hamo.events⟩

omit [Build] in
/-- The three registers of the operation are the same. -/
theorem atomics_modify_once_aliased :
    ∃ t old, @executeInstruction SystemBus (@SystemBus.coreBus Build.debug)
        Build.debug coreConfig (.amo .add false false 7 7 7) bigEndianBoard =
          .ok () t ∧
      Modified true .add 7 7 7 old bigEndianBoard t := by
  have haddr : bigEndianBoard.registers.x 7 = 0x80000040 := by decide +kernel
  have horder : bigEndianBoard.bigEndian .machine = true := by decide +kernel
  have haligned : (bigEndianBoard.registers.x 7).toNat % 4 = 0 := by
    rw [haddr]
    decide
  have hdram : bigEndianBoard.bus.InDram (bigEndianBoard.registers.x 7) 4 := by
    rw [haddr]
    exact inDram_bigEndianBoard (by decide) (by decide) (by decide)
  have h := @atomics_modify_once Build.debug bigEndianBoard .machine
    untranslated_bigEndianBoard .add false false 7 7 7 haligned hdram
  rw [horder] at h
  exact h

end Accesses

end RedPlanet.Board
