import RedPlanet.Core.FaultKinds
import RedPlanet.Core.PageCrossing
import RedPlanet.Verified.Bytes

/-!
# Loads and stores without translation

At a level at which addresses are not translated, a load from RAM returns the
number that the bytes of its access spell in the byte order of the level, and
a store leaves its number there, spelled in the same order, and no other byte
changed.  Neither depends on how the access is aligned, as long as the checks
before it let it through (`Permitted`).

`Memory.number` is the number at an address and `Stores` the effect of a
store.  `load_ram` and `store_ram` are the results, from the access to the
bus outwards: the bytes of the access, the unit that they spell, the width
with its extension, and the instruction.
-/

namespace RedPlanet.Core

open RedPlanet.Verified Exec

variable {β ε : Type}

/-! ## The level and the byte order of an access -/

/-- Memory is accessed at this level, without translation. -/
structure Untranslated (s : State β) (level : PrivilegeLevel) : Prop where
  effective : s.effectivePrivilegeMode = some level
  direct : level = .machine ∨ s.trap.satpMode = .bare

/-- The byte order of the level is the big-endian one. -/
def State.bigEndian (s : State β) (level : PrivilegeLevel) : Bool :=
  s.endianness level == .BE

/-- The bytes are reversed for a level that is big-endian. -/
theorem State.order_eq (s : State β) (level : PrivilegeLevel)
    (bytes : List (BitVec 8)) :
    (if s.endianness level = .LE then bytes else bytes.reverse) =
      arranged (s.bigEndian level) bytes := by
  unfold bigEndian arranged
  cases s.endianness level <;> rfl

/-- The two states differ only in the registers and in what is behind the
bus. -/
structure SameMode (s t : State β) : Prop where
  privilegeMode : t.privilegeMode = s.privilegeMode
  status : t.status = s.status
  trap : t.trap = s.trap

/-- An access over the bus keeps the mode, if nobody is called back. -/
theorem sameMode_accessed (address : BitVec 32) (size : Nat) (bus : β)
    (s : State β) : SameMode s (s.accessed address size bus []) :=
  ⟨rfl, rfl, rfl⟩

theorem sameMode_onRegisters (f : Registers → Registers) (s : State β) :
    SameMode s (s.onRegisters f) :=
  ⟨rfl, rfl, rfl⟩

/-- The next access is not translated either. -/
theorem Untranslated.sameMode {s t : State β} {level : PrivilegeLevel}
    (h : Untranslated s level) (hsame : SameMode s t) :
    Untranslated t level where
  effective := by
    rw [← h.effective]
    unfold State.effectivePrivilegeMode
    rw [hsame.privilegeMode, hsame.status]
  direct := by
    rw [hsame.trap]
    exact h.direct

/-- The byte order stays the same. -/
theorem SameMode.bigEndian {s t : State β} (h : SameMode s t)
    (level : PrivilegeLevel) : t.bigEndian level = s.bigEndian level := by
  unfold State.bigEndian State.endianness
  rw [h.status]

/-- The checks before an access let it through: it fits in the address space,
and it is aligned, or misaligned accesses are supported. -/
def Permitted (config : Config) (address : BitVec 32) (size : Nat) : Prop :=
  size < 2 ^ 32 ∧ (config.supportMisalignedMemoryAccess = true ∨
    ((naturalAlignment (BitVec.ofNat 32 size)).map
      fun alignment => isAligned alignment address) = some true)

/-! ## Numbers in memory -/

section Numbers

variable [SystemBus β] (M : Memory β)

/-- The bytes of memory from an address on. -/
def Memory.bytesFrom (bus : β) (address : BitVec 32) (i : Nat) : BitVec 8 :=
  M.byte bus (address + BitVec.ofNat 32 i)

/-- The number that memory holds at an address. -/
def Memory.number (bus : β) (bigEndian : Bool) (address : BitVec 32)
    (size : Nat) : BitVec (8 * size) :=
  spelled bigEndian size (M.bytesFrom bus address)

/-- The number is stored, and no other byte of memory changes. -/
structure Stores (s t : State β) (bigEndian : Bool) (address : BitVec 32)
    {size : Nat} (value : BitVec (8 * size)) : Prop where
  bytes : Spells bigEndian (M.bytesFrom t.bus address) value
  others : ∀ x, ¬ InAccess address size x → M.byte t.bus x = M.byte s.bus x
  ram : M.Ram t.bus = M.Ram s.bus

variable {M}

/-- What was stored is the number that is there. -/
theorem Stores.number {s t : State β} {bigEndian : Bool} {address : BitVec 32}
    {size : Nat} {value : BitVec (8 * size)}
    (h : Stores M s t bigEndian address value) :
    M.number t.bus bigEndian address size = value :=
  spells_iff.1 h.bytes

end Numbers

/-! ## One access -/

section Accesses

variable [SystemBus β] {M : Memory β} {config : Config}
  {address : BitVec 32} {size : Nat} {level : PrivilegeLevel} {s : State β}

omit [SystemBus β] in
/-- The checks let the access through, with nothing changed. -/
theorem checks_of_permitted (h : Permitted config address size) :
    (accessVirtualPreTranslateChecks config address size : CoreM β _ _) s =
      .ok () s := by
  obtain ⟨hsize, haligned⟩ := h
  unfold accessVirtualPreTranslateChecks
  rw [if_neg (by omega)]
  cases haligned with
  | inl hsupport =>
      rw [hsupport]
      rfl
  | inr halignment =>
      rw [halignment]
      simp

omit [SystemBus β] in
/-- The level of the access is read from the state. -/
theorem effectivePrivilegeMode_ok (hs : Untranslated s level) :
    (effectivePrivilegeMode : CoreM β ε _) s = .ok level s := by
  unfold effectivePrivilegeMode
  rw [get_bind, hs.effective]
  rfl

variable [Build]

/-- What the bus accepts is accessed at the same address. -/
theorem accessVirtual_accepted (hs : Untranslated s level)
    (hpermitted : Permitted config address size) {accessType : AccessType}
    (haccepts : accepts β address size accessType = true) :
    accessVirtual config address size accessType level s =
      .ok address s := by
  unfold accessVirtual
  refine (bind_ok (checks_of_permitted hpermitted)).trans ?_
  refine (bind_ok (translateAddressCommon_direct hs.direct)).trans ?_
  unfold accessPhysical
  rw [if_pos haccepts]
  rfl

/-- RAM accepts the access, so it is made at the same address. -/
theorem accessVirtual_direct (hs : Untranslated s level)
    (hpermitted : Permitted config address size)
    (hram : M.Ram s.bus address size) (accessType : AccessType) :
    accessVirtual config address size accessType level s =
      .ok address s :=
  accessVirtual_accepted hs hpermitted (M.accepts_ram hram accessType)

/-- The bytes that are read from RAM. -/
theorem mmuRead_direct (hs : Untranslated s level)
    (hpermitted : Permitted config address size)
    (hram : M.Ram s.bus address size) :
    mmuRead config size address level false s =
      .ok ((List.range size).map (M.bytesFrom s.bus address))
        (s.accessed address size s.bus []) :=
  mmuRead_ram (accessVirtual_direct hs hpermitted hram .read) hram

/-- A unit is the number at its address. -/
theorem readUnit_ram (hs : Untranslated s level)
    (hpermitted : Permitted config address size)
    (hram : M.Ram s.bus address size) :
    readUnit config size address s =
      .ok (M.number s.bus (s.bigEndian level) address size)
        (s.accessed address size s.bus []) := by
  unfold readUnit
  refine (bind_ok (effectivePrivilegeMode_ok hs)).trans ?_
  refine (bind_ok (mmuRead_direct hs hpermitted hram)).trans ?_
  rw [get_bind, State.order_eq]
  rfl

/-- A byte is a number in either order. -/
theorem readByte_ram (hs : Untranslated s level)
    (hpermitted : Permitted config address 1)
    (hram : M.Ram s.bus address 1) :
    readByte config address s =
      .ok (M.number s.bus (s.bigEndian level) address 1)
        (s.accessed address 1 s.bus []) := by
  have hbyte : M.number s.bus (s.bigEndian level) address 1 =
      M.bytesFrom s.bus address 0 := spelled_one _ _
  unfold readByte
  refine (bind_ok (effectivePrivilegeMode_ok hs)).trans ?_
  refine (bind_ok (mmuRead_direct hs hpermitted hram)).trans ?_
  rw [hbyte]
  rfl

/-- A buffer that is written to RAM. -/
theorem mmuWrite_direct {buf : List (BitVec 8)} (hs : Untranslated s level)
    (hpermitted : Permitted config address buf.length)
    (hram : M.Ram s.bus address buf.length) :
    ∃ bus, mmuWrite config address buf level s =
        .ok () (s.accessed address buf.length bus []) ∧
      (∀ i, (h : i < buf.length) → M.bytesFrom bus address i = buf[i]) ∧
      (∀ x, ¬ InAccess address buf.length x →
        M.byte bus x = M.byte s.bus x) ∧
      M.Ram bus = M.Ram s.bus := by
  obtain ⟨bus, hwrite, hbytes⟩ := M.write_ram hram
  have hkeeps := M.write_keeps hwrite
  refine ⟨bus, ?_, hbytes, hkeeps.1, hkeeps.2⟩
  unfold mmuWrite
  rw [bind_ok (accessVirtual_direct hs hpermitted hram .write),
    busWrite_ok hwrite]

/-- A unit is stored as the number it is. -/
theorem writeUnit_ram (hs : Untranslated s level)
    (hpermitted : Permitted config address size)
    (hram : M.Ram s.bus address size) (value : BitVec (8 * size)) :
    ∃ bus, writeUnit config size address value s =
        .ok () (s.accessed address size bus []) ∧
      Stores M s (s.accessed address size bus []) (s.bigEndian level) address
        value := by
  have hlength : (arranged (s.bigEndian level)
      (toLeBytes size value)).length = size := by simp
  rw [← hlength] at hpermitted hram
  obtain ⟨bus, hwrite, hbytes, hothers, hram'⟩ :=
    mmuWrite_direct hs hpermitted hram
  rw [hlength] at hwrite hothers
  refine ⟨bus, ?_, ?_, hothers, hram'⟩
  · unfold writeUnit
    refine (bind_ok (effectivePrivilegeMode_ok hs)).trans ?_
    rw [get_bind, State.order_eq]
    exact hwrite
  · intro i hi
    refine (hbytes i (by omega)).trans ?_
    rw [← Option.some_inj, ← List.getElem?_eq_getElem]
    exact getElem?_arranged_toLeBytes _ value hi

theorem writeByte_ram (hs : Untranslated s level)
    (hpermitted : Permitted config address 1)
    (hram : M.Ram s.bus address 1) (value : BitVec 8) :
    ∃ bus, writeByte config address value s =
        .ok () (s.accessed address 1 bus []) ∧
      @Stores β _ M s (s.accessed address 1 bus []) (s.bigEndian level)
        address 1 value := by
  obtain ⟨bus, hwrite, hbytes, hothers, hram'⟩ :=
    @mmuWrite_direct β _ M config address level s _ [value] hs hpermitted hram
  refine ⟨bus, ?_, ?_, hothers, hram'⟩
  · unfold writeByte
    exact (bind_ok (effectivePrivilegeMode_ok hs)).trans hwrite
  · apply spells_iff.2
    rw [spelled_one]
    exact hbytes 0 Nat.zero_lt_one

end Accesses

/-! ## Loads and stores -/

/-- The number of bytes of a load. -/
def LoadWidth.size : LoadWidth → Nat
  | .lb | .lbu => 1
  | .lh | .lhu => 2
  | .lw => 4

/-- Whether the number is extended with its sign. -/
def LoadWidth.isSigned : LoadWidth → Bool
  | .lb | .lh | .lw => true
  | .lbu | .lhu => false

/-- The value of a load that found this number. -/
def LoadWidth.extend (width : LoadWidth) {n : Nat} (number : BitVec n) :
    BitVec 32 :=
  if width.isSigned then number.signExtend 32 else number.setWidth 32

/-- The number of bytes of a store. -/
def StoreWidth.size : StoreWidth → Nat
  | .sb => 1
  | .sh => 2
  | .sw => 4

/-- A load has four bytes at the most. -/
theorem LoadWidth.size_lt (width : LoadWidth) : width.size < 2 ^ 32 := by
  cases width <;> decide

/-- So has a store. -/
theorem StoreWidth.size_lt (width : StoreWidth) : width.size < 2 ^ 32 := by
  cases width <;> decide

section Instructions

variable [SystemBus β] [Build] {M : Memory β} {config : Config}
  {level : PrivilegeLevel} {s : State β}

/-- The value of a load, by its width. -/
theorem LoadWidth.read_ram (hs : Untranslated s level) (width : LoadWidth)
    {address : BitVec 32} (hpermitted : Permitted config address width.size)
    (hram : M.Ram s.bus address width.size) :
    width.read config address s =
      .ok (width.extend (M.number s.bus (s.bigEndian level) address
          width.size))
        (s.accessed address width.size s.bus []) := by
  cases width with
  | lb => exact map_ok _ (readByte_ram hs hpermitted hram)
  | lbu => exact map_ok _ (readByte_ram hs hpermitted hram)
  | lh => exact map_ok _ (readUnit_ram hs hpermitted hram)
  | lhu => exact map_ok _ (readUnit_ram hs hpermitted hram)
  | lw =>
      have hextend : ∀ number : BitVec (8 * LoadWidth.lw.size),
          LoadWidth.lw.extend number = number := BitVec.signExtend_eq
      rw [hextend]
      exact readUnit_ram hs hpermitted hram

/-- What a store leaves, by its width. -/
theorem StoreWidth.write_ram (hs : Untranslated s level) (width : StoreWidth)
    {address : BitVec 32} (hpermitted : Permitted config address width.size)
    (hram : M.Ram s.bus address width.size) (value : BitVec 32) :
    ∃ bus, width.write config address value s =
        .ok () (s.accessed address width.size bus []) ∧
      Stores M s (s.accessed address width.size bus []) (s.bigEndian level)
        address (value.setWidth (8 * width.size)) := by
  cases width with
  | sb => exact writeByte_ram hs hpermitted hram (value.setWidth 8)
  | sh => exact writeUnit_ram hs hpermitted hram (value.setWidth 16)
  | sw =>
      have hvalue : value.setWidth 32 = value := BitVec.setWidth_eq value
      obtain ⟨bus, hwrite, hstores⟩ :=
        @writeUnit_ram β _ M config address 4 level s _ hs hpermitted hram
          value
      refine ⟨bus, hwrite, ?_⟩
      rw [← hvalue] at hstores
      exact hstores

omit [SystemBus β] [Build] in
/-- A load that succeeds writes its register and goes on. -/
theorem loadOp_ok {op : BitVec 32 → CoreM β MemoryError (BitVec 32)}
    {dest base : Specifier} {offset value : BitVec 32} {t : State β}
    (h : op (s.registers.x base + offset) s = .ok value t) :
    loadOp op dest base offset s =
      .ok () (t.onRegisters fun registers =>
        (registers.setX dest value).incrementPc) := by
  unfold loadOp
  rw [get_bind]
  exact bind_ok (mapError_ok_iff.2 h)

omit [SystemBus β] [Build] in
/-- A store that succeeds goes on. -/
theorem storeOp_ok {op : BitVec 32 → BitVec 32 → CoreM β MemoryError Unit}
    {src base : Specifier} {offset : BitVec 32} {t : State β}
    (h : op (s.registers.x base + offset) (s.registers.x src) s = .ok () t) :
    storeOp op src base offset s =
      .ok () (t.onRegisters Registers.incrementPc) := by
  unfold storeOp
  rw [get_bind]
  exact bind_ok (mapError_ok_iff.2 h)

/-- A load leaves the extended number in its register, and memory as it
is. -/
theorem load_ram (hs : Untranslated s level) (width : LoadWidth)
    (dest base : Specifier) (offset : BitVec 32)
    (hpermitted : Permitted config (s.registers.x base + offset) width.size)
    (hram : M.Ram s.bus (s.registers.x base + offset) width.size) :
    executeInstruction config (.load width dest base offset) s =
      .ok () ((s.accessed (s.registers.x base + offset) width.size s.bus
        []).onRegisters fun registers =>
          (registers.setX dest (width.extend (M.number s.bus
            (s.bigEndian level) (s.registers.x base + offset)
              width.size))).incrementPc) :=
  loadOp_ok (width.read_ram hs hpermitted hram)

/-- A store leaves the low bytes of its register in memory. -/
theorem store_ram (hs : Untranslated s level) (width : StoreWidth)
    (src base : Specifier) (offset : BitVec 32)
    (hpermitted : Permitted config (s.registers.x base + offset) width.size)
    (hram : M.Ram s.bus (s.registers.x base + offset) width.size) :
    ∃ t, executeInstruction config (.store width src base offset) s =
        .ok () t ∧
      SameMode s t ∧ t.registers = s.registers.incrementPc ∧
      Stores M s t (s.bigEndian level) (s.registers.x base + offset)
        ((s.registers.x src).setWidth (8 * width.size)) := by
  obtain ⟨bus, hwrite, hstores⟩ :=
    width.write_ram hs hpermitted hram (s.registers.x src)
  exact ⟨_, storeOp_ok hwrite, ⟨rfl, rfl, rfl⟩, rfl, hstores.bytes,
    hstores.others, hstores.ram⟩

end Instructions

end RedPlanet.Core
