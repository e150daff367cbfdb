import RedPlanet.Core.State

/-!
# Memory as the core sees it

`core/mmu.rs`: Sv32 translation and the checks around every access.  The page
table walk is a recursion on the number of levels left, one unfolding for
each turn of the loop in the source, and `leaf` is the part of a turn that
follows once the entry turns out to be a leaf.

The walk is parameterised by the access to entries, as in the source: over
the bus for an access of the program, and without side effects for the
debugger.  Only the address of the first byte of an access is translated
(`accessVirtual`), and the accesses of one, two and four bytes are
instances of `readUnit` and `writeUnit`.
-/

namespace RedPlanet.Core

open RedPlanet.Verified

/-- What an access can fail with; the caller turns it into an exception. -/
inductive MemoryError where
  | misalignedAccess
  | accessFault
  | pageFault
deriving DecidableEq, Repr

/-! ## Constants -/

/-- Sv32 has two levels of page tables. -/
abbrev PAGE_TABLE_LEVELS : Nat := 2

/-- log2 of the size of a page, in bytes. -/
abbrev PAGE_SIZE_SHF : Nat := 12

/-- log2 of the size of a page table entry, in bytes. -/
abbrev PTE_SIZE_SHF : Nat := 2

/-- log2 of the number of entries in one page. -/
abbrev PTE_COUNT_SHF : Nat := PAGE_SIZE_SHF - PTE_SIZE_SHF

/-- The offset within a page. -/
def PAGE_SIZE_MSK : BitVec 32 := 0xFFF

/-- The index into a page table. -/
def PTE_COUNT_MSK : BitVec 32 := 0x3FF

/-- Bit indices into a page table entry. -/
structure Pte where
  bits : BitVec 32
deriving DecidableEq, Repr

namespace Pte

/-- The entry is valid. -/
def v (entry : Pte) : Bool := entry.bits.getLsbD 0

/-- The page can be read. -/
def r (entry : Pte) : Bool := entry.bits.getLsbD 1

/-- The page can be written. -/
def w (entry : Pte) : Bool := entry.bits.getLsbD 2

/-- Instructions can be fetched from the page. -/
def x (entry : Pte) : Bool := entry.bits.getLsbD 3

/-- The page belongs to U-mode. -/
def u (entry : Pte) : Bool := entry.bits.getLsbD 4

/-- The page was accessed. -/
def a (entry : Pte) : Bool := entry.bits.getLsbD 6

/-- The page was written. -/
def d (entry : Pte) : Bool := entry.bits.getLsbD 7

/-- The physical page number, 22 bits in the entry. -/
def ppn (entry : Pte) : BitVec 32 := (entry.bits.extractLsb' 10 22).setWidth 32

/-- Set the A and D bits. -/
def setAD (a d : Bool) (entry : Pte) : Pte where
  bits := setBit (setBit entry.bits 6 a) 7 d

/-- Step 5 of the walk: whether the leaf entry permits the access. -/
def allows (entry : Pte) (accessType : AccessType) (userMode mxr sum : Bool) :
    Bool :=
  (match accessType with
    | .read => entry.r || (entry.x && mxr)
    | .write => entry.w
    | .execute => entry.x) &&
  (userMode == entry.u || (!userMode && accessType != .execute && sum))

end Pte

variable {β ε : Type} [SystemBus β]

/-! ## Checks -/

/-- `access_virtual_pre_translate_checks`. -/
def accessVirtualPreTranslateChecks (config : Config) (address : BitVec 32)
    (size : Nat) : CoreM β MemoryError Unit :=
  if 2 ^ 32 ≤ size then Exec.throw .accessFault
  else if !config.supportMisalignedMemoryAccess ∧
      !((naturalAlignment (BitVec.ofNat 32 size)).map
        fun alignment => isAligned alignment address).getD false then
    Exec.throw .misalignedAccess
  else pure ()

/-- `access_physical`. -/
def accessPhysical (address : BitVec 32) (size : Nat)
    (accessType : AccessType) : CoreM β MemoryError Unit :=
  if accepts β address size accessType then pure ()
  else Exec.throw .accessFault

/-! ## Translation -/

/-- An entry is read from the bus, if the bus accepts the read. -/
def readPte (address : BitVec 32) : CoreM β MemoryError Pte := do
  accessPhysical address 4 .read
  let buf ← busRead address (List.replicate 4 0)
  return { bits := ofLeBytes 32 buf }

/-- An entry is written to the bus, if the bus accepts the write. -/
def writePte (address : BitVec 32) (value : Pte) :
    CoreM β MemoryError Unit := do
  accessPhysical address 4 .write
  busWrite address (toLeBytes 4 value.bits)

/-- The debugger reads entries without side effects. -/
def readPteDebug (address : BitVec 32) : CoreM β MemoryError Pte := do
  accessPhysical address 4 .read
  let s ← Exec.get
  let buf ← Exec.unwrap
    (SystemBus.readDebug address (List.replicate 4 0) s.bus)
  return { bits := ofLeBytes 32 buf }

/-- The part of one turn of the walk after the entry turned out to be a leaf:
permissions, superpage alignment, the A and D bits, and the physical
address. -/
def leaf [Build] (writePte : BitVec 32 → Pte → CoreM β MemoryError Unit)
    (address : BitVec 32) (accessType : AccessType) (userMode : Bool)
    (level : Nat) (vpn entryAddress : BitVec 32) (entry : Pte) :
    CoreM β MemoryError (BitVec 32) := do
  let s ← Exec.get
  if !entry.allows accessType userMode s.status.mxr s.status.sum then
    Exec.throw .pageFault
  else
    let mask := (1#32 <<< (level * PTE_COUNT_SHF)) - 1
    if level ≠ 0 ∧ entry.ppn &&& mask ≠ 0 then Exec.throw .pageFault
    else
      let ppn := if level ≠ 0 then entry.ppn ||| vpn &&& mask else entry.ppn
      let isWrite := accessType == .write
      if !entry.a || (isWrite && !entry.d) then
        Exec.mapError (fun _ => .accessFault)
          (writePte entryAddress (entry.setAD true isWrite))
      addChecked (ppn <<< PAGE_SIZE_SHF) (address &&& PAGE_SIZE_MSK)

/-- The loop of `translate_address_common`.  The first argument is one more
than the level of this turn; at zero the code is `unreachable!`. -/
def walk [Build] (readPte : BitVec 32 → CoreM β MemoryError Pte)
    (writePte : BitVec 32 → Pte → CoreM β MemoryError Unit)
    (address : BitVec 32) (accessType : AccessType) (userMode : Bool) :
    Nat → BitVec 32 → CoreM β MemoryError (BitVec 32)
  | 0, _ => Exec.abort
  | level + 1, pageTable => do
      let vpn :=
        address >>> (PAGE_SIZE_SHF + level * PTE_COUNT_SHF) &&& PTE_COUNT_MSK
      let entryAddress ← addChecked pageTable (vpn <<< PTE_SIZE_SHF)
      let entry ← Exec.mapError (fun _ => .accessFault) (readPte entryAddress)
      if !entry.v || (!entry.r && entry.w) then Exec.throw .pageFault
      else if !entry.r && !entry.x then
        -- A pointer to the next level of the page table.
        if level = 0 then Exec.throw .pageFault
        else
          walk readPte writePte address accessType userMode level
            (entry.ppn <<< PAGE_SIZE_SHF)
      else
        leaf writePte address accessType userMode level vpn entryAddress entry

/-- `translate_address_common`. -/
def translateAddressCommon [Build]
    (readPte : BitVec 32 → CoreM β MemoryError Pte)
    (writePte : BitVec 32 → Pte → CoreM β MemoryError Unit)
    (address : BitVec 32) (accessType : AccessType)
    (privilegeLevel : PrivilegeLevel) : CoreM β MemoryError (BitVec 32) := do
  let s ← Exec.get
  match privilegeLevel, s.trap.satpMode with
  | .machine, _ => return address
  | _, .bare => return address
  | level, .sv32 =>
      walk readPte writePte address accessType (level == .user)
        PAGE_TABLE_LEVELS (s.trap.satpPpn <<< PAGE_SIZE_SHF)

/-- `translate_address`. -/
def translateAddress [Build] (address : BitVec 32) (accessType : AccessType)
    (privilegeLevel : PrivilegeLevel) : CoreM β MemoryError (BitVec 32) :=
  translateAddressCommon readPte writePte address accessType privilegeLevel

/-- `translate_address_debug`: the updates of entries are dropped. -/
def translateAddressDebug [Build] (address : BitVec 32)
    (accessType : AccessType) (privilegeLevel : PrivilegeLevel) :
    CoreM β MemoryError (BitVec 32) :=
  translateAddressCommon readPteDebug (fun _ _ => pure ()) address accessType
    privilegeLevel

/-- `access_virtual`. -/
def accessVirtual [Build] (config : Config) (address : BitVec 32) (size : Nat)
    (accessType : AccessType) (privilegeLevel : PrivilegeLevel) :
    CoreM β MemoryError (BitVec 32) := do
  accessVirtualPreTranslateChecks config address size
  let physicalAddress ← translateAddress address accessType privilegeLevel
  accessPhysical physicalAddress size accessType
  return physicalAddress

/-- `access_virtual_debug`. -/
def accessVirtualDebug [Build] (config : Config) (address : BitVec 32)
    (size : Nat) (accessType : AccessType) (privilegeLevel : PrivilegeLevel) :
    CoreM β MemoryError (BitVec 32) := do
  accessVirtualPreTranslateChecks config address size
  let physicalAddress ←
    translateAddressDebug address accessType privilegeLevel
  accessPhysical physicalAddress size accessType
  return physicalAddress

/-! ## Reads and writes -/

/-- `Mmu::read` of `size` bytes into a zeroed buffer. -/
def mmuRead [Build] (config : Config) (size : Nat) (address : BitVec 32)
    (privilegeLevel : PrivilegeLevel) (execute : Bool) :
    CoreM β MemoryError (List (BitVec 8)) := do
  let accessType : AccessType := if execute then .execute else .read
  let physicalAddress ←
    accessVirtual config address size accessType privilegeLevel
  busRead physicalAddress (List.replicate size 0)

/-- `Mmu::read_debug`. -/
def mmuReadDebug [Build] (config : Config) (size : Nat) (address : BitVec 32)
    (privilegeLevel : PrivilegeLevel) (execute : Bool) :
    CoreM β MemoryError (List (BitVec 8)) := do
  let accessType : AccessType := if execute then .execute else .read
  let physicalAddress ←
    accessVirtualDebug config address size accessType privilegeLevel
  let s ← Exec.get
  Exec.unwrap
    (SystemBus.readDebug physicalAddress (List.replicate size 0) s.bus)

/-- `Mmu::write`. -/
def mmuWrite [Build] (config : Config) (address : BitVec 32)
    (buf : List (BitVec 8)) (privilegeLevel : PrivilegeLevel) :
    CoreM β MemoryError Unit := do
  let physicalAddress ←
    accessVirtual config address buf.length .write privilegeLevel
  busWrite physicalAddress buf

/-- The level at which loads and stores are made, which panics if MPP is not a
level; MPRV takes it from there. -/
def effectivePrivilegeMode : CoreM β ε PrivilegeLevel := do
  let s ← Exec.get
  Exec.unwrap s.effectivePrivilegeMode

/-- `read_byte`, at the effective privilege level; a byte has no order. -/
def readByte [Build] (config : Config) (address : BitVec 32) :
    CoreM β MemoryError (BitVec 8) := do
  let privilegeLevel ← effectivePrivilegeMode
  let buf ← mmuRead config 1 address privilegeLevel false
  return buf.getD 0 0

/-- `write_byte`, at the effective privilege level. -/
def writeByte [Build] (config : Config) (address : BitVec 32)
    (value : BitVec 8) : CoreM β MemoryError Unit := do
  let privilegeLevel ← effectivePrivilegeMode
  mmuWrite config address [value] privilegeLevel

/-- The read functions that `access_fns!` generates, for units of `size`
bytes. -/
def readUnit [Build] (config : Config) (size : Nat) (address : BitVec 32) :
    CoreM β MemoryError (BitVec (8 * size)) := do
  let privilegeLevel ← effectivePrivilegeMode
  let buf ← mmuRead config size address privilegeLevel false
  let s ← Exec.get
  return ofLeBytes (8 * size)
    (if s.endianness privilegeLevel = .LE then buf else buf.reverse)

/-- The write functions that `access_fns!` generates. -/
def writeUnit [Build] (config : Config) (size : Nat) (address : BitVec 32)
    (value : BitVec (8 * size)) : CoreM β MemoryError Unit := do
  let privilegeLevel ← effectivePrivilegeMode
  let s ← Exec.get
  let buf := toLeBytes size value
  mmuWrite config address
    (if s.endianness privilegeLevel = .LE then buf else buf.reverse)
    privilegeLevel

/-- `read_halfword`. -/
def readHalfword [Build] (config : Config) (address : BitVec 32) :
    CoreM β MemoryError (BitVec 16) := readUnit config 2 address

/-- `write_halfword`. -/
def writeHalfword [Build] (config : Config) (address : BitVec 32)
    (value : BitVec 16) : CoreM β MemoryError Unit :=
  writeUnit config 2 address value

/-- `read_word`. -/
def readWord [Build] (config : Config) (address : BitVec 32) :
    CoreM β MemoryError (BitVec 32) := readUnit config 4 address

/-- `write_word`. -/
def writeWord [Build] (config : Config) (address : BitVec 32)
    (value : BitVec 32) : CoreM β MemoryError Unit :=
  writeUnit config 4 address value

/-- `fetch_instruction`: at the core's own privilege mode, little-endian
whatever the endianness of the memory. -/
def fetchInstruction [Build] (config : Config) (address : BitVec 32) :
    CoreM β MemoryError (BitVec 32) := do
  let alignment := if config.strictInstructionAlignment then WORD else HALFWORD
  if !isAligned alignment address then Exec.throw .misalignedAccess
  else
    let s ← Exec.get
    let buf ← mmuRead config 4 address s.privilegeMode true
    return ofLeBytes 32 buf

end RedPlanet.Core
