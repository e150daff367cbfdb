import RedPlanet.Board.AddressMap
import RedPlanet.Core.Frame
import RedPlanet.Resources.Clint
import RedPlanet.Resources.Memory
import RedPlanet.Resources.Plic
import RedPlanet.Resources.Uart

/-!
# The system bus of the board

`board/system_bus.rs` with the memory map and the interrupt wiring of
`Board::new`, as an instance of the core's bus.

`contract` is what the core's proofs use of it: an access panics iff it hits
one of the PLIC registers that lie outside their arrays, and the devices drive
the timer and the external interrupt of M-mode only.  `read_cases` and
`write_cases` say which device an access goes to, and what it does there; the
lemmas on each device follow from them.
-/

namespace RedPlanet.Board

open RedPlanet.Core RedPlanet.Resources RedPlanet.Verified

/-- The devices behind the bus. -/
inductive Resource where
  | mrom
  | clint
  | plic
  | uart0
  | flash
  | dram
  | powerDown
deriving DecidableEq, Repr

/-! ## The memory map -/

/-- The boot ROM. -/
def mromRange : AddressRange where
  start := 0x00001000
  last := 0x0000FFFF
  start_le := by decide

/-- The power switch. -/
def powerDownRange : AddressRange where
  start := 0x00100000
  last := 0x00100003
  start_le := by decide

/-- The CLINT. -/
def clintRange : AddressRange where
  start := 0x02000000
  last := 0x0200FFFF
  start_le := by decide

/-- The PLIC. -/
def plicRange : AddressRange where
  start := 0x0C000000
  last := 0x0C200FFF
  start_le := by decide

/-- The UART. -/
def uart0Range : AddressRange where
  start := 0x10000000
  last := 0x100000FF
  start_le := by decide

/-- The flash. -/
def flashRange : AddressRange where
  start := 0x20000000
  last := 0x23FFFFFF
  start_le := by decide

/-- DRAM, the upper half of the address space. -/
def dramRange : AddressRange where
  start := 0x80000000
  last := 0xFFFFFFFF
  start_le := by decide

/-- Where each device is. -/
def memoryMap : AddressMap Resource where
  orderedRanges :=
    [(mromRange, .mrom), (powerDownRange, .powerDown), (clintRange, .clint),
      (plicRange, .plic), (uart0Range, .uart0), (flashRange, .flash),
      (dramRange, .dram)]
  ordered := by decide

/-! ## The bus -/

/-- The state of all the devices. -/
structure SystemBus where
  mrom : Rom
  clint : Clint
  plic : Plic
  uart0 : Uart
  flash : Rom
  dram : Ram
  powerDown : Bool

namespace SystemBus

/-- `check_access`: the resource and the address within it, for an access
that lies entirely within one range. -/
def checkAccess (address : BitVec 32) (size : ℕ) :
    Option (Resource × BitVec 32) :=
  match memoryMap.rangeValue address with
  | (range, some resource) =>
      if size = 0 ∨ 2 ^ 32 ≤ size - 1 ∨
          (range.last - address).toNat < size - 1 then
        none
      else some (resource, address - range.start)
  | (_, none) => none

/-- `Bus::accepts`. -/
def accepts (address : BitVec 32) (size : ℕ) (accessType : AccessType) :
    Bool :=
  match checkAccess address size with
  | none => false
  | some (resource, _) =>
      match resource with
      | .mrom => accessType ≠ .write
      | .clint => size = 4 ∨ size = 8
      | .plic => size = 4
      | .uart0 => true
      | .flash => accessType ≠ .write
      | .dram => true
      | .powerDown => accessType = .write

/-! ## Interrupt wiring -/

/-- The source of the UART at the PLIC. -/
def UART0_IRQ : ℕ := 3

/-- The calls of the PLIC go to the external interrupt of M-mode. -/
def plicCalls : List Callback → List IrqCall :=
  List.map (IrqCall.of .machineExternalInterrupt)

/-- `PlicIrqCallback` for the UART. -/
def plicIrqCallback : Callback → Plic → Option (Plic × List Callback)
  | .raise => Plic.raise UART0_IRQ
  | .lower => Plic.lower UART0_IRQ

/-- The calls of the UART go to the PLIC. -/
def forwardUart : List Callback → Plic → Option (Plic × List Callback)
  | [], plic => some (plic, [])
  | call :: rest, plic => do
      let (plic, calls) ← plicIrqCallback call plic
      let (plic, more) ← forwardUart rest plic
      return (plic, calls ++ more)

/-! ## Accesses -/

/-- The UART and the PLIC after an access to the UART. -/
def withUart (uart0 : Uart) (calls : List Callback) (bus : SystemBus) :
    Option (SystemBus × List IrqCall) :=
  (forwardUart calls bus.plic).map fun (plic, calls) =>
    ({ bus with uart0 := uart0, plic := plic }, plicCalls calls)

/-- `Bus::read`, with the calls that the device makes. -/
def read [Build] (address : BitVec 32) (buf : List (BitVec 8))
    (bus : SystemBus) :
    Option (List (BitVec 8) × SystemBus × List IrqCall) :=
  match checkAccess address buf.length with
  | none => some (buf, bus, [])
  | some (resource, address) =>
      match resource with
      | .mrom => (bus.mrom.read address buf).map fun buf => (buf, bus, [])
      | .clint => (bus.clint.read address buf).map fun buf => (buf, bus, [])
      | .plic =>
          (bus.plic.read address buf).map fun (buf, plic, calls) =>
            (buf, { bus with plic := plic }, plicCalls calls)
      | .uart0 => do
          let (buf, uart0, calls) ← bus.uart0.read address buf
          (bus.withUart uart0 calls).map fun rest => (buf, rest)
      | .flash => (bus.flash.read address buf).map fun buf => (buf, bus, [])
      | .dram => (bus.dram.read address buf).map fun buf => (buf, bus, [])
      | .powerDown => some (buf, bus, [])

/-- `Bus::read_debug`. -/
def readDebug [Build] (address : BitVec 32) (buf : List (BitVec 8))
    (bus : SystemBus) : Option (List (BitVec 8)) :=
  match checkAccess address buf.length with
  | none => some buf
  | some (resource, address) =>
      match resource with
      | .mrom => bus.mrom.read address buf
      | .clint => bus.clint.read address buf
      | .plic => bus.plic.readDebug address buf
      | .uart0 => some (bus.uart0.readDebug address buf)
      | .flash => bus.flash.read address buf
      | .dram => bus.dram.read address buf
      | .powerDown => some buf

/-- Writing two bytes `0x55` first powers the board down. -/
def writePowerDown (buf : List (BitVec 8)) (bus : SystemBus) : SystemBus :=
  if buf.take 2 = [0x55, 0x55] then { bus with powerDown := true } else bus

/-- `Bus::write`, with the calls that the device makes. -/
def write (address : BitVec 32) (buf : List (BitVec 8)) (bus : SystemBus) :
    Option (SystemBus × List IrqCall) :=
  match checkAccess address buf.length with
  | none => some (bus, [])
  | some (resource, address) =>
      match resource with
      | .mrom => some (bus, [])
      | .clint =>
          let (clint, calls) := bus.clint.write address buf
          some ({ bus with clint := clint },
            calls.map (IrqCall.of .machineTimerInterrupt))
      | .plic =>
          (bus.plic.write address buf).map fun (plic, calls) =>
            ({ bus with plic := plic }, plicCalls calls)
      | .uart0 => do
          let (uart0, calls) ← bus.uart0.write address buf
          bus.withUart uart0 calls
      | .flash => some (bus, [])
      | .dram =>
          (bus.dram.write address buf).map fun dram =>
            ({ bus with dram := dram }, [])
      | .powerDown => some (bus.writePowerDown buf, [])

/-- The bus that the core of the board is on. -/
instance coreBus [Build] : Core.SystemBus SystemBus where
  accepts := accepts
  read := read
  readDebug := readDebug
  write := write

/-! ## What an access does -/

/-- The bus after a read that filled the buffer with `buf'`, and the calls. -/
inductive ReadCase [Build] (address : BitVec 32) (buf : List (BitVec 8))
    (bus : SystemBus) (buf' : List (BitVec 8)) :
    SystemBus → List IrqCall → Prop
  | unchanged : ReadCase address buf bus buf' bus []
  | plic {mapped : BitVec 32} {plic : Plic} {calls : List Callback}
      (check : checkAccess address buf.length = some (.plic, mapped))
      (read : bus.plic.read mapped buf = some (buf', plic, calls)) :
      ReadCase address buf bus buf' { bus with plic := plic } (plicCalls calls)
  | uart0 {mapped : BitVec 32} {uart0 : Uart} {callbacks : List Callback}
      {bus' : SystemBus} {calls : List IrqCall}
      (check : checkAccess address buf.length = some (.uart0, mapped))
      (read : bus.uart0.read mapped buf = some (buf', uart0, callbacks))
      (forward : bus.withUart uart0 callbacks = some (bus', calls)) :
      ReadCase address buf bus buf' bus' calls

/-- The bus after a write, and the calls. -/
inductive WriteCase (address : BitVec 32) (buf : List (BitVec 8))
    (bus : SystemBus) : SystemBus → List IrqCall → Prop
  | unchanged : WriteCase address buf bus bus []
  | clint {mapped : BitVec 32}
      (check : checkAccess address buf.length = some (.clint, mapped)) :
      WriteCase address buf bus
        { bus with clint := (bus.clint.write mapped buf).1 }
        ((bus.clint.write mapped buf).2.map
          (IrqCall.of .machineTimerInterrupt))
  | plic {mapped : BitVec 32} {plic : Plic} {calls : List Callback}
      (check : checkAccess address buf.length = some (.plic, mapped))
      (write : bus.plic.write mapped buf = some (plic, calls)) :
      WriteCase address buf bus { bus with plic := plic } (plicCalls calls)
  | uart0 {mapped : BitVec 32} {uart0 : Uart} {callbacks : List Callback}
      {bus' : SystemBus} {calls : List IrqCall}
      (check : checkAccess address buf.length = some (.uart0, mapped))
      (write : bus.uart0.write mapped buf = some (uart0, callbacks))
      (forward : bus.withUart uart0 callbacks = some (bus', calls)) :
      WriteCase address buf bus bus' calls
  | dram {mapped : BitVec 32} {dram : Ram}
      (check : checkAccess address buf.length = some (.dram, mapped))
      (write : bus.dram.write mapped buf = some dram) :
      WriteCase address buf bus { bus with dram := dram } []
  | powerDown {mapped : BitVec 32}
      (check : checkAccess address buf.length = some (.powerDown, mapped)) :
      WriteCase address buf bus (bus.writePowerDown buf) []

/-- A read goes to one device, or to none. -/
theorem read_cases [Build] {address : BitVec 32} {buf buf' : List (BitVec 8)}
    {bus bus' : SystemBus} {calls : List IrqCall}
    (h : bus.read address buf = some (buf', bus', calls)) :
    ReadCase address buf bus buf' bus' calls := by
  unfold read at h
  cases hcheck : checkAccess address buf.length with
  | none =>
      rw [hcheck] at h
      cases h
      exact .unchanged
  | some found =>
      obtain ⟨resource, mapped⟩ := found
      rw [hcheck] at h
      cases resource with
      | plic =>
          rw [Option.map_eq_some_iff] at h
          obtain ⟨⟨_, _, callbacks⟩, hread, hresult⟩ := h
          cases hresult
          exact .plic hcheck hread
      | uart0 =>
          simp only [Option.bind_eq_bind, Option.bind_eq_some_iff,
            Option.map_eq_some_iff] at h
          obtain ⟨_, hread, _, hforward, hresult⟩ := h
          cases hresult
          exact .uart0 hcheck hread hforward
      | powerDown =>
          cases h
          exact .unchanged
      | _ =>
          rw [Option.map_eq_some_iff] at h
          obtain ⟨_, _, hresult⟩ := h
          cases hresult
          exact .unchanged

/-- A write goes to one device, or to none. -/
theorem write_cases {address : BitVec 32} {buf : List (BitVec 8)}
    {bus bus' : SystemBus} {calls : List IrqCall}
    (h : bus.write address buf = some (bus', calls)) :
    WriteCase address buf bus bus' calls := by
  unfold write at h
  cases hcheck : checkAccess address buf.length with
  | none =>
      rw [hcheck] at h
      cases h
      exact .unchanged
  | some found =>
      obtain ⟨resource, mapped⟩ := found
      rw [hcheck] at h
      cases resource with
      | clint =>
          cases h
          exact .clint hcheck
      | plic =>
          rw [Option.map_eq_some_iff] at h
          obtain ⟨⟨_, callbacks⟩, hwrite, hresult⟩ := h
          cases hresult
          exact .plic hcheck hwrite
      | uart0 =>
          simp only [Option.bind_eq_bind, Option.bind_eq_some_iff] at h
          obtain ⟨_, hwrite, hforward⟩ := h
          exact .uart0 hcheck hwrite hforward
      | dram =>
          rw [Option.map_eq_some_iff] at h
          obtain ⟨_, hwrite, hresult⟩ := h
          cases hresult
          exact .dram hcheck hwrite
      | powerDown =>
          cases h
          exact .powerDown hcheck
      | _ =>
          cases h
          exact .unchanged

/-! ## The accesses that panic -/

/-- An access goes to the device whose range contains all of it. -/
theorem checkAccess_eq_some_iff {address mapped : BitVec 32} {size : ℕ}
    {resource : Resource} :
    checkAccess address size = some (resource, mapped) ↔
      ∃ range, (range, resource) ∈ memoryMap.orderedRanges ∧
        range.contains address ∧ size ≠ 0 ∧ size - 1 < 2 ^ 32 ∧
        size - 1 ≤ (range.last - address).toNat ∧
        mapped = address - range.start := by
  unfold checkAccess
  cases hvalue : memoryMap.rangeValue address with
  | mk range value =>
      cases value with
      | none =>
          refine iff_of_false (Option.some_ne_none _).symm ?_
          intro ⟨range', hmem, hcontains, _⟩
          have hfound :=
            AddressMap.rangeValue_eq_some_iff.2 ⟨hmem, hcontains⟩
          rw [hvalue] at hfound
          exact nomatch hfound
      | some found =>
          have hmem := AddressMap.rangeValue_eq_some_iff.1 hvalue
          dsimp only
          constructor
          · intro h
            split at h
            · exact nomatch h
            · rename_i hsize
              cases h
              exact ⟨range, hmem.1, hmem.2, by omega, by omega, by omega, rfl⟩
          · intro ⟨range', hmem', hcontains, hpos, hsize, hlast, hmapped⟩
            have hfound :=
              AddressMap.rangeValue_eq_some_iff.2 ⟨hmem', hcontains⟩
            rw [hvalue] at hfound
            cases hfound
            rw [if_neg (by omega), hmapped]

/-- The word accesses that hit a PLIC register outside its array. -/
def BadAccess (address : BitVec 32) (size : ℕ) : Prop :=
  size = 4 ∧ plicRange.start ≤ address ∧ isAligned WORD address = true ∧
    Plic.BadOffset (address - plicRange.start).toNat

/-- The condition is one of addresses and sizes. -/
instance (address : BitVec 32) (size : ℕ) :
    Decidable (BadAccess address size) :=
  inferInstanceAs (Decidable (_ ∧ _ ∧ _ ∧ _))

/-- The PLIC has one range in the memory map. -/
theorem range_of_plic {range : AddressRange}
    (h : (range, Resource.plic) ∈ memoryMap.orderedRanges) :
    range = plicRange := by
  unfold memoryMap at h
  simpa using h

/-- The range of the PLIC starts at a word. -/
theorem isAligned_mapped {address : BitVec 32}
    (h : plicRange.start ≤ address) :
    isAligned WORD (address - plicRange.start) = isAligned WORD address := by
  have hsub : (address - plicRange.start).toNat
      = address.toNat - 0x0C000000 := BitVec.toNat_sub_of_le h
  have hle : 0x0C000000 ≤ address.toNat := h
  rw [Bool.eq_iff_iff, isAligned_WORD, isAligned_WORD, hsub]
  omega

/-- The bad accesses of the bus are those of the PLIC. -/
theorem badAccess_iff {address : BitVec 32} {size : ℕ} :
    BadAccess address size ↔
      ∃ mapped, checkAccess address size = some (.plic, mapped) ∧
        Plic.BadAccess mapped size := by
  constructor
  · intro ⟨hsize, hstart, haligned, hoffset⟩
    have hsub : (address - plicRange.start).toNat
        = address.toNat - 0x0C000000 := BitVec.toNat_sub_of_le hstart
    have hle : 0x0C000000 ≤ address.toNat := hstart
    have hoffset_le : (address - plicRange.start).toNat ≤ 0x2004 := by
      unfold Plic.BadOffset at hoffset
      omega
    have hlast : address ≤ plicRange.last := by
      show address.toNat ≤ 0x0C200FFF
      omega
    have hrest : (plicRange.last - address).toNat
        = 0x0C200FFF - address.toNat := BitVec.toNat_sub_of_le hlast
    refine ⟨address - plicRange.start, ?_, hsize, ?_, hoffset⟩
    · rw [checkAccess_eq_some_iff]
      refine ⟨plicRange, by decide, ⟨hstart, hlast⟩, ?_, ?_, ?_, rfl⟩
      · omega
      · omega
      · omega
    · rw [isAligned_mapped hstart]
      exact haligned
  · intro ⟨mapped, hcheck, hsize, haligned, hoffset⟩
    obtain ⟨range, hmem, hcontains, _, _, _, hmapped⟩ :=
      checkAccess_eq_some_iff.1 hcheck
    have hrange := range_of_plic hmem
    subst hrange
    rw [hmapped] at haligned hoffset
    rw [isAligned_mapped hcontains.1] at haligned
    exact ⟨hsize, hcontains.1, haligned, hoffset⟩

/-- What no device answers for is not bad. -/
theorem not_badAccess_of_unmapped {address : BitVec 32} {size : ℕ}
    (hcheck : checkAccess address size = none) : ¬ BadAccess address size := by
  intro hbad
  obtain ⟨mapped, hplic, _⟩ := badAccess_iff.1 hbad
  rw [hcheck] at hplic
  cases hplic

/-- Only the PLIC can make an access bad. -/
theorem not_badAccess_of_checkAccess {address mapped : BitVec 32} {size : ℕ}
    {resource : Resource}
    (hcheck : checkAccess address size = some (resource, mapped))
    (hplic : resource ≠ .plic) : ¬ BadAccess address size := by
  intro hbad
  obtain ⟨mapped', hcheck', _⟩ := badAccess_iff.1 hbad
  rw [hcheck] at hcheck'
  cases hcheck'
  exact hplic rfl

/-- The PLIC takes an interrupt of the UART without panicking. -/
theorem plicIrqCallback_ne_none (call : Callback) (plic : Plic) :
    plicIrqCallback call plic ≠ none := by
  cases call with
  | raise => exact Plic.raise_ne_none (by decide) plic
  | lower => exact Option.some_ne_none _

/-- So it does with several. -/
theorem forwardUart_ne_none (calls : List Callback) (plic : Plic) :
    forwardUart calls plic ≠ none := by
  induction calls generalizing plic with
  | nil => exact Option.some_ne_none _
  | cons call rest ih =>
      obtain ⟨⟨plic', calls'⟩, hcall⟩ :=
        Option.ne_none_iff_exists'.1 (plicIrqCallback_ne_none call plic)
      obtain ⟨rest', hrest⟩ := Option.ne_none_iff_exists'.1 (ih plic')
      unfold forwardUart
      rw [hcall]
      simp [hrest]

/-- So the UART never makes an access panic. -/
theorem withUart_ne_none (uart0 : Uart) (calls : List Callback)
    (bus : SystemBus) : bus.withUart uart0 calls ≠ none := by
  unfold withUart
  rw [ne_eq, Option.map_eq_none_iff]
  exact forwardUart_ne_none calls _

/-- The offset of a CLINT register is far below the end of the address
space. -/
theorem clint_read_ne_none [Build] {address mapped : BitVec 32}
    {buf : List (BitVec 8)} {size : ℕ} (bus : SystemBus)
    (hcheck : checkAccess address size = some (.clint, mapped)) :
    bus.clint.read mapped buf ≠ none := by
  intro hnone
  have hlast := (Clint.read_eq_none_iff.1 hnone).2.1
  obtain ⟨range, hmem, hcontains, _, _, _, hmapped⟩ :=
    checkAccess_eq_some_iff.1 hcheck
  have hrange : range = clintRange := by
    unfold memoryMap at hmem
    simpa using hmem
  subst hrange
  have hsub : (address - clintRange.start).toNat
      = address.toNat - 0x02000000 := BitVec.toNat_sub_of_le hcontains.1
  have hle : address.toNat ≤ 0x0200FFFF := hcontains.2
  rw [← hmapped, hlast] at hsub
  have hmax : (0xFFFFFFFC : BitVec 32).toNat = 4294967292 := rfl
  omega

/-- A read panics iff it is bad. -/
theorem read_eq_none_iff [Build] {address : BitVec 32}
    {buf : List (BitVec 8)} {bus : SystemBus} :
    bus.read address buf = none ↔ BadAccess address buf.length := by
  unfold read
  cases hcheck : checkAccess address buf.length with
  | none =>
      exact iff_of_false (Option.some_ne_none _)
        (not_badAccess_of_unmapped hcheck)
  | some found =>
      obtain ⟨resource, mapped⟩ := found
      have hother := not_badAccess_of_checkAccess hcheck
      cases resource with
      | plic =>
          simp only [Option.map_eq_none_iff]
          rw [Plic.read_eq_none_iff, badAccess_iff, hcheck]
          simp
      | mrom =>
          apply iff_of_false _ (hother (by decide))
          simp only [Option.map_eq_none_iff]
          exact Rom.read_ne_none mapped buf _
      | flash =>
          apply iff_of_false _ (hother (by decide))
          simp only [Option.map_eq_none_iff]
          exact Rom.read_ne_none mapped buf _
      | dram =>
          apply iff_of_false _ (hother (by decide))
          simp only [Option.map_eq_none_iff]
          exact Ram.read_ne_none mapped buf _
      | clint =>
          apply iff_of_false _ (hother (by decide))
          simp only [Option.map_eq_none_iff]
          exact clint_read_ne_none bus hcheck
      | uart0 =>
          apply iff_of_false _ (hother (by decide))
          obtain ⟨result, hresult⟩ := Option.ne_none_iff_exists'.1
            (Uart.read_ne_none mapped buf bus.uart0)
          simp only [hresult, Option.bind_eq_bind, Option.bind_some,
            Option.map_eq_none_iff]
          exact withUart_ne_none _ _ bus
      | powerDown =>
          exact iff_of_false (Option.some_ne_none _) (hother (by decide))

/-- A debug read fills the buffer like a read. -/
theorem readDebug_eq [Build] (address : BitVec 32) (buf : List (BitVec 8))
    (bus : SystemBus) :
    bus.readDebug address buf = (bus.read address buf).map Prod.fst := by
  unfold readDebug read
  cases checkAccess address buf.length with
  | none => rfl
  | some found =>
      obtain ⟨resource, mapped⟩ := found
      cases resource with
      | plic =>
          dsimp only
          rw [Plic.readDebug_eq, Option.map_map]
          rfl
      | uart0 =>
          have huart := Uart.map_read mapped buf bus.uart0
          rw [Option.map_eq_some_iff] at huart
          obtain ⟨⟨buf', uart0, calls⟩, hread, hbuf⟩ := huart
          obtain ⟨rest, hwith⟩ := Option.ne_none_iff_exists'.1
            (withUart_ne_none uart0 calls bus)
          dsimp only
          rw [← hbuf, hread, Option.bind_eq_bind, Option.bind_some, hwith]
          rfl
      | powerDown => rfl
      | _ =>
          dsimp only
          rw [Option.map_map]
          exact (Option.map_id' ..).symm

theorem readDebug_eq_none_iff [Build] {address : BitVec 32}
    {buf : List (BitVec 8)} {bus : SystemBus} :
    bus.readDebug address buf = none ↔ BadAccess address buf.length := by
  rw [readDebug_eq, Option.map_eq_none_iff, read_eq_none_iff]

theorem write_eq_none_iff {address : BitVec 32} {buf : List (BitVec 8)}
    {bus : SystemBus} :
    bus.write address buf = none ↔ BadAccess address buf.length := by
  unfold write
  cases hcheck : checkAccess address buf.length with
  | none =>
      exact iff_of_false (Option.some_ne_none _)
        (not_badAccess_of_unmapped hcheck)
  | some found =>
      obtain ⟨resource, mapped⟩ := found
      have hother := not_badAccess_of_checkAccess hcheck
      cases resource with
      | plic =>
          simp only [Option.map_eq_none_iff]
          rw [Plic.write_eq_none_iff, badAccess_iff, hcheck]
          simp
      | dram =>
          apply iff_of_false _ (hother (by decide))
          simp only [Option.map_eq_none_iff]
          exact Ram.write_ne_none mapped buf _
      | uart0 =>
          apply iff_of_false _ (hother (by decide))
          obtain ⟨result, hresult⟩ := Option.ne_none_iff_exists'.1
            (Uart.write_ne_none mapped buf bus.uart0)
          simp only [hresult, Option.bind_eq_bind, Option.bind_some]
          exact withUart_ne_none _ _ bus
      | mrom => exact iff_of_false (Option.some_ne_none _) (hother (by decide))
      | flash => exact iff_of_false (Option.some_ne_none _) (hother (by decide))
      | clint => exact iff_of_false (Option.some_ne_none _) (hother (by decide))
      | powerDown =>
          exact iff_of_false (Option.some_ne_none _) (hother (by decide))

/-! ## The interrupts that the devices drive -/

/-- MTIP, which the CLINT drives, and MEIP, which the PLIC drives. -/
def Wired (i : ℕ) : Prop :=
  i = Interrupt.machineTimerInterrupt.toNat ∨
    i = Interrupt.machineExternalInterrupt.toNat

/-- The PLIC drives MEIP. -/
theorem wired_plicCalls (calls : List Callback) :
    ∀ call ∈ plicCalls calls, Wired call.code.toNat := by
  intro call hcall
  obtain ⟨callback, _, hcallback⟩ := List.mem_map.1 hcall
  rw [← hcallback, IrqCall.code_of]
  exact Or.inr rfl

/-- The UART does so by way of the PLIC. -/
theorem wired_withUart {uart0 : Uart} {callbacks : List Callback}
    {bus bus' : SystemBus} {calls : List IrqCall}
    (h : bus.withUart uart0 callbacks = some (bus', calls)) :
    ∀ call ∈ calls, Wired call.code.toNat := by
  unfold withUart at h
  rw [Option.map_eq_some_iff] at h
  obtain ⟨⟨plic, callbacks'⟩, _, hcalls⟩ := h
  cases hcalls
  exact wired_plicCalls callbacks'

/-- Most accesses call nobody. -/
theorem wired_nil : ∀ call ∈ ([] : List IrqCall), Wired call.code.toNat := by
  intro call hcall
  exact nomatch hcall

/-- A read calls back for these two interrupts only. -/
theorem wired_read [Build] {address : BitVec 32} {buf buf' : List (BitVec 8)}
    {bus bus' : SystemBus} {calls : List IrqCall}
    (h : bus.read address buf = some (buf', bus', calls)) :
    ∀ call ∈ calls, Wired call.code.toNat := by
  cases read_cases h with
  | unchanged => exact wired_nil
  | plic _ _ => exact wired_plicCalls _
  | uart0 _ _ hforward => exact wired_withUart hforward

theorem wired_write {address : BitVec 32} {buf : List (BitVec 8)}
    {bus bus' : SystemBus} {calls : List IrqCall}
    (h : bus.write address buf = some (bus', calls)) :
    ∀ call ∈ calls, Wired call.code.toNat := by
  cases write_cases h with
  | unchanged => exact wired_nil
  | clint _ =>
      intro call hcall
      obtain ⟨callback, _, hcallback⟩ := List.mem_map.1 hcall
      rw [← hcallback, IrqCall.code_of]
      exact Or.inl rfl
  | plic _ _ => exact wired_plicCalls _
  | uart0 _ _ hforward => exact wired_withUart hforward
  | dram _ _ => exact wired_nil
  | powerDown _ => exact wired_nil

end SystemBus

/-- What the core may rely on.  A state of the bus needs no invariant: its
types carry it. -/
def contract [Build] : BusContract SystemBus where
  healthy := fun _ => True
  bad := SystemBus.BadAccess
  wired := SystemBus.Wired
  healthy_read := fun _ _ => True.intro
  healthy_write := fun _ _ => True.intro
  wired_read := SystemBus.wired_read
  wired_write := SystemBus.wired_write
  read_panics := fun _ => SystemBus.read_eq_none_iff
  write_panics := fun _ => SystemBus.write_eq_none_iff

end RedPlanet.Board
