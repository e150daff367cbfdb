import RedPlanet.Board.AddressLookup
import RedPlanet.Board.Board
import RedPlanet.Board.Memory

/-!
# Loading memory

`Board::load_physical` goes through the regions of the memory map from the
base address on and writes what falls into DRAM over the bus.  It is a
`loadDram` of the contents with the part of the buffer that has addresses in
DRAM; addresses do not wrap around.

The loop is followed by an induction on what is left of the buffer.  Its
invariant is that the part before the address at hand is loaded, and `Loads`
is what this comes to at the end: every byte of DRAM is the one that the
buffer has for its address, or the one it was.
-/

namespace RedPlanet

open RedPlanet.Core RedPlanet.Resources RedPlanet.Verified
open RedPlanet.SpaceTime (subU32)

namespace Board

/-! ## The loop -/

/-- `range.end().checked_add(1)`. -/
def nextAddress (range : AddressRange) : Option (BitVec 32) :=
  if range.last = 0xFFFFFFFF then none else some (range.last + 1)

/-- `&buf[start..=stop]`; `none` is a panic. -/
def sliceInclusive (buf : List (BitVec 8)) (start stop : ℕ) :
    Option (List (BitVec 8)) :=
  if start ≤ stop + 1 ∧ stop < buf.length then
    some ((buf.take (stop + 1)).drop start)
  else none

/-- A write over the bus, with the interrupts it causes. -/
def busWrite (address : BitVec 32) (buf : List (BitVec 8)) (board : Board) :
    Option Board :=
  (board.bus.write address buf).map fun (bus, calls) =>
    { board with bus := bus }.onInterrupts (Interrupts.deliverAll calls)

/-- The addresses that are left. -/
def remaining : Option (BitVec 32) → ℕ
  | none => 0
  | some address => 2 ^ 32 - address.toNat

/-- An address lies in its range, vacant or not. -/
theorem AddressMap.rangeValue_contains {α : Type} (address : BitVec 32)
    (map : AddressMap α) : (map.rangeValue address).1.contains address := by
  cases hvalue : (map.rangeValue address).2 with
  | none => exact (AddressMap.vacant_of_none hvalue).1
  | some value =>
      have hpair : map.rangeValue address
          = ((map.rangeValue address).1, some value) := by rw [← hvalue]
      exact (AddressMap.rangeValue_eq_some_iff.1 hpair).2

/-- The loop gets on: less of the address space is left after each region. -/
theorem remaining_nextAddress (address : BitVec 32) :
    remaining (nextAddress (memoryMap.rangeValue address).1)
      < remaining (some address) := by
  have hlast := (AddressMap.rangeValue_contains address memoryMap).2
  have hmax := address.isLt
  have hone : (1 : BitVec 32).toNat = 1 := by decide
  rw [BitVec.le_def] at hlast
  unfold nextAddress
  by_cases hend : (memoryMap.rangeValue address).1.last = 0xFFFFFFFF
  · rw [if_pos hend]
    show 0 < 2 ^ 32 - address.toNat
    omega
  · have hlt : (memoryMap.rangeValue address).1.last.toNat < 2 ^ 32 - 1 := by
      have hle := (memoryMap.rangeValue address).1.last.isLt
      have hne : (memoryMap.rangeValue address).1.last.toNat ≠ 2 ^ 32 - 1 := by
        intro heq
        exact hend (BitVec.eq_of_toNat_eq heq)
      omega
    rw [if_neg hend]
    show 2 ^ 32 - ((memoryMap.rangeValue address).1.last + 1).toNat < _
    rw [BitVec.toNat_add, hone]
    show _ < 2 ^ 32 - address.toNat
    omega

section Build

variable [Build]

/-- What is done with one region: only DRAM is written. -/
def loadRegion (base : BitVec 32) (buf : List (BitVec 8))
    (address : BitVec 32) (board : Board) : Option Board :=
  let (range, resource) := memoryMap.rangeValue address
  match resource with
  | some .dram => do
      let sliceStart ← subU32 address base
      let sliceEnd ← subU32 range.last base
      let slice ← sliceInclusive buf sliceStart.toNat
        (min sliceEnd.toNat (buf.length - 1))
      board.busWrite address slice
  | some .mrom | some .flash | some .uart0 | some .clint | some .plic
  | some .powerDown | none => some board

/-- The loop of `load_physical`. -/
def loadFrom (base : BitVec 32) (buf : List (BitVec 8))
    (next : Option (BitVec 32)) (board : Board) : Option Board :=
  match next with
  | none => some board
  | some address =>
      match subU32 address base with
      | none => none
      | some offset =>
          if buf.length ≤ offset.toNat then some board
          else
            match loadRegion base buf address board with
            | none => none
            | some board =>
                loadFrom base buf
                  (nextAddress (memoryMap.rangeValue address).1) board
termination_by remaining next
decreasing_by exact remaining_nextAddress address

/-- `Board::load_physical`. -/
def loadPhysical (base : BitVec 32) (buf : List (BitVec 8)) (board : Board) :
    Option Board :=
  if buf = [] then some board else loadFrom base buf (some base) board

end Build

/-! ## What it writes -/

/-- The contents of DRAM when the part of the buffer with addresses below
`upTo` is loaded. -/
def loaded (base : BitVec 32) (buf : List (BitVec 8)) (upTo : ℕ)
    (board : Board) : ℕ → BitVec 8 := fun i =>
  let address := dramRange.start.toNat + i
  if base.toNat ≤ address ∧ address < upTo ∧ i < board.bus.dram.data.size then
    (buf[address - base.toNat]?).getD (board.bus.dram.data.elem i)
  else board.bus.dram.data.elem i

variable {base address : BitVec 32} {buf : List (BitVec 8)} {board : Board}

/-- Nothing is loaded between two bounds that no byte of DRAM lies between. -/
theorem loaded_congr {upTo upTo' : ℕ}
    (h : ∀ i, base.toNat ≤ dramRange.start.toNat + i →
      dramRange.start.toNat + i < base.toNat + buf.length →
        (dramRange.start.toNat + i < upTo ↔
          dramRange.start.toNat + i < upTo')) :
    loaded base buf upTo board = loaded base buf upTo' board := by
  funext i
  unfold loaded
  dsimp only
  by_cases hfrom : base.toNat ≤ dramRange.start.toNat + i
  · by_cases hto : dramRange.start.toNat + i < base.toNat + buf.length
    · simp only [h i hfrom hto]
    · rw [List.getElem?_eq_none (by omega), Option.getD_none, ite_self,
        ite_self]
  · rw [if_neg (fun hall => hfrom hall.1), if_neg (fun hall => hfrom hall.1)]

/-- The range around an address of DRAM is that of DRAM. -/
theorem rangeValue_of_dram {a : BitVec 32} (hdram : dramRange.start ≤ a)
    (h : (memoryMap.rangeValue address).1.contains a) :
    memoryMap.rangeValue address = (dramRange, some .dram) := by
  have hmem : (dramRange, Resource.dram) ∈ memoryMap.orderedRanges := by
    decide
  have hcontains : dramRange.contains a := by
    refine ⟨hdram, ?_⟩
    show a.toNat ≤ 4294967295
    have hmax := a.isLt
    omega
  cases hvalue : (memoryMap.rangeValue address).2 with
  | none =>
      have hvacant := (AddressMap.vacant_of_none hvalue).2
      exact absurd hcontains (hvacant.vacant a h _ hmem)
  | some resource =>
      have hpair : memoryMap.rangeValue address
          = ((memoryMap.rangeValue address).1, some resource) := by
        rw [← hvalue]
      have hentry := (AddressMap.rangeValue_eq_some_iff.1 hpair).1
      have hfound := AddressMap.rangeValue_eq_some_iff.2 ⟨hentry, h⟩
      have hfound' := AddressMap.rangeValue_eq_some_iff.2 ⟨hmem, hcontains⟩
      rw [hpair, ← hfound, hfound']

section Build

variable [Build]

/-- A region that is not DRAM is skipped. -/
theorem loadRegion_other
    (h : (memoryMap.rangeValue address).2 ≠ some .dram) :
    loadRegion base buf address board = some board := by
  unfold loadRegion
  cases hvalue : memoryMap.rangeValue address with
  | mk range resource =>
      rw [hvalue] at h
      cases resource with
      | none => rfl
      | some resource =>
          cases resource with
          | dram => exact absurd rfl h
          | _ => rfl

/-- The subtractions of the loop do not overflow. -/
theorem subU32_of_le {a b : BitVec 32} (h : b ≤ a) :
    subU32 a b = some (a - b) := by
  unfold subU32
  rw [if_neg]
  intro hlt
  exact BitVec.not_le.2 hlt.2 h

omit [Build] in
/-- The bus takes a write from an address of DRAM on, as far as DRAM goes. -/
theorem busWrite_dram {slice : List (BitVec 8)} (hne : slice ≠ [])
    (hstart : dramRange.start ≤ address)
    (hend : address.toNat + slice.length ≤ 2 ^ 32) :
    ∃ dram, board.bus.dram.write (address - dramRange.start) slice
        = some dram ∧
      board.busWrite address slice
        = some { board with bus := { board.bus with dram := dram } } := by
  have hpos := List.length_pos_iff.2 hne
  have hlast : address ≤ dramRange.last := by
    show address.toNat ≤ 4294967295
    omega
  have hrest : (dramRange.last - address).toNat
      = 4294967295 - address.toNat := BitVec.toNat_sub_of_le hlast
  have hcheck : SystemBus.checkAccess address slice.length
      = some (.dram, address - dramRange.start) := by
    rw [SystemBus.checkAccess_eq_some_iff]
    exact ⟨dramRange, by decide, ⟨hstart, hlast⟩, by omega, by omega,
      by omega, rfl⟩
  obtain ⟨dram, hdram⟩ := Option.ne_none_iff_exists'.1
    (Ram.write_ne_none (address - dramRange.start) slice board.bus.dram)
  refine ⟨dram, hdram, ?_⟩
  unfold busWrite SystemBus.write
  rw [hcheck]
  dsimp only
  rw [hdram]
  rfl

omit [Build] in
/-- What a RAM holds says which addresses it has. -/
theorem ram_eq {ram ram' : Ram} (h : ram'.data = ram.data) : ram' = ram := by
  have hfits := ram.fits
  have hfits' := ram'.fits
  cases ram
  cases ram'
  cases h
  dsimp only at hfits hfits'
  have hmax : _ = _ := BitVec.eq_of_toNat_eq
    (Nat.add_right_cancel (hfits'.symm.trans hfits))
  cases hmax
  rfl

omit [Build] in
/-- The part of the buffer that a region gets. -/
theorem getElem?_slice {start stop k : ℕ} :
    ((buf.take (stop + 1)).drop start)[k]?
      = if start + k ≤ stop then buf[start + k]? else none := by
  rw [List.getElem?_drop]
  by_cases hle : start + k ≤ stop
  · rw [if_pos hle, List.getElem?_take_of_lt (by omega)]
  · rw [if_neg hle, List.getElem?_take_eq_none (by omega)]

omit [Build] in
/-- The bytes of DRAM after the slice from an address on is written over what
was loaded before. -/
theorem loaded_slice (hbase : base ≤ address)
    (hstart : dramRange.start ≤ address) {stop : ℕ}
    (hstop : stop = min (2 ^ 32 - 1 - base.toNat) (buf.length - 1))
    (hoffset : address.toNat - base.toNat < buf.length) {dram : Ram}
    (hwrite : (board.loadDram
        (loaded base buf address.toNat board)).bus.dram.write
        (address - dramRange.start)
        ((buf.take (stop + 1)).drop (address.toNat - base.toNat))
      = some dram) (i : ℕ) :
    dram.data.elem i = loaded base buf (2 ^ 32) board i := by
  have hmax := address.isLt
  have hsub : (address - dramRange.start).toNat
      = address.toNat - dramRange.start.toNat := BitVec.toNat_sub_of_le hstart
  have hdram : dramRange.start.toNat = 2147483648 := rfl
  have hsize : (board.loadDram
      (loaded base buf address.toNat board)).bus.dram.data.size
        = board.bus.dram.data.size := rfl
  have hold : (board.loadDram
      (loaded base buf address.toNat board)).bus.dram.data.elem
        = loaded base buf address.toNat board := rfl
  rw [BitVec.le_def] at hbase hstart
  rw [Ram.elem_write hwrite, hsub, hsize, hold, getElem?_slice]
  by_cases hin : i < board.bus.dram.data.size
  · by_cases hfrom : address.toNat ≤ dramRange.start.toNat + i
    · have hindex : address.toNat - base.toNat
          + (i - (address.toNat - dramRange.start.toNat))
            = dramRange.start.toNat + i - base.toNat := by omega
      have hbefore : loaded base buf address.toNat board i
          = board.bus.dram.data.elem i := by
        unfold loaded
        rw [if_neg]
        omega
      rw [if_pos ⟨by omega, hin⟩, hindex, hbefore]
      by_cases hlt : dramRange.start.toNat + i < 2 ^ 32
      · have hafter : loaded base buf (2 ^ 32) board i
            = (buf[dramRange.start.toNat + i - base.toNat]?).getD
                (board.bus.dram.data.elem i) := by
          unfold loaded
          rw [if_pos]
          omega
        rw [hafter]
        by_cases hle : dramRange.start.toNat + i - base.toNat ≤ stop
        · rw [if_pos hle]
        · rw [if_neg hle, List.getElem?_eq_none (by omega)]
      · have hafter : loaded base buf (2 ^ 32) board i
            = board.bus.dram.data.elem i := by
          unfold loaded
          rw [if_neg]
          omega
        rw [hafter, if_neg (by omega), Option.getD_none]
    · -- below the address, what was loaded before
      have hiff : (base.toNat ≤ dramRange.start.toNat + i ∧
          dramRange.start.toNat + i < address.toNat ∧
            i < board.bus.dram.data.size) ↔
          (base.toNat ≤ dramRange.start.toNat + i ∧
            dramRange.start.toNat + i < 2 ^ 32 ∧
              i < board.bus.dram.data.size) := by omega
      rw [if_neg (by omega)]
      unfold loaded
      simp only [hiff]
  · have hnone : ∀ upTo, loaded base buf upTo board i
        = board.bus.dram.data.elem i := by
      intro upTo
      unfold loaded
      rw [if_neg]
      omega
    rw [if_neg (fun hall => hin hall.2), hnone, hnone]

/-- The rest of the buffer from an address of DRAM on. -/
theorem loadRegion_dram (hbase : base ≤ address)
    (hoffset : address.toNat - base.toNat < buf.length)
    (hvalue : memoryMap.rangeValue address = (dramRange, some .dram)) :
    loadRegion base buf address (board.loadDram
        (loaded base buf address.toNat board))
      = some (board.loadDram (loaded base buf (2 ^ 32) board)) := by
  have hcontains := AddressMap.rangeValue_contains address memoryMap
  rw [hvalue] at hcontains
  obtain ⟨hstart, hlast⟩ := hcontains
  have hbase_last := BitVec.le_trans hbase hlast
  have hmax := address.isLt
  have hfirst : (address - base).toNat = address.toNat - base.toNat :=
    BitVec.toNat_sub_of_le hbase
  have hlast_sub : (dramRange.last - base).toNat = 4294967295 - base.toNat :=
    BitVec.toNat_sub_of_le hbase_last
  generalize hstop : min (4294967295 - base.toNat) (buf.length - 1) = stop
  have hslice : sliceInclusive buf (address.toNat - base.toNat) stop
      = some ((buf.take (stop + 1)).drop (address.toNat - base.toNat)) := by
    unfold sliceInclusive
    rw [if_pos]
    omega
  have hlength : ((buf.take (stop + 1)).drop
      (address.toNat - base.toNat)).length
        = stop + 1 - (address.toNat - base.toNat) := by
    rw [List.length_drop, List.length_take]
    omega
  have hne : (buf.take (stop + 1)).drop (address.toNat - base.toNat) ≠ [] := by
    rw [← List.length_pos_iff]
    omega
  have hbase_le : base.toNat ≤ address.toNat := hbase
  have hbusWrite := @busWrite_dram address (board.loadDram
    (loaded base buf address.toNat board)) _ hne hstart (by omega)
  obtain ⟨dram, hwrite, hbus⟩ := hbusWrite
  unfold loadRegion
  rw [hvalue]
  dsimp only
  rw [subU32_of_le hbase, subU32_of_le hbase_last]
  show (sliceInclusive buf (address - base).toNat
    (min (dramRange.last - base).toNat (buf.length - 1))).bind _ = _
  rw [hfirst, hlast_sub, hstop, hslice, Option.bind_some, hbus]
  have hsize := (Ram.write_keeps hwrite).2
  have hdram : dram = (board.loadDram (loaded base buf (2 ^ 32)
      board)).bus.dram := by
    apply ram_eq
    have helem : dram.data.elem = loaded base buf (2 ^ 32) board := by
      funext i
      exact loaded_slice hbase hstart hstop.symm hoffset hwrite i
    cases hdata : dram.data with
    | mk size elem =>
        rw [hdata] at hsize helem
        dsimp only at hsize helem
        rw [hsize, helem]
        rfl
  rw [hdram]
  rfl

omit [Build] in
/-- Nothing is loaded into a region that is not DRAM. -/
theorem loaded_other (h : (memoryMap.rangeValue address).2 ≠ some .dram) :
    loaded base buf address.toNat board = loaded base buf
      ((memoryMap.rangeValue address).1.last.toNat + 1) board := by
  obtain ⟨_, hlast⟩ := AddressMap.rangeValue_contains address memoryMap
  have hend := (memoryMap.rangeValue address).1.last.isLt
  rw [BitVec.le_def] at hlast
  apply loaded_congr
  intro i _ _
  constructor
  · intro hlt
    omega
  · intro hlt
    by_contra hge
    have htoNat : (BitVec.ofNat 32 (dramRange.start.toNat + i)).toNat
        = dramRange.start.toNat + i := by
      rw [BitVec.toNat_ofNat]
      omega
    have hstart : dramRange.start
        ≤ BitVec.ofNat 32 (dramRange.start.toNat + i) := by
      rw [BitVec.le_def, htoNat]
      omega
    obtain ⟨hfirst, _⟩ := AddressMap.rangeValue_contains address memoryMap
    have hcontains : (memoryMap.rangeValue address).1.contains
        (BitVec.ofNat 32 (dramRange.start.toNat + i)) := by
      rw [BitVec.le_def] at hfirst
      constructor
      · rw [BitVec.le_def, htoNat]
        omega
      · rw [BitVec.le_def, htoNat]
        omega
    rw [rangeValue_of_dram hstart hcontains] at h
    exact h rfl

/-- From any address on, the loop loads the rest of the buffer. -/
theorem loadFrom_eq (hbase : base ≤ address) :
    loadFrom base buf (some address) (board.loadDram
        (loaded base buf address.toNat board))
      = some (board.loadDram (loaded base buf (2 ^ 32) board)) := by
  induction hleft : 2 ^ 32 - address.toNat using Nat.strong_induction_on
    generalizing address with
  | _ left ih =>
      have hmax := address.isLt
      have hbase_le : base.toNat ≤ address.toNat := hbase
      have hoffset : (address - base).toNat = address.toNat - base.toNat :=
        BitVec.toNat_sub_of_le hbase
      rw [loadFrom, subU32_of_le hbase]
      dsimp only
      rw [hoffset]
      by_cases hdone : buf.length ≤ address.toNat - base.toNat
      · have hall : loaded base buf address.toNat board
            = loaded base buf (2 ^ 32) board := by
          apply loaded_congr
          intro i _ hlt
          omega
        rw [if_pos hdone, hall]
      · rw [if_neg hdone]
        by_cases hdram : (memoryMap.rangeValue address).2 = some .dram
        · have hvalue : memoryMap.rangeValue address
              = (dramRange, some .dram) := by
            have hpair : memoryMap.rangeValue address
                = ((memoryMap.rangeValue address).1, some .dram) := by
              rw [← hdram]
            have hentry := (AddressMap.rangeValue_eq_some_iff.1 hpair).1
            rw [hpair, SystemBus.range_of_dram hentry]
          rw [loadRegion_dram hbase (by omega) hvalue, hvalue]
          have hnone : nextAddress dramRange = none := by decide
          dsimp only
          rw [hnone, loadFrom]
        · rw [loadRegion_other hdram, loaded_other hdram]
          have hless := remaining_nextAddress address
          have hlast := (AddressMap.rangeValue_contains address memoryMap).2
          have hend := (memoryMap.rangeValue address).1.last.isLt
          have hone : (1 : BitVec 32).toNat = 1 := by decide
          rw [BitVec.le_def] at hlast
          dsimp only
          unfold nextAddress at hless ⊢
          by_cases htop : (memoryMap.rangeValue address).1.last = 0xFFFFFFFF
          · rw [if_pos htop, htop, loadFrom]
            rfl
          · have hne : (memoryMap.rangeValue address).1.last.toNat
                ≠ 2 ^ 32 - 1 := by
              intro heq
              exact htop (BitVec.eq_of_toNat_eq heq)
            have hnext : ((memoryMap.rangeValue address).1.last + 1).toNat
                = (memoryMap.rangeValue address).1.last.toNat + 1 := by
              rw [BitVec.toNat_add, hone]
              omega
            rw [if_neg htop] at hless ⊢
            rw [← hnext]
            apply ih (2 ^ 32
              - ((memoryMap.rangeValue address).1.last + 1).toNat)
            · rw [hnext]
              omega
            · rw [BitVec.le_def, hnext]
              omega
            · rfl

omit [Build] in
/-- Nothing is loaded at first. -/
theorem loaded_base : board.loadDram (loaded base buf base.toNat board)
    = board := by
  have hnone : loaded base buf base.toNat board
      = board.bus.dram.data.elem := by
    funext i
    unfold loaded
    rw [if_neg]
    omega
  rw [hnone]
  rfl

end Build

/-- What DRAM holds after loading, and that nothing else changes. -/
structure Loads (base : BitVec 32) (buf : List (BitVec 8))
    (board board' : Board) : Prop where
  /-- The addresses of the buffer, without wrap-around. -/
  written : ∀ a : BitVec 32, dramRange.start ≤ a →
    (a - dramRange.start).toNat < board.bus.dram.data.size → base ≤ a →
      a.toNat < base.toNat + buf.length →
        some (board'.bus.dramByte a) = buf[a.toNat - base.toNat]?
  kept : ∀ a : BitVec 32, ¬ (base ≤ a ∧ a.toNat < base.toNat + buf.length) →
    board'.bus.dramByte a = board.bus.dramByte a
  /-- All but the contents of DRAM stays. -/
  others : ∃ contents, board' = board.loadDram contents

/-- At the end all that has an address is loaded. -/
theorem loads_loaded :
    Loads base buf board (board.loadDram (loaded base buf (2 ^ 32) board)) where
  written := by
    intro a hstart hsize hbase hend
    have hsub : (a - dramRange.start).toNat
        = a.toNat - dramRange.start.toNat := BitVec.toNat_sub_of_le hstart
    have hmax := a.isLt
    have hstart_le : dramRange.start.toNat ≤ a.toNat := hstart
    have hbase_le : base.toNat ≤ a.toNat := hbase
    have hindex : dramRange.start.toNat
        + (a.toNat - dramRange.start.toNat) = a.toNat := by omega
    have hlt : a.toNat - base.toNat < buf.length := by omega
    unfold SystemBus.dramByte
    rw [if_pos hstart, hsub]
    show some (loaded base buf (2 ^ 32) board _) = _
    unfold loaded
    dsimp only
    rw [hindex, if_pos (by omega), List.getElem?_eq_getElem hlt,
      Option.getD_some]
  kept := by
    intro a hout
    unfold SystemBus.dramByte
    by_cases hstart : dramRange.start ≤ a
    · have hsub : (a - dramRange.start).toNat
          = a.toNat - dramRange.start.toNat := BitVec.toNat_sub_of_le hstart
      have hstart_le : dramRange.start.toNat ≤ a.toNat := hstart
      have hindex : dramRange.start.toNat
          + (a.toNat - dramRange.start.toNat) = a.toNat := by omega
      rw [if_pos hstart, if_pos hstart, hsub]
      show loaded base buf (2 ^ 32) board _ = _
      unfold loaded
      dsimp only
      rw [hindex]
      by_cases hbase : base.toNat ≤ a.toNat
      · have hpast : ¬ a.toNat < base.toNat + buf.length :=
          fun hlt => hout ⟨hbase, hlt⟩
        rw [List.getElem?_eq_none (by omega), Option.getD_none, ite_self]
      · rw [if_neg (fun hall => hbase hall.1)]
    · rw [if_neg hstart, if_neg hstart]
  others := ⟨loaded base buf (2 ^ 32) board, rfl⟩

/-- Loading a buffer of any length at any base address ends without a panic,
with the part that has addresses in DRAM written there and nothing else
changed. -/
theorem loadPhysical_loads [Build] (base : BitVec 32) (buf : List (BitVec 8))
    (board : Board) :
    ∃ board', loadPhysical base buf board = some board' ∧
      Loads base buf board board' := by
  refine ⟨board.loadDram (loaded base buf (2 ^ 32) board), ?_, loads_loaded⟩
  have hfrom := @loadFrom_eq base base buf board _ (BitVec.le_refl base)
  rw [loaded_base] at hfrom
  unfold loadPhysical
  by_cases hempty : buf = []
  · have hnone : loaded base buf base.toNat board
        = loaded base buf (2 ^ 32) board := by
      apply loaded_congr
      intro i hle hlt
      rw [hempty, List.length_nil] at hlt
      omega
    rw [if_pos hempty, ← hnone, loaded_base]
  · rw [if_neg hempty, hfrom]

end Board

end RedPlanet
