import RedPlanet.Core.Basic

/-!
# Core local interruptor

`core/clint.rs`: the machine timer and its memory-mapped registers.  Every
change goes through `update`, which calls the core back when the timer
interrupt starts or stops being due.

The accessors are those of the source, down to the setters of half a
register, which combine the halves with `&`, and to the address at which a
write of a double word is expected.  What follows from these two is in
`Resources.ClintRegisters`.
-/

namespace RedPlanet.Resources

open RedPlanet.Core RedPlanet.Verified

namespace Clint

/-- The size of the region for software interrupts, which is not implemented.
-/
def SWI_SIZE : BitVec 32 := 0x4000

/-- The lower half of the compare register. -/
def MTIMECMP_ADDR_LO : BitVec 32 := SWI_SIZE + 0x0

/-- The upper half of the compare register. -/
def MTIMECMP_ADDR_HI : BitVec 32 := MTIMECMP_ADDR_LO + 4

/-- The lower half of the time. -/
def MTIME_ADDR_LO : BitVec 32 := SWI_SIZE + 0x7ff8

/-- The upper half of the time. -/
def MTIME_ADDR_HI : BitVec 32 := MTIME_ADDR_LO + 4

end Clint

/-- The timer. -/
structure Clint where
  mtime : BitVec 64
  mtimecmp : BitVec 64
deriving DecidableEq, Repr

namespace Clint

/-- Both registers are zero. -/
def new : Clint where
  mtime := 0
  mtimecmp := 0

/-! ## Registers -/

/-- `set_mtime_higher`, which combines the halves with `&`. -/
def setMtimeHigher (value : BitVec 32) (clint : Clint) : Clint :=
  { clint with
    mtime := (value.setWidth 64 <<< 32) &&& (clint.mtime &&& 0xffffffff) }

/-- `set_mtime_lower`, which combines the halves with `&`. -/
def setMtimeLower (value : BitVec 32) (clint : Clint) : Clint :=
  { clint with
    mtime := (clint.mtime &&& 0xffffffff_00000000)
      &&& (value.setWidth 64 &&& 0xffffffff) }

/-- `set_mtimecmp_higher`, which combines the halves with `&`. -/
def setMtimecmpHigher (value : BitVec 32) (clint : Clint) : Clint :=
  { clint with
    mtimecmp := (value.setWidth 64 <<< 32)
      &&& (clint.mtimecmp &&& 0xffffffff) }

/-- `set_mtimecmp_lower`, which combines the halves with `&`. -/
def setMtimecmpLower (value : BitVec 32) (clint : Clint) : Clint :=
  { clint with
    mtimecmp := (clint.mtimecmp &&& 0xffffffff_00000000)
      &&& (value.setWidth 64 &&& 0xffffffff) }

/-- The timer interrupt is due. -/
def needsInterrupt (clint : Clint) : Bool := clint.mtimecmp ≤ clint.mtime

/-- `Clint::update`: the operation, and the call it causes. -/
def update (op : Clint → Clint) (clint : Clint) : Clint × List Callback :=
  let irqBefore := clint.needsInterrupt
  let clint := op clint
  let irqAfter := clint.needsInterrupt
  (clint,
    match irqBefore, irqAfter with
    | true, false => [.lower]
    | false, true => [.raise]
    | _, _ => [])

/-- `Clint::reset`: mtimecmp is not changed. -/
def reset : Clint → Clint × List Callback :=
  update fun clint => { clint with mtime := 0 }

/-- `Clint::step`. -/
def step : Clint → Clint × List Callback :=
  update fun clint => { clint with mtime := clint.mtime + 1 }

/-! ## Bus accesses -/

/-- A word of one of the registers; other addresses read as zero. -/
def readU32 (address : BitVec 32) (clint : Clint) : BitVec 32 :=
  if address = MTIMECMP_ADDR_HI then (clint.mtimecmp >>> 32).setWidth 32
  else if address = MTIMECMP_ADDR_LO then clint.mtimecmp.setWidth 32
  else if address = MTIME_ADDR_HI then (clint.mtime >>> 32).setWidth 32
  else if address = MTIME_ADDR_LO then clint.mtime.setWidth 32
  else 0

/-- A write of half a register; at other addresses nothing happens. -/
def writeU32 (address value : BitVec 32) (clint : Clint) :
    Clint × List Callback :=
  if address = MTIMECMP_ADDR_HI then update (setMtimecmpHigher value) clint
  else if address = MTIMECMP_ADDR_LO then
    update (setMtimecmpLower value) clint
  else if address = MTIME_ADDR_HI then update (setMtimeHigher value) clint
  else if address = MTIME_ADDR_LO then update (setMtimeLower value) clint
  else (clint, [])

/-- A write of a whole register, at the address of its upper half. -/
def writeU64 (address : BitVec 32) (value : BitVec 64) (clint : Clint) :
    Clint × List Callback :=
  if address = MTIMECMP_ADDR_HI then
    update (fun clint => { clint with mtimecmp := value }) clint
  else if address = MTIME_ADDR_HI then
    update (fun clint => { clint with mtime := value }) clint
  else (clint, [])

/-- `Clint::read`; `none` is a panic.  The word at `address` ends up in the
high half of an eight-byte read. -/
def read [Build] (address : BitVec 32) (buf : List (BitVec 8))
    (clint : Clint) : Option (List (BitVec 8)) :=
  if !isAligned WORD address then some buf
  else if buf.length = 4 then some (toLeBytes 4 (clint.readU32 address))
  else if buf.length = 8 then
    let hi := (clint.readU32 address).setWidth 64
    (addU32 address 4).map fun next =>
      let lo := (clint.readU32 next).setWidth 64
      toLeBytes 8 (hi <<< 32 ||| lo)
  else some buf

/-- `Clint::write`. -/
def write (address : BitVec 32) (buf : List (BitVec 8)) (clint : Clint) :
    Clint × List Callback :=
  if !isAligned WORD address then (clint, [])
  else if buf.length = 4 then clint.writeU32 address (ofLeBytes 32 buf)
  else if buf.length = 8 then clint.writeU64 address (ofLeBytes 64 buf)
  else (clint, [])

/-! ## Panics -/

/-- An eight-byte read of the last word of the address space reads past
it. -/
theorem read_eq_none_iff [Build] {address : BitVec 32}
    {buf : List (BitVec 8)} {clint : Clint} :
    clint.read address buf = none ↔
      Build.overflowChecks = true ∧ address = 0xFFFFFFFC ∧
        buf.length = 8 := by
  unfold read
  by_cases haligned : isAligned WORD address
  · rw [if_neg (by rw [haligned]; decide)]
    by_cases h4 : buf.length = 4
    · rw [if_pos h4, h4]
      simp
    · rw [if_neg h4]
      by_cases h8 : buf.length = 8
      · rw [if_pos h8]
        dsimp only
        rw [Option.map_eq_none_iff]
        unfold addU32
        have hmod := isAligned_WORD.1 haligned
        have hlt := address.isLt
        have hlast : 2 ^ 32 ≤ address.toNat + (4#32).toNat ↔
            address = 0xFFFFFFFC := by
          rw [← BitVec.toNat_inj]
          show 2 ^ 32 ≤ address.toNat + 4 ↔ address.toNat = 4294967292
          omega
        split
        · rename_i hover
          exact iff_of_true rfl ⟨hover.1, hlast.1 hover.2, h8⟩
        · rename_i hfits
          exact iff_of_false (Option.some_ne_none _) fun h =>
            hfits ⟨h.1, hlast.2 h.2.1⟩
      · rw [if_neg h8]
        exact iff_of_false (Option.some_ne_none _) fun h => h8 h.2.2
  · have hlast : address ≠ 0xFFFFFFFC := by
      intro h
      rw [h] at haligned
      exact haligned (by decide)
    rw [if_pos (by simpa using haligned)]
    exact iff_of_false (Option.some_ne_none _) fun h => hlast h.2.1

end Clint

end RedPlanet.Resources
