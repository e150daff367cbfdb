import RedPlanet.Core.Basic

/-!
# UART

`resources/uart.rs`.  That the two FIFOs hold at most sixteen bytes is part of
the type.  `none` is a panic; with the lengths in range there is none, as the
last section shows (`read_ne_none`, `write_ne_none`).

The registers, the line status and its bits, the two FIFOs with their
indices, the interrupt and the accesses are those of the source, with its
tests: the ones for the interrupt enable register read the line status, and a
reset of a FIFO leaves the line status as it is.  What follows from these is
in `Resources.UartInterrupt` and `Resources.UartStatus`.
-/

namespace RedPlanet.Resources

open RedPlanet.Core RedPlanet.Verified

/-- The storage of a FIFO. -/
abbrev FifoBuf := Vector (BitVec 8) 16

/-- `buf.copy_within(first..last, 0)`. -/
def copyWithin (first last : ℕ) (buf : FifoBuf) : Option FifoBuf :=
  if first ≤ last ∧ last ≤ 16 then
    some (Vector.ofFn fun i =>
      if i.val < last - first then (buf[first + i.val]?).getD 0 else buf[i])
  else none

/-! ## State -/

/-- The registers, the two FIFOs and the line. -/
structure Uart where
  ier : BitVec 8
  iir : BitVec 8
  lcr : BitVec 8
  lsr : BitVec 8
  msr : BitVec 8
  dlr : BitVec 16
  /-- Receiver FIFO interrupt trigger level, in bytes. -/
  rxFifoItl : ℕ
  rxFifoBuf : FifoBuf
  rxFifoLen : ℕ
  txFifoBuf : FifoBuf
  txFifoLen : ℕ
  rx_le : rxFifoLen ≤ 16
  tx_le : txFifoLen ≤ 16
deriving DecidableEq, Repr

namespace Uart

/-- Both FIFOs are empty, and the line is low. -/
def new : Uart where
  ier := 0x00
  iir := 0xC1
  lcr := 0x03
  lsr := 0x60
  msr := 0x00
  dlr := 0x0000
  rxFifoItl := 14
  rxFifoBuf := Vector.replicate 16 0
  rxFifoLen := 0
  txFifoBuf := Vector.replicate 16 0
  txFifoLen := 0
  rx_le := Nat.zero_le 16
  tx_le := Nat.zero_le 16

/-- Computed from the line status, like the next two. -/
def ierRlsi (uart : Uart) : Bool := uart.lsr.getLsbD 0 || uart.lsr.getLsbD 2

/-- Computed from the line status as well. -/
def ierRdi (uart : Uart) : Bool := uart.lsr.getLsbD 0

/-- Computed from the line status as well. -/
def ierMsi (uart : Uart) : Bool := uart.lsr.getLsbD 3

/-- The divisor is at the addresses of the data. -/
def dlab (uart : Uart) : Bool := uart.lcr >>> 7 = 1

/-- Data ready. -/
def lsrDr (uart : Uart) : Bool := uart.lsr.getLsbD 0

/-- Overrun error. -/
def lsrOe (uart : Uart) : Bool := uart.lsr.getLsbD 1

/-- Set a bit of the line status. -/
def setLsr (i : ℕ) (value : Bool) (uart : Uart) : Uart :=
  { uart with lsr := setBit uart.lsr i value }

/-- Data ready. -/
def setLsrDr : Bool → Uart → Uart := setLsr 0

/-- Overrun error. -/
def setLsrOe : Bool → Uart → Uart := setLsr 1

/-- Transmitter holding register empty. -/
def setLsrThre : Bool → Uart → Uart := setLsr 5

/-- Transmitter FIFO empty. -/
def setLsrTfe : Bool → Uart → Uart := setLsr 6

/-- Some condition of the line is to be reported. -/
def lsrIntAny (uart : Uart) : Bool := uart.lsr &&& 0x1E ≠ 0

/-- Some input of the modem has changed. -/
def msrAnyDelta (uart : Uart) : Bool := uart.msr &&& 0x0F ≠ 0

/-- The divisor is set. -/
def isOperational (uart : Uart) : Bool := uart.dlr ≠ 0

/-- The bitmask to be applied to each character. -/
def charMask (uart : Uart) : BitVec 8 :=
  ((1#8 <<< ((uart.lcr &&& 0b11) + 1).toNat - 1) <<< 4) ||| 0xF

/-- No interrupt. -/
def UART_IIR_NO_INT : BitVec 8 := 0x01

/-- Receiver line status. -/
def UART_IIR_RLSI : BitVec 8 := 0x06

/-- Received data. -/
def UART_IIR_RDI : BitVec 8 := 0x04

/-- Modem status. -/
def UART_IIR_MSI : BitVec 8 := 0x00

/-- `Uart::update_interrupt`. -/
def updateInterrupt (uart : Uart) : Uart × List Callback :=
  let newIrr :=
    if uart.ierRlsi && uart.lsrIntAny then UART_IIR_RLSI
    else if uart.ierRdi && uart.lsrDr
        && decide (uart.rxFifoItl ≤ uart.rxFifoLen) then UART_IIR_RDI
    else if uart.ierMsi && uart.msrAnyDelta then UART_IIR_MSI
    else UART_IIR_NO_INT
  ({ uart with iir := newIrr ||| uart.iir &&& 0xF0 },
    if newIrr = UART_IIR_NO_INT then [.lower] else [.raise])

/-! ## Registers -/

/-- The lower byte of the divisor. -/
def readDll (uart : Uart) : BitVec 8 := uart.dlr.setWidth 8

/-- Replace the lower byte of the divisor. -/
def writeDll (value : BitVec 8) (uart : Uart) : Uart :=
  { uart with dlr := uart.dlr &&& 0xFF00 ||| value.setWidth 16 }

/-- The upper byte of the divisor. -/
def readDlh (uart : Uart) : BitVec 8 := (uart.dlr >>> 8).setWidth 8

/-- Replace the upper byte of the divisor. -/
def writeDlh (value : BitVec 8) (uart : Uart) : Uart :=
  { uart with dlr := value.setWidth 16 <<< 8 ||| uart.dlr &&& 0xFF }

/-- Take the first byte out of the receiver FIFO. -/
def popRx (uart : Uart) : Option Uart :=
  if 0 < uart.rxFifoLen then
    (copyWithin 1 uart.rxFifoLen uart.rxFifoBuf).map fun buf =>
      let uart :=
        { uart with
          rxFifoBuf := buf
          rxFifoLen := uart.rxFifoLen - 1
          rx_le := Nat.le_trans (Nat.sub_le _ _) uart.rx_le }
      if uart.rxFifoLen = 0 then uart.setLsrDr false else uart
  else some uart

/-- `Uart::read_rbr`. -/
def readRbr (uart : Uart) : Option (BitVec 8 × Uart × List Callback) :=
  let value := uart.rxFifoBuf[0]
  uart.popRx.map fun uart => (value, uart.updateInterrupt)

/-- The first byte of the receiver FIFO, which stays there. -/
def readRbrPure (uart : Uart) : BitVec 8 := uart.rxFifoBuf[0]

/-- Drop the oldest byte of the transmitter FIFO if it is full. -/
def makeRoomTx (uart : Uart) : Option Uart :=
  if uart.txFifoLen = 16 then
    (copyWithin 1 16 uart.txFifoBuf).map fun buf =>
      { uart with
        txFifoBuf := buf
        txFifoLen := uart.txFifoLen - 1
        tx_le := Nat.le_trans (Nat.sub_le _ _) uart.tx_le }
  else some uart

/-- Add a byte to the transmitter FIFO; the index has to be in range. -/
def pushTx (value : BitVec 8) (uart : Uart) : Option Uart :=
  if h : uart.txFifoLen < 16 then
    some { uart with
      txFifoBuf := uart.txFifoBuf.set uart.txFifoLen
        (value &&& uart.charMask)
      txFifoLen := uart.txFifoLen + 1
      tx_le := h }
  else none

/-- `Uart::write_thr`. -/
def writeThr (value : BitVec 8) (uart : Uart) : Option Uart := do
  let uart ← uart.makeRoomTx
  let uart ← uart.pushTx value
  let uart := uart.setLsrTfe false
  return if uart.txFifoLen = 16 then uart.setLsrThre false else uart

/-- `Uart::write_ier`. -/
def writeIer (value : BitVec 8) (uart : Uart) : Uart × List Callback :=
  { uart with ier := value }.updateInterrupt

/-- `Uart::write_fcr`. -/
def writeFcr (value : BitVec 8) (uart : Uart) : Uart × List Callback :=
  let uart :=
    if value.getLsbD 1 then
      { uart with rxFifoLen := 0, rx_le := Nat.zero_le 16 }
    else uart
  let uart :=
    if value.getLsbD 2 then
      { uart with txFifoLen := 0, tx_le := Nat.zero_le 16 }
    else uart
  let rxFifoItl :=
    match value.getLsbD 7, value.getLsbD 6 with
    | false, false => 1
    | false, true => 4
    | true, false => 8
    | true, true => 14
  { uart with rxFifoItl := rxFifoItl }.updateInterrupt

/-- The line control register. -/
def writeLcr (value : BitVec 8) (uart : Uart) : Uart :=
  { uart with lcr := value }

/-- `Uart::read_lsr`: reading clears the overrun error. -/
def readLsr (uart : Uart) : BitVec 8 × Uart :=
  (uart.lsr, if uart.lsrOe then uart.setLsrOe false else uart)

/-- What a read can fail with. -/
inductive ReadError where
  | writeOnly (name : String)
  | addressInvalid (address : BitVec 8)
deriving DecidableEq, Repr

/-- What a write can fail with. -/
inductive WriteError where
  | readOnly (name : String)
  | addressInvalid (address : BitVec 8)
deriving DecidableEq, Repr

/-- `Uart::read`. -/
def readRegister (address : BitVec 8) (uart : Uart) :
    Option (Except ReadError (BitVec 8) × Uart × List Callback) :=
  if address = 0 then
    if uart.dlab then some (.ok uart.readDll, uart, [])
    else uart.readRbr.map fun (value, rest) => (.ok value, rest)
  else if address = 1 then
    if uart.dlab then some (.ok uart.readDlh, uart, [])
    else some (.ok uart.ier, uart, [])
  else if address = 2 then some (.ok uart.iir, uart, [])
  else if address = 3 then some (.ok uart.lcr, uart, [])
  else if address = 4 then
    some (.error (.writeOnly "Modem Control Register"), uart, [])
  else if address = 5 then some (.ok uart.readLsr.1, uart.readLsr.2, [])
  else if address = 6 then some (.ok uart.msr, uart, [])
  else some (.error (.addressInvalid address), uart, [])

/-- `Uart::read_pure`. -/
def readPure (address : BitVec 8) (uart : Uart) :
    Except ReadError (BitVec 8) :=
  if address = 0 then
    if uart.dlab then .ok uart.readDll else .ok uart.readRbrPure
  else if address = 1 then
    if uart.dlab then .ok uart.readDlh else .ok uart.ier
  else if address = 2 then .ok uart.iir
  else if address = 3 then .ok uart.lcr
  else if address = 4 then .error (.writeOnly "Modem Control Register")
  else if address = 5 then .ok uart.lsr
  else if address = 6 then .ok uart.msr
  else .error (.addressInvalid address)

/-- `Uart::write`.  Writes of the modem control register are ignored. -/
def writeRegister (address value : BitVec 8) (uart : Uart) :
    Option (Except WriteError Unit × Uart × List Callback) :=
  if address = 0 then
    if uart.dlab then some (.ok (), uart.writeDll value, [])
    else (uart.writeThr value).map fun uart => (.ok (), uart, [])
  else if address = 1 then
    if uart.dlab then some (.ok (), uart.writeDlh value, [])
    else some (.ok (), uart.writeIer value)
  else if address = 2 then some (.ok (), uart.writeFcr value)
  else if address = 3 then some (.ok (), uart.writeLcr value, [])
  else if address = 4 then some (.ok (), uart, [])
  else if address = 5 then
    some (.error (.readOnly "Line Status Register"), uart, [])
  else if address = 6 then
    some (.error (.readOnly "Modem Status Register"), uart, [])
  else some (.error (.addressInvalid address), uart, [])

/-! ## Bus accesses -/

/-- The first byte of the buffer, if there is one, set to a value read. -/
def fillFirst (buf : List (BitVec 8)) :
    Except ReadError (BitVec 8) → List (BitVec 8)
  | .ok value => buf.set 0 value
  | .error _ => buf

/-- The read of the bus interface: the address space is circular 8-bit. -/
def read (address : BitVec 32) (buf : List (BitVec 8)) (uart : Uart) :
    Option (List (BitVec 8) × Uart × List Callback) :=
  (uart.readRegister (address.setWidth 8)).map fun (result, rest) =>
    (fillFirst buf result, rest)

/-- A read without side effects. -/
def readDebug (address : BitVec 32) (buf : List (BitVec 8)) (uart : Uart) :
    List (BitVec 8) :=
  fillFirst buf (uart.readPure (address.setWidth 8))

/-- The write of the bus interface: of the first byte, or of zero. -/
def write (address : BitVec 32) (buf : List (BitVec 8)) (uart : Uart) :
    Option (Uart × List Callback) :=
  (uart.writeRegister (address.setWidth 8) (buf.head?.getD 0)).map
    fun (_, rest) => rest

/-- `Uart::reset`: everything but the line. -/
def reset (_uart : Uart) : Uart := new

/-! ## The outside world -/

/-- Amount of bytes that can be read from the UART. -/
def pendingOutputAmount (uart : Uart) : ℕ :=
  if !uart.isOperational then 0 else uart.txFifoLen

/-- Amount of bytes that can be written to the UART. -/
def inputSpace (uart : Uart) : ℕ :=
  if !uart.isOperational then 0 else 16 - uart.rxFifoLen

/-- Append `input` to the receiver FIFO as far as there is room. -/
def pushRx (input : List (BitVec 8)) (uart : Uart) : Uart :=
  let inputSize := min (16 - uart.rxFifoLen) input.length
  { uart with
    rxFifoBuf := Vector.ofFn fun i =>
      if uart.rxFifoLen ≤ i.val ∧ i.val < uart.rxFifoLen + inputSize then
        (input[i.val - uart.rxFifoLen]?).getD 0
      else uart.rxFifoBuf[i]
    rxFifoLen := uart.rxFifoLen + inputSize
    rx_le := by
      have hle := uart.rx_le
      omega }

/-- `Uart::push_and_read`: the number of bytes taken from `input`, and the
output. -/
def pushAndRead (input : List (BitVec 8)) (uart : Uart) :
    (ℕ × List (BitVec 8)) × Uart × List Callback :=
  if !uart.isOperational then ((0, []), uart, [])
  else
    let inputSize := min (16 - uart.rxFifoLen) input.length
    let uart := uart.pushRx input
    let uart := if 0 < uart.rxFifoLen then uart.setLsrDr true else uart
    let output := uart.txFifoBuf.toList.take uart.txFifoLen
    let uart := { uart with txFifoLen := 0, tx_le := Nat.zero_le 16 }
    let uart := (uart.setLsrThre true).setLsrTfe true
    ((inputSize, output), uart.updateInterrupt)

/-! ## No access panics -/

/-- A copy within the sixteen bytes does not panic. -/
theorem copyWithin_ne_none {first last : ℕ} (hle : first ≤ last)
    (hlast : last ≤ 16) (buf : FifoBuf) :
    copyWithin first last buf ≠ none := by
  unfold copyWithin
  rw [if_pos ⟨hle, hlast⟩]
  exact Option.some_ne_none _

/-- So taking a byte out does not. -/
theorem popRx_ne_none (uart : Uart) : uart.popRx ≠ none := by
  unfold popRx
  by_cases h : 0 < uart.rxFifoLen
  · rw [if_pos h, ne_eq, Option.map_eq_none_iff]
    exact copyWithin_ne_none h uart.rx_le _
  · rw [if_neg h]
    exact Option.some_ne_none _

/-- No register panics when it is read. -/
theorem readRegister_ne_none (address : BitVec 8) (uart : Uart) :
    uart.readRegister address ≠ none := by
  unfold readRegister
  by_cases hzero : address = 0
  · rw [if_pos hzero]
    split
    · exact Option.some_ne_none _
    · unfold readRbr
      rw [ne_eq, Option.map_eq_none_iff, Option.map_eq_none_iff]
      exact popRx_ne_none uart
  · rw [if_neg hzero]
    repeat' split
    all_goals exact Option.some_ne_none _

/-- What a register reads as does not depend on the side effects. -/
theorem map_readRegister (address : BitVec 8) (uart : Uart) :
    (uart.readRegister address).map Prod.fst
      = some (uart.readPure address) := by
  unfold readRegister readPure
  by_cases hzero : address = 0
  · rw [if_pos hzero, if_pos hzero]
    by_cases hdlab : uart.dlab = true
    · rw [if_pos hdlab, if_pos hdlab]
      rfl
    · rw [if_neg hdlab, if_neg hdlab]
      obtain ⟨uart', hpop⟩ := Option.ne_none_iff_exists'.1 uart.popRx_ne_none
      unfold readRbr
      rw [hpop]
      rfl
  · rw [if_neg hzero, if_neg hzero]
    repeat' split
    all_goals rfl

/-- A debug read returns what a read does. -/
theorem map_read (address : BitVec 32) (buf : List (BitVec 8)) (uart : Uart) :
    (uart.read address buf).map Prod.fst
      = some (uart.readDebug address buf) := by
  have hregister := map_readRegister (address.setWidth 8) uart
  rw [Option.map_eq_some_iff] at hregister
  obtain ⟨⟨result, rest⟩, hregister, hresult⟩ := hregister
  unfold read readDebug
  rw [hregister, ← hresult]
  rfl

/-- With the FIFO full, dropping a byte makes room for the next. -/
theorem makeRoomTx_cases (uart : Uart) :
    ∃ uart', uart.makeRoomTx = some uart' ∧ uart'.txFifoLen < 16 := by
  unfold makeRoomTx
  by_cases h : uart.txFifoLen = 16
  · rw [if_pos h]
    cases hcopy : copyWithin 1 16 uart.txFifoBuf with
    | none => exact absurd hcopy (copyWithin_ne_none (by decide) (by decide) _)
    | some buf =>
        refine ⟨_, rfl, ?_⟩
        show uart.txFifoLen - 1 < 16
        omega
  · rw [if_neg h]
    have hle := uart.tx_le
    exact ⟨uart, rfl, by omega⟩

/-- A byte is dropped to make room for the new one. -/
theorem writeThr_ne_none (value : BitVec 8) (uart : Uart) :
    uart.writeThr value ≠ none := by
  obtain ⟨uart', hroom, hlt⟩ := makeRoomTx_cases uart
  have hpush : uart'.pushTx value ≠ none := by
    unfold pushTx
    rw [dif_pos hlt]
    exact Option.some_ne_none _
  unfold writeThr
  rw [hroom]
  cases h : uart'.pushTx value with
  | none => exact absurd h hpush
  | some uart'' =>
      simp only [Option.bind_eq_bind, Option.bind_some, h]
      exact Option.some_ne_none _

/-- No register panics when it is written. -/
theorem writeRegister_ne_none (address value : BitVec 8) (uart : Uart) :
    uart.writeRegister address value ≠ none := by
  unfold writeRegister
  by_cases hzero : address = 0
  · rw [if_pos hzero]
    split
    · exact Option.some_ne_none _
    · rw [ne_eq, Option.map_eq_none_iff]
      exact writeThr_ne_none value uart
  · rw [if_neg hzero]
    repeat' split
    all_goals exact Option.some_ne_none _

/-- A read of the bus never panics. -/
theorem read_ne_none (address : BitVec 32) (buf : List (BitVec 8))
    (uart : Uart) : uart.read address buf ≠ none := by
  unfold read
  rw [ne_eq, Option.map_eq_none_iff]
  exact readRegister_ne_none _ uart

theorem write_ne_none (address : BitVec 32) (buf : List (BitVec 8))
    (uart : Uart) : uart.write address buf ≠ none := by
  unfold write
  rw [ne_eq, Option.map_eq_none_iff]
  exact writeRegister_ne_none _ _ uart

end Uart

end RedPlanet.Resources
