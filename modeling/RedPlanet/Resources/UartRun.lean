import Mathlib.Data.List.Induction
import RedPlanet.Resources.Uart

/-!
# Runs of the UART

The guest reads and writes registers, the host exchanges bytes, and the board
resets, in any order.  `Step` has one case for each thing the UART does, and
`step_of_apply` says that an operation is one of them; the results about runs
are case analyses of it.

What a FIFO holds is the list of its bytes (`rxContents`, `txContents`), and
each of the source's functions has a lemma that says what it does to the two
lists.  A run is a trace of exchanges, with what the guest and the host got
back, and the states before and after.
-/

namespace RedPlanet.Resources

open RedPlanet.Core RedPlanet.Verified

namespace Uart

/-! ## The contents of the FIFOs -/

/-- The bytes in the receiver FIFO, the oldest first. -/
def rxContents (uart : Uart) : List (BitVec 8) :=
  uart.rxFifoBuf.toList.take uart.rxFifoLen

/-- The bytes in the transmitter FIFO, the oldest first. -/
def txContents (uart : Uart) : List (BitVec 8) :=
  uart.txFifoBuf.toList.take uart.txFifoLen

/-- The length register counts them. -/
@[simp] theorem length_rxContents (uart : Uart) :
    uart.rxContents.length = uart.rxFifoLen := by
  unfold rxContents
  rw [List.length_take, Vector.length_toList, Nat.min_eq_left uart.rx_le]

/-- The length register counts them. -/
@[simp] theorem length_txContents (uart : Uart) :
    uart.txContents.length = uart.txFifoLen := by
  unfold txContents
  rw [List.length_take, Vector.length_toList, Nat.min_eq_left uart.tx_le]

/-! ### Operations that leave them alone -/

section Frame

variable (i : ℕ) (value : Bool) (input : List (BitVec 8)) (uart : Uart)

@[simp] theorem rxFifoLen_setLsr :
    (uart.setLsr i value).rxFifoLen = uart.rxFifoLen := rfl

@[simp] theorem rxContents_setLsr :
    (uart.setLsr i value).rxContents = uart.rxContents := rfl

@[simp] theorem txContents_setLsr :
    (uart.setLsr i value).txContents = uart.txContents := rfl

@[simp] theorem ier_setLsr : (uart.setLsr i value).ier = uart.ier := rfl

@[simp] theorem lsr_setLsr :
    (uart.setLsr i value).lsr = setBit uart.lsr i value := rfl

@[simp] theorem txContents_pushRx :
    (uart.pushRx input).txContents = uart.txContents := by
  unfold txContents pushRx
  rfl

@[simp] theorem ier_pushRx : (uart.pushRx input).ier = uart.ier := by
  unfold pushRx
  rfl

@[simp] theorem lsr_pushRx : (uart.pushRx input).lsr = uart.lsr := by
  unfold pushRx
  rfl

@[simp] theorem ier_updateInterrupt :
    uart.updateInterrupt.1.ier = uart.ier := rfl

end Frame

/-! ### Moving and storing bytes -/

/-- Moving the bytes up by one drops the first. -/
theorem take_copyWithin {n : ℕ} (hn : n ≤ 16) {buf buf' : FifoBuf}
    (h : copyWithin 1 n buf = some buf') :
    buf'.toList.take (n - 1) = (buf.toList.take n).drop 1 := by
  unfold copyWithin at h
  split at h
  · cases h
    apply List.ext_getElem?
    intro i
    rw [List.getElem?_drop, List.getElem?_take, List.getElem?_take]
    by_cases hi : i < n - 1
    · have hnext : 1 + i < n := by omega
      have hself : i < 16 := by omega
      have hlt : 1 + i < 16 := by omega
      rw [if_pos hi, if_pos hnext]
      simp [hi, hself, hlt]
    · have hnext : ¬ 1 + i < n := by omega
      rw [if_neg hi, if_neg hnext]
  · exact nomatch h

/-- Appending some bytes of the input to those of a buffer. -/
theorem take_ofFn_append {n k : ℕ} {input : List (BitVec 8)} (buf : FifoBuf)
    (hn : n + k ≤ 16) (hk : k ≤ input.length) :
    (Vector.ofFn fun i : Fin 16 =>
        if n ≤ i.val ∧ i.val < n + k then (input[i.val - n]?).getD 0
        else buf[i]).toList.take (n + k) =
      buf.toList.take n ++ input.take k := by
  have hlength : (buf.toList.take n).length = n := by
    rw [List.length_take, Vector.length_toList]
    omega
  apply List.ext_getElem?
  intro i
  rw [List.getElem?_take]
  by_cases hi : i < n + k
  · have hself : i < 16 := by omega
    rw [if_pos hi]
    by_cases hold : i < n
    · have hnot : ¬ (n ≤ i ∧ i < n + k) := by omega
      rw [List.getElem?_append_left (by omega), List.getElem?_take,
        if_pos hold]
      simp [hself, hnot]
    · have hnew : n ≤ i ∧ i < n + k := by omega
      have hlt : i - n < input.length := by omega
      have htake : i - n < k := by omega
      rw [List.getElem?_append_right (by omega), hlength, List.getElem?_take,
        if_pos htake]
      simp [hself, hnew, hlt]
  · have hend : (buf.toList.take n ++ input.take k).length ≤ i := by
      rw [List.length_append, hlength, List.length_take]
      omega
    rw [if_neg hi, List.getElem?_eq_none hend]

/-- Storing a byte behind those of a buffer. -/
theorem take_set_append {n : ℕ} (hn : n < 16) (value : BitVec 8)
    (buf : FifoBuf) :
    (buf.set n value).toList.take (n + 1) = buf.toList.take n ++ [value] := by
  rw [Vector.toList_set, List.take_add_one, List.take_set_of_le (Nat.le_refl n)]
  simp [hn]

/-! ## Popping and pushing -/

/-- The oldest byte is taken out of the receiver FIFO. -/
theorem rxContents_popRx {uart after : Uart} (h : uart.popRx = some after) :
    after.rxContents = uart.rxContents.drop 1 ∧
      after.txContents = uart.txContents ∧ after.ier = uart.ier ∧
      after.lsr =
        if uart.rxFifoLen = 1 then setBit uart.lsr 0 false else uart.lsr := by
  unfold popRx at h
  by_cases hpos : 0 < uart.rxFifoLen
  · rw [if_pos hpos] at h
    obtain ⟨buf, hcopy, hafter⟩ := Option.map_eq_some_iff.1 h
    have htake := take_copyWithin uart.rx_le hcopy
    have hlast : uart.rxFifoLen - 1 = 0 ↔ uart.rxFifoLen = 1 := by omega
    dsimp only at hafter
    rw [if_congr hlast rfl rfl] at hafter
    subst hafter
    by_cases hone : uart.rxFifoLen = 1
    · rw [if_pos hone, if_pos hone]
      exact ⟨htake, rfl, rfl, rfl⟩
    · rw [if_neg hone, if_neg hone]
      exact ⟨htake, rfl, rfl, rfl⟩
  · have hempty : uart.rxContents = [] := by
      apply List.eq_nil_of_length_eq_zero
      rw [length_rxContents]
      omega
    rw [if_neg hpos] at h
    cases h
    rw [hempty, if_neg (by omega)]
    exact ⟨rfl, rfl, rfl, rfl⟩

/-- The byte that a read of the receiver buffer returns. -/
theorem head_rxContents {uart : Uart} (h : 0 < uart.rxFifoLen) :
    uart.rxContents.take 1 = [uart.rxFifoBuf[0]] := by
  have hle := uart.rx_le
  unfold rxContents
  rw [List.take_take, Nat.min_eq_left h]
  apply List.ext_getElem?
  intro i
  rw [List.getElem?_take]
  by_cases hi : i < 1
  · have hzero : i = 0 := by omega
    subst hzero
    simp
  · rw [if_neg hi, List.getElem?_eq_none (by simp; omega)]

/-- The oldest byte is dropped if the transmitter FIFO is full. -/
theorem makeRoomTx_spec {uart after : Uart} (h : uart.makeRoomTx = some after) :
    after.txContents =
        (if uart.txFifoLen = 16 then uart.txContents.drop 1
          else uart.txContents) ∧
      after.rxContents = uart.rxContents ∧ after.ier = uart.ier ∧
      after.lcr = uart.lcr ∧ after.lsr = uart.lsr := by
  unfold makeRoomTx at h
  by_cases hfull : uart.txFifoLen = 16
  · rw [if_pos hfull] at h
    obtain ⟨buf, hcopy, hafter⟩ := Option.map_eq_some_iff.1 h
    subst hafter
    rw [if_pos hfull]
    refine ⟨?_, rfl, rfl, rfl, rfl⟩
    show buf.toList.take (uart.txFifoLen - 1) =
      (uart.txFifoBuf.toList.take uart.txFifoLen).drop 1
    rw [hfull]
    exact take_copyWithin (Nat.le_refl 16) hcopy
  · rw [if_neg hfull] at h
    cases h
    rw [if_neg hfull]
    exact ⟨rfl, rfl, rfl, rfl, rfl⟩

/-- A byte is cut down to a character and added. -/
theorem pushTx_spec {value : BitVec 8} {uart after : Uart}
    (h : uart.pushTx value = some after) :
    after.txContents = uart.txContents ++ [value &&& uart.charMask] ∧
      after.rxContents = uart.rxContents ∧ after.ier = uart.ier ∧
      after.lsr = uart.lsr := by
  unfold pushTx at h
  split at h
  · rename_i hlt
    cases h
    exact ⟨take_set_append hlt _ _, rfl, rfl, rfl⟩
  · exact nomatch h

/-- The steps of a write to the transmitter. -/
theorem writeThr_cases {value : BitVec 8} {uart after : Uart}
    (h : uart.writeThr value = some after) :
    ∃ room pushed, uart.makeRoomTx = some room ∧
      room.pushTx value = some pushed ∧
      after = if pushed.txFifoLen = 16 then
          (pushed.setLsrTfe false).setLsrThre false
        else pushed.setLsrTfe false := by
  unfold writeThr at h
  simp only [Option.bind_eq_bind, Option.bind_eq_some_iff, Option.pure_def,
    Option.some.injEq] at h
  obtain ⟨room, hroom, pushed, hpush, hafter⟩ := h
  exact ⟨room, pushed, hroom, hpush, hafter.symm⟩

/-- A byte written to the transmitter drops the oldest one if the FIFO is
full. -/
theorem writeThr_spec {value : BitVec 8} {uart after : Uart}
    (h : uart.writeThr value = some after) :
    after.txContents =
        (if uart.txFifoLen = 16 then uart.txContents.drop 1
          else uart.txContents) ++ [value &&& uart.charMask] ∧
      after.rxContents = uart.rxContents ∧ after.ier = uart.ier ∧
      after.lsr =
        if after.txFifoLen = 16 then
          setBit (setBit uart.lsr 6 false) 5 false
        else setBit uart.lsr 6 false := by
  obtain ⟨room, pushed, hroom, hpush, hafter⟩ := writeThr_cases h
  obtain ⟨htx, hrx, hier, hlcr, hlsr⟩ := makeRoomTx_spec hroom
  obtain ⟨htx', hrx', hier', hlsr'⟩ := pushTx_spec hpush
  have hmask : room.charMask = uart.charMask := by
    unfold charMask
    rw [hlcr]
  rw [hmask, htx] at htx'
  rw [hrx] at hrx'
  rw [hier] at hier'
  rw [hlsr] at hlsr'
  by_cases hfull : pushed.txFifoLen = 16
  · rw [if_pos hfull] at hafter
    subst hafter
    refine ⟨htx', hrx', hier', ?_⟩
    rw [← hlsr']
    exact (if_pos hfull).symm
  · rw [if_neg hfull] at hafter
    subst hafter
    refine ⟨htx', hrx', hier', ?_⟩
    rw [← hlsr']
    exact (if_neg hfull).symm

/-! ## Resetting the FIFOs and exchanging bytes -/

/-- The two reset bits empty their FIFOs. -/
theorem writeFcr_spec (value : BitVec 8) (uart : Uart) :
    (uart.writeFcr value).1.rxContents =
        (if value.getLsbD 1 then [] else uart.rxContents) ∧
      (uart.writeFcr value).1.txContents =
        (if value.getLsbD 2 then [] else uart.txContents) ∧
      (uart.writeFcr value).1.ier = uart.ier ∧
      (uart.writeFcr value).1.lsr = uart.lsr := by
  unfold writeFcr
  cases value.getLsbD 1 <;> cases value.getLsbD 2 <;>
    exact ⟨rfl, rfl, rfl, rfl⟩

/-- The output is handed over. -/
def drainTx (uart : Uart) : Uart :=
  let uart := { uart with txFifoLen := 0, tx_le := new.tx_le }
  (uart.setLsrThre true).setLsrTfe true

/-- The transmitter FIFO is empty then. -/
theorem drainTx_spec (uart : Uart) :
    uart.drainTx.rxContents = uart.rxContents ∧
      uart.drainTx.rxFifoLen = uart.rxFifoLen ∧
      uart.drainTx.txContents = [] ∧ uart.drainTx.ier = uart.ier ∧
      uart.drainTx.lsr = setBit (setBit uart.lsr 5 true) 6 true :=
  ⟨rfl, rfl, rfl, rfl, rfl⟩

/-- The input is taken, as far as there is room. -/
def takeRx (input : List (BitVec 8)) (uart : Uart) : Uart :=
  if 0 < (uart.pushRx input).rxFifoLen then
    (uart.pushRx input).setLsrDr true
  else uart.pushRx input

/-- The input is cut down to the room that there is. -/
theorem takeRx_spec (input : List (BitVec 8)) (uart : Uart) :
    (uart.takeRx input).rxContents = uart.rxContents ++
        input.take (min (16 - uart.rxFifoLen) input.length) ∧
      (uart.takeRx input).txContents = uart.txContents ∧
      (uart.takeRx input).ier = uart.ier ∧
      (uart.takeRx input).lsr =
        if 0 < (uart.takeRx input).rxFifoLen then setBit uart.lsr 0 true
        else uart.lsr := by
  have hle := uart.rx_le
  have hrx : (uart.pushRx input).rxContents = uart.rxContents ++
      input.take (min (16 - uart.rxFifoLen) input.length) :=
    take_ofFn_append uart.rxFifoBuf (by omega) (Nat.min_le_right ..)
  unfold takeRx setLsrDr
  by_cases hpos : 0 < (uart.pushRx input).rxFifoLen
  · simp only [if_pos hpos, rxContents_setLsr, txContents_setLsr,
      ier_setLsr, lsr_setLsr, rxFifoLen_setLsr, txContents_pushRx, ier_pushRx,
      lsr_pushRx, and_self, and_true]
    exact hrx
  · simp only [if_neg hpos, txContents_pushRx, ier_pushRx, lsr_pushRx,
      and_self, and_true]
    exact hrx

/-- Bytes are taken as far as there is room, and all output is handed over. -/
theorem pushAndRead_eq {uart : Uart} (h : uart.isOperational = true)
    (input : List (BitVec 8)) :
    uart.pushAndRead input =
      ((min (16 - uart.rxFifoLen) input.length, uart.txContents),
        (uart.takeRx input).drainTx.updateInterrupt) := by
  have hpush : uart.pushAndRead input =
      ((min (16 - uart.rxFifoLen) input.length,
          (uart.takeRx input).txContents),
        (uart.takeRx input).drainTx.updateInterrupt) := by
    unfold pushAndRead
    rw [h, if_neg (by decide)]
    rfl
  rw [hpush, (takeRx_spec input uart).2.1]

/-- As much is handed over as was announced. -/
theorem length_output (input : List (BitVec 8)) (uart : Uart) :
    (uart.pushAndRead input).1.2.length = uart.pendingOutputAmount := by
  unfold pendingOutputAmount
  cases hoperational : uart.isOperational with
  | true =>
      rw [pushAndRead_eq hoperational]
      simp
  | false =>
      unfold pushAndRead
      rw [hoperational]
      rfl

/-! ## Operations -/

/-- One call of the UART.  The accesses of the bus arrive here as `read` and
`write`. -/
inductive Operation where
  | read (address : BitVec 8)
  | write (address value : BitVec 8)
  | pushAndRead (input : List (BitVec 8))
  | reset
deriving DecidableEq, Repr

/-- What the caller gets back. -/
inductive Reply where
  | read (result : Except ReadError (BitVec 8))
  | written (result : Except WriteError Unit)
  | exchanged (taken : ℕ) (output : List (BitVec 8))
  | reset

/-- The function of the source, with its result. -/
def Operation.apply (uart : Uart) :
    Operation → Option (Reply × Uart × List Callback)
  | .read address =>
      (uart.readRegister address).map fun (result, rest) =>
        (.read result, rest)
  | .write address value =>
      (uart.writeRegister address value).map fun (result, rest) =>
        (.written result, rest)
  | .pushAndRead input =>
      let ((taken, output), rest) := uart.pushAndRead input
      some (.exchanged taken output, rest)
  | .reset => some (.reset, uart.reset, [])

/-- The receiver buffer and the transmitter are at this address. -/
def AtData (address : BitVec 8) (uart : Uart) : Prop :=
  address = 0 ∧ uart.dlab = false

instance (address : BitVec 8) (uart : Uart) :
    Decidable (AtData address uart) := inferInstanceAs (Decidable (_ ∧ _))

/-- Other addresses, and these with DLAB set. -/
theorem not_atData {uart : Uart} {address : BitVec 8}
    (h : address = 0 → uart.dlab = true) : ¬ AtData address uart := by
  intro ⟨hzero, hdlab⟩
  rw [h hzero] at hdlab
  exact nomatch hdlab

/-- What an operation does. -/
inductive Step (uart : Uart) :
    Operation → Reply → Uart → List Callback → Prop
  /-- A register that is read without an effect. -/
  | plainRead {address : BitVec 8} {result : Except ReadError (BitVec 8)}
      (plain : address = 0 → uart.dlab = true) :
      Step uart (.read address) (.read result) uart []
  /-- The receiver buffer. -/
  | receive {after : Uart} (dlab : uart.dlab = false)
      (pop : uart.popRx = some after) :
      Step uart (.read 0) (.read (.ok uart.readRbrPure))
        after.updateInterrupt.1 after.updateInterrupt.2
  /-- The line status, which loses its overrun error. -/
  | readLsr :
      Step uart (.read 5) (.read (.ok uart.readLsr.1)) uart.readLsr.2 []
  /-- A register that only configures the UART, or none. -/
  | configure {address value : BitVec 8} {result : Except WriteError Unit}
      {lcr : BitVec 8} {dlr : BitVec 16}
      (plain : address = 0 ∨ address = 1 → uart.dlab = true)
      (other : address ≠ 2) :
      Step uart (.write address value) (.written result)
        { uart with lcr := lcr, dlr := dlr } []
  /-- The transmitter holding register. -/
  | transmit {value : BitVec 8} {after : Uart} (dlab : uart.dlab = false)
      (write : uart.writeThr value = some after) :
      Step uart (.write 0 value) (.written (.ok ())) after []
  /-- The interrupt enable register. -/
  | enable {value : BitVec 8} (dlab : uart.dlab = false) :
      Step uart (.write 1 value) (.written (.ok ()))
        { uart with ier := value }.updateInterrupt.1
        { uart with ier := value }.updateInterrupt.2
  /-- The FIFO control register. -/
  | control {value : BitVec 8} :
      Step uart (.write 2 value) (.written (.ok ())) (uart.writeFcr value).1
        (uart.writeFcr value).2
  /-- The divisor latch is zero: nothing is exchanged. -/
  | idle {input : List (BitVec 8)} (idle : uart.isOperational = false) :
      Step uart (.pushAndRead input) (.exchanged 0 []) uart []
  | exchange {input : List (BitVec 8)}
      (operational : uart.isOperational = true) :
      Step uart (.pushAndRead input)
        (.exchanged (min (16 - uart.rxFifoLen) input.length) uart.txContents)
        (uart.takeRx input).drainTx.updateInterrupt.1
        (uart.takeRx input).drainTx.updateInterrupt.2
  | reset : Step uart .reset .reset new []

/-- A read takes a byte out, or clears the overrun, or changes nothing. -/
theorem step_read {address : BitVec 8} {uart after : Uart}
    {result : Except ReadError (BitVec 8)} {calls : List Callback}
    (h : uart.readRegister address = some (result, after, calls)) :
    Step uart (.read address) (.read result) after calls := by
  unfold readRegister at h
  by_cases hzero : address = 0
  · rw [if_pos hzero] at h
    subst hzero
    by_cases hdlab : uart.dlab = true
    · rw [if_pos hdlab] at h
      cases h
      exact .plainRead fun _ => hdlab
    · rw [if_neg hdlab] at h
      unfold readRbr at h
      simp only [Option.map_eq_some_iff] at h
      obtain ⟨_, ⟨popped, hpop, hpair⟩, hresult⟩ := h
      cases hpair
      cases hresult
      exact .receive (Bool.not_eq_true _ ▸ hdlab) hpop
  · rw [if_neg hzero] at h
    have hplain : address = 0 → uart.dlab = true := fun h => absurd h hzero
    by_cases hone : address = 1
    · rw [if_pos hone] at h
      split at h <;> cases h <;> exact .plainRead hplain
    · rw [if_neg hone] at h
      by_cases hlsr : address = 5
      · subst hlsr
        cases h
        exact .readLsr
      · rw [if_neg hlsr] at h
        split at h
        · cases h
          exact .plainRead hplain
        · split at h
          · cases h
            exact .plainRead hplain
          · split at h
            · cases h
              exact .plainRead hplain
            · split at h <;> cases h <;> exact .plainRead hplain

/-- A write adds a byte, resets FIFOs, or is about other registers. -/
theorem step_write {address value : BitVec 8} {uart after : Uart}
    {result : Except WriteError Unit} {calls : List Callback}
    (h : uart.writeRegister address value = some (result, after, calls)) :
    Step uart (.write address value) (.written result) after calls := by
  unfold writeRegister at h
  by_cases hzero : address = 0
  · rw [if_pos hzero] at h
    subst hzero
    by_cases hdlab : uart.dlab = true
    · rw [if_pos hdlab] at h
      cases h
      exact .configure (fun _ => hdlab) (by decide)
    · rw [if_neg hdlab] at h
      obtain ⟨written, hwrite, hresult⟩ := Option.map_eq_some_iff.1 h
      cases hresult
      exact .transmit (Bool.not_eq_true _ ▸ hdlab) hwrite
  · rw [if_neg hzero] at h
    by_cases hone : address = 1
    · rw [if_pos hone] at h
      subst hone
      by_cases hdlab : uart.dlab = true
      · rw [if_pos hdlab] at h
        cases h
        exact .configure (fun _ => hdlab) (by decide)
      · rw [if_neg hdlab] at h
        cases h
        exact .enable (Bool.not_eq_true _ ▸ hdlab)
    · rw [if_neg hone] at h
      have hplain : address = 0 ∨ address = 1 → uart.dlab = true := by
        intro hdivisor
        cases hdivisor with
        | inl h => exact absurd h hzero
        | inr h => exact absurd h hone
      by_cases htwo : address = 2
      · rw [if_pos htwo] at h
        subst htwo
        cases h
        exact .control
      · rw [if_neg htwo] at h
        split at h
        · cases h
          exact .configure hplain htwo
        · split at h
          · cases h
            exact .configure hplain htwo
          · split at h
            · cases h
              exact .configure hplain htwo
            · split at h <;> cases h <;> exact .configure hplain htwo

/-- An exchange takes the input and hands the output over, if the UART is
operational. -/
theorem step_pushAndRead (input : List (BitVec 8)) (uart : Uart) :
    Step uart (.pushAndRead input)
      (.exchanged (uart.pushAndRead input).1.1 (uart.pushAndRead input).1.2)
      (uart.pushAndRead input).2.1 (uart.pushAndRead input).2.2 := by
  by_cases hoperational : uart.isOperational = true
  · rw [pushAndRead_eq hoperational]
    exact .exchange hoperational
  · have hidle : uart.isOperational = false := by simpa using hoperational
    have hpush : uart.pushAndRead input = ((0, []), uart, []) := by
      unfold pushAndRead
      rw [hidle]
      rfl
    rw [hpush]
    exact .idle hidle

/-- Every operation is one of these steps. -/
theorem step_of_apply {op : Operation} {uart after : Uart} {reply : Reply}
    {calls : List Callback} (h : op.apply uart = some (reply, after, calls)) :
    Step uart op reply after calls := by
  cases op with
  | read address =>
      obtain ⟨⟨result, rest⟩, hread, hresult⟩ := Option.map_eq_some_iff.1 h
      cases hresult
      exact step_read hread
  | write address value =>
      obtain ⟨⟨result, rest⟩, hwrite, hresult⟩ := Option.map_eq_some_iff.1 h
      cases hresult
      exact step_write hwrite
  | pushAndRead input =>
      have hpair : (Reply.exchanged (uart.pushAndRead input).1.1
          (uart.pushAndRead input).1.2, (uart.pushAndRead input).2) =
          (reply, after, calls) := Option.some.inj h
      have hstep := step_pushAndRead input uart
      obtain ⟨hreply, hrest⟩ := Prod.mk.inj hpair
      rw [hreply, hrest] at hstep
      exact hstep
  | reset =>
      cases h
      exact .reset

/-! ## Runs -/

/-- One operation of a run. -/
structure Exchange where
  before : Uart
  op : Operation
  reply : Reply
  after : Uart
  calls : List Callback

/-- Any number of operations, the latest one last in the trace. -/
inductive Run (start : Uart) : List Exchange → Uart → Prop
  | start : Run start [] start
  | step {trace : List Exchange} {uart after : Uart} {op : Operation}
      {reply : Reply} {calls : List Callback} (run : Run start trace uart)
      (apply : op.apply uart = some (reply, after, calls)) :
      Run start (trace ++ [⟨uart, op, reply, after, calls⟩]) after

/-- No operation gets stuck. -/
theorem apply_ne_none (op : Operation) (uart : Uart) :
    op.apply uart ≠ none := by
  cases op with
  | read address =>
      rw [ne_eq]
      exact Option.map_eq_none_iff.not.2 (readRegister_ne_none address uart)
  | write address value =>
      exact Option.map_eq_none_iff.not.2
        (writeRegister_ne_none address value uart)
  | pushAndRead input => exact Option.some_ne_none _
  | reset => exact Option.some_ne_none _

/-- The trace of some operations and the state after them. -/
def record (ops : List Operation) (start : Uart) :
    Option (List Exchange × Uart) :=
  ops.foldl (fun state op => state.bind fun (trace, uart) =>
    (op.apply uart).map fun (reply, after, calls) =>
      (trace ++ [⟨uart, op, reply, after, calls⟩], after)) (some ([], start))

/-- Operations that are carried out make up a run. -/
theorem run_of_record {ops : List Operation} {start uart : Uart}
    {trace : List Exchange} (h : record ops start = some (trace, uart)) :
    Run start trace uart ∧ trace.map Exchange.op = ops := by
  induction ops using List.reverseRecOn generalizing trace uart with
  | nil =>
      cases h
      exact ⟨.start, rfl⟩
  | append_singleton ops op ih =>
      unfold record at h
      rw [List.foldl_append, List.foldl_cons, List.foldl_nil] at h
      obtain ⟨⟨before, mid⟩, hmid, hop⟩ := Option.bind_eq_some_iff.1 h
      obtain ⟨⟨reply, after, calls⟩, happly, hafter⟩ :=
        Option.map_eq_some_iff.1 hop
      obtain ⟨hrun, hops⟩ := ih hmid
      cases hafter
      refine ⟨hrun.step happly, ?_⟩
      rw [List.map_append, hops]
      rfl

/-- Every sequence of operations is a run. -/
theorem exists_run (ops : List Operation) (start : Uart) :
    ∃ trace uart, Run start trace uart ∧ trace.map Exchange.op = ops := by
  induction ops using List.reverseRecOn with
  | nil => exact ⟨[], start, .start, rfl⟩
  | append_singleton ops op ih =>
      obtain ⟨trace, uart, hrun, hops⟩ := ih
      obtain ⟨⟨reply, after, calls⟩, happly⟩ :=
        Option.ne_none_iff_exists'.1 (apply_ne_none op uart)
      refine ⟨_, after, hrun.step happly, ?_⟩
      rw [List.map_append, hops]
      rfl

end Uart

end RedPlanet.Resources
