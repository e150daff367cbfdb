import RedPlanet.Resources.UartRun
import RedPlanet.Verified.Ledger

/-!
# Nothing gets lost silently

Each FIFO is a queue with a ledger: bytes are delivered in the order in which
they came in, and discarded only by a reset, or by a write to the transmitter
while sixteen bytes are pending.

The ledgers are kept from what the guest and the host see of a run, operation
by operation; `rxStep_of_valid` and `txStep_of_valid` say that each operation
does to the FIFO what is noted for it, and `fifos_preserve_order` that the
ledgers are those of the FIFOs after every run.
-/

namespace RedPlanet.Resources

open RedPlanet.Core RedPlanet.Verified

namespace Uart

/-! ## The character length -/

/-- A character has five to eight bits. -/
theorem getLsbD_charMask (uart : Uart) (i : ℕ) :
    uart.charMask.getLsbD i =
      decide (i < 5 + (uart.lcr.extractLsb' 0 2).toNat) := by
  have hbits : uart.lcr &&& 0b11 =
      (uart.lcr.extractLsb' 0 2).setWidth 8 := by
    apply BitVec.eq_of_getLsbD_eq
    intro k hk
    have hlow : (0b11 : BitVec 8).getLsbD k = decide (k < 2) := by
      revert k
      decide
    rw [BitVec.getLsbD_and, BitVec.getLsbD_setWidth,
      BitVec.getLsbD_extractLsb', hlow, Nat.zero_add, decide_eq_true hk,
      Bool.true_and, Bool.and_comm]
  have hmask : ∀ bits : BitVec 2, ∀ i < 8,
      (((1#8 <<< (bits.setWidth 8 + 1).toNat - 1) <<< 4) ||| 0xF).getLsbD i =
        decide (i < 5 + bits.toNat) := by
    decide
  by_cases hi : i < 8
  · unfold charMask
    rw [hbits]
    exact hmask _ i hi
  · have hlt := (uart.lcr.extractLsb' 0 2).isLt
    have hnot : ¬ i < 5 + (uart.lcr.extractLsb' 0 2).toNat := by omega
    rw [BitVec.getLsbD_of_ge _ i (by omega), decide_eq_false hnot]

/-- The number of bits of a character, from the line control register. -/
def characterLength (uart : Uart) : ℕ :=
  5 + (uart.lcr.extractLsb' 0 2).toNat

/-- A byte cut down to the length of a character. -/
def character (value : BitVec 8) (uart : Uart) : BitVec 8 :=
  (value.setWidth uart.characterLength).setWidth 8

/-- The mask keeps the bits of a character. -/
theorem and_charMask (value : BitVec 8) (uart : Uart) :
    value &&& uart.charMask = uart.character value := by
  apply BitVec.eq_of_getLsbD_eq
  intro i hi
  unfold character
  rw [BitVec.getLsbD_and, getLsbD_charMask, BitVec.getLsbD_setWidth,
    BitVec.getLsbD_setWidth, decide_eq_true hi, Bool.true_and, Bool.and_comm]
  rfl

/-! ## What is seen of a run -/

namespace Exchange

/-- The bytes that `push_and_read` took. -/
def accepted (e : Exchange) : List (BitVec 8) :=
  match e.op, e.reply with
  | .pushAndRead input, .exchanged taken _ => input.take taken
  | _, _ => []

/-- The byte returned by a receive read while the FIFO is not empty. -/
def received (e : Exchange) : List (BitVec 8) :=
  match e.op, e.reply with
  | .read address, .read (.ok value) =>
      if AtData address e.before ∧ 0 < e.before.rxFifoLen then [value] else []
  | _, _ => []

/-- The byte written to the transmitter, cut down to the character length in
force. -/
def transmitted (e : Exchange) : List (BitVec 8) :=
  match e.op with
  | .write address value =>
      if AtData address e.before then [e.before.character value] else []
  | _ => []

/-- The output of `push_and_read`. -/
def output (e : Exchange) : List (BitVec 8) :=
  match e.reply with
  | .exchanged _ output => output
  | _ => []

/-- The exchange resets the receiver FIFO. -/
def ResetsRx (e : Exchange) : Prop :=
  match e.op with
  | .write address value => address = 2 ∧ value.getLsbD 1 = true
  | .reset => True
  | _ => False

/-- The exchange resets the transmitter FIFO. -/
def ResetsTx (e : Exchange) : Prop :=
  match e.op with
  | .write address value => address = 2 ∧ value.getLsbD 2 = true
  | .reset => True
  | _ => False

instance (e : Exchange) : Decidable e.ResetsRx := by
  unfold ResetsRx
  cases e.op <;> infer_instance

instance (e : Exchange) : Decidable e.ResetsTx := by
  unfold ResetsTx
  cases e.op <;> infer_instance

/-- The ledger of the receiver FIFO after an exchange. -/
def rxLedger (ledger : Ledger (BitVec 8)) (e : Exchange) :
    Ledger (BitVec 8) :=
  if e.ResetsRx then ledger.flush
  else (ledger.settle e.received.length .delivered).enter e.accepted

/-- The ledger of the transmitter FIFO after an exchange.  The oldest byte
makes room if sixteen are pending. -/
def txLedger (ledger : Ledger (BitVec 8)) (e : Exchange) :
    Ledger (BitVec 8) :=
  if e.ResetsTx then ledger.flush
  else if e.transmitted ≠ [] ∧ ledger.waiting.length = 16 then
    (ledger.settle 1 .discarded).enter e.transmitted
  else (ledger.settle e.output.length .delivered).enter e.transmitted

end Exchange

/-! ## One exchange -/

namespace Exchange

/-- The exchange is a step of the UART. -/
def Valid (e : Exchange) : Prop := Step e.before e.op e.reply e.after e.calls

/-- The receiver FIFO is emptied, or what is received leaves it at the front
and what is accepted enters it at the end. -/
def RxStep (e : Exchange) : Prop :=
  (e.ResetsRx ∧ e.accepted = [] ∧ e.received = [] ∧
    e.after.rxContents = []) ∨
  (¬ e.ResetsRx ∧
    e.before.rxContents.take e.received.length = e.received ∧
    e.after.rxContents =
      e.before.rxContents.drop e.received.length ++ e.accepted)

/-- The transmitter FIFO is emptied, or the oldest byte makes room, or the
output leaves it at the front; what is transmitted enters it at the end. -/
def TxStep (e : Exchange) : Prop :=
  (e.ResetsTx ∧ e.transmitted = [] ∧ e.output = [] ∧
    e.after.txContents = []) ∨
  (¬ e.ResetsTx ∧ e.output = [] ∧ e.transmitted ≠ [] ∧
    e.before.txContents.length = 16 ∧
    e.after.txContents = e.before.txContents.drop 1 ++ e.transmitted) ∨
  (¬ e.ResetsTx ∧
    ¬ (e.transmitted ≠ [] ∧ e.before.txContents.length = 16) ∧
    e.before.txContents.take e.output.length = e.output ∧
    e.after.txContents =
      e.before.txContents.drop e.output.length ++ e.transmitted)

/-- An operation that is not about the receiver. -/
theorem rxStep_of_same {e : Exchange} (hreset : ¬ e.ResetsRx)
    (haccepted : e.accepted = []) (hreceived : e.received = [])
    (hsame : e.after.rxContents = e.before.rxContents) : e.RxStep := by
  refine Or.inr ⟨hreset, ?_, ?_⟩
  · rw [hreceived]
    rfl
  · rw [hreceived, haccepted, hsame]
    exact (List.append_nil _).symm

/-- An operation that is not about the transmitter. -/
theorem txStep_of_same {e : Exchange} (hreset : ¬ e.ResetsTx)
    (htransmitted : e.transmitted = []) (houtput : e.output = [])
    (hsame : e.after.txContents = e.before.txContents) : e.TxStep := by
  refine Or.inr (Or.inr ⟨hreset, fun h => h.1 htransmitted, ?_, ?_⟩)
  · rw [houtput]
    rfl
  · rw [houtput, htransmitted, hsame]
    exact (List.append_nil _).symm

/-- Only a read of the receiver buffer receives a byte. -/
theorem received_of_plain {before after : Uart} {address : BitVec 8}
    {result : Except ReadError (BitVec 8)} {calls : List Callback}
    (h : address = 0 → before.dlab = true) :
    received ⟨before, .read address, .read result, after, calls⟩ = [] := by
  cases result with
  | error => rfl
  | ok value => exact if_neg fun hboth => not_atData h hboth.1

/-- Only a write of the transmitter transmits a byte. -/
theorem transmitted_of_plain {before after : Uart} {address value : BitVec 8}
    {reply : Reply} {calls : List Callback}
    (h : address = 0 → before.dlab = true) :
    transmitted ⟨before, .write address value, reply, after, calls⟩ = [] :=
  if_neg (not_atData h)

/-- What each operation does to the receiver FIFO. -/
theorem rxStep_of_valid {e : Exchange} (h : e.Valid) : e.RxStep := by
  obtain ⟨before, op, reply, after, calls⟩ := e
  have hstep : Step before op reply after calls := h
  cases hstep with
  | plainRead plain => exact rxStep_of_same id rfl (received_of_plain plain) rfl
  | @receive popped dlab pop =>
      obtain ⟨hrx, _⟩ := rxContents_popRx pop
      by_cases hpos : 0 < before.rxFifoLen
      · have hreceived : received ⟨before, .read 0,
            .read (.ok before.readRbrPure), popped.updateInterrupt.1,
            popped.updateInterrupt.2⟩ = [before.readRbrPure] :=
          if_pos ⟨⟨rfl, dlab⟩, hpos⟩
        refine Or.inr ⟨id, ?_, ?_⟩
        · rw [hreceived]
          exact head_rxContents hpos
        · rw [hreceived]
          exact hrx.trans (List.append_nil _).symm
      · have hempty : before.rxContents = [] := by
          apply List.eq_nil_of_length_eq_zero
          rw [length_rxContents]
          omega
        refine rxStep_of_same id rfl (if_neg fun hboth => hpos hboth.2) ?_
        show popped.rxContents = before.rxContents
        rw [hrx, hempty]
        rfl
  | readLsr =>
      refine rxStep_of_same id rfl
        (received_of_plain fun h => absurd h (by decide)) ?_
      show before.readLsr.2.rxContents = before.rxContents
      unfold readLsr
      split <;> rfl
  | configure plain other =>
      exact rxStep_of_same (fun hreset => other hreset.1) rfl rfl rfl
  | transmit dlab write =>
      refine rxStep_of_same (fun hreset => absurd hreset.1 (by decide)) rfl rfl
        ?_
      exact (writeThr_spec write).2.1
  | enable =>
      exact rxStep_of_same (fun hreset => absurd hreset.1 (by decide)) rfl rfl
        rfl
  | @control value =>
      have hrx := (writeFcr_spec value before).1
      by_cases hbit : value.getLsbD 1 = true
      · rw [if_pos hbit] at hrx
        exact Or.inl ⟨⟨rfl, hbit⟩, rfl, rfl, hrx⟩
      · rw [if_neg hbit] at hrx
        exact rxStep_of_same (fun hreset => hbit hreset.2) rfl rfl hrx
  | idle => exact rxStep_of_same id rfl rfl rfl
  | @exchange input operational =>
      refine Or.inr ⟨id, rfl, ?_⟩
      exact (takeRx_spec input before).1
  | reset => exact Or.inl ⟨trivial, rfl, rfl, rfl⟩

/-- What each operation does to the transmitter FIFO. -/
theorem txStep_of_valid {e : Exchange} (h : e.Valid) : e.TxStep := by
  obtain ⟨before, op, reply, after, calls⟩ := e
  have hstep : Step before op reply after calls := h
  cases hstep with
  | plainRead => exact txStep_of_same id rfl rfl rfl
  | receive dlab pop =>
      exact txStep_of_same id rfl rfl (rxContents_popRx pop).2.1
  | readLsr =>
      refine txStep_of_same id rfl rfl ?_
      show before.readLsr.2.txContents = before.txContents
      unfold readLsr
      split <;> rfl
  | configure plain other =>
      exact txStep_of_same (fun hreset => other hreset.1)
        (transmitted_of_plain fun h => plain (Or.inl h)) rfl rfl
  | @transmit value _ dlab write =>
      have htx := (writeThr_spec write).1
      rw [and_charMask] at htx
      have htransmitted : transmitted ⟨before, .write 0 value,
          .written (.ok ()), after, []⟩ = [before.character value] :=
        if_pos ⟨rfl, dlab⟩
      have hreset : ¬ ResetsTx ⟨before, .write 0 value, .written (.ok ()),
          after, []⟩ := fun hreset => absurd hreset.1 (by decide)
      have hlength := length_txContents before
      by_cases hfull : before.txFifoLen = 16
      · rw [if_pos hfull] at htx
        refine Or.inr (Or.inl ⟨hreset, rfl, ?_, hlength.trans hfull, ?_⟩)
        · rw [htransmitted]
          exact List.cons_ne_nil _ _
        · rw [htransmitted]
          exact htx
      · rw [if_neg hfull] at htx
        refine Or.inr (Or.inr ⟨hreset, fun hboth => hfull ?_, rfl, ?_⟩)
        · exact hlength.symm.trans hboth.2
        · rw [htransmitted]
          exact htx
  | enable =>
      exact txStep_of_same (fun hreset => absurd hreset.1 (by decide))
        (transmitted_of_plain fun h => absurd h (by decide)) rfl rfl
  | @control value =>
      have htx := (writeFcr_spec value before).2.1
      have hnone : transmitted ⟨before, .write 2 value, .written (.ok ()),
          (before.writeFcr value).1, (before.writeFcr value).2⟩ = [] :=
        transmitted_of_plain fun h => absurd h (by decide)
      by_cases hbit : value.getLsbD 2 = true
      · rw [if_pos hbit] at htx
        exact Or.inl ⟨⟨rfl, hbit⟩, hnone, rfl, htx⟩
      · rw [if_neg hbit] at htx
        exact txStep_of_same (fun hreset => hbit hreset.2) hnone rfl htx
  | idle => exact txStep_of_same id rfl rfl rfl
  | @exchange input operational =>
      refine Or.inr (Or.inr ⟨id, fun hboth => hboth.1 rfl, ?_, ?_⟩)
      · exact List.take_length ..
      · show (before.takeRx input).drainTx.txContents =
          before.txContents.drop before.txContents.length ++ []
        rw [(drainTx_spec _).2.2.1, List.drop_length, List.append_nil]
  | reset => exact Or.inl ⟨trivial, rfl, rfl, rfl⟩

/-- The ledger of the receiver goes on recording. -/
theorem records_rxLedger {e : Exchange} (h : e.RxStep)
    {ledger : Ledger (BitVec 8)} {came went : List (BitVec 8)}
    (hledger : ledger.Records came went e.before.rxContents) :
    (e.rxLedger ledger).Records (came ++ e.accepted) (went ++ e.received)
      e.after.rxContents := by
  unfold rxLedger
  rcases h with ⟨hreset, haccepted, hreceived, hafter⟩ |
    ⟨hreset, hreceived, hafter⟩
  · rw [if_pos hreset, haccepted, hreceived, hafter, List.append_nil,
      List.append_nil]
    exact hledger.flush
  · have hdone := (hledger.deliver e.received.length).enter e.accepted
    rw [hreceived] at hdone
    rw [if_neg hreset, hafter]
    exact hdone

/-- The ledger of the transmitter goes on recording. -/
theorem records_txLedger {e : Exchange} (h : e.TxStep)
    {ledger : Ledger (BitVec 8)} {came went : List (BitVec 8)}
    (hledger : ledger.Records came went e.before.txContents) :
    (e.txLedger ledger).Records (came ++ e.transmitted) (went ++ e.output)
      e.after.txContents := by
  unfold txLedger
  rw [hledger.waiting]
  rcases h with ⟨hreset, htransmitted, houtput, hafter⟩ |
    ⟨hreset, houtput, htransmitted, hfull, hafter⟩ |
    ⟨hreset, hroom, houtput, hafter⟩
  · rw [if_pos hreset, htransmitted, houtput, hafter, List.append_nil,
      List.append_nil]
    exact hledger.flush
  · rw [if_neg hreset, if_pos ⟨htransmitted, hfull⟩, houtput, hafter,
      List.append_nil]
    exact (hledger.discard 1).enter e.transmitted
  · have hdone := (hledger.deliver e.output.length).enter e.transmitted
    rw [houtput] at hdone
    rw [if_neg hreset, if_neg hroom, hafter]
    exact hdone

end Exchange

/-! ## Runs -/

/-- The bytes that the host got rid of. -/
def acceptedBytes (trace : List Exchange) : List (BitVec 8) :=
  trace.flatMap Exchange.accepted

/-- The bytes that the guest received. -/
def receivedBytes (trace : List Exchange) : List (BitVec 8) :=
  trace.flatMap Exchange.received

/-- The bytes that the guest transmitted. -/
def transmittedBytes (trace : List Exchange) : List (BitVec 8) :=
  trace.flatMap Exchange.transmitted

/-- The bytes that the host got. -/
def outputBytes (trace : List Exchange) : List (BitVec 8) :=
  trace.flatMap Exchange.output

/-- The ledger of the receiver over a whole run. -/
def rxLedger (trace : List Exchange) : Ledger (BitVec 8) :=
  trace.foldl (fun ledger e => e.rxLedger ledger) Ledger.empty

/-- The ledger of the transmitter over a whole run. -/
def txLedger (trace : List Exchange) : Ledger (BitVec 8) :=
  trace.foldl (fun ledger e => e.txLedger ledger) Ledger.empty

theorem records_of_run {trace : List Exchange} {uart : Uart}
    (h : Run new trace uart) :
    (rxLedger trace).Records (acceptedBytes trace) (receivedBytes trace)
        uart.rxContents ∧
      (txLedger trace).Records (transmittedBytes trace) (outputBytes trace)
        uart.txContents := by
  induction h with
  | start => exact ⟨Ledger.Records.empty, Ledger.Records.empty⟩
  | @step trace uart after op reply calls _ happly ih =>
      have hvalid : Exchange.Valid ⟨uart, op, reply, after, calls⟩ :=
        step_of_apply happly
      have hrx := Exchange.records_rxLedger
        (Exchange.rxStep_of_valid hvalid) ih.1
      have htx := Exchange.records_txLedger
        (Exchange.txStep_of_valid hvalid) ih.2
      unfold rxLedger txLedger acceptedBytes receivedBytes transmittedBytes
        outputBytes
      simp only [List.foldl_append, List.flatMap_append, List.foldl_cons,
        List.foldl_nil, List.flatMap_singleton]
      exact ⟨hrx, htx⟩

/-- As many bytes are taken as there is room for. -/
theorem pushAndRead_taken (input : List (BitVec 8)) (uart : Uart) :
    (uart.pushAndRead input).1.1 = min input.length uart.inputSpace := by
  unfold inputSpace
  by_cases hoperational : uart.isOperational = true
  · rw [pushAndRead_eq hoperational, hoperational, if_neg (by decide)]
    exact Nat.min_comm ..
  · have hidle : uart.isOperational = false := by simpa using hoperational
    unfold pushAndRead
    rw [hidle]
    exact (Nat.min_zero _).symm

/-- After every run the FIFOs hold at most sixteen bytes each.  What was
received and what the receiver FIFO holds is what was accepted, in order,
without what a reset discarded; what was put out and what the transmitter FIFO
holds is what was transmitted, in order, without what a reset discarded or
what made room. -/
theorem fifos_preserve_order {trace : List Exchange} {uart : Uart}
    (h : Run new trace uart) :
    uart.rxFifoLen ≤ 16 ∧ uart.txFifoLen ≤ 16 ∧
      (∀ input, (uart.pushAndRead input).1.1 =
        min input.length uart.inputSpace) ∧
      (rxLedger trace).entered = acceptedBytes trace ∧
      receivedBytes trace ++ uart.rxContents = (rxLedger trace).kept ∧
      (txLedger trace).entered = transmittedBytes trace ∧
      outputBytes trace ++ uart.txContents = (txLedger trace).kept ∧
      ∀ op : Operation, op.apply uart ≠ none := by
  obtain ⟨hrx, htx⟩ := records_of_run h
  exact ⟨uart.rx_le, uart.tx_le, fun input => pushAndRead_taken input uart,
    hrx.entered, hrx.append_eq_kept, htx.entered, htx.append_eq_kept,
    fun op => apply_ne_none op uart⟩

/-- The divisor latch is set, bytes go both ways, and the receiver is reset. -/
theorem fifos_preserve_order_session :
    ∃ trace uart, Run new trace uart ∧
      trace.map Exchange.op =
        [.write 3 0x83, .write 0 1, .write 3 0x03, .pushAndRead [1, 2, 3],
          .read 0, .write 0 0x41, .write 2 0x02, .pushAndRead [4]] ∧
      receivedBytes trace ++ uart.rxContents = (rxLedger trace).kept ∧
      outputBytes trace ++ uart.txContents = (txLedger trace).kept := by
  obtain ⟨trace, uart, hrun, hops⟩ := exists_run
    [.write 3 0x83, .write 0 1, .write 3 0x03, .pushAndRead [1, 2, 3],
      .read 0, .write 0 0x41, .write 2 0x02, .pushAndRead [4]] new
  obtain ⟨_, _, _, _, hrx, _, htx, _⟩ := fifos_preserve_order hrun
  exact ⟨trace, uart, hrun, hops, hrx, htx⟩

end Uart

end RedPlanet.Resources
