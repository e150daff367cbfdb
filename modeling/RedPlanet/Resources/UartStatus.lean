import RedPlanet.Resources.UartRun

/-!
# The line status and the FIFOs

Data Ready, Transmitter FIFO Empty and Transmitter Holding Register Empty are
kept by hand next to the lengths of the FIFOs.  The FIFO control register
resets a length and leaves the bits alone, so they are right in a run exactly
as long as it only ever resets FIFOs that are empty already.

`StatusExact` is the relation, `statusExact_step_iff` says which operations
keep it, and `status_exact_iff` is the result for runs.
-/

namespace RedPlanet.Resources

open RedPlanet.Core RedPlanet.Verified

namespace Uart

/-- The line status tells what the FIFOs hold. -/
structure StatusExact (uart : Uart) : Prop where
  dataReady : uart.lsr.getLsbD 0 = true ↔ 0 < uart.rxFifoLen
  fifoEmpty : uart.lsr.getLsbD 6 = true ↔ uart.txFifoLen = 0
  holdingEmpty : uart.lsr.getLsbD 5 = false → 0 < uart.txFifoLen

/-- A FIFO that holds bytes is reset through the FIFO control register. -/
def Exchange.DropsBytes (e : Exchange) : Prop :=
  match e.op with
  | .write address value =>
      address = 2 ∧ (value.getLsbD 1 = true ∧ 0 < e.before.rxFifoLen ∨
        value.getLsbD 2 = true ∧ 0 < e.before.txFifoLen)
  | _ => False

/-- Both FIFOs are empty, and the bits say so. -/
theorem statusExact_new : new.StatusExact := by
  refine ⟨?_, ?_, ?_⟩ <;> decide

/-! ## The lengths after a step -/

/-- The length of the receiver FIFO. -/
theorem rxFifoLen_of_contents {uart : Uart} {bytes : List (BitVec 8)}
    (h : uart.rxContents = bytes) : uart.rxFifoLen = bytes.length := by
  rw [← h, length_rxContents]

/-- The length of the transmitter FIFO. -/
theorem txFifoLen_of_contents {uart : Uart} {bytes : List (BitVec 8)}
    (h : uart.txContents = bytes) : uart.txFifoLen = bytes.length := by
  rw [← h, length_txContents]

section Steps

variable {uart after : Uart}

/-- The same lengths and the same bits. -/
theorem statusExact_of_same (h : uart.StatusExact)
    (hrx : after.rxContents = uart.rxContents)
    (htx : after.txContents = uart.txContents)
    (hlsr : ∀ i, i ≠ 1 → after.lsr.getLsbD i = uart.lsr.getLsbD i) :
    after.StatusExact := by
  have hrxLen := rxFifoLen_of_contents hrx
  have htxLen := txFifoLen_of_contents htx
  rw [length_rxContents] at hrxLen
  rw [length_txContents] at htxLen
  refine ⟨?_, ?_, ?_⟩
  · rw [hlsr 0 (by decide), hrxLen]
    exact h.dataReady
  · rw [hlsr 6 (by decide), htxLen]
    exact h.fifoEmpty
  · rw [hlsr 5 (by decide), htxLen]
    exact h.holdingEmpty

/-- Taking a byte out clears Data Ready with the last one. -/
theorem statusExact_popRx (h : uart.StatusExact)
    (hpop : uart.popRx = some after) : after.StatusExact := by
  obtain ⟨hrx, htx, _, hlsr⟩ := rxContents_popRx hpop
  have hrxLen := rxFifoLen_of_contents hrx
  have htxLen := txFifoLen_of_contents htx
  rw [List.length_drop, length_rxContents] at hrxLen
  rw [length_txContents] at htxLen
  by_cases hone : uart.rxFifoLen = 1
  · rw [if_pos hone] at hlsr
    refine ⟨?_, ?_, ?_⟩
    · rw [hlsr, getLsbD_setBit_self _ _ (by decide), hrxLen, hone]
      decide
    · rw [hlsr, getLsbD_setBit_ne _ _ (by decide), htxLen]
      exact h.fifoEmpty
    · rw [hlsr, getLsbD_setBit_ne _ _ (by decide), htxLen]
      exact h.holdingEmpty
  · rw [if_neg hone] at hlsr
    refine ⟨?_, ?_, ?_⟩
    · rw [hlsr, h.dataReady, hrxLen]
      omega
    · rw [hlsr, htxLen]
      exact h.fifoEmpty
    · rw [hlsr, htxLen]
      exact h.holdingEmpty

/-- A byte that is written clears TFE, and THRE once the FIFO is full. -/
theorem statusExact_writeThr {value : BitVec 8} (h : uart.StatusExact)
    (hwrite : uart.writeThr value = some after) : after.StatusExact := by
  obtain ⟨htx, hrx, _, hlsr⟩ := writeThr_spec hwrite
  have hrxLen := rxFifoLen_of_contents hrx
  have htxLen := txFifoLen_of_contents htx
  rw [length_rxContents] at hrxLen
  have hpos : 0 < after.txFifoLen := by
    rw [htxLen, List.length_append]
    exact Nat.succ_pos _
  have hbits : after.lsr.getLsbD 0 = uart.lsr.getLsbD 0 ∧
      after.lsr.getLsbD 6 = false := by
    rw [hlsr]
    split
    · rw [getLsbD_setBit_ne _ _ (by decide), getLsbD_setBit_ne _ _ (by decide),
        getLsbD_setBit_ne _ _ (by decide),
        getLsbD_setBit_self _ _ (by decide)]
      exact ⟨rfl, rfl⟩
    · rw [getLsbD_setBit_ne _ _ (by decide),
        getLsbD_setBit_self _ _ (by decide)]
      exact ⟨rfl, rfl⟩
  refine ⟨?_, ?_, fun _ => hpos⟩
  · rw [hbits.1, hrxLen]
    exact h.dataReady
  · rw [hbits.2]
    exact iff_of_false Bool.false_ne_true (by omega)

/-- An exchange sets the bits for what it took and handed over. -/
theorem statusExact_exchange (h : uart.StatusExact)
    (input : List (BitVec 8)) : (uart.takeRx input).drainTx.StatusExact := by
  obtain ⟨hrx, _, _, hlsr⟩ := takeRx_spec input uart
  obtain ⟨_, hrxLen, htx, _, hdrained⟩ := drainTx_spec (uart.takeRx input)
  have htaken := rxFifoLen_of_contents hrx
  have htxLen := txFifoLen_of_contents htx
  rw [List.length_append, length_rxContents] at htaken
  refine ⟨?_, ?_, ?_⟩
  · rw [hdrained, getLsbD_setBit_ne _ _ (by decide),
      getLsbD_setBit_ne _ _ (by decide), hrxLen, hlsr]
    by_cases hpos : 0 < (uart.takeRx input).rxFifoLen
    · rw [if_pos hpos, getLsbD_setBit_self _ _ (by decide)]
      exact iff_of_true rfl hpos
    · rw [if_neg hpos, h.dataReady]
      omega
  · rw [hdrained, getLsbD_setBit_self _ _ (by decide)]
    exact iff_of_true rfl htxLen
  · rw [hdrained, getLsbD_setBit_ne _ _ (by decide),
      getLsbD_setBit_self _ _ (by decide)]
    intro hclear
    exact nomatch hclear

/-- A reset with nothing to drop. -/
theorem reset_eq_self {bit : Bool} {bytes : List (BitVec 8)}
    (h : ¬ (bit = true ∧ 0 < bytes.length)) :
    (if bit then [] else bytes) = bytes := by
  by_cases hbit : bit = true
  · have hempty : bytes.length = 0 := by
      by_contra hne
      exact h ⟨hbit, Nat.pos_of_ne_zero hne⟩
    rw [if_pos hbit, List.eq_nil_of_length_eq_zero hempty]
  · rw [if_neg hbit]

/-- After a reset of the FIFOs the bits are right iff there was nothing to
drop. -/
theorem statusExact_writeFcr_iff (h : uart.StatusExact) (value : BitVec 8) :
    (uart.writeFcr value).1.StatusExact ↔
      ¬ (value.getLsbD 1 = true ∧ 0 < uart.rxFifoLen ∨
        value.getLsbD 2 = true ∧ 0 < uart.txFifoLen) := by
  obtain ⟨hrx, htx, _, hlsr⟩ := writeFcr_spec value uart
  have hrxLen := rxFifoLen_of_contents hrx
  have htxLen := txFifoLen_of_contents htx
  have hdata := h.dataReady
  have hempty := h.fifoEmpty
  constructor
  · intro hafter hdrops
    have hdata' := hafter.dataReady
    have hempty' := hafter.fifoEmpty
    rw [hlsr, hdata, hrxLen] at hdata'
    rw [hlsr, hempty, htxLen] at hempty'
    rcases hdrops with ⟨hbit, hpos⟩ | ⟨hbit, hpos⟩
    · rw [if_pos hbit] at hdata'
      exact Nat.lt_irrefl 0 (hdata'.1 hpos)
    · rw [if_pos hbit] at hempty'
      have hzero := hempty'.2 rfl
      omega
  · intro hkeeps
    have hsameRx : (uart.writeFcr value).1.rxContents = uart.rxContents := by
      rw [hrx]
      apply reset_eq_self
      rw [length_rxContents]
      exact fun hdrops => hkeeps (Or.inl hdrops)
    have hsameTx : (uart.writeFcr value).1.txContents = uart.txContents := by
      rw [htx]
      apply reset_eq_self
      rw [length_txContents]
      exact fun hdrops => hkeeps (Or.inr hdrops)
    apply statusExact_of_same h hsameRx hsameTx
    intro i _
    rw [hlsr]

/-- Every operation but a reset of a FIFO with bytes in it. -/
theorem statusExact_step_iff {op : Operation} {reply : Reply}
    {calls : List Callback} (h : uart.StatusExact)
    (hstep : Step uart op reply after calls) :
    after.StatusExact ↔
      ¬ Exchange.DropsBytes ⟨uart, op, reply, after, calls⟩ := by
  cases hstep with
  | plainRead => exact iff_of_true h id
  | @receive popped dlab pop =>
      have hpopped := statusExact_popRx h pop
      exact iff_of_true
        (statusExact_of_same hpopped rfl rfl fun _ _ => rfl) id
  | readLsr =>
      refine iff_of_true (statusExact_of_same h ?_ ?_ ?_) id
      · unfold readLsr
        split <;> rfl
      · unfold readLsr
        split <;> rfl
      · intro i hi
        unfold readLsr
        dsimp only
        split
        · exact getLsbD_setBit_ne _ _ hi
        · rfl
  | configure plain other =>
      exact iff_of_true (statusExact_of_same h rfl rfl fun _ _ => rfl)
        fun hdrops => other hdrops.1
  | transmit dlab write =>
      exact iff_of_true (statusExact_writeThr h write)
        fun hdrops => absurd hdrops.1 (by decide)
  | enable =>
      exact iff_of_true (statusExact_of_same h rfl rfl fun _ _ => rfl)
        fun hdrops => absurd hdrops.1 (by decide)
  | @control value =>
      rw [statusExact_writeFcr_iff h]
      exact not_congr ⟨fun hdrops => ⟨rfl, hdrops⟩, fun hdrops => hdrops.2⟩
  | idle => exact iff_of_true h id
  | @exchange input operational =>
      exact iff_of_true (statusExact_of_same (statusExact_exchange h input)
        rfl rfl fun _ _ => rfl) id
  | reset => exact iff_of_true statusExact_new id

end Steps

/-! ## Runs -/

/-- One byte comes in, and the receiver FIFO is reset. -/
def resetWithByte : List Operation :=
  [.write 3 0x83, .write 0 1, .pushAndRead [0x41], .write 2 0x02]

/-- Data Ready stays set although the FIFO is empty. -/
theorem stale_data_ready :
    ∃ trace uart, Run new trace uart ∧
      trace.map Exchange.op = resetWithByte ∧
      uart.lsr.getLsbD 0 = true ∧ uart.rxFifoLen = 0 ∧
      ¬ uart.StatusExact := by
  have hstale : (record resetWithByte new).any fun run =>
      run.2.lsr.getLsbD 0 = true ∧ run.2.rxFifoLen = 0 := by
    decide +kernel
  rw [Option.any_eq_true] at hstale
  obtain ⟨⟨trace, uart⟩, hrecord, hbits⟩ := hstale
  obtain ⟨hready, hempty⟩ := of_decide_eq_true hbits
  obtain ⟨hrun, hops⟩ := run_of_record hrecord
  refine ⟨trace, uart, hrun, hops, hready, hempty, fun h => ?_⟩
  exact Nat.ne_of_gt (h.dataReady.1 hready) hempty

/-- In a run from reset the line status is right in every state, if and only
if no step of the run drops bytes through the FIFO control register. -/
theorem status_exact_iff {trace : List Exchange} {uart : Uart}
    (h : Run new trace uart) :
    ((∀ e ∈ trace, e.before.StatusExact) ∧ uart.StatusExact) ↔
      ∀ e ∈ trace, ¬ e.DropsBytes := by
  induction h with
  | start =>
      exact iff_of_true
        ⟨fun _ he => absurd he List.not_mem_nil, statusExact_new⟩
        fun _ he => absurd he List.not_mem_nil
  | @step trace uart after op reply calls _ happly ih =>
      have hstep := step_of_apply happly
      constructor
      · intro ⟨hbefore, hafter⟩ e he
        have huart : uart.StatusExact :=
          hbefore ⟨uart, op, reply, after, calls⟩ (by simp)
        rcases List.mem_append.1 he with he | he
        · exact ih.1 ⟨fun e' he' => hbefore e' (by simp [he']), huart⟩ e he
        · rw [List.mem_singleton.1 he]
          exact (statusExact_step_iff huart hstep).1 hafter
      · intro hkeeps
        obtain ⟨hbefore, huart⟩ := ih.2 fun e he => hkeeps e (by simp [he])
        have hlast := hkeeps ⟨uart, op, reply, after, calls⟩ (by simp)
        refine ⟨?_, (statusExact_step_iff huart hstep).2 hlast⟩
        intro e he
        rcases List.mem_append.1 he with he | he
        · exact hbefore e he
        · rw [List.mem_singleton.1 he]
          exact huart

/-- In this run the line status is right up to the reset. -/
theorem status_exact_iff_reset :
    ∃ trace uart, Run new trace uart ∧
      trace.map Exchange.op = resetWithByte ∧
      (((∀ e ∈ trace, e.before.StatusExact) ∧ uart.StatusExact) ↔
        ∀ e ∈ trace, ¬ e.DropsBytes) := by
  obtain ⟨trace, uart, hrun, hops⟩ := exists_run resetWithByte new
  exact ⟨trace, uart, hrun, hops, status_exact_iff hrun⟩

end Uart

end RedPlanet.Resources
