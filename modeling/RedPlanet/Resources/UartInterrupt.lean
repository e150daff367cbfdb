import RedPlanet.Resources.UartRun
import RedPlanet.Verified.Matches

/-!
# The interrupt of the UART

`update_interrupt` looks for the first of three conditions that is enabled and
present.  The functions that should test the Interrupt Enable Register read the
Line Status Register instead, so a condition is reported that is not enabled,
or one that is enabled goes unnoticed.

`due` is the condition to report and `found` the one that the code finds.
`interrupt_exact_iff` says in which states the wrong register gives the right
answer (`Faithful`), for either reading of which bits enable the line status;
over a run with all interrupts disabled no interrupt is raised exactly if each
update is made in such a state.
-/

namespace RedPlanet.Resources

open RedPlanet.Core RedPlanet.Verified

namespace Uart

/-! ## Conditions -/

/-- What the UART may interrupt for. -/
inductive Condition where
  | lineStatus
  | receivedData
  | modemStatus
deriving DecidableEq, Repr

/-- Which bits of the Interrupt Enable Register stand for the line status:
bit 2, or the two bits that the code tests. -/
inductive EnableBits where
  | standard
  | asTested
deriving DecidableEq, Repr

namespace Condition

/-- The conditions, the highest priority first. -/
def order : List Condition := [lineStatus, receivedData, modemStatus]

/-- The condition is enabled in the Interrupt Enable Register. -/
def enabled (bits : EnableBits) (uart : Uart) : Condition → Bool
  | lineStatus =>
      match bits with
      | .standard => uart.ier.getLsbD 2
      | .asTested => uart.ier.getLsbD 0 || uart.ier.getLsbD 2
  | receivedData => uart.ier.getLsbD 0
  | modemStatus => uart.ier.getLsbD 3

/-- The bits of the Line Status Register that the code tests instead. -/
def tested (uart : Uart) : Condition → Bool
  | lineStatus => uart.ierRlsi
  | receivedData => uart.ierRdi
  | modemStatus => uart.ierMsi

/-- The condition holds. -/
def present (uart : Uart) : Condition → Bool
  | lineStatus => uart.lsrIntAny
  | receivedData => uart.rxFifoItl ≤ uart.rxFifoLen
  | modemStatus => uart.msrAnyDelta

/-- The identification of the interrupt. -/
def identification : Option Condition → BitVec 8
  | some lineStatus => UART_IIR_RLSI
  | some receivedData => UART_IIR_RDI
  | some modemStatus => UART_IIR_MSI
  | none => UART_IIR_NO_INT

end Condition

/-- The highest-priority condition that is enabled and present. -/
def due (bits : EnableBits) (uart : Uart) : Option Condition :=
  Condition.order.find? fun c => c.enabled bits uart && c.present uart

/-- The condition that the code finds. -/
def found (uart : Uart) : Option Condition :=
  Condition.order.find? fun c => c.tested uart && c.present uart

/-- The tests of the code, in its order. -/
theorem found_eq (uart : Uart) :
    uart.found =
      if uart.ierRlsi && uart.lsrIntAny then some .lineStatus
      else if uart.ierRdi && uart.lsrDr
          && decide (uart.rxFifoItl ≤ uart.rxFifoLen) then some .receivedData
      else if uart.ierMsi && uart.msrAnyDelta then some .modemStatus
      else none := by
  have hdata : (uart.ierRdi && uart.lsrDr
      && decide (uart.rxFifoItl ≤ uart.rxFifoLen)) =
      (Condition.tested uart .receivedData &&
        Condition.present uart .receivedData) := by
    show (uart.lsrDr && uart.lsrDr && _) = (uart.lsrDr && _)
    rw [Bool.and_self]
    rfl
  rw [hdata]
  unfold found Condition.order
  rw [List.find?_cons, List.find?_cons, List.find?_cons, List.find?_nil]
  show (match uart.ierRlsi && uart.lsrIntAny with
    | true => some Condition.lineStatus
    | false =>
        match Condition.tested uart .receivedData &&
          Condition.present uart .receivedData with
        | true => some Condition.receivedData
        | false =>
            match uart.ierMsi && uart.msrAnyDelta with
            | true => some Condition.modemStatus
            | false => none) = _
  cases uart.ierRlsi && uart.lsrIntAny with
  | true => rfl
  | false =>
      cases Condition.tested uart .receivedData &&
        Condition.present uart .receivedData with
      | true => rfl
      | false => cases uart.ierMsi && uart.msrAnyDelta <;> rfl

/-- The identification and the line follow what was found. -/
theorem updateInterrupt_eq (uart : Uart) :
    uart.updateInterrupt =
      ({ uart with
          iir := Condition.identification uart.found ||| uart.iir &&& 0xF0 },
        [if uart.found.isSome then .raise else .lower]) := by
  unfold updateInterrupt
  rw [found_eq]
  cases uart.ierRlsi && uart.lsrIntAny with
  | true => rfl
  | false =>
      cases uart.ierRdi && uart.lsrDr
          && decide (uart.rxFifoItl ≤ uart.rxFifoLen) with
      | true => rfl
      | false => cases uart.ierMsi && uart.msrAnyDelta <;> rfl

/-! ## One update -/

/-- The line and the identification are those of the condition that is due. -/
structure InterruptExact (bits : EnableBits) (uart : Uart) : Prop where
  line : uart.updateInterrupt.2 =
    [if (uart.due bits).isSome then .raise else .lower]
  identification : uart.updateInterrupt.1.iir &&& 0x0F =
    Condition.identification (uart.due bits)

/-- Each condition that is present, up to the first that is due, has the bits
of the Interrupt Enable Register that the code reads off the Line Status
Register. -/
def Faithful (bits : EnableBits) (uart : Uart) : Prop :=
  AgreeUntil (fun c => Condition.tested uart c && Condition.present uart c)
    (fun c => Condition.enabled bits uart c && Condition.present uart c)
    Condition.order

/-- The identifications are different ones. -/
theorem identification_injective {c c' : Option Condition}
    (h : Condition.identification c = Condition.identification c') :
    c = c' := by
  revert h
  cases c with
  | none =>
      cases c' with
      | none => exact fun _ => rfl
      | some c' => cases c' <;> decide
  | some c =>
      cases c' with
      | none => cases c <;> decide
      | some c' => cases c <;> cases c' <;> decide

/-- They have no bit among the upper four. -/
theorem identification_low (c : Option Condition) {i : ℕ} (hi : i < 8) :
    ((Condition.identification c).getLsbD i && (0x0F : BitVec 8).getLsbD i) =
      (Condition.identification c).getLsbD i := by
  revert i
  rcases c with _ | c
  · decide
  · cases c <;> decide

/-- The identification is in the low half of the register. -/
theorem iir_updateInterrupt (uart : Uart) :
    uart.updateInterrupt.1.iir &&& 0x0F =
      Condition.identification uart.found := by
  have hdisjoint : ∀ i < 8, ((0xF0 : BitVec 8).getLsbD i &&
      (0x0F : BitVec 8).getLsbD i) = false := by
    decide
  rw [updateInterrupt_eq]
  show (Condition.identification uart.found ||| uart.iir &&& 0xF0) &&& 0x0F =
    Condition.identification uart.found
  apply BitVec.eq_of_getLsbD_eq
  intro i hi
  rw [BitVec.getLsbD_and, BitVec.getLsbD_or, BitVec.getLsbD_and,
    Bool.and_or_distrib_right, Bool.and_assoc, hdisjoint i hi, Bool.and_false,
    Bool.or_false, identification_low _ hi]

theorem interrupt_exact_iff (bits : EnableBits) (uart : Uart) :
    InterruptExact bits uart ↔ Faithful bits uart := by
  unfold Faithful
  rw [← find?_eq_iff]
  constructor
  · intro h
    have hid := h.identification
    rw [iir_updateInterrupt] at hid
    exact identification_injective hid
  · intro h
    have hsame : uart.found = uart.due bits := h
    refine ⟨?_, ?_⟩
    · rw [updateInterrupt_eq, hsame]
    · rw [iir_updateInterrupt, hsame]

/-! ## Runs -/

/-- What `write_fcr` does before it updates the interrupt. -/
def setFcr (value : BitVec 8) (uart : Uart) : Uart :=
  let uart :=
    if value.getLsbD 1 then
      { uart with rxFifoLen := 0, rx_le := new.rx_le }
    else uart
  let uart :=
    if value.getLsbD 2 then
      { uart with txFifoLen := 0, tx_le := new.tx_le }
    else uart
  let rxFifoItl :=
    match value.getLsbD 7, value.getLsbD 6 with
    | false, false => 1
    | false, true => 4
    | true, false => 8
    | true, true => 14
  { uart with rxFifoItl := rxFifoItl }

/-- The state in which an operation updates the interrupt, if it does. -/
def Operation.updates (uart : Uart) : Operation → Option Uart
  | .read address => if AtData address uart then uart.popRx else none
  | .write address value =>
      if address = 1 ∧ uart.dlab = false then some { uart with ier := value }
      else if address = 2 then some (uart.setFcr value)
      else none
  | .pushAndRead input =>
      if uart.isOperational then some (uart.takeRx input).drainTx else none
  | .reset => none

/-- An operation signals what its update of the interrupt signals. -/
theorem updates_of_step {uart after : Uart} {op : Operation} {reply : Reply}
    {calls : List Callback} (hstep : Step uart op reply after calls) :
    (op.updates uart = none ∧ calls = []) ∨
      ∃ mid, op.updates uart = some mid ∧ after = mid.updateInterrupt.1 ∧
        calls = mid.updateInterrupt.2 := by
  cases hstep with
  | plainRead plain => exact Or.inl ⟨if_neg (not_atData plain), rfl⟩
  | @receive popped dlab pop =>
      exact Or.inr ⟨popped, (if_pos ⟨rfl, dlab⟩).trans pop, rfl, rfl⟩
  | readLsr =>
      have hdata : ¬ AtData 5 uart := fun h => absurd h.1 (by decide)
      refine Or.inl ⟨?_, rfl⟩
      show (if AtData 5 uart then uart.popRx else none) = none
      exact if_neg hdata
  | configure plain other =>
      refine Or.inl ⟨(if_neg fun hone => ?_).trans (if_neg other), rfl⟩
      have hset := plain (Or.inr hone.1)
      rw [hone.2] at hset
      exact nomatch hset
  | @transmit value =>
      have hone : ¬ ((0 : BitVec 8) = 1 ∧ uart.dlab = false) :=
        fun h => absurd h.1 (by decide)
      refine Or.inl ⟨?_, rfl⟩
      show (if (0 : BitVec 8) = 1 ∧ uart.dlab = false then
          some { uart with ier := value }
        else if (0 : BitVec 8) = 2 then some (uart.setFcr value)
        else none) = none
      rw [if_neg hone]
      exact if_neg (by decide)
  | enable dlab => exact Or.inr ⟨_, if_pos ⟨rfl, dlab⟩, rfl, rfl⟩
  | @control value =>
      have hone : ¬ ((2 : BitVec 8) = 1 ∧ uart.dlab = false) :=
        fun h => absurd h.1 (by decide)
      refine Or.inr ⟨uart.setFcr value, ?_, rfl, rfl⟩
      show (if (2 : BitVec 8) = 1 ∧ uart.dlab = false then
          some { uart with ier := value }
        else if (2 : BitVec 8) = 2 then some (uart.setFcr value)
        else none) = some (uart.setFcr value)
      rw [if_neg hone]
      exact if_pos rfl
  | idle idle =>
      refine Or.inl ⟨if_neg ?_, rfl⟩
      rw [idle]
      decide
  | exchange operational =>
      exact Or.inr ⟨_, if_pos operational, rfl, rfl⟩
  | reset => exact Or.inl ⟨rfl, rfl⟩

/-- With no interrupt enabled none is due. -/
theorem due_of_ier {uart : Uart} (h : uart.ier = 0) (bits : EnableBits) :
    uart.due bits = none := by
  have henabled : ∀ c, Condition.enabled bits uart c = false := by
    intro c
    cases c <;> cases bits <;> unfold Condition.enabled <;> rw [h] <;> rfl
  apply List.find?_eq_none.2
  intro c _
  rw [henabled c, Bool.false_and]
  exact Bool.false_ne_true

/-- With no interrupt enabled the line stays down iff the wrong register gives
the right answer. -/
theorem raise_iff_of_ier {uart : Uart} (h : uart.ier = 0) (bits : EnableBits) :
    Callback.raise ∉ uart.updateInterrupt.2 ↔ Faithful bits uart := by
  have hfaithful : Faithful bits uart ↔ uart.found = none := by
    unfold Faithful
    rw [← find?_eq_iff]
    show uart.found = uart.due bits ↔ _
    rw [due_of_ier h]
  rw [hfaithful, updateInterrupt_eq]
  cases uart.found <;> simp

/-- The exchanges of a run are steps. -/
theorem step_of_mem {start uart : Uart} {trace : List Exchange}
    (h : Run start trace uart) :
    ∀ e ∈ trace, Step e.before e.op e.reply e.after e.calls := by
  induction h with
  | start => exact fun _ he => absurd he List.not_mem_nil
  | step _ happly ih =>
      intro e he
      rcases List.mem_append.1 he with he | he
      · exact ih e he
      · rw [List.mem_singleton.1 he]
        exact step_of_apply happly

/-- Exactly when an update is right, and exactly when in a run with no
interrupt enabled the line is never raised. -/
theorem interrupts_exact_iff (bits : EnableBits) :
    (∀ uart, InterruptExact bits uart ↔ Faithful bits uart) ∧
      ∀ trace uart, Run new trace uart → (∀ e ∈ trace, e.after.ier = 0) →
        ((∀ e ∈ trace, Callback.raise ∉ e.calls) ↔
          ∀ e ∈ trace, ∀ mid, e.op.updates e.before = some mid →
            Faithful bits mid) := by
  refine ⟨interrupt_exact_iff bits, ?_⟩
  intro trace uart hrun hier
  apply forall_congr'
  intro e
  apply forall_congr'
  intro he
  rcases updates_of_step (step_of_mem hrun e he) with
    ⟨hnone, hcalls⟩ | ⟨mid, hmid, hafter, hcalls⟩
  · rw [hnone, hcalls]
    exact iff_of_true List.not_mem_nil fun _ h => nomatch h
  · have hmidIer : mid.ier = 0 := by
      have hzero := hier e he
      rw [hafter, ier_updateInterrupt] at hzero
      exact hzero
    rw [hcalls, raise_iff_of_ier hmidIer bits, hmid]
    constructor
    · intro h mid' hsome
      cases hsome
      exact h
    · exact fun h => h mid rfl

/-- One byte comes in, with the lowest trigger level and IER = 0. -/
def oneByte : List Operation :=
  [.write 3 0x83, .write 0 1, .write 3 0x03, .write 2 0x00,
    .pushAndRead [0x41]]

/-- The line is raised although no interrupt is enabled. -/
theorem raised_without_enable :
    ∃ trace uart, Run new trace uart ∧ trace.map Exchange.op = oneByte ∧
      (∀ e ∈ trace, e.after.ier = 0) ∧
      (∃ e ∈ trace, Callback.raise ∈ e.calls) ∧
      ∀ bits, ¬ InterruptExact bits uart := by
  have hraised : (record oneByte new).any fun run =>
      (∀ e ∈ run.1, e.after.ier = 0) ∧
        (∃ e ∈ run.1, Callback.raise ∈ e.calls) ∧ run.2.ier = 0 ∧
        Callback.raise ∈ run.2.updateInterrupt.2 := by
    decide +kernel
  rw [Option.any_eq_true] at hraised
  obtain ⟨⟨trace, uart⟩, hrecord, hfacts⟩ := hraised
  obtain ⟨hier, hcalls, hzero, hraise⟩ := of_decide_eq_true hfacts
  obtain ⟨hrun, hops⟩ := run_of_record hrecord
  refine ⟨trace, uart, hrun, hops, hier, hcalls, fun bits h => ?_⟩
  exact (raise_iff_of_ier hzero bits).2 ((interrupt_exact_iff bits uart).1 h)
    hraise

/-- In this run the byte is noticed, though nothing is enabled. -/
theorem interrupts_exact_iff_oneByte :
    ∃ trace uart, Run new trace uart ∧ trace.map Exchange.op = oneByte ∧
      ((∀ e ∈ trace, Callback.raise ∉ e.calls) ↔
        ∀ e ∈ trace, ∀ mid, e.op.updates e.before = some mid →
          Faithful .standard mid) := by
  have hquiet : (record oneByte new).any fun run =>
      ∀ e ∈ run.1, e.after.ier = 0 := by
    decide +kernel
  rw [Option.any_eq_true] at hquiet
  obtain ⟨⟨trace, uart⟩, hrecord, hier⟩ := hquiet
  obtain ⟨hrun, hops⟩ := run_of_record hrecord
  exact ⟨trace, uart, hrun, hops, (interrupts_exact_iff .standard).2 trace uart
    hrun (of_decide_eq_true hier)⟩

end Uart

end RedPlanet.Resources
