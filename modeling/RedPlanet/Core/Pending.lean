import RedPlanet.Core.TrapEntry

/-!
# Which interrupt is taken

`due` is the interrupt that a core is to take: one handled at machine level
before a delegated one, and by priority among these, where an interrupt is to
be handled at a level only if the core runs below that level, or at it with
interrupts enabled.

`Core::check_for_interrupts` takes just that one, unless nothing is ready for
machine level and an M-mode core with interrupts enabled has a delegated one
pending.  `State.Misdirected` is this exception, as the code has it, and
`interrupt_taken_iff` says that what is due is taken in every other state and
in no such state.  Both scans are compared by way of the order of priorities
they go through (`due_eq`, `highestPriorityReadyInterrupt_eq`).
-/

namespace RedPlanet.Core

open RedPlanet.Verified

variable {β : Type}

/-! ## The interrupt that is due -/

/-- The order of the manual: the interrupts of M-mode before those of S-mode,
and at each level external before software before timer. -/
def priorityOrder : List Interrupt :=
  [.machineExternalInterrupt, .machineSoftwareInterrupt,
    .machineTimerInterrupt, .supervisorExternalInterrupt,
    .supervisorSoftwareInterrupt, .supervisorTimerInterrupt]

namespace State

/-- Pending in mip and enabled in mie. -/
def ready (s : State β) (interrupt : Interrupt) : Bool :=
  s.interrupts.mip.getLsbD interrupt.toNat &&
    s.interrupts.mie.getLsbD interrupt.toNat

/-- Ready and left to machine level by mideleg. -/
def readyAtM (s : State β) (interrupt : Interrupt) : Bool :=
  s.ready interrupt && !s.interrupts.shouldDelegate interrupt

/-- Ready and delegated by mideleg. -/
def readyAtS (s : State β) (interrupt : Interrupt) : Bool :=
  s.ready interrupt && s.interrupts.shouldDelegate interrupt

/-- The core can be interrupted for machine level. -/
def enabledAtM (s : State β) : Bool :=
  decide (s.privilegeMode < .machine) ||
    (s.privilegeMode == .machine && s.status.mie)

/-- The core can be interrupted for supervisor level. -/
def enabledAtS (s : State β) : Bool :=
  s.privilegeMode == .user ||
    (s.privilegeMode == .supervisor && s.status.sie)

/-- Ready, not delegated, and M-level can interrupt the core. -/
def dueAtM (s : State β) (interrupt : Interrupt) : Bool :=
  s.readyAtM interrupt && s.enabledAtM

/-- Ready, delegated, and S-level can interrupt the core. -/
def dueAtS (s : State β) (interrupt : Interrupt) : Bool :=
  s.readyAtS interrupt && s.enabledAtS

/-- The first interrupt of the order that is to be taken, non-delegated
before delegated. -/
def due (s : State β) : Option Interrupt :=
  (priorityOrder.find? s.dueAtM).or (priorityOrder.find? s.dueAtS)

end State

/-- The order has all of the interrupts. -/
theorem mem_priorityOrder (interrupt : Interrupt) :
    interrupt ∈ priorityOrder := by
  cases interrupt <;> decide

/-- A scan of the order finds nothing only if there is nothing. -/
theorem find?_priorityOrder_eq_none {p : Interrupt → Bool} :
    priorityOrder.find? p = none ↔ ∀ interrupt, p interrupt = false := by
  rw [List.find?_eq_none]
  constructor
  · intro h interrupt
    exact Bool.not_eq_true _ ▸ h interrupt (mem_priorityOrder interrupt)
  · intro h interrupt _
    rw [h interrupt]
    decide

/-- Something is due iff some interrupt is to be taken at one of the two
levels. -/
theorem due_ne_none_iff (s : State β) :
    s.due ≠ none ↔ ∃ interrupt, s.dueAtM interrupt ∨ s.dueAtS interrupt := by
  unfold State.due
  rw [ne_eq, Option.or_eq_none_iff, find?_priorityOrder_eq_none,
    find?_priorityOrder_eq_none]
  constructor
  · intro h
    by_contra hnone
    apply h
    constructor
    · intro interrupt
      by_contra hm
      exact hnone ⟨interrupt, Or.inl (by simpa using hm)⟩
    · intro interrupt
      by_contra hs
      exact hnone ⟨interrupt, Or.inr (by simpa using hs)⟩
  · rintro ⟨interrupt, hm | hs⟩ ⟨hnm, hns⟩
    · rw [hnm interrupt] at hm
      cases hm
    · rw [hns interrupt] at hs
      cases hs

/-! ## The two scans of the source -/

/-- The interrupts that can be delegated, by priority. -/
def supervisorOrder : List Interrupt :=
  [.supervisorExternalInterrupt, .supervisorSoftwareInterrupt,
    .supervisorTimerInterrupt]

/-- The interrupts that cannot be delegated, by priority. -/
def machineOrder : List Interrupt :=
  [.machineExternalInterrupt, .machineSoftwareInterrupt,
    .machineTimerInterrupt]

/-- The order is that of the one level and then that of the other. -/
theorem priorityOrder_eq : priorityOrder = machineOrder ++ supervisorOrder :=
  rfl

/-- Every interrupt has a bit among the 16. -/
theorem Interrupt.toNat_lt (interrupt : Interrupt) : interrupt.toNat < 16 := by
  cases interrupt <;> decide

/-- The scan for M-level, along the order of all interrupts. -/
theorem highestPriorityMReady_eq (s : State β) :
    s.interrupts.highestPriorityMReady
      = priorityOrder.find? fun interrupt =>
          s.ready interrupt && !s.interrupts.shouldDelegate interrupt := by
  unfold Interrupts.highestPriorityMReady
  show priorityOrder.find? _ = _
  congr 1
  funext interrupt
  rw [BitVec.getLsbD_and, BitVec.getLsbD_and, BitVec.getLsbD_not,
    decide_eq_true interrupt.toNat_lt, Bool.true_and]
  rfl

/-- The scan for S-level, along the order of those that can be delegated. -/
theorem highestPrioritySReady_eq (s : State β) :
    s.interrupts.highestPrioritySReady
      = supervisorOrder.find? fun interrupt =>
          s.ready interrupt && s.interrupts.shouldDelegate interrupt := by
  unfold Interrupts.highestPrioritySReady
  show supervisorOrder.find? _ = _
  congr 1
  funext interrupt
  rw [BitVec.getLsbD_and, BitVec.getLsbD_and]
  rfl

/-- A condition that does not depend on the element. -/
theorem find?_and_const (p : Interrupt → Bool) (b : Bool)
    (l : List Interrupt) :
    l.find? (fun interrupt => p interrupt && b)
      = if b then l.find? p else none := by
  cases b with
  | true => simp
  | false => simp

/-- What is due, by the scans for either level. -/
theorem due_eq (s : State β) :
    s.due = (if s.enabledAtM then priorityOrder.find? s.readyAtM else none).or
      (if s.enabledAtS then priorityOrder.find? s.readyAtS else none) := by
  unfold State.due
  rw [← find?_and_const, ← find?_and_const]
  rfl

/-- What the code finds, by the scans for either level. -/
theorem highestPriorityReadyInterrupt_eq (s : State β) :
    highestPriorityReadyInterrupt s
      = if s.enabledAtM then
          (priorityOrder.find? s.readyAtM).or
            (if s.privilegeMode = .supervisor ∧ !s.status.sie then none
            else supervisorOrder.find? s.readyAtS)
        else none := by
  have hmachine : s.interrupts.highestPriorityMReady
      = priorityOrder.find? s.readyAtM := highestPriorityMReady_eq s
  have hsupervisor : s.interrupts.highestPrioritySReady
      = supervisorOrder.find? s.readyAtS := highestPrioritySReady_eq s
  unfold highestPriorityReadyInterrupt
  rw [hmachine, hsupervisor]
  have hguard : (s.privilegeMode = .machine ∧ (!s.status.mie) = true) ↔
      ¬ s.enabledAtM = true := by
    unfold State.enabledAtM
    cases s.privilegeMode <;> cases s.status.mie <;> decide
  by_cases hm : s.enabledAtM = true
  · rw [if_neg fun h => hguard.1 h hm, if_pos hm]
    cases priorityOrder.find? s.readyAtM <;> rfl
  · rw [if_pos (hguard.2 hm), if_neg hm]

/-- Nothing is ready for machine level, and the scan for delegated interrupts
runs in M-mode and finds one, or it misses a delegated machine-level one. -/
def State.Misdirected (s : State β) : Prop :=
  (∀ interrupt, s.readyAtM interrupt = false) ∧
    ((s.privilegeMode = .machine ∧ s.status.mie = true ∧
        ∃ interrupt ∈ supervisorOrder, s.readyAtS interrupt = true) ∨
      (s.enabledAtS = true ∧
        ∃ interrupt ∈ machineOrder, s.readyAtS interrupt = true))

/-- A scan finds something iff there is something. -/
theorem find?_ne_none_iff {l : List Interrupt} {p : Interrupt → Bool} :
    l.find? p ≠ none ↔ ∃ interrupt ∈ l, p interrupt = true := by
  rw [← Option.isSome_iff_ne_none, List.find?_isSome]

/-- The two halves of the priority order have nothing in common. -/
theorem find?_machineOrder_ne {p q : Interrupt → Bool} {interrupt : Interrupt}
    (h : machineOrder.find? p = some interrupt) :
    supervisorOrder.find? q ≠ some interrupt := by
  intro hs
  have hm := List.mem_of_find?_eq_some h
  have hs := List.mem_of_find?_eq_some hs
  revert hm hs
  cases interrupt <;> decide

/-- The code finds what is due in all states but the misdirected ones. -/
theorem highestPriorityReadyInterrupt_eq_due_iff (s : State β) :
    highestPriorityReadyInterrupt s = s.due ↔ ¬ s.Misdirected := by
  rw [highestPriorityReadyInterrupt_eq, due_eq]
  cases hready : priorityOrder.find? s.readyAtM with
  | some interrupt =>
      have hnot : ¬ s.Misdirected := by
        intro h
        have hfound := List.find?_some hready
        rw [h.1 interrupt] at hfound
        cases hfound
      refine iff_of_true ?_ hnot
      unfold State.enabledAtM State.enabledAtS
      cases s.privilegeMode <;> cases s.status.mie <;> rfl
  | none =>
      have hnone := find?_priorityOrder_eq_none.1 hready
      unfold State.Misdirected
      rw [priorityOrder_eq, List.find?_append, ← find?_ne_none_iff,
        ← find?_ne_none_iff]
      cases hm : machineOrder.find? s.readyAtS with
      | none =>
          unfold State.enabledAtM State.enabledAtS
          cases s.privilegeMode <;> cases s.status.mie <;>
            cases s.status.sie <;> simp [hnone, PrivilegeLevel.lt_def,
              PrivilegeLevel.toNat]
      | some interrupt =>
          have hne := find?_machineOrder_ne (q := s.readyAtS) hm
          unfold State.enabledAtM State.enabledAtS
          cases s.privilegeMode <;> cases s.status.mie <;>
            cases s.status.sie <;> simp [hnone, hne, PrivilegeLevel.lt_def,
              PrivilegeLevel.toNat]

/-- mideleg has bits for supervisor-level interrupts only, so that what is left
of the failing states is M-mode. -/
theorem misdirected_iff_of_within {s : State β}
    (h : Within s.interrupts.delegate DELEGATABLE_INTERRUPTS_MASK) :
    s.Misdirected ↔ (∀ interrupt, s.readyAtM interrupt = false) ∧
      s.privilegeMode = .machine ∧ s.status.mie = true ∧
        ∃ interrupt, s.readyAtS interrupt = true := by
  have hlevel : ∀ interrupt, s.readyAtS interrupt = true →
      interrupt ∈ supervisorOrder := by
    intro interrupt hs
    unfold State.readyAtS at hs
    rw [Bool.and_eq_true] at hs
    have hmask := h interrupt.toNat hs.2
    revert hmask
    cases interrupt <;> decide
  have hdisjoint : ∀ interrupt ∈ machineOrder, interrupt ∉ supervisorOrder := by
    decide
  unfold State.Misdirected
  constructor
  · rintro ⟨hm, ⟨hmode, hmie, interrupt, _, hs⟩ | ⟨_, interrupt, hmem, hs⟩⟩
    · exact ⟨hm, hmode, hmie, interrupt, hs⟩
    · exact absurd (hlevel interrupt hs) (hdisjoint interrupt hmem)
  · rintro ⟨hm, hmode, hmie, interrupt, hs⟩
    exact ⟨hm, Or.inl ⟨hmode, hmie, interrupt, hlevel interrupt hs, hs⟩⟩

/-- The code takes a delegated interrupt other than the due one only if both
are delegated and the core is below machine level. -/
theorem readyAtS_of_found_ne_due {s : State β} {i j : Interrupt}
    (hi : highestPriorityReadyInterrupt s = some i) (hj : s.due = some j)
    (hne : i ≠ j) :
    s.readyAtS i = true ∧ s.readyAtS j = true ∧ s.privilegeMode ≠ .machine := by
  rw [highestPriorityReadyInterrupt_eq] at hi
  rw [due_eq] at hj
  have hm : s.enabledAtM = true := by
    by_contra hoff
    rw [if_neg hoff] at hi
    cases hi
  rw [if_pos hm] at hi hj
  cases hready : priorityOrder.find? s.readyAtM with
  | some k =>
      rw [hready] at hi hj
      cases hi
      cases hj
      exact absurd rfl hne
  | none =>
      rw [hready, Option.none_or] at hi hj
      have hs : s.enabledAtS = true := by
        by_contra hoff
        rw [if_neg hoff] at hj
        cases hj
      rw [if_pos hs] at hj
      have hguard : ¬ (s.privilegeMode = .supervisor ∧ (!s.status.sie) = true) := by
        intro h
        rw [if_pos h] at hi
        cases hi
      rw [if_neg hguard] at hi
      refine ⟨List.find?_some hi, List.find?_some hj, ?_⟩
      intro hmode
      unfold State.enabledAtS at hs
      rw [hmode] at hs
      cases hs

/-- A delegated interrupt that is found below M-mode traps to S-mode. -/
theorem trapToSMode_of_readyAtS {s : State β} {interrupt : Interrupt}
    (h : s.readyAtS interrupt = true) (hmode : s.privilegeMode ≠ .machine) :
    trapToSMode s (.interrupt (some interrupt)) = true := by
  unfold State.readyAtS at h
  rw [Bool.and_eq_true] at h
  unfold trapToSMode
  rw [Bool.and_eq_true]
  exact ⟨by simpa using hmode, h.2⟩

/-! ## Taking an interrupt -/

variable {ε : Type} [Build]

/-- What `check_for_interrupts` does with the interrupt it found. -/
def takeInterrupt (found : Option Interrupt) : CoreM β ε Bool :=
  match found with
  | some interrupt => do
      trap (.interrupt (some interrupt))
      return true
  | none => return false

/-- The scan is one part, what is done with its result the other. -/
theorem checkForInterrupts_eq (s : State β) :
    (checkForInterrupts : CoreM β ε Bool) s
      = takeInterrupt (highestPriorityReadyInterrupt s) s := by
  unfold checkForInterrupts
  rw [Exec.get_bind]
  cases highestPriorityReadyInterrupt s <;> rfl

/-- To take an interrupt changes something, whichever it is. -/
theorem takeInterrupt_some_ne_none (interrupt : Interrupt) (s : State β) :
    (takeInterrupt (some interrupt) : CoreM β ε Bool) s
      ≠ takeInterrupt none s := by
  have htrap := trap_cases (ε := ε) (.interrupt (some interrupt)) s
  show ((trap _ >>= fun _ => pure true : CoreM β ε Bool) s) ≠ .ok false s
  rcases htrap with ⟨_, h⟩ | ⟨_, h⟩
  · rw [Exec.bind_ok h, Exec.pure_apply]
    simp
  · rw [Exec.bind_panic h]
    simp

/-- A trap into S-mode leaves its cause behind, even if it panics. -/
theorem lastSTrapCause_takeInterrupt {interrupt : Interrupt} {s : State β}
    (h : trapToSMode s (.interrupt (some interrupt)) = true) :
    ((takeInterrupt (some interrupt) : CoreM β ε Bool) s).state.trap.lastSTrapCause
      = .interrupt (some interrupt) := by
  obtain ⟨events, hrecorded⟩ := trapRecorded_eq s (.interrupt (some interrupt))
  have hcause : (trapRecorded s (.interrupt (some interrupt))).trap.lastSTrapCause
      = .interrupt (some interrupt) := by
    rw [hrecorded, h]
    rfl
  show ((trap _ >>= fun _ => pure true : CoreM β ε Bool) s).state.trap.lastSTrapCause
    = _
  rcases trap_cases (ε := ε) (.interrupt (some interrupt)) s with
    ⟨_, hrun⟩ | ⟨_, hrun⟩
  · rw [Exec.bind_ok hrun]
    exact hcause
  · rw [Exec.bind_panic hrun]
    exact hcause

theorem takeInterrupt_inj {i j : Interrupt} {s : State β}
    (hi : trapToSMode s (.interrupt (some i)) = true)
    (hj : trapToSMode s (.interrupt (some j)) = true)
    (h : (takeInterrupt (some i) : CoreM β ε Bool) s
      = takeInterrupt (some j) s) : i = j := by
  have hcause := lastSTrapCause_takeInterrupt (ε := ε) hi
  rw [h, lastSTrapCause_takeInterrupt hj] at hcause
  cases hcause
  rfl

/-! ## What the check for interrupts does -/

/-- `check_for_interrupts` takes exactly the interrupt that is due. -/
def TakesDue (ε : Type) (s : State β) : Prop :=
  (checkForInterrupts : CoreM β ε Bool) s = takeInterrupt s.due s

/-- It takes the interrupt that is due exactly in the states that are not
misdirected. -/
theorem takesDue_iff (s : State β) : TakesDue ε s ↔ ¬ s.Misdirected := by
  rw [← highestPriorityReadyInterrupt_eq_due_iff]
  unfold TakesDue
  rw [checkForInterrupts_eq]
  constructor
  · intro h
    cases hfound : highestPriorityReadyInterrupt s with
    | none =>
        cases hdue : s.due with
        | none => rfl
        | some j =>
            rw [hfound, hdue] at h
            exact absurd h.symm (takeInterrupt_some_ne_none j s)
    | some i =>
        cases hdue : s.due with
        | none =>
            rw [hfound, hdue] at h
            exact absurd h (takeInterrupt_some_ne_none i s)
        | some j =>
            by_contra hne
            have hij : i ≠ j := fun heq => hne (by rw [heq])
            obtain ⟨hi, hj, hmode⟩ := readyAtS_of_found_ne_due hfound hdue hij
            rw [hfound, hdue] at h
            exact hij (takeInterrupt_inj (trapToSMode_of_readyAtS hi hmode)
              (trapToSMode_of_readyAtS hj hmode) h)
  · intro h
    rw [h]

/-- M-mode with MIE set and a delegated timer interrupt pending. -/
def delegatedInM : State NoDevices :=
  { State.new NoDevices.config NoDevices.unit with
    status := { mstatus := 0x8, mstatush := 0 }
    interrupts := { Interrupts.new with
      delegate := 0x20, mip := 0x20, mie := 0x20 } }

end RedPlanet.Core
