import RedPlanet.Core.Memory
import RedPlanet.Core.TrapState

/-!
# Steps and runs of a core

The discipline `whole K` is what a complete step respects: the privilege may
rise, through a trap, but MPRV stays confined and the core stays sound.  A
step panics exactly if it records a bad event (`tame_step`).

`Reachable` is a core that was stepped any number of times, with any bus and
with devices that act on the core between the steps.  In every reachable core
instructions do not raise the privilege, and MPRV is confined to M-mode
(`privilege_of_reachable`).  That a trap enters its handler is not true of all
of them: `trap` computes the address of a vectored handler with a checked
addition, and a guest can place its vector so that the addition overflows
(`vectoredAtTop_panics`).
-/

namespace RedPlanet.Core

open RedPlanet.Verified Discipline

variable {β ε : Type} [SystemBus β] {K : BusContract β}

/-- What a step of the core does. -/
structure WholeStep (K : BusContract β) (s t : State β) : Prop where
  sound : Sound K s → Sound K t
  confined : Confined s → Confined t

theorem InstructionStep.wholeStep {s t : State β} (h : InstructionStep K s t) :
    WholeStep K s t where
  sound := h.sound
  confined := h.confined

/-! ## Traps -/

theorem legal_trapStatus (toSMode : Bool) (mode : PrivilegeLevel)
    {status : Status} (h : status.Legal) :
    (trapStatus toSMode mode status).Legal := by
  cases toSMode with
  | true =>
      exact h.of_touches (touches_trapStatus true mode) (by decide) (by decide)
  | false =>
      have hmpie := h.of_touches (Status.Touches.setField idx.MPIE status.mie)
        (by decide) (by decide)
      have hmie := hmpie.of_touches (Status.Touches.setField idx.MIE false)
        (by decide) (by decide)
      exact Status.legal_setMpp _ hmie

/-- A trap into S-mode leaves MPRV alone. -/
theorem mprv_trapStatus (mode : PrivilegeLevel) (status : Status) :
    (trapStatus true mode status).mprv = status.mprv := by
  have hkeep : idx.MPRV ∉ Status.stackBits true := by decide
  exact bit_trapStatus hkeep mode status

theorem aligned_recordTrap (toSMode : Bool) (cause : Cause) (pc : BitVec 32)
    {trap : Trap} (h : trap.Aligned) :
    (recordTrap toSMode cause pc trap).Aligned := by
  unfold recordTrap
  cases toSMode with
  | true => exact ⟨h.m, h.s⟩
  | false => exact ⟨h.m, h.s⟩

theorem step_trapRecorded (s : State β) (cause : Cause) :
    WholeStep K s (trapRecorded s cause) := by
  obtain ⟨events, hevents⟩ := trapRecorded_eq s cause
  rw [hevents]
  exact
    { sound := fun hs =>
        { bus := hs.bus
          status := hs.status
          trap := aligned_recordTrap _ _ _ hs.trap }
      confined := id }

theorem step_trapEntry (s : State β) (cause : Cause) :
    WholeStep K s (trapEntry s cause) := by
  obtain ⟨events, hevents⟩ := trapRecorded_eq s cause
  have hconfined : Confined s → trapToSMode s cause = true →
      (trapStatus true s.privilegeMode s.status).mprv = false := by
    intro hs hmode
    rw [mprv_trapStatus]
    apply hs
    intro hmachine
    have hle := trapToSMode_le hmode
    rw [hmachine] at hle
    exact absurd hle (by decide)
  unfold trapEntry
  rw [hevents]
  cases h : trapToSMode s cause with
  | true =>
      exact
        { sound := fun hs =>
            { bus := hs.bus
              status := legal_trapStatus true _ hs.status
              trap := aligned_recordTrap true _ _ hs.trap }
          confined := fun hs _ => hconfined hs h }
  | false =>
      exact
        { sound := fun hs =>
            { bus := hs.bus
              status := legal_trapStatus false _ hs.status
              trap := aligned_recordTrap false _ _ hs.trap }
          confined := fun _ hmode => absurd rfl hmode }

section Tame

variable [Build]

def whole (K : BusContract β) : Discipline (State β) where
  step := WholeStep K
  inv := Sound K
  clean := Unharmed K
  refl _ := ⟨id, id⟩
  trans hst htu :=
    { sound := fun h => htu.sound (hst.sound h)
      confined := fun h => htu.confined (hst.confined h) }
  inv_step hst := hst.sound

theorem tame_whole_of_core {α : Type} {m : CoreM β ε α}
    (h : (core K).Tame m) : (whole K).Tame m := by
  apply h.mono
  · intro s t hst
    exact hst.wholeStep
  · intro s hs
    exact hs
  · intro s
    exact Iff.rfl

theorem tame_whole_of_memory {α : Type} {m : CoreM β ε α}
    (h : (memory K).Tame m) : (whole K).Tame m := by
  apply h.mono
  · intro s t hframe
    exact hframe.instructionStep.wholeStep
  · intro s hs
    exact hs
  · intro s
    exact Iff.rfl

/-- Recording the vector of a trap is harmless iff the vector fits. -/
theorem unharmed_trapRecorded {s : State β} (cause : Cause)
    (h : Unharmed K s) :
    Unharmed K (trapRecorded s cause) ↔ ¬ trapOverflows s cause := by
  unfold trapRecorded trapOverflows
  generalize trapVector s cause = vector
  obtain ⟨tvecBase, tvecMode⟩ := vector
  cases tvecMode with
  | direct => exact iff_of_true h (not_vectorOverflows rfl)
  | vectored =>
      cases cause with
      | exception e => exact iff_of_true h (not_vectorOverflows rfl)
      | interrupt interrupt =>
          constructor
          · intro hall
            exact hall _ List.mem_cons_self
          · intro hfits event hevent
            cases List.mem_cons.1 hevent with
            | inl hnew =>
                rw [hnew]
                exact hfits
            | inr hold => exact h event hold

theorem tame_trap (cause : Cause) :
    (whole K).Tame (trap cause : CoreM β ε Unit) := by
  intro s
  cases trap_cases (ε := ε) cause s with
  | inl hok =>
      rw [hok.2]
      refine ⟨step_trapEntry s cause, fun _ hclean => ?_⟩
      have hentry : Unharmed K (trapEntry s cause) :=
        (unharmed_trapRecorded cause hclean).2 hok.1
      exact iff_of_false Bool.false_ne_true fun hbad => hbad hentry
  | inr hpanic =>
      rw [hpanic.2]
      refine ⟨step_trapRecorded s cause, fun _ hclean => ?_⟩
      exact iff_of_true rfl fun hstill =>
        (unharmed_trapRecorded cause hclean).1 hstill hpanic.1

/-! ## Stepping -/

theorem tame_onCounters (f : State β → Counters → Counters) :
    (whole K).Tame
      (Exec.modify fun s => s.onCounters (f s) : CoreM β ε Unit) := by
  apply Tame.modify
  · intro s
    exact ⟨fun hs => ⟨hs.bus, hs.status, hs.trap⟩, id⟩
  · intro s hclean
    exact hclean

theorem steps_whole : Steps (whole K) where
  toAccesses := by
    apply Executes.toAccesses
    apply (executes_memory (K := K)).imp
    · intro s hs
      exact hs.status
    · intro s hs
      exact hs.trap
    · intro ε α m hm
      exact tame_whole_of_memory hm
  execute config _ hshift := tame_whole_of_core (tame_core config hshift)
  trap := tame_trap
  counters := tame_onCounters

/-- A step of the core keeps it sound, and it panics exactly if it runs into a
bad event. -/
theorem tame_step (config : Config) :
    (whole K).Tame (step config : CoreM β ε Unit) :=
  steps_whole.tame_step config

end Tame

/-! ## Runs -/

/-- A core that was stepped any number of times from `Core::new`.  Between two
steps the bus may have changed in any way, and devices may have called back
into the core. -/
inductive Reachable [Build] (config : Config) : State β → Prop where
  | new (bus : β) : Reachable config (State.new config bus)
  | step {s t : State β} (h : Reachable config s)
      (hstep : (step config : CoreM β Empty Unit) s = .ok () t) :
      Reachable config t
  | devices {s : State β} (bus : β) (calls : List IrqCall)
      (h : Reachable config s) :
      Reachable config
        ({ s with bus := bus }.onInterrupts (Interrupts.deliverAll calls))

theorem Reachable.confined [Build] {config : Config} {s : State β}
    (h : Reachable config s) : Confined s := by
  induction h with
  | new bus =>
      intro hmode
      exact absurd rfl hmode
  | @step s t _ hstep ih =>
      have hwhole :=
        (tame_step (ε := Empty) (K := BusContract.trivial) config).step s
      rw [hstep] at hwhole
      exact hwhole.confined ih
  | devices bus calls _ ih => exact ih

/-- The core after `n` steps. -/
def stepsFrom [Build] (config : Config) (s : State β) : ℕ → State β
  | 0 => s
  | n + 1 => ((step config : CoreM β Empty Unit) (stepsFrom config s n)).state

/-- Steps that do not panic lead to reachable cores. -/
theorem Reachable.steps [Build] {config : Config} {s : State β}
    (h : Reachable config s) (n : ℕ)
    (hruns : ∀ k < n, ((Core.step config : CoreM β Empty Unit)
      (stepsFrom config s k)).panicked = false) :
    Reachable config (stepsFrom config s n) := by
  induction n with
  | zero => exact h
  | succ n ih =>
      have hlast := Outcome.eq_ok (hruns n (Nat.lt_succ_self n))
      exact (ih fun k hk => hruns k (Nat.lt_succ_of_lt hk)).step hlast

omit [SystemBus β] in
/-- A trap whose handler address overflows enters no handler. -/
theorem not_entered_of_overflows [Build] {s : State β} {cause : Cause}
    (h : trapOverflows s cause) :
    ¬ ∃ t, (trap cause : CoreM β Empty Unit) s = .ok () t ∧
      TrapEntered s cause t := by
  rintro ⟨t, hok, _⟩
  rcases trap_cases (ε := Empty) cause s with ⟨hfits, _⟩ | ⟨_, hpanic⟩
  · exact hfits h
  · rw [hpanic] at hok
    cases hok

/-- Privilege rises only through trap entry, and MPRV is confined to M-mode.
A trap enters its handler exactly if the handler address does not overflow, or
the build does not check that. -/
theorem privilege_of_reachable [Build] {config : Config} {s : State β}
    (h : Reachable config s) :
    (∀ instruction,
      (executeInstruction config instruction s).state.privilegeMode
        ≤ s.privilegeMode) ∧
    (∀ cause,
      (∃ t, (trap cause : CoreM β Empty Unit) s = .ok () t ∧
        TrapEntered s cause t) ↔ ¬ trapOverflows s cause) ∧
    (s.privilegeMode ≠ .machine →
      s.status.mprv = false ∧
        s.effectivePrivilegeMode = some s.privilegeMode) := by
  refine ⟨?_, ?_, ?_⟩
  · intro instruction
    exact (step_executeInstruction (K := BusContract.trivial) config
      instruction s).mode
  · intro cause
    constructor
    · intro hentered hoverflows
      exact not_entered_of_overflows hoverflows hentered
    · intro hfits
      rcases trap_cases (ε := Empty) cause s with ⟨_, hok⟩ | ⟨hoverflows, _⟩
      · exact ⟨_, hok, trapEntry_entered s cause⟩
      · exact absurd hoverflows hfits
  · intro hmode
    exact ⟨h.confined hmode, h.confined.effectivePrivilegeMode hmode⟩

namespace MemoryBus

/-- Sets MPRV in M-mode, and returns to U-mode: `lui x5, 0x20`,
`csrrs x0, mstatus, x5`, `mret`. -/
def leavesMachine : State MemoryBus :=
  State.new NoDevices.config (ofWords
    [(0x1000, 0x000202B7), (0x1004, 0x3002A073), (0x1008, 0x30200073)])

/-- This program, in U-mode. -/
def inUser : State MemoryBus :=
  @stepsFrom MemoryBus _ Build.debug NoDevices.config leavesMachine 3

/-- What holds of this program once it has left M-mode with MPRV set: no
instruction takes it back, and its loads and stores are those of U-mode. -/
theorem privilege_of_reachable_inUser :
    inUser.privilegeMode = .user ∧
    (∀ instruction,
      (@executeInstruction MemoryBus _ Build.debug NoDevices.config instruction
        inUser).state.privilegeMode ≤ .user) ∧
    (∀ cause,
      (∃ t, @trap MemoryBus Empty Build.debug cause inUser = .ok () t ∧
        TrapEntered inUser cause t) ↔
          ¬ @trapOverflows MemoryBus Build.debug inUser cause) ∧
    inUser.status.mprv = false ∧
      inUser.effectivePrivilegeMode = some .user := by
  have hmode : inUser.privilegeMode = .user := by decide +kernel
  have hreachable : @Reachable MemoryBus _ Build.debug NoDevices.config inUser :=
    @Reachable.steps MemoryBus _ Build.debug _ _
      (@Reachable.new MemoryBus _ Build.debug NoDevices.config _) 3
      (by decide +kernel)
  obtain ⟨hinstructions, htrap, hconfined⟩ :=
    @privilege_of_reachable MemoryBus _ Build.debug NoDevices.config inUser
      hreachable
  rw [hmode] at hinstructions hconfined
  exact ⟨hmode, hinstructions, htrap, hconfined nofun⟩

/-- Places a vector at the last word of the address space and enables the
timer interrupt: `addi x5, x0, -3`, `csrrw x0, mtvec, x5`,
`addi x6, x0, 128`, `csrrw x0, mie, x6`, `csrrsi x0, mstatus, 8`. -/
def vectorsAtTop : State MemoryBus :=
  State.new NoDevices.config (ofWords
    [(0x1000, 0xFFD00293), (0x1004, 0x30529073), (0x1008, 0x08000313),
      (0x100C, 0x30431073), (0x1010, 0x30046073)])

/-- This program after its five instructions. -/
def timerEnabled : State MemoryBus :=
  @stepsFrom MemoryBus _ Build.debug NoDevices.config vectorsAtTop 5

/-- This program when the timer has called. -/
def vectoredAtTop : State MemoryBus :=
  { timerEnabled with bus := timerEnabled.bus }.onInterrupts
    (Interrupts.deliverAll [.of .machineTimerInterrupt .raise])

/-- The guest gets there, and the step that takes the interrupt panics. -/
theorem vectoredAtTop_panics :
    @Reachable MemoryBus _ Build.debug NoDevices.config vectoredAtTop ∧
    (@step MemoryBus Empty _ Build.debug NoDevices.config
      vectoredAtTop).panicked = true ∧
    ¬ ∃ t, @trap MemoryBus Empty Build.debug
        (.interrupt (some .machineTimerInterrupt)) vectoredAtTop
          = .ok () t ∧
      TrapEntered vectoredAtTop (.interrupt (some .machineTimerInterrupt))
        t := by
  refine ⟨?_, by decide +kernel, ?_⟩
  · have hreachable : @Reachable MemoryBus _ Build.debug NoDevices.config
        timerEnabled :=
      @Reachable.steps MemoryBus _ Build.debug _ _
        (@Reachable.new MemoryBus _ Build.debug NoDevices.config _) 5
        (by decide +kernel)
    exact @Reachable.devices MemoryBus _ Build.debug NoDevices.config
      timerEnabled timerEnabled.bus [.of .machineTimerInterrupt .raise]
      hreachable
  · have hoverflows : @trapOverflows MemoryBus Build.debug vectoredAtTop
        (.interrupt (some .machineTimerInterrupt)) := by
      unfold trapOverflows VectorOverflows
      decide +kernel
    exact @not_entered_of_overflows MemoryBus Build.debug _ _ hoverflows

end MemoryBus

/-- A core that failed to fetch its first instruction. -/
def NoDevices.afterStep : State NoDevices :=
  (@step NoDevices Empty _ Build.debug NoDevices.config
    (State.new NoDevices.config .unit)).state

end RedPlanet.Core
