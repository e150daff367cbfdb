import RedPlanet.Core.Run

/-!
# The lines that devices drive

A device calls the core back when the condition of its interrupt starts or
stops to hold, so its bit of mip is driven by edges: `drive` says what the
bit is after the call.  `Edgewise` is what makes a relation between the bit
and the condition survive this.

The core itself leaves the bits alone that devices drive.  `LineFrame` says
so, for each arm of the CSR dispatch and for the trap, and `steps_lines` puts
this together: a relation between such a bit and the bus is kept by a step as
soon as the accesses to the bus keep it.
-/

namespace RedPlanet.Core

open RedPlanet.Verified Discipline

variable {β ε : Type}

/-! ## Edges -/

/-- The calls of a device whose condition went from `before` to `after`. -/
def edge (before after : Bool) : List Callback :=
  match before, after with
  | true, false => [.lower]
  | false, true => [.raise]
  | _, _ => []

/-- What a line that showed `line` shows after these calls. -/
def drive (before after line : Bool) : Bool :=
  match before, after with
  | true, false => false
  | false, true => true
  | _, _ => line

/-- A relation between a line and its condition that the edges keep. -/
def Edgewise (R : Bool → Bool → Prop) : Prop :=
  ∀ line before after, R line before → R (drive before after line) after

/-- A line that shows its condition goes on showing it. -/
theorem edgewise_eq : Edgewise fun line condition => line = condition := by
  intro line before after h
  subst h
  cases line <;> cases after <;> rfl

/-- The interrupts whose bit of mip is driven by a device alone. -/
def Interrupt.Line : Interrupt → Prop
  | machineTimerInterrupt | machineExternalInterrupt => True
  | _ => False

namespace Interrupts

/-- The calls of a device on its own line do to the bit what `drive` says. -/
theorem mip_deliverAll_edge {interrupt : Interrupt} (h : interrupt.Line)
    (before after : Bool) (interrupts : Interrupts) :
    (deliverAll ((edge before after).map (IrqCall.of interrupt))
        interrupts).mip.getLsbD interrupt.toNat
      = drive before after (interrupts.mip.getLsbD interrupt.toNat) := by
  have hset : ∀ value,
      (setMip interrupt value interrupts).mip.getLsbD interrupt.toNat
        = value := by
    intro value
    apply getLsbD_setBit_self
    cases interrupt <;> decide
  cases interrupt with
  | machineTimerInterrupt =>
      cases before <;> cases after
      · rfl
      · exact hset true
      · exact hset false
      · rfl
  | machineExternalInterrupt =>
      cases before <;> cases after
      · rfl
      · exact hset true
      · exact hset false
      · rfl
  | _ => exact h.elim

/-- Calls for other interrupts do not change the bit. -/
theorem mip_deliverAll_ne {i : Nat} (calls : List IrqCall)
    (h : ∀ call ∈ calls, call.code.toNat ≠ i) (interrupts : Interrupts) :
    (deliverAll calls interrupts).mip.getLsbD i = interrupts.mip.getLsbD i :=
  (agreesOutside_deliverAll (P := fun j => j ≠ i) calls interrupts h).mip i
    fun hne => hne rfl

/-! ## Writes of mip -/

/-- A write of another bit leaves the line alone. -/
theorem mip_setMip_if {interrupt : Interrupt} {i : Nat}
    (h : i ≠ interrupt.toNat) (enabled value : Bool)
    (interrupts : Interrupts) :
    (if enabled then setMip interrupt value interrupts
        else interrupts).mip.getLsbD i = interrupts.mip.getLsbD i := by
  cases enabled with
  | true => exact getLsbD_setBit_ne interrupts.mip value h
  | false => rfl

variable {interrupt : Interrupt}

/-- sip lets software write SSIP only. -/
theorem mip_writeSip (h : interrupt.Line) (value mask : BitVec 32)
    (interrupts : Interrupts) :
    (writeSip value mask interrupts).mip.getLsbD interrupt.toNat
      = interrupts.mip.getLsbD interrupt.toNat := by
  apply mip_setMip_if
  cases interrupt <;> first | exact h.elim | decide

/-- mip lets software write SEIP, STIP and SSIP, none of which is a line. -/
theorem mip_writeMip (h : interrupt.Line) (value mask : BitVec 32)
    (interrupts : Interrupts) :
    (writeMip value mask interrupts).mip.getLsbD interrupt.toNat
      = interrupts.mip.getLsbD interrupt.toNat := by
  have hne : interrupt.toNat ≠ Interrupt.supervisorSoftwareInterrupt.toNat ∧
      interrupt.toNat ≠ Interrupt.supervisorTimerInterrupt.toNat ∧
      interrupt.toNat ≠ Interrupt.supervisorExternalInterrupt.toNat := by
    cases interrupt <;> first | exact h.elim | decide
  have hseip : (if mask.getLsbD Interrupt.supervisorExternalInterrupt.toNat
      then setMip .supervisorExternalInterrupt
        (interrupts.seipExternal
          || value.getLsbD Interrupt.supervisorExternalInterrupt.toNat)
        { interrupts with
          seipInternal :=
            value.getLsbD Interrupt.supervisorExternalInterrupt.toNat }
      else interrupts).mip.getLsbD interrupt.toNat
        = interrupts.mip.getLsbD interrupt.toNat := by
    cases mask.getLsbD Interrupt.supervisorExternalInterrupt.toNat with
    | true => exact getLsbD_setBit_ne interrupts.mip _ hne.2.2
    | false => rfl
  exact (mip_setMip_if hne.1 _ _ _).trans
    ((mip_setMip_if hne.2.1 _ _ _).trans hseip)

end Interrupts

/-! ## What the core leaves alone -/

/-- The bus and the lines of the devices are as before. -/
structure LineFrame (s t : State β) : Prop where
  bus : t.bus = s.bus
  mip : ∀ interrupt : Interrupt, interrupt.Line →
    t.interrupts.mip.getLsbD interrupt.toNat
      = s.interrupts.mip.getLsbD interrupt.toNat

/-- The frame of what touches neither the bus nor mip. -/
theorem LineFrame.of_eq {s t : State β} (hbus : t.bus = s.bus)
    (hinterrupts : t.interrupts = s.interrupts) : LineFrame s t where
  bus := hbus
  mip := fun _ _ => hinterrupts ▸ rfl

/-- For a change of the interrupt registers it is enough to look at the lines.
-/
theorem lineFrame_onInterrupts {f : Interrupts → Interrupts} (s : State β)
    (h : ∀ interrupt : Interrupt, interrupt.Line →
      (f s.interrupts).mip.getLsbD interrupt.toNat
        = s.interrupts.mip.getLsbD interrupt.toNat) :
    LineFrame s (s.onInterrupts f) where
  bus := rfl
  mip := h

/-- The trap vectors are no part of it, and a write that panics writes
nothing. -/
theorem lineFrame_putTvec (write : Trap → Option Trap) (s : State β) :
    LineFrame s ((putTvec write : CoreM β ε Unit) s).state := by
  unfold putTvec
  rw [Exec.get_bind]
  cases write s.trap with
  | none => exact LineFrame.of_eq rfl rfl
  | some trap => exact LineFrame.of_eq rfl rfl

theorem lineFrame_writeSatp (value mask : BitVec 32) (s : State β) :
    LineFrame s (writeSatp value mask s).state := by
  unfold writeSatp
  rw [Exec.get_bind]
  cases s.status.tvm with
  | true => exact LineFrame.of_eq rfl rfl
  | false => exact LineFrame.of_eq rfl rfl

/-- The performance counters are read-only zero. -/
theorem lineFrame_writeMhpm (n : Nat) (s : State β) :
    LineFrame s ((writeMhpm n : CoreM β ε Unit) s).state := by
  unfold writeMhpm assertNumber
  cases decide (3 ≤ n ∧ n ≤ 31) with
  | true => exact LineFrame.of_eq rfl rfl
  | false => exact LineFrame.of_eq rfl rfl

/-- No arm of the dispatch writes a line: MSIP, MTIP and MEIP are read-only in
mip and not visible in sip. -/
theorem lineFrame_writeCsrOf (specifier : CsrSpecifier) (value mask : BitVec 32)
    (csr : Csr) (s : State β) :
    LineFrame s (writeCsrOf specifier value mask csr s).state := by
  cases csr with
  | mip =>
      exact lineFrame_onInterrupts s fun _ h =>
        Interrupts.mip_writeMip h value mask _
  | sip =>
      exact lineFrame_onInterrupts s fun _ h =>
        Interrupts.mip_writeSip h value mask _
  | mie => exact lineFrame_onInterrupts s fun _ _ => rfl
  | sie => exact lineFrame_onInterrupts s fun _ _ => rfl
  | mideleg => exact lineFrame_onInterrupts s fun _ _ => rfl
  | mtvec => exact lineFrame_putTvec _ s
  | stvec => exact lineFrame_putTvec _ s
  | satp => exact lineFrame_writeSatp value mask s
  | mhpmcounter n => exact lineFrame_writeMhpm n s
  | mhpmcounterh n => exact lineFrame_writeMhpm n s
  | mhpmevent n => exact lineFrame_writeMhpm n s
  | _ => exact LineFrame.of_eq rfl rfl

/-- A write of a CSR, whether the checks let it through or not. -/
theorem lineFrame_writeCsr (specifier : CsrSpecifier) (level : PrivilegeLevel)
    (value mask : BitVec 32) (s : State β) :
    LineFrame s (writeCsr specifier level value mask s).state := by
  cases writeCsr_cases specifier level value mask (β := β) with
  | inl hthrow =>
      obtain ⟨e, he⟩ := hthrow
      rw [he]
      exact LineFrame.of_eq rfl rfl
  | inr harm =>
      obtain ⟨csr, _, _, _, _, harm⟩ := harm
      rw [harm]
      exact lineFrame_writeCsrOf specifier value mask csr s

/-- A return changes the status and the pc. -/
theorem lineFrame_sret (s : State β) :
    LineFrame s ((sret : CoreM β _ _) s).state := by
  cases sret_cases s with
  | inl hthrow =>
      rw [hthrow]
      exact LineFrame.of_eq rfl rfl
  | inr hreturn =>
      rw [hreturn.2]
      exact LineFrame.of_eq rfl rfl

theorem lineFrame_mret (s : State β) :
    LineFrame s ((mret : CoreM β _ _) s).state := by
  cases mret_cases s with
  | inl hthrow =>
      rw [hthrow]
      exact LineFrame.of_eq rfl rfl
  | inr hreturn =>
      rw [hreturn.2]
      cases s.status.mpp with
      | none => exact LineFrame.of_eq rfl rfl
      | some pp => exact LineFrame.of_eq rfl rfl

/-- A trap changes the trap registers, the status, the mode and the pc. -/
theorem lineFrame_trap [Build] (cause : Cause) (s : State β) :
    LineFrame s ((trap cause : CoreM β ε Unit) s).state := by
  obtain ⟨events, hevents⟩ := trapRecorded_eq s cause
  cases trap_cases (ε := ε) cause s with
  | inl hok =>
      rw [hok.2]
      unfold trapEntry
      rw [hevents]
      exact LineFrame.of_eq rfl rfl
  | inr hpanic =>
      rw [hpanic.2, hevents]
      exact LineFrame.of_eq rfl rfl

/-! ## A step of the core -/

/-- An invariant of the bus and the lines that the accesses to the bus keep is
kept by the step of the core. -/
theorem steps_lines [SystemBus β] [Build] {P : State β → Prop}
    (hframe : ∀ {s t}, LineFrame s t → P s → P t)
    (haccesses : Accesses (preserving P)) : Steps (preserving P) := by
  have htame : ∀ {ε α : Type} {m : CoreM β ε α},
      (∀ s, LineFrame s (m s).state) → (preserving P).Tame m :=
    fun hm => tame_preserving fun s hs => hframe (hm s) hs
  have hexecutes : Executes (preserving P) :=
    haccesses.executes fun _ => htame fun _ => LineFrame.of_eq rfl rfl
  exact
    { haccesses with
      execute := by
        intro config instruction hshift
        apply hexecutes.tame_instruction _ _ _ config hshift
        · intro csr specifier value mask _ _
          exact htame (lineFrame_writeCsrOf specifier value mask csr)
        · exact htame lineFrame_sret
        · exact htame lineFrame_mret
      trap := fun cause => htame (lineFrame_trap cause)
      counters := fun _ => htame fun _ => LineFrame.of_eq rfl rfl }

end RedPlanet.Core
